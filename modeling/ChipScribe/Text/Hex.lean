/-!
Hexadecimal text: of numbers, in either case and with or without leading zeros,
and of byte strings, two digits a byte.
-/

namespace ChipScribe.Text

def upperHex (n : Nat) : String :=
  String.ofList ((Nat.toDigits 16 n).map Char.toUpper)

def lowerHex (n : Nat) : String :=
  String.ofList (Nat.toDigits 16 n)

/-- Zeros in front up to a width; longer text stays as it is. -/
def padded (width : Nat) (digits : String) : String :=
  String.ofList (List.replicate (width - digits.length) '0') ++ digits

def upperHexPadded (width n : Nat) : String :=
  padded width (upperHex n)

def lowerHexPadded (width n : Nat) : String :=
  padded width (lowerHex n)

/-- The value of a digit, up to base 36. -/
def digitValue? (c : Char) : Option Nat :=
  if '0' ≤ c && c ≤ '9' then some (c.toNat - '0'.toNat)
  else if 'a' ≤ c && c ≤ 'z' then some (c.toNat - 'a'.toNat + 10)
  else if 'A' ≤ c && c ≤ 'Z' then some (c.toNat - 'A'.toNat + 10)
  else none

def hexDigit? (c : Char) : Option Nat :=
  (digitValue? c).filter (· < 16)

def hexChar (n : Nat) : Char :=
  Nat.digitChar (n % 16)

def ofBytes (bytes : List UInt8) : String :=
  String.ofList (bytes.flatMap fun b => [hexChar (b.toNat / 16), hexChar b.toNat])

/-- Two digits a byte, and nothing else. -/
def bytesOfChars? : List Char → Option (List UInt8)
  | [] => some []
  | [_] => none
  | hi :: lo :: rest => do
      let hi ← hexDigit? hi
      let lo ← hexDigit? lo
      let rest ← bytesOfChars? rest
      return (hi * 16 + lo).toUInt8 :: rest

def bytes? (s : String) : Option (List UInt8) :=
  bytesOfChars? s.toList

end ChipScribe.Text
