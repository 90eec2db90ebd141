/-!
Any bytes read as UTF-8 text.  Bytes that begin a character but do not complete
it are replaced together, and every other byte that is out of place by itself,
each time with the replacement character.
-/

namespace ChipScribe.Text

def replacement : Char := '\ufffd'

/-- A character begun: its value so far, how many bytes it lacks, and the range of the next. -/
structure Begun where
  value : Nat
  lacking : Nat
  low : UInt8 := 0x80
  high : UInt8 := 0xBF
  deriving DecidableEq, Repr

/-- A character of several bytes, after its first.  The range of the second byte leaves out
values with a shorter form, surrogates, and values beyond the last character. -/
def Begun.ofFirst? (b : UInt8) : Option Begun :=
  let value (base : UInt8) := (b - base).toNat
  if b < 0xC2 then none
  else if b < 0xE0 then some { value := value 0xC0, lacking := 1 }
  else if b = 0xE0 then some { value := value 0xE0, lacking := 2, low := 0xA0 }
  else if b = 0xED then some { value := value 0xE0, lacking := 2, high := 0x9F }
  else if b < 0xF0 then some { value := value 0xE0, lacking := 2 }
  else if b = 0xF0 then some { value := value 0xF0, lacking := 3, low := 0x90 }
  else if b < 0xF4 then some { value := value 0xF0, lacking := 3 }
  else if b = 0xF4 then some { value := value 0xF0, lacking := 3, high := 0x8F }
  else none

/-- What a byte adds where no character is open. -/
def decodeFirst (b : UInt8) : List Char × Option Begun :=
  if b < 0x80 then ([Char.ofNat b.toNat], none)
  else
    match Begun.ofFirst? b with
    | some begun => ([], some begun)
    | none => ([replacement], none)

def Begun.extend (begun : Begun) (b : UInt8) : List Char × Option Begun :=
  let value := begun.value * 64 + b.toNat % 64
  if begun.lacking ≤ 1 then ([Char.ofNat value], none)
  else ([], some { value, lacking := begun.lacking - 1 })

def decodeNext : Option Begun → UInt8 → List Char × Option Begun
  | none, b => decodeFirst b
  | some begun, b =>
      if begun.low ≤ b && b ≤ begun.high then begun.extend b
      else (replacement :: (decodeFirst b).1, (decodeFirst b).2)

def decodeFrom (begun : Option Begun) : List UInt8 → List Char
  | [] => if begun.isSome then [replacement] else []
  | b :: rest => (decodeNext begun b).1 ++ decodeFrom (decodeNext begun b).2 rest

def ofUtf8 (bytes : List UInt8) : String :=
  String.ofList (decodeFrom none bytes)

end ChipScribe.Text
