import ChipScribe.Text.Hex
import ChipScribe.Text.Blank

/-!
Unsigned numerals: an optional plus sign and at least one digit of the base,
within a limit.
-/

namespace ChipScribe.Text

/-- The value of the digits, if every character is one. -/
def digitsValue? (base : Nat) : List Char → Nat → Option Nat
  | [], value => some value
  | c :: rest, value =>
      match digitValue? c with
      | some d => if d < base then digitsValue? base rest (value * base + d) else none
      | none => none

def unsigned? (base : Nat) (cs : List Char) : Option Nat :=
  if cs.isEmpty then none else digitsValue? base cs 0

/-- A plus sign may stand in front. -/
def numeral? (base limit : Nat) (cs : List Char) : Option Nat :=
  ((match cs with
    | '+' :: rest => unsigned? base rest
    | _ => unsigned? base cs)).filter (· ≤ limit)

def maxUInt64 : Nat := 18446744073709551615

def decimal64? (cs : List Char) : Option Nat :=
  numeral? 10 maxUInt64 cs

def hex64? (cs : List Char) : Option Nat :=
  numeral? 16 maxUInt64 cs

end ChipScribe.Text
