import ChipScribe.Json.Basic

/-!
Number literals.  The digits are gathered into 64 bits as far as they fit; the
digits beyond only count towards the exponent before the point and are dropped
after it.  The result is one multiplication or division by a power of ten, so
it is close to the literal but not always the nearest number.
-/

namespace ChipScribe.Json

/-- A literal as written; the exponent is given by its sign and digits. -/
structure NumberLiteral where
  negative : Bool
  whole : List Nat
  fraction : Option (List Nat)
  exponent : Option (Bool × List Nat)
  deriving DecidableEq, Repr

namespace NumberLiteral

def maxSignificand : Nat := 0xFFFFFFFFFFFFFFFF

/-- Gather digits while they fit, and give the digits left over. -/
def gather : Nat → List Nat → Nat × List Nat
  | significand, [] => (significand, [])
  | significand, d :: rest =>
      if significand * 10 + d ≤ maxSignificand then gather (significand * 10 + d) rest
      else (significand, d :: rest)

def tenTo (n : Nat) : Float :=
  Float.ofScientific 1 false n

/-- `x * 10 ^ e`, or nothing beyond the range. -/
def scale? (x : Float) (e : Int) : Option Float :=
  if e > 308 then if x == 0.0 then some x else none
  else if e ≥ 0 then
    let y := x * tenTo e.toNat
    if y.isInf then none else some y
  else if e ≥ -308 then some (x / tenTo (-e).toNat)
  else if e ≥ -616 then some (x / tenTo 308 / tenTo (-e - 308).toNat)
  else some 0.0

def signed (negative : Bool) (x : Float) : Json :=
  .float (if negative then -x else x)

/-- Exponents are read up to this size. -/
def maxExponent : Nat := 2147483647

def ofParts (negative : Bool) (significand : Nat) (e : Int) : Json :=
  match scale? significand.toUInt64.toFloat e with
  | some x => signed negative x
  | none => .invalid

/-- The value with an exponent written out; a huge one leaves zero or nothing. -/
def withExponent (negative : Bool) (significand : Nat) (e : Int) (down : Bool)
    (digits : List Nat) : Json :=
  let size := digits.foldl (fun n d => n * 10 + d) 0
  if size > maxExponent then
    if significand == 0 || down then signed negative 0.0 else .invalid
  else ofParts negative significand (if down then e - size else e + size)

/-- A literal without point, exponent or excess digits is an integer if 64 bits hold it. -/
def ofInteger (negative : Bool) (significand : Nat) : Json :=
  if !negative then .int significand
  else if significand == 0 || significand > 0x8000000000000000 then
    signed true significand.toUInt64.toFloat
  else .int (-significand)

def value (l : NumberLiteral) : Json :=
  let (significand, excess) := gather 0 l.whole
  let fraction := l.fraction.getD []
  let (significand, dropped) := gather significand fraction
  let e : Int := excess.length - (fraction.length - dropped.length : Nat)
  match l.exponent with
  | some (down, digits) => withExponent l.negative significand e down digits
  | none =>
      if l.fraction.isNone && excess.isEmpty then ofInteger l.negative significand
      else ofParts l.negative significand e

end NumberLiteral

end ChipScribe.Json
