/-!
The shortest decimal that reads back as a given floating-point number: of all
decimals closer to it than to any other number, those with the fewest digits,
and of these the nearest.  All arithmetic is exact.
-/

namespace ChipScribe

/-- `significand * 10 ^ exponent`. -/
structure Decimal where
  significand : Nat
  exponent : Int
  deriving DecidableEq, Repr

namespace Decimal

/-- A value between two bounds, in units of `1 / unit`; the bounds count if `closed`. -/
structure Interval where
  low : Nat
  value : Nat
  high : Nat
  unit : Nat
  closed : Bool
  deriving DecidableEq, Repr

/-- The numbers that round to `m * 2 ^ q`; below a power of two the gap is half as wide. -/
def Interval.ofBinary (m : Nat) (q : Int) (narrow : Bool) : Interval :=
  let up := 1 <<< (q - 2).toNat
  let down := 1 <<< (2 - q).toNat
  { low := (4 * m - (if narrow then 1 else 2)) * up
    value := 4 * m * up
    high := (4 * m + 2) * up
    unit := down
    closed := m % 2 == 0 }

/-- Both sides of `c * 10 ^ e` against `x / unit`, without fractions. -/
def crossed (c : Nat) (e : Int) (x unit : Nat) : Nat × Nat :=
  (c * Nat.pow 10 e.toNat * unit, x * Nat.pow 10 (-e).toNat)

def Interval.contains (i : Interval) (c : Nat) (e : Int) : Bool :=
  let (c₁, low) := crossed c e i.low i.unit
  let (c₂, high) := crossed c e i.high i.unit
  if i.closed then low ≤ c₁ && c₂ ≤ high else low < c₁ && c₂ < high

/-- The distance of `c * 10 ^ e` from the value, on the scale that `e` fixes. -/
def Interval.distance (i : Interval) (c : Nat) (e : Int) : Nat :=
  let (x, y) := crossed c e i.value i.unit
  (x - y) + (y - x)

/-- The largest multiple of `10 ^ e` not above the value. -/
def Interval.below (i : Interval) (e : Int) : Nat :=
  i.value * Nat.pow 10 (-e).toNat / (Nat.pow 10 e.toNat * i.unit)

/-- Of the neighbours `c` and `c + 1` the nearer; a tie goes to the even one. -/
def Interval.nearer (i : Interval) (c : Nat) (e : Int) : Nat :=
  let down := i.distance c e
  let up := i.distance (c + 1) e
  if up < down || (up == down && c % 2 == 1) then c + 1 else c

/-- The better of the value's two neighbours on the grid of multiples of `10 ^ e`, if one fits. -/
def Interval.onGrid? (i : Interval) (e : Int) : Option Decimal :=
  let c := i.below e
  match i.contains c e && c != 0, i.contains (c + 1) e with
  | true, true => some ⟨i.nearer c e, e⟩
  | true, false => some ⟨c, e⟩
  | false, true => some ⟨c + 1, e⟩
  | false, false => none

/-- Try ever finer grids, beginning at `10 ^ e`. -/
def Interval.search (i : Interval) : Nat → Int → Decimal
  | 0, e => ⟨i.below e, e⟩
  | fuel + 1, e => (i.onGrid? e).getD (i.search fuel (e - 1))

/-- A grid so coarse that its first point beyond zero lies above the value. -/
def Interval.coarsest (i : Interval) : Int :=
  (Nat.toDigits 10 (i.value / i.unit)).length

/-- Grids finer than this hold every number. -/
def gridCount : Nat := 700

def Interval.shortest (i : Interval) : Decimal :=
  i.search gridCount i.coarsest

/-- The shortest decimal of a positive finite number, by its bits. -/
def ofBits (bits : UInt64) : Decimal :=
  let fraction := (bits &&& 0xFFFFFFFFFFFFF).toNat
  let biased := ((bits >>> 52) &&& 0x7FF).toNat
  if biased == 0 then (Interval.ofBinary fraction (-1074) false).shortest
  else
    (Interval.ofBinary (fraction + 0x10000000000000) (biased - 1075)
      (fraction == 0 && biased != 1)).shortest

end Decimal

end ChipScribe
