/-!
JSON values.  Integers that fit 64 bits are kept apart from floating-point
numbers, as readers of integer fields take only the former.
-/

namespace ChipScribe

/--
`invalid` stands for well-formed text that denotes no value: a number out of
range, a lone surrogate, an object with such a key.  It may be skipped but not
used.
-/
inductive Json where
  | null
  | bool (b : Bool)
  | int (i : Int)
  | float (x : Float)
  | str (s : String)
  | arr (items : List Json)
  | obj (fields : List (String × Json))
  | invalid
  deriving Repr, Inhabited

namespace Json

/-! ## Reading plain values -/

def asBool? : Json → Option Bool
  | .bool b => some b
  | _ => none

def asString? : Json → Option String
  | .str s => some s
  | _ => none

def asList? : Json → Option (List Json)
  | .arr items => some items
  | _ => none

/-- An integer from 0 to `limit`. -/
def asNat? (limit : Nat) : Json → Option Nat
  | .int i => if 0 ≤ i ∧ i.toNat ≤ limit then some i.toNat else none
  | _ => none

def asUInt8? (j : Json) : Option UInt8 :=
  (j.asNat? 0xFF).map (·.toUInt8)

def asUInt16? (j : Json) : Option UInt16 :=
  (j.asNat? 0xFFFF).map (·.toUInt16)

def asUInt32? (j : Json) : Option UInt32 :=
  (j.asNat? 0xFFFFFFFF).map (·.toUInt32)

def asUInt64? (j : Json) : Option UInt64 :=
  (j.asNat? 0xFFFFFFFFFFFFFFFF).map (·.toUInt64)

def floatOfInt (i : Int) : Float :=
  let size := i.natAbs.toUInt64.toFloat
  if i < 0 then -size else size

/-- Integers are taken as floating-point numbers too. -/
def asFloat? : Json → Option Float
  | .float x => some x
  | .int i => some (floatOfInt i)
  | _ => none

def asListOf? {α : Type} (read : Json → Option α) (j : Json) : Option (List α) :=
  j.asList?.bind (·.mapM read)

/-- Exactly `n` items, each read by `read`. -/
def asVectorOf? {α : Type} (n : Nat) (read : Json → Option α) (j : Json) : Option (Vector α n) :=
  (j.asListOf? read).bind fun items =>
    if h : items.toArray.size = n then some ⟨items.toArray, h⟩ else none

def asOptionOf? {α : Type} (read : Json → Option α) : Json → Option (Option α)
  | .null => some none
  | j => (read j).map some

/-! ## Writing plain values -/

def ofNat (n : Nat) : Json :=
  .int n

def ofUInt8 (x : UInt8) : Json :=
  .int x.toNat

def ofUInt16 (x : UInt16) : Json :=
  .int x.toNat

def ofUInt32 (x : UInt32) : Json :=
  .int x.toNat

/-- A number that is not finite has no written form. -/
def ofFloat (x : Float) : Json :=
  if x.isFinite then .float x else .null

@[simp] theorem asBool?_bool (b : Bool) : asBool? (.bool b) = some b := rfl

@[simp] theorem asUInt8?_ofUInt8 (x : UInt8) : asUInt8? (ofUInt8 x) = some x := by
  have := x.toNat_lt
  simp [asUInt8?, ofUInt8, asNat?]; omega

@[simp] theorem asUInt16?_ofUInt16 (x : UInt16) : asUInt16? (ofUInt16 x) = some x := by
  have := x.toNat_lt
  simp [asUInt16?, ofUInt16, asNat?]; omega

@[simp] theorem asUInt32?_ofUInt32 (x : UInt32) : asUInt32? (ofUInt32 x) = some x := by
  have := x.toNat_lt
  simp [asUInt32?, ofUInt32, asNat?]; omega

theorem asVectorOf?_map {α : Type} {n : Nat} {write : α → Json} {read : Json → Option α}
    (h : ∀ x, read (write x) = some x) (v : Vector α n) :
    asVectorOf? n read (.arr (v.toList.map write)) = some v := by
  have items : ∀ l : List α, (l.map write).mapM read = some l := by
    intro l
    induction l with
    | nil => rfl
    | cons x rest ih => simp [h, ih]
  have whole : v.toList.toArray = v.toArray := Array.toArray_toList
  simp [asVectorOf?, asListOf?, asList?, items, whole]

theorem asFloat?_ofFloat {x : Float} (h : x.isFinite) : asFloat? (ofFloat x) = some x := by
  simp [ofFloat, h, asFloat?]

theorem asFloat?_ofFloat_of_not {x : Float} (h : ¬ x.isFinite) : asFloat? (ofFloat x) = none := by
  simp [ofFloat, h, asFloat?]

/-! ## Objects -/

/-- The value under a key; the last counts. -/
def get? (j : Json) (key : String) : Option Json :=
  match j with
  | .obj fields => fields.reverse.lookup key
  | _ => none

end Json

end ChipScribe
