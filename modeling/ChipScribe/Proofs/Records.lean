import Mathlib.Data.List.Forall2
import Mathlib.Data.List.Nodup
import ChipScribe.Json.Record

/-!
# What records say

A record gives a field its value by name if it is an object, and by place if it is a
list.  Here this is said of the record as it is written; the readers of fields find
just these values.
-/

namespace ChipScribe.Json

/-! ## Plain values -/

theorem asNat?_eq_some_iff {limit n : Nat} {j : Json} :
    j.asNat? limit = some n ↔ j = .int n ∧ n ≤ limit := by
  cases j with
  | int i =>
      rw [asNat?, Option.ite_none_right_eq_some, Option.some.injEq, Json.int.injEq]
      omega
  | _ => simp [asNat?]

/-- A plain number of eight bits. -/
def IsByte (j : Json) (byte : UInt8) : Prop :=
  j = .int byte.toNat

theorem asUInt8?_eq_some_iff (j : Json) (byte : UInt8) :
    j.asUInt8? = some byte ↔ IsByte j byte := by
  constructor
  · intro read
    obtain ⟨n, found, rfl⟩ := Option.map_eq_some_iff.mp read
    obtain ⟨rfl, fits⟩ := asNat?_eq_some_iff.mp found
    rw [IsByte, Nat.toUInt8, UInt8.toNat_ofNat', Nat.mod_eq_of_lt (Nat.lt_succ_of_le fits)]
  · rintro rfl
    exact asUInt8?_ofUInt8 byte

theorem asString?_eq_some_iff (j : Json) (text : String) :
    j.asString? = some text ↔ j = .str text := by
  cases j <;> simp [asString?]

/-! ## Records -/

/-- The value that a record has for a field. -/
inductive Gives (names : List String) : Json → String → Json → Prop
  | named {fields : List (String × Json)} {name : String} {value : Json}
      (field : (name, value) ∈ fields) : Gives names (.obj fields) name value
  | placed {items : List Json} {place : Nat} {name : String} {value : Json}
      (field : names[place]? = some name) (item : items[place]? = some value) :
      Gives names (.arr items) name value

/--
No field of an object is given twice, and a list has no more values than there are
fields.  Keys that name no field do not count.
-/
inductive IsRecord (names : List String) : Json → Prop
  | object {fields : List (String × Json)}
      (once : ∀ name ∈ names, (fields.map Prod.fst).count name ≤ 1) : IsRecord names (.obj fields)
  | list {items : List Json} (short : items.length ≤ names.length) : IsRecord names (.arr items)

section Fields

variable {names : List String} {j : Json} {found : Fields} {name : String} {value : Json}

private theorem nodup_known {fields : Fields} :
    ((fields.filter fun f => names.contains f.1).map Prod.fst).Nodup ↔
      ∀ name ∈ names, (fields.map Prod.fst).count name ≤ 1 := by
  have keys : (fields.filter fun f => names.contains f.1).map Prod.fst =
      (fields.map Prod.fst).filter names.contains := by
    rw [List.filter_map]
    rfl
  rw [keys, List.nodup_iff_count_le_one]
  constructor
  · intro once name known
    rw [← List.count_filter (List.contains_iff_mem.mpr known)]
    exact once name
  · intro once name
    by_cases known : name ∈ names
    · rw [List.count_filter (List.contains_iff_mem.mpr known)]
      exact once name known
    · rw [List.count_eq_zero_of_not_mem fun member =>
        known (List.contains_iff_mem.mp (List.mem_filter.mp member).2)]
      exact Nat.zero_le 1

theorem isRecord_iff : IsRecord names j ↔ ∃ found, j.fields? names = some found := by
  constructor
  · rintro (once | short)
    · exact ⟨_, if_pos (nodup_known.mpr once)⟩
    · exact ⟨_, if_pos short⟩
  · rintro ⟨found, read⟩
    cases j with
    | obj fields =>
        rw [fields?, Option.ite_none_right_eq_some] at read
        exact .object (nodup_known.mp read.1)
    | arr items =>
        rw [fields?, Option.ite_none_right_eq_some] at read
        exact .list read.1
    | _ => cases read

theorem lookup_eq_some_iff (once : (found.map Prod.fst).Nodup) :
    found.lookup name = some value ↔ (name, value) ∈ found := by
  induction found with
  | nil => simp
  | cons field rest ih =>
      obtain ⟨key, first⟩ := field
      rw [List.map_cons, List.nodup_cons] at once
      rw [List.lookup_cons, List.mem_cons, Prod.mk.injEq]
      by_cases same : name = key
      · subst same
        have later : (name, value) ∉ rest := fun member =>
          once.1 (List.mem_map.mpr ⟨_, member, rfl⟩)
        simp [later, eq_comm]
      · simp [beq_eq_false_iff_ne.mpr same, same, ih once.2]

private theorem nodup_zip (distinct : names.Nodup) (items : List Json) :
    ((names.zip items).map Prod.fst).Nodup := by
  induction names generalizing items with
  | nil => exact List.nodup_nil
  | cons name names ih =>
      cases items with
      | nil => exact List.nodup_nil
      | cons item items =>
          obtain ⟨new, distinct⟩ := List.nodup_cons.mp distinct
          refine List.nodup_cons.mpr ⟨fun again => ?_, ih distinct items⟩
          obtain ⟨field, member, rfl⟩ := List.mem_map.mp again
          exact new (List.of_mem_zip member).1

/-- The fields found are the values given. -/
theorem lookup_fields? (distinct : names.Nodup) (read : j.fields? names = some found)
    (known : name ∈ names) : found.lookup name = some value ↔ Gives names j name value := by
  cases j with
  | obj fields =>
      rw [fields?, Option.ite_none_right_eq_some] at read
      obtain ⟨once, same⟩ := read
      obtain rfl := Option.some.inj same
      rw [lookup_eq_some_iff once, List.mem_filter]
      constructor
      · exact fun member => .named member.1
      · rintro ⟨field⟩
        exact ⟨field, List.contains_iff_mem.mpr known⟩
  | arr items =>
      rw [fields?, Option.ite_none_right_eq_some] at read
      obtain ⟨short, same⟩ := read
      obtain rfl := Option.some.inj same
      rw [lookup_eq_some_iff (nodup_zip distinct items), List.mem_iff_getElem?]
      constructor
      · rintro ⟨place, both⟩
        obtain ⟨field, item⟩ := List.getElem?_zip_eq_some.mp both
        exact .placed field item
      · rintro (_ | ⟨field, item⟩)
        exact ⟨_, List.getElem?_zip_eq_some.mpr ⟨field, item⟩⟩
  | _ => cases read

end Fields

/-! ## Fields -/

section Values

variable {α : Type} {names : List String} {j : Json} {name : String}

/-- A field is given, and its value means `a`. -/
def Requires (names : List String) (j : Json) (name : String) (means : Json → α → Prop) (a : α) :
    Prop :=
  ∃ value, Gives names j name value ∧ means value a

/-- A field that is left out is taken to be `fallback`. -/
def Allows (names : List String) (j : Json) (name : String) (means : Json → α → Prop)
    (fallback a : α) : Prop :=
  Requires names j name means a ∨ (∀ value, ¬Gives names j name value) ∧ a = fallback

variable {read : Json → Option α} {means : Json → α → Prop}

theorem need_eq_some_iff (distinct : names.Nodup) {found : Fields}
    (fields : j.fields? names = some found) (known : name ∈ names)
    (reads : ∀ value a, read value = some a ↔ means value a) {a : α} :
    found.need name read = some a ↔ Requires names j name means a := by
  rw [Fields.need, Option.bind_eq_some_iff]
  exact exists_congr fun value =>
    and_congr (lookup_fields? distinct fields known) (reads value a)

theorem want_eq_some_iff (distinct : names.Nodup) {found : Fields}
    (fields : j.fields? names = some found) (known : name ∈ names)
    (reads : ∀ value a, read value = some a ↔ means value a) {fallback a : α} :
    found.want name read fallback = some a ↔ Allows names j name means fallback a := by
  have given (value : Json) : found.lookup name = some value ↔ Gives names j name value :=
    lookup_fields? distinct fields known
  rw [Fields.want, Allows, Requires]
  simp only [← given, ← reads]
  cases found.lookup name with
  | none => simp [eq_comm]
  | some value => simp

theorem mapM_eq_some_iff (reads : ∀ value a, read value = some a ↔ means value a)
    {items : List Json} {as : List α} :
    items.mapM read = some as ↔ List.Forall₂ means items as := by
  induction items generalizing as with
  | nil => simp [eq_comm]
  | cons item rest ih =>
      simp only [List.mapM_cons, Option.bind_eq_bind, Option.bind_eq_some_iff, Option.pure_def,
        Option.some.injEq, List.forall₂_cons_left_iff, ih, reads]
      constructor
      · rintro ⟨a, here, later, others, rfl⟩
        exact ⟨a, later, here, others, rfl⟩
      · rintro ⟨a, later, here, others, rfl⟩
        exact ⟨a, here, later, others, rfl⟩

theorem asListOf?_eq_some_iff (reads : ∀ value a, read value = some a ↔ means value a)
    {as : List α} :
    j.asListOf? read = some as ↔ ∃ items, j = .arr items ∧ List.Forall₂ means items as := by
  rw [asListOf?, Option.bind_eq_some_iff]
  refine exists_congr fun items => and_congr ?_ (mapM_eq_some_iff reads)
  cases j <;> simp [asList?]

end Values

end ChipScribe.Json
