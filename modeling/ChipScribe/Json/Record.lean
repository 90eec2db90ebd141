import ChipScribe.Json.Basic

/-!
Records and enumerations written as JSON.  A record is an object with its
fields in any order, or an array with its fields in their order; unknown fields
are skipped, a known field may occur once.  A name of an enumeration is a
string, or an object that maps the name to `null`.
-/

namespace ChipScribe.Json

abbrev Fields := List (String × Json)

def fields? (names : List String) : Json → Option Fields
  | .obj fields =>
      let known := fields.filter fun f => names.contains f.1
      if (known.map Prod.fst).Nodup then some known else none
  | .arr items => if items.length ≤ names.length then some (names.zip items) else none
  | _ => none

/-- An object with exactly the fields of a record gives them all. -/
theorem fields?_obj {names : List String} {fields : Fields} (h : fields.map Prod.fst = names)
    (distinct : names.Nodup) : fields? names (.obj fields) = some fields := by
  have known : fields.filter (fun f => names.contains f.1) = fields := by
    rw [List.filter_eq_self]
    intro f hf
    rw [List.contains_iff_mem, ← h]
    exact List.mem_map_of_mem hf
  simp only [fields?, known, h, if_pos distinct]

/-- Reading one field after another. -/
theorem some_bind {α β : Type} (a : α) (f : α → Option β) : (some a >>= f) = f a := rfl

theorem none_bind {α β : Type} (f : α → Option β) : (none >>= f) = none := rfl

theorem bind_some_eq_map {α β : Type} (o : Option α) (f : α → β) :
    (o >>= fun a => some (f a)) = o.map f := by
  cases o <;> rfl

namespace Fields

variable {α : Type}

/-- A field that has to be there. -/
def need (fields : Fields) (name : String) (read : Json → Option α) : Option α :=
  (List.lookup name fields).bind read

/-- A field that may be left out. -/
def want (fields : Fields) (name : String) (read : Json → Option α) (fallback : α) : Option α :=
  match List.lookup name fields with
  | some j => read j
  | none => some fallback

@[simp] theorem need_cons_self (name : String) (j : Json) (rest : Fields)
    (read : Json → Option α) : need ((name, j) :: rest) name read = read j := by
  simp [need]

theorem need_cons_other {name other : String} (h : name ≠ other) (j : Json) (rest : Fields)
    (read : Json → Option α) : need ((other, j) :: rest) name read = need rest name read := by
  simp [need, List.lookup_cons, beq_eq_false_iff_ne.2 h]

end Fields

/-- The name an enumeration value is given by. -/
def asName? : Json → Option String
  | .str s => some s
  | .obj [(name, .null)] => some name
  | _ => none

end ChipScribe.Json
