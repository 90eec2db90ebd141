import ChipScribe.Json.Basic

/-!
The canonical form of a value: keys ascending and each once, the last one
written winning.  Text nested too deeply, or with a part that has no value, has
no canonical form.
-/

namespace ChipScribe.Json

/-- Put a field in its place, over one with the same key. -/
def insertField (key : String) (j : Json) : List (String × Json) → List (String × Json)
  | [] => [(key, j)]
  | (k, v) :: rest =>
      if key = k then (key, j) :: rest
      else if key < k then (key, j) :: (k, v) :: rest
      else (k, v) :: insertField key j rest

def sortFields (fields : List (String × Json)) : List (String × Json) :=
  fields.foldl (fun sorted f => insertField f.1 f.2 sorted) []

/-- How many arrays and objects may be nested. -/
def maxDepth : Nat := 127

mutual

def canonicalAt? (depth : Nat) : Json → Option Json
  | .invalid => none
  | .arr items =>
      if depth = 0 then none else (canonicalItems? (depth - 1) items).map .arr
  | .obj fields =>
      if depth = 0 then none
      else (canonicalFields? (depth - 1) fields).map fun fields => .obj (sortFields fields)
  | j => some j

def canonicalItems? (depth : Nat) : List Json → Option (List Json)
  | [] => some []
  | j :: rest =>
      match canonicalAt? depth j with
      | none => none
      | some j => (canonicalItems? depth rest).map (j :: ·)

def canonicalFields? (depth : Nat) : List (String × Json) → Option (List (String × Json))
  | [] => some []
  | (key, j) :: rest =>
      match canonicalAt? depth j with
      | none => none
      | some j => (canonicalFields? depth rest).map ((key, j) :: ·)

end

def canonical? (j : Json) : Option Json :=
  canonicalAt? maxDepth j

end ChipScribe.Json
