import ChipScribe.Json.Basic
import ChipScribe.Text.Numeral

/-!
JSON pointers: a path into a value, written as `/`-separated keys and indices in
which `~1` stands for a slash and `~0` for a tilde.
-/

namespace ChipScribe.Json

def unescapeToken : List Char → List Char
  | '~' :: '1' :: rest => '/' :: unescapeToken rest
  | '~' :: '0' :: rest => '~' :: unescapeToken rest
  | c :: rest => c :: unescapeToken rest
  | [] => []

def splitTokens : List Char → List (List Char)
  | [] => [[]]
  | '/' :: rest => [] :: splitTokens rest
  | c :: rest =>
      match splitTokens rest with
      | token :: tokens => (c :: token) :: tokens
      | [] => [[c]]

/-- The empty pointer is the whole value; any other begins with a slash. -/
def pointer? (s : String) : Option (List String) :=
  match s.toList with
  | [] => some []
  | '/' :: rest => some ((splitTokens rest).map fun t => String.ofList (unescapeToken t))
  | _ => none

/-- An index has no sign and no leading zero. -/
def index? (token : String) : Option Nat :=
  match token.toList with
  | '0' :: _ :: _ => none
  | '+' :: _ => none
  | cs => Text.decimal64? cs

def modifyKey? (key : String) (f : Json → Option Json) :
    List (String × Json) → Option (List (String × Json))
  | [] => none
  | (k, v) :: rest =>
      if k = key then (f v).map fun v => (k, v) :: rest
      else (modifyKey? key f rest).map ((k, v) :: ·)

def modifyIndex? (f : Json → Option Json) : Nat → List Json → Option (List Json)
  | _, [] => none
  | 0, j :: rest => (f j).map (· :: rest)
  | n + 1, j :: rest => (modifyIndex? f n rest).map (j :: ·)

/-- Change the value at a path that exists. -/
def modifyAt? (f : Json → Option Json) : List String → Json → Option Json
  | [], j => f j
  | token :: path, .obj fields => (modifyKey? token (modifyAt? f path) fields).map .obj
  | token :: path, .arr items =>
      match index? token with
      | some n => (modifyIndex? (modifyAt? f path) n items).map .arr
      | none => none
  | _ :: _, _ => none

def replaceAt? (path : List String) (new j : Json) : Option Json :=
  modifyAt? (fun _ => some new) path j

def addField? (key : String) (new : Json) : Json → Option Json
  | .obj fields => some (.obj (fields ++ [(key, new)]))
  | _ => none

/-- Replace the value at a path, or add it to the object that would hold it. -/
def putAt? (path : List String) (new j : Json) : Option Json :=
  (replaceAt? path new j).or
    (match path.getLast? with
     | some key => modifyAt? (addField? key new) path.dropLast j
     | none => none)

def dropField? (key : String) : Json → Option Json
  | .obj fields =>
      if fields.any (·.1 == key) then some (.obj (fields.filter (·.1 != key))) else none
  | _ => none

def dropAt? (path : List String) (j : Json) : Option Json :=
  match path.getLast? with
  | some key => modifyAt? (dropField? key) path.dropLast j
  | none => none

end ChipScribe.Json
