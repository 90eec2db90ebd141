import ChipScribe.Json.Basic
import ChipScribe.Decimal.Shortest
import ChipScribe.Text.Hex

/-!
Writing JSON text, on one line or indented by two blanks a level.  Numbers with
a fraction are written with the fewest digits that read back; between 1e-5 and
1e16 without an exponent, beyond that with a signed one.
-/

namespace ChipScribe.Json

/-! ## Numbers -/

def zeros (n : Nat) : String :=
  String.ofList (List.replicate n '0')

/-- An exponent that is not negative has a plus sign. -/
def exponentText (e : Int) : String :=
  (if e < 0 then "e" else "e+") ++ toString e

/-- Digits `ds` with their point after the `point`-th. -/
def placeDigits (ds : String) (point : Int) : String :=
  let n : Int := ds.length
  if n ≤ point && point ≤ 16 then ds ++ zeros (point - n).toNat ++ ".0"
  else if 0 < point && point ≤ 16 then
    String.ofList (ds.toList.take point.toNat) ++ "." ++
      String.ofList (ds.toList.drop point.toNat)
  else if -5 < point && point ≤ 0 then "0." ++ zeros (-point).toNat ++ ds
  else
    let tail := ds.toList.drop 1
    let lead := String.ofList (ds.toList.take 1)
    let shown := if tail.isEmpty then lead else lead ++ "." ++ String.ofList tail
    shown ++ exponentText (point - 1)

def floatText (x : Float) : String :=
  let bits := x.toBits
  let size := bits &&& 0x7FFFFFFFFFFFFFFF
  let sign := if bits == size then "" else "-"
  if size == 0 then sign ++ "0.0"
  else
    let d := Decimal.ofBits size
    let ds := toString d.significand
    sign ++ placeDigits ds (ds.length + d.exponent)

/-! ## Strings -/

def escapeChar (c : Char) : String :=
  if c == '"' then "\\\""
  else if c == '\\' then "\\\\"
  else if c == '\n' then "\\n"
  else if c == '\r' then "\\r"
  else if c == '\t' then "\\t"
  else if c == '\x08' then "\\b"
  else if c == '\x0c' then "\\f"
  else if c.toNat < 0x20 then "\\u" ++ Text.lowerHexPadded 4 c.toNat
  else c.toString

def stringText (s : String) : String :=
  s.toList.foldl (fun acc c => acc ++ escapeChar c) "\"" ++ "\""

/-! ## Values -/

def leafText : Json → String
  | .bool true => "true"
  | .bool false => "false"
  | .int i => toString i
  | .float x => floatText x
  | .str s => stringText s
  | _ => "null"

mutual

/-- On one line, after `acc`. -/
def compactAfter (acc : String) : Json → String
  | .arr [] => acc ++ "[]"
  | .obj [] => acc ++ "\x7b\x7d"
  | .arr items => compactItems (acc ++ "[") items
  | .obj fields => compactFields (acc ++ "\x7b") fields
  | j => acc ++ leafText j

def compactItems (acc : String) : List Json → String
  | [] => acc ++ "]"
  | [j] => compactAfter acc j ++ "]"
  | j :: rest => compactItems (compactAfter acc j ++ ",") rest

def compactFields (acc : String) : List (String × Json) → String
  | [] => acc ++ "\x7d"
  | [(key, j)] => compactAfter (acc ++ stringText key ++ ":") j ++ "\x7d"
  | (key, j) :: rest => compactFields (compactAfter (acc ++ stringText key ++ ":") j ++ ",") rest

end

def compact (j : Json) : String :=
  compactAfter "" j

def indent (level : Nat) : String :=
  "\n" ++ String.ofList (List.replicate (2 * level) ' ')

mutual

/-- Indented, after `acc`, at a level of nesting. -/
def prettyAfter (level : Nat) (acc : String) : Json → String
  | .arr [] => acc ++ "[]"
  | .obj [] => acc ++ "\x7b\x7d"
  | .arr items => prettyItems (level + 1) (acc ++ "[") items
  | .obj fields => prettyFields (level + 1) (acc ++ "\x7b") fields
  | j => acc ++ leafText j

def prettyItems (level : Nat) (acc : String) : List Json → String
  | [] => acc ++ "]"
  | [j] => prettyAfter level (acc ++ indent level) j ++ indent (level - 1) ++ "]"
  | j :: rest => prettyItems level (prettyAfter level (acc ++ indent level) j ++ ",") rest

def prettyFields (level : Nat) (acc : String) : List (String × Json) → String
  | [] => acc ++ "\x7d"
  | [(key, j)] =>
      prettyAfter level (acc ++ indent level ++ stringText key ++ ": ") j ++
        indent (level - 1) ++ "\x7d"
  | (key, j) :: rest =>
      prettyFields level
        (prettyAfter level (acc ++ indent level ++ stringText key ++ ": ") j ++ ",") rest

end

def pretty (j : Json) : String :=
  prettyAfter 0 "" j

end ChipScribe.Json
