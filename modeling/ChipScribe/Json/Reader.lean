import ChipScribe.Json.Number
import ChipScribe.Text.Hex
import ChipScribe.Text.Blank

/-!
Reading JSON text.  The grammar is strict: no leading zeros, no trailing commas,
no control characters in strings, and nothing but blanks after the value.  The
blanks are the four characters that the format allows.
-/

namespace ChipScribe.Json

def skipBlanks : List Char → List Char
  | c :: rest => if c == ' ' || c == '\n' || c == '\t' || c == '\r' then skipBlanks rest
      else c :: rest
  | [] => []

/-! ## Numbers -/

def readDigits : List Char → List Nat × List Char
  | c :: rest =>
      if c.isDigit then
        let (ds, rest') := readDigits rest
        ((c.toNat - '0'.toNat) :: ds, rest')
      else ([], c :: rest)
  | [] => ([], [])

def readSomeDigits? (cs : List Char) : Option (List Nat × List Char) :=
  match readDigits cs with
  | ([], _) => none
  | found => some found

/-- A whole number of more than one digit does not begin with zero. -/
def readWhole? (cs : List Char) : Option (List Nat × List Char) :=
  match readSomeDigits? cs with
  | some (0 :: _ :: _, _) => none
  | found => found

def readFraction? : List Char → Option (Option (List Nat) × List Char)
  | '.' :: rest => (readSomeDigits? rest).map fun (ds, rest) => (some ds, rest)
  | cs => some (none, cs)

def readSign : List Char → Bool × List Char
  | '-' :: rest => (true, rest)
  | '+' :: rest => (false, rest)
  | cs => (false, cs)

def readExponent? (cs : List Char) : Option (Option (Bool × List Nat) × List Char) :=
  match cs with
  | 'e' :: rest | 'E' :: rest =>
      let (down, rest) := readSign rest
      (readSomeDigits? rest).map fun (ds, rest) => (some (down, ds), rest)
  | cs => some (none, cs)

def readUnsigned? (negative : Bool) (cs : List Char) : Option (Json × List Char) := do
  let (whole, cs) ← readWhole? cs
  let (fraction, cs) ← readFraction? cs
  let (exponent, cs) ← readExponent? cs
  return (NumberLiteral.value ⟨negative, whole, fraction, exponent⟩, cs)

def readNumber? : List Char → Option (Json × List Char)
  | '-' :: rest => readUnsigned? true rest
  | cs => readUnsigned? false cs

/-! ## Strings -/

/-- A piece of a string: a character, or half of a surrogate pair. -/
inductive Piece where
  | char (c : Char)
  | surrogate (unit : Nat)
  deriving DecidableEq, Repr

def Piece.ofUnit (n : Nat) : Piece :=
  if 0xD800 ≤ n && n ≤ 0xDFFF then .surrogate n else .char (Char.ofNat n)

def escaped? : Char → Option Char
  | '"' => some '"'
  | '\\' => some '\\'
  | '/' => some '/'
  | 'b' => some '\x08'
  | 'f' => some '\x0c'
  | 'n' => some '\n'
  | 'r' => some '\r'
  | 't' => some '\t'
  | _ => none

def unit? (a b c d : Char) : Option Nat := do
  let a ← Text.hexDigit? a
  let b ← Text.hexDigit? b
  let c ← Text.hexDigit? c
  let d ← Text.hexDigit? d
  return ((a * 16 + b) * 16 + c) * 16 + d

/-- The pieces up to the closing quote, last first, and what follows it. -/
def readPieces? (acc : List Piece) : List Char → Option (List Piece × List Char)
  | [] => none
  | '"' :: rest => some (acc, rest)
  | '\\' :: 'u' :: a :: b :: c :: d :: rest =>
      match unit? a b c d with
      | some n => readPieces? (.ofUnit n :: acc) rest
      | none => none
  | '\\' :: e :: rest =>
      match escaped? e with
      | some c => readPieces? (.char c :: acc) rest
      | none => none
  | c :: rest => if c.toNat < 0x20 then none else readPieces? (.char c :: acc) rest

def pairValue (hi lo : Nat) : Nat :=
  0x10000 + (hi - 0xD800) * 0x400 + (lo - 0xDC00)

/-- Surrogates are only allowed in pairs, high half first.  The pieces come last first. -/
def joinPieces? (acc : List Char) : List Piece → Option (List Char)
  | [] => some acc
  | .char c :: rest => joinPieces? (c :: acc) rest
  | .surrogate lo :: .surrogate hi :: rest =>
      if hi < 0xDC00 && 0xDC00 ≤ lo then joinPieces? (Char.ofNat (pairValue hi lo) :: acc) rest
      else none
  | .surrogate _ :: _ => none

/-- A string after its opening quote; the text is missing if it has a lone surrogate. -/
def readString? (cs : List Char) : Option (Option String × List Char) :=
  (readPieces? [] cs).map fun (pieces, rest) =>
    ((joinPieces? [] pieces).map String.ofList, rest)

/-! ## Values -/

/-- An object one of whose keys has no value has none itself. -/
def ofMembers (members : List (Option String × Json)) : Json :=
  match members.mapM fun (key, j) => key.map (·, j) with
  | some fields => .obj fields
  | none => .invalid

def readWord? (word : String) (j : Json) (cs : List Char) : Option (Json × List Char) :=
  (Text.strip? word.toList cs).map (j, ·)

mutual

def readValue? : Nat → List Char → Option (Json × List Char)
  | 0, _ => none
  | fuel + 1, cs =>
      match skipBlanks cs with
      | '"' :: rest =>
          (readString? rest).map fun (s, rest) => ((s.map Json.str).getD .invalid, rest)
      | '[' :: rest =>
          match skipBlanks rest with
          | ']' :: rest => some (.arr [], rest)
          | rest => (readItems? fuel rest).map fun (items, rest) => (.arr items, rest)
      | '\x7b' :: rest =>
          match skipBlanks rest with
          | '\x7d' :: rest => some (.obj [], rest)
          | rest => (readMembers? fuel rest).map fun (members, rest) => (ofMembers members, rest)
      | 'n' :: rest => readWord? "ull" .null rest
      | 't' :: rest => readWord? "rue" (.bool true) rest
      | 'f' :: rest => readWord? "alse" (.bool false) rest
      | cs => readNumber? cs

def readItems? : Nat → List Char → Option (List Json × List Char)
  | 0, _ => none
  | fuel + 1, cs =>
      match readValue? fuel cs with
      | none => none
      | some (item, rest) =>
          match skipBlanks rest with
          | ',' :: rest => (readItems? fuel rest).map fun (items, rest) => (item :: items, rest)
          | ']' :: rest => some ([item], rest)
          | _ => none

def readMembers? : Nat → List Char → Option (List (Option String × Json) × List Char)
  | 0, _ => none
  | fuel + 1, cs =>
      match skipBlanks cs with
      | '"' :: rest =>
          match readString? rest with
          | none => none
          | some (key, rest) =>
              match skipBlanks rest with
              | ':' :: rest =>
                  match readValue? fuel rest with
                  | none => none
                  | some (item, rest) =>
                      match skipBlanks rest with
                      | ',' :: rest =>
                          (readMembers? fuel rest).map fun (members, rest) =>
                            ((key, item) :: members, rest)
                      | '\x7d' :: rest => some ([(key, item)], rest)
                      | _ => none
              | _ => none
      | _ => none

end

def parse? (s : String) : Option Json :=
  let cs := s.toList
  match readValue? (2 * cs.length + 2) cs with
  | some (j, rest) => if (skipBlanks rest).isEmpty then some j else none
  | none => none

end ChipScribe.Json
