/-!
Blank characters (the Unicode property `White_Space`) and trimming.
-/

namespace ChipScribe.Text

def isBlank (c : Char) : Bool :=
  let n := c.toNat
  (0x09 ≤ n && n ≤ 0x0D) || n == 0x20 || n == 0x85 || n == 0xA0 || n == 0x1680 ||
  (0x2000 ≤ n && n ≤ 0x200A) || n == 0x2028 || n == 0x2029 || n == 0x202F ||
  n == 0x205F || n == 0x3000

def trimLeft (cs : List Char) : List Char :=
  cs.dropWhile isBlank

def trimRight (cs : List Char) : List Char :=
  (cs.reverse.dropWhile isBlank).reverse

def trim (cs : List Char) : List Char :=
  trimRight (trimLeft cs)

theorem isBlank_of_isWhitespace {c : Char} (h : c.isWhitespace) : isBlank c := by
  simp only [Char.isWhitespace, Bool.or_eq_true, decide_eq_true_eq] at h
  rcases h with ((rfl | rfl) | rfl) | rfl <;> decide

/-- `rest` if the text begins with `front`. -/
def strip? : List Char → List Char → Option (List Char)
  | [], cs => some cs
  | _ :: _, [] => none
  | f :: front, c :: cs => if f = c then strip? front cs else none

theorem strip?_eq_some_iff {front cs rest : List Char} :
    strip? front cs = some rest ↔ cs = front ++ rest := by
  induction front generalizing cs with
  | nil => simp [strip?, eq_comm]
  | cons f front ih =>
      cases cs with
      | nil => simp [strip?]
      | cons c cs =>
          by_cases h : f = c
          · simp [strip?, h, ih]
          · simp [strip?, h, Ne.symm h]

end ChipScribe.Text
