import Mathlib.Data.List.Forall2
import Mathlib.Data.List.TakeWhile
import Mathlib.Data.Nat.Digits.Defs
import ChipScribe.Sample.Library
import ChipScribe.Script

/-!
# What numerals denote

Scripts and library files give numbers as text: a numeral with blanks around it and,
if it is hexadecimal, a mark in front.  Here it is said which texts denote which number
without a reader, and the two readers are shown to take just these.
-/

namespace ChipScribe

namespace Text

/-! ## Digits -/

/-- A digit of a base up to sixteen; a letter may be of either case. -/
def IsDigit (base : Nat) (c : Char) (d : Nat) : Prop :=
  d < base ∧ (c = Nat.digitChar d ∨ c = (Nat.digitChar d).toUpper)

instance (base : Nat) (c : Char) (d : Nat) : Decidable (IsDigit base c d) :=
  inferInstanceAs (Decidable (_ ∧ _))

theorem digitValue?_digitChar {d : Nat} (h : d < 16) :
    digitValue? (Nat.digitChar d) = some d ∧ digitValue? (Nat.digitChar d).toUpper = some d := by
  have table : ∀ d : Fin 16, digitValue? (Nat.digitChar d) = some d.val ∧
      digitValue? (Nat.digitChar d).toUpper = some d.val := by
    decide
  exact table ⟨d, h⟩

theorem toNat_lt_of_digitValue? {c : Char} {d : Nat} (read : digitValue? c = some d) :
    c.toNat < 123 := by
  by_contra above
  have beyond (e : Char) (low : e.toNat < 123) : ¬c ≤ e := by
    rw [Char.le_def, UInt32.le_iff_toNat_le]
    exact Nat.not_le.mpr (Nat.lt_of_lt_of_le low (Nat.le_of_not_lt above))
  simp [digitValue?, beyond '9' (by decide), beyond 'z' (by decide), beyond 'Z' (by decide)] at read

theorem eq_digitChar_of_digitValue? {c : Char} {d : Nat} (read : digitValue? c = some d)
    (h : d < 16) : c = Nat.digitChar d ∨ c = (Nat.digitChar d).toUpper := by
  have table : ∀ n : Fin 123, ∀ d : Fin 16, digitValue? (Char.ofNat n) = some d.val →
      Char.ofNat n = Nat.digitChar d ∨ Char.ofNat n = (Nat.digitChar d).toUpper := by
    decide +kernel
  have found := table ⟨c.toNat, toNat_lt_of_digitValue? read⟩ ⟨d, h⟩
  rw [Char.ofNat_toNat] at found
  exact found read

theorem isDigit_iff {base : Nat} (small : base ≤ 16) {c : Char} {d : Nat} :
    IsDigit base c d ↔ digitValue? c = some d ∧ d < base := by
  constructor
  · rintro ⟨h, rfl | rfl⟩
    · exact ⟨(digitValue?_digitChar (h.trans_le small)).1, h⟩
    · exact ⟨(digitValue?_digitChar (h.trans_le small)).2, h⟩
  · rintro ⟨read, h⟩
    exact ⟨h, eq_digitChar_of_digitValue? read (h.trans_le small)⟩

/-! ## Numerals -/

/-- Digits, highest first, and the number they make. -/
def Spells (base : Nat) (cs : List Char) (n : Nat) : Prop :=
  ∃ ds : List Nat, ds ≠ [] ∧ List.Forall₂ (IsDigit base) cs ds ∧ Nat.ofDigits base ds.reverse = n

/-- A plus sign may stand in front of the digits. -/
def Numeral (base : Nat) (cs : List Char) (n : Nat) : Prop :=
  Spells base cs n ∨ ∃ digits, cs = '+' :: digits ∧ Spells base digits n

theorem digitsValue?_eq_some_iff {base : Nat} (small : base ≤ 16) {cs : List Char}
    {value n : Nat} :
    digitsValue? base cs value = some n ↔ ∃ ds : List Nat, List.Forall₂ (IsDigit base) cs ds ∧
      Nat.ofDigits base ds.reverse + base ^ ds.length * value = n := by
  induction cs generalizing value with
  | nil => simp [digitsValue?]
  | cons c rest ih =>
      have lead (d : Nat) (ds : List Nat) :
          Nat.ofDigits base (d :: ds).reverse + base ^ (d :: ds).length * value =
            Nat.ofDigits base ds.reverse + base ^ ds.length * (value * base + d) := by
        rw [List.reverse_cons, Nat.ofDigits_append, Nat.ofDigits_singleton, List.length_reverse,
          List.length_cons, Nat.pow_succ]
        ring
      rw [digitsValue?]
      constructor
      · intro read
        split at read
        next d found =>
          split at read
          next fits =>
            obtain ⟨ds, digits, rfl⟩ := ih.mp read
            exact ⟨d :: ds, .cons ((isDigit_iff small).mpr ⟨found, fits⟩) digits, lead d ds⟩
          next => cases read
        next => cases read
      · rintro ⟨_, _ | ⟨digit, digits⟩, rfl⟩
        obtain ⟨found, fits⟩ := (isDigit_iff small).mp digit
        rw [found]
        dsimp only
        rw [if_pos fits]
        exact ih.mpr ⟨_, digits, (lead _ _).symm⟩

theorem unsigned?_eq_some_iff {base : Nat} (small : base ≤ 16) {cs : List Char} {n : Nat} :
    unsigned? base cs = some n ↔ Spells base cs n := by
  cases cs with
  | nil =>
      refine iff_of_false nofun ?_
      rintro ⟨ds, some, digits, -⟩
      exact some (List.forall₂_nil_left_iff.mp digits)
  | cons c rest =>
      rw [unsigned?, if_neg (by simp), digitsValue?_eq_some_iff small]
      refine exists_congr fun ds => ⟨?_, ?_⟩
      · rintro ⟨digits, value⟩
        refine ⟨?_, digits, value⟩
        rintro rfl
        cases digits
      · rintro ⟨-, digits, value⟩
        exact ⟨digits, value⟩

theorem not_isDigit_plus (base d : Nat) (small : base ≤ 16) : ¬IsDigit base '+' d := by
  rw [isDigit_iff small]
  exact fun h => nomatch h.1

theorem numeral?_eq_some_iff {base limit : Nat} (small : base ≤ 16) {cs : List Char} {n : Nat} :
    numeral? base limit cs = some n ↔ Numeral base cs n ∧ n ≤ limit := by
  unfold numeral?
  rw [Option.filter_eq_some_iff, decide_eq_true_eq]
  refine and_congr_left fun _ => ?_
  split
  next rest =>
    rw [unsigned?_eq_some_iff small]
    constructor
    · exact fun spelled => .inr ⟨rest, rfl, spelled⟩
    · rintro (⟨ds, -, digits, -⟩ | ⟨_, same, spelled⟩)
      · obtain ⟨d, _, digit, -⟩ := List.forall₂_cons_left_iff.mp digits
        exact (not_isDigit_plus base d small digit).elim
      · cases same
        exact spelled
  next plain =>
    rw [unsigned?_eq_some_iff small]
    constructor
    · exact .inl
    · rintro (spelled | ⟨digits, same, -⟩)
      · exact spelled
      · exact (plain digits same).elim

theorem Spells.isDigit {base n : Nat} {cs : List Char} (spelled : Spells base cs n) :
    ∀ c ∈ cs, ∃ d, IsDigit base c d := by
  obtain ⟨ds, -, digits, -⟩ := spelled
  exact ((List.forall₂_and_left _ _).mp (digits.imp fun _ d digit => ⟨⟨d, digit⟩, digit⟩)).1

theorem Numeral.mem {base n : Nat} {cs : List Char} (numeral : Numeral base cs n) :
    ∀ c ∈ cs, c = '+' ∨ ∃ d, IsDigit base c d := by
  intro c member
  obtain spelled | ⟨digits, rfl, spelled⟩ := numeral
  · exact .inr (spelled.isDigit c member)
  · exact (List.mem_cons.mp member).imp_right (spelled.isDigit c)

/-! ## Blanks and marks -/

/-- A hexadecimal numeral has a mark in front, a decimal one has none. -/
def Marked (marks : List String) (cs : List Char) (n : Nat) : Prop :=
  Numeral 10 cs n ∨ ∃ mark ∈ marks, ∃ digits, cs = mark.toList ++ digits ∧ Numeral 16 digits n

/-- Around the numeral blanks do not count; the number has 64 bits. -/
def Literal (marks : List String) (text : String) (n : Nat) : Prop :=
  n < 2 ^ 64 ∧ ∃ front inner back : List Char, text.toList = front ++ inner ++ back ∧
    (∀ c ∈ front, isBlank c) ∧ (∀ c ∈ back, isBlank c) ∧ Marked marks inner n

theorem trim_of_blanks {front inner back : List Char} (before : ∀ c ∈ front, isBlank c)
    (after : ∀ c ∈ back, isBlank c) (solid : ∀ c ∈ inner, ¬isBlank c) :
    trim (front ++ inner ++ back) = inner := by
  have keep {cs : List Char} (solid : ∀ c ∈ cs, ¬isBlank c) : cs.dropWhile isBlank = cs := by
    cases cs with
    | nil => rfl
    | cons c rest => exact List.dropWhile_cons_of_neg (solid c List.mem_cons_self)
  have left : trimLeft (front ++ inner ++ back) = inner ++ back ∨ inner = [] ∧
      trimLeft (front ++ inner ++ back) = [] := by
    rw [trimLeft, List.append_assoc, List.dropWhile_append_of_pos before]
    cases inner with
    | nil => exact .inr ⟨rfl, List.dropWhile_eq_nil_iff.mpr after⟩
    | cons c rest =>
        exact .inl (List.dropWhile_cons_of_neg (solid c List.mem_cons_self))
  obtain left | ⟨rfl, left⟩ := left
  · rw [trim, left, trimRight, List.reverse_append, List.dropWhile_append_of_pos (by simpa),
      keep (by simpa using solid), List.reverse_reverse]
  · rw [trim, left]
    rfl

theorem exists_eq_trim (cs : List Char) : ∃ front back : List Char,
    cs = front ++ trim cs ++ back ∧ (∀ c ∈ front, isBlank c) ∧ ∀ c ∈ back, isBlank c := by
  refine ⟨cs.takeWhile isBlank, ((trimLeft cs).reverse.takeWhile isBlank).reverse, ?_,
    fun c => List.mem_takeWhile_imp, fun c member => ?_⟩
  · rw [trim, trimRight, List.append_assoc, ← List.reverse_append,
      List.takeWhile_append_dropWhile, List.reverse_reverse, trimLeft,
      List.takeWhile_append_dropWhile]
  · exact List.mem_takeWhile_imp (List.mem_reverse.mp member)

theorem not_isBlank_of_isDigit {c : Char} {d : Nat} (digit : IsDigit 16 c d) : ¬isBlank c := by
  have table : ∀ d : Fin 16, ¬isBlank (Nat.digitChar d) ∧ ¬isBlank (Nat.digitChar d).toUpper := by
    decide
  obtain ⟨h, rfl | rfl⟩ := digit
  · exact (table ⟨d, h⟩).1
  · exact (table ⟨d, h⟩).2

theorem IsDigit.widen {base wide d : Nat} {c : Char} (digit : IsDigit base c d)
    (wider : base ≤ wide) : IsDigit wide c d :=
  ⟨digit.1.trans_le wider, digit.2⟩

theorem Numeral.solid {base n : Nat} (small : base ≤ 16) {cs : List Char}
    (numeral : Numeral base cs n) : ∀ c ∈ cs, ¬isBlank c := by
  intro c member
  obtain rfl | ⟨d, digit⟩ := numeral.mem c member
  · decide
  · exact not_isBlank_of_isDigit (digit.widen small)

/-- Marks without blanks that no decimal numeral begins with, and of which none begins another. -/
structure Distinct (marks : List String) : Prop where
  solid : ∀ mark ∈ marks, ∀ c ∈ mark.toList, ¬isBlank c
  foreign : ∀ mark ∈ marks, ∃ c ∈ mark.toList, c ≠ '+' ∧ ∀ d < 10, ¬IsDigit 10 c d
  apart : ∀ mark ∈ marks, ∀ other ∈ marks, ∀ a b,
    mark.toList ++ a = other.toList ++ b → mark = other

theorem Distinct.solid_of_marked {marks : List String} (distinct : Distinct marks)
    {cs : List Char} {n : Nat} (marked : Marked marks cs n) : ∀ c ∈ cs, ¬isBlank c := by
  obtain numeral | ⟨mark, known, digits, rfl, numeral⟩ := marked
  · exact numeral.solid (by decide)
  · exact fun c member => (List.mem_append.mp member).elim (distinct.solid mark known c)
      (numeral.solid (Nat.le_refl 16) c)

/-- A reader of what stands between the blanks makes a reader of literals. -/
theorem Distinct.literal_iff {marks : List String} (distinct : Distinct marks)
    {read : List Char → Option Nat}
    (reads : ∀ cs n, read cs = some n ↔ Marked marks cs n ∧ n < 2 ^ 64) {text : String} {n : Nat} :
    read (trim text.toList) = some n ↔ Literal marks text n := by
  constructor
  · intro found
    obtain ⟨marked, fits⟩ := (reads _ n).mp found
    obtain ⟨front, back, whole, before, after⟩ := exists_eq_trim text.toList
    exact ⟨fits, front, _, back, whole, before, after, marked⟩
  · rintro ⟨fits, front, inner, back, whole, before, after, marked⟩
    rw [whole, trim_of_blanks before after (distinct.solid_of_marked marked)]
    exact (reads inner n).mpr ⟨marked, fits⟩

theorem hex64?_eq_some_iff {cs : List Char} {n : Nat} :
    hex64? cs = some n ↔ Numeral 16 cs n ∧ n < 2 ^ 64 := by
  rw [hex64?, numeral?_eq_some_iff (Nat.le_refl 16), maxUInt64]
  exact and_congr_right fun _ => Nat.lt_succ_iff.symm

theorem decimal64?_eq_some_iff {cs : List Char} {n : Nat} :
    decimal64? cs = some n ↔ Numeral 10 cs n ∧ n < 2 ^ 64 := by
  rw [decimal64?, numeral?_eq_some_iff (by decide), maxUInt64]
  exact and_congr_right fun _ => Nat.lt_succ_iff.symm

theorem Distinct.marked_iff {marks : List String} (distinct : Distinct marks) {mark : String}
    (known : mark ∈ marks) {digits : List Char} {n : Nat} :
    Marked marks (mark.toList ++ digits) n ↔ Numeral 16 digits n := by
  constructor
  · rintro (numeral | ⟨other, alike, digits', same, numeral⟩)
    · obtain ⟨c, member, sign, strange⟩ := distinct.foreign mark known
      obtain rfl | ⟨d, digit⟩ := numeral.mem c (List.mem_append_left _ member)
      · exact (sign rfl).elim
      · exact (strange d digit.1 digit).elim
    · obtain rfl := distinct.apart mark known other alike _ _ same
      rwa [List.append_cancel_left same]
  · exact fun numeral => .inr ⟨mark, known, digits, rfl, numeral⟩

theorem Distinct.read_iff {first second : String} (distinct : Distinct [first, second])
    (cs : List Char) (n : Nat) :
    (match (strip? first.toList cs).or (strip? second.toList cs) with
      | some digits => hex64? digits
      | none => decimal64? cs) = some n ↔ Marked [first, second] cs n ∧ n < 2 ^ 64 := by
  cases one : strip? first.toList cs with
  | some digits =>
      obtain rfl := strip?_eq_some_iff.mp one
      rw [distinct.marked_iff List.mem_cons_self]
      exact hex64?_eq_some_iff
  | none =>
      cases two : strip? second.toList cs with
      | some digits =>
          obtain rfl := strip?_eq_some_iff.mp two
          rw [distinct.marked_iff (List.mem_cons_of_mem _ List.mem_cons_self)]
          exact hex64?_eq_some_iff
      | none =>
          refine decimal64?_eq_some_iff.trans (and_congr_left fun _ => ⟨.inl, ?_⟩)
          rintro (numeral | ⟨mark, known, digits, rfl, -⟩)
          · exact numeral
          · obtain rfl | rfl := List.mem_pair.mp known
            · rw [strip?_eq_some_iff.mpr rfl] at one
              cases one
            · rw [strip?_eq_some_iff.mpr rfl] at two
              cases two

/-! ## Literals of a number -/

theorem IsDigit.spells {base d : Nat} {c : Char} (digit : IsDigit base c d) :
    Spells base [c] d :=
  ⟨[d], by simp, .cons digit .nil, Nat.ofDigits_singleton⟩

theorem Spells.snoc {base n d : Nat} {cs : List Char} {c : Char} (spelled : Spells base cs n)
    (digit : IsDigit base c d) : Spells base (cs ++ [c]) (n * base + d) := by
  obtain ⟨ds, -, digits, rfl⟩ := spelled
  refine ⟨ds ++ [d], by simp, List.rel_append digits (.cons digit .nil), ?_⟩
  rw [List.reverse_append, List.reverse_singleton, List.singleton_append, Nat.ofDigits_cons]
  ring

theorem spells_toDigits {base : Nat} (some : 1 < base) (small : base ≤ 16) (n : Nat) :
    Spells base (Nat.toDigits base n) n := by
  induction n using Nat.strong_induction_on with
  | h n ih =>
    obtain single | more := Nat.lt_or_ge n base
    · rw [Nat.toDigits_of_lt_base single]
      exact IsDigit.spells ⟨single, .inl rfl⟩
    · rw [Nat.toDigits_of_base_le some more]
      have front := ih (n / base) (Nat.div_lt_self (by omega) some)
      have whole := front.snoc ⟨Nat.mod_lt n (by omega), .inl rfl⟩
      rwa [Nat.div_add_mod'] at whole

theorem Spells.zeros {base n : Nat} {cs : List Char} (spelled : Spells base cs n)
    (positive : 0 < base) (count : Nat) : Spells base (List.replicate count '0' ++ cs) n := by
  induction count with
  | zero => exact spelled
  | succ count ih =>
      obtain ⟨ds, -, digits, value⟩ := ih
      refine ⟨0 :: ds, by simp, .cons ⟨positive, .inl rfl⟩ digits, ?_⟩
      rw [List.reverse_cons, Nat.ofDigits_append, value, Nat.ofDigits_singleton, Nat.mul_zero,
        Nat.add_zero]

theorem digitValue?_toLower (c : Char) : digitValue? c.toLower = digitValue? c := by
  have table : ∀ n : Fin 123,
      digitValue? (Char.ofNat n).toLower = digitValue? (Char.ofNat n) := by
    decide +kernel
  obtain low | high := Nat.lt_or_ge c.toNat 123
  · have same := table ⟨c.toNat, low⟩
    rwa [Char.ofNat_toNat] at same
  · have letter : ¬(c.val ≥ 'A'.val ∧ c.val ≤ 'Z'.val) := fun h =>
      absurd (UInt32.le_iff_toNat_le.mp h.2) (Nat.not_le.mpr (Nat.lt_of_lt_of_le (by decide) high))
    have same : c.toLower = c := dif_neg letter
    rw [same]

/-- The case of a digit does not count. -/
theorem Spells.of_toLower {base n : Nat} (small : base ≤ 16) {cs : List Char}
    (spelled : Spells base (cs.map Char.toLower) n) : Spells base cs n := by
  obtain ⟨ds, some, digits, value⟩ := spelled
  refine ⟨ds, some, (List.forall₂_map_left_iff.mp digits).imp fun c d digit => ?_, value⟩
  rwa [isDigit_iff small, digitValue?_toLower, ← isDigit_iff small] at digit

theorem Marked.literal {marks : List String} {text : String} {n : Nat}
    (marked : Marked marks text.toList n) (fits : n < 2 ^ 64) : Literal marks text n :=
  ⟨fits, [], text.toList, [], by simp, by simp, by simp, marked⟩

theorem literal_decimal (marks : List String) {n : Nat} (fits : n < 2 ^ 64) :
    Literal marks (toString n) n := by
  refine Marked.literal (.inl (.inl ?_)) fits
  rw [Nat.toString_eq_repr, Nat.repr, String.toList_ofList]
  exact spells_toDigits (by decide) (by decide) n

/-- A mark, some zeros, and the digits in either case. -/
theorem literal_hexadecimal {marks : List String} {mark : String} (known : mark ∈ marks) {n : Nat}
    (fits : n < 2 ^ 64) {digits : List Char} {zeros : Nat}
    (same : digits.map Char.toLower = List.replicate zeros '0' ++ Nat.toDigits 16 n) :
    Literal marks (mark ++ String.ofList digits) n := by
  refine Marked.literal (.inr ⟨mark, known, digits, by simp, .inl ?_⟩) fits
  refine Spells.of_toLower (Nat.le_refl 16) ?_
  rw [same]
  exact (spells_toDigits (by decide) (Nat.le_refl 16) n).zeros (by decide) zeros

end Text

namespace Access

/-- The marks of a hexadecimal numeral in a script. -/
def marks : List String := ["0x", "$"]

theorem distinct_marks : Text.Distinct marks where
  solid := by simp [marks, Text.isBlank]
  foreign := by
    have letters : (∀ d < 10, ¬Text.IsDigit 10 'x' d) ∧ ∀ d < 10, ¬Text.IsDigit 10 '$' d := by
      decide
    simp +contextual [marks, letters]
  apart := by simp [marks]

theorem numeral?_eq_some_iff {text : String} {n : Nat} :
    numeral? text = some n ↔ Text.Literal marks text n :=
  distinct_marks.literal_iff distinct_marks.read_iff

end Access

namespace Library

/-- The marks of a hexadecimal fingerprint. -/
def marks : List String := ["0x", "0X"]

theorem distinct_marks : Text.Distinct marks where
  solid := by simp [marks, Text.isBlank]
  foreign := by
    have letters : (∀ d < 10, ¬Text.IsDigit 10 'x' d) ∧ ∀ d < 10, ¬Text.IsDigit 10 'X' d := by
      decide
    simp +contextual [marks, letters]
  apart := by simp [marks]

theorem parseHash?_eq_some_iff {literal : String} {hash : Fingerprint} :
    parseHash? literal = some hash ↔ Text.Literal marks literal hash.toNat := by
  unfold parseHash?
  rw [Option.map_eq_some_iff]
  constructor
  · rintro ⟨n, read, rfl⟩
    have literal := (distinct_marks.literal_iff distinct_marks.read_iff).mp read
    rwa [Nat.toUInt64, UInt64.toNat_ofNat', Nat.mod_eq_of_lt literal.1]
  · intro literal
    exact ⟨hash.toNat, (distinct_marks.literal_iff distinct_marks.read_iff).mpr literal,
      UInt64.ofNat_toNat⟩

end Library

end ChipScribe
