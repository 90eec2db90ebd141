import Mathlib.Data.List.Iterate
import Mathlib.Dynamics.PeriodicPts.Defs
import Mathlib.Tactic.NormNum.Prime
import ChipScribe.Proofs.Range

/-!
# The shift register of the noise channel

The bits that a register of fifteen bits shifts out are a sequence in which each
bit is the sum, without carry, of two earlier ones.  Such a rule can be squared: it
holds at twice the distances as well.  From this the short mode is back after 93
steps, and the long mode after `2 ^ 15 - 1`; and as the powers of two that a step
runs to are known, the long mode is seen not to be back earlier, so it runs through
every value but zero.
-/

namespace ChipScribe

/-! ## Sums of two earlier bits -/

/-- Each bit of a sequence is the sum of the two at these places, `m` places on. -/
def Recurs (a : Nat → Bool) (m i j : Nat) : Prop :=
  ∀ n, a (n + m) = (a (n + i) ^^ a (n + j))

namespace Recurs

variable {a : Nat → Bool} {m i j : Nat}

/-- Squaring: the mixed terms occur twice and cancel. -/
theorem doubled (h : Recurs a m i j) : Recurs a (2 * m) (2 * i) (2 * j) := by
  intro n
  rw [Nat.two_mul, Nat.two_mul, Nat.two_mul, ← Nat.add_assoc, ← Nat.add_assoc, ← Nat.add_assoc,
    h (n + m), Nat.add_right_comm n m i, Nat.add_right_comm n m j, h (n + i), h (n + j),
    Nat.add_right_comm n j i]
  cases a (n + i + i) <;> cases a (n + i + j) <;> cases a (n + j + j) <;> rfl

/-- The rule of the powers of two, where a step to the sixteenth is a second and a first. -/
theorem powers (h : Recurs a 15 1 0) (k : Nat) : Recurs a (2 ^ (k + 4)) (2 ^ (k + 1)) (2 ^ k) := by
  induction k with
  | zero =>
      intro n
      have next := h (n + 1)
      rwa [Nat.add_right_comm, Nat.add_right_comm n 1] at next
  | succ k ih =>
      have twice := ih.doubled
      rwa [← Nat.pow_succ', ← Nat.pow_succ', ← Nat.pow_succ'] at twice

/-- Powers of two come round after fifteen of them. -/
theorem power_fifteen (h : Recurs a 15 1 0) (n : Nat) : a (n + 2 ^ 15) = a (n + 2 ^ 0) := by
  let b (k : Nat) : Bool := a (n + 2 ^ k)
  have four : Recurs b 4 1 0 := fun k => h.powers k n
  have sixteen : Recurs b 16 4 0 := four.doubled.doubled
  have round (k : Nat) : b (k + 16) = b (k + 1) := by
    rw [sixteen k, four k]
    cases b (k + 1) <;> cases b (k + 0) <;> rfl
  change b 15 = b 0
  -- Backwards the rule gives the bit at 15 from those at 19 and 16.
  have above := four 15
  have first := four 0
  rw [show 15 + 4 = 3 + 16 from rfl, show 15 + 1 = 0 + 16 from rfl, round, round] at above
  change b 4 = (b 1 ^^ b 15) at above
  change b 4 = (b 1 ^^ b 0) at first
  exact Bool.xor_right_inj.mp (above.symm.trans first)

theorem long_period (h : Recurs a 15 1 0) (n : Nat) : a (n + 32767) = a n := by
  have ahead (n : Nat) : a (n + 32768) = a (n + 1) := h.power_fifteen n
  have here := h n
  have there := h (n + 32767)
  rw [show n + 32767 + 15 = n + 14 + 32768 by omega, show n + 32767 + 1 = n + 32768 by omega,
    ahead, ahead, show n + 14 + 1 = n + 15 by omega, here] at there
  exact (Bool.xor_right_inj.mp there).symm

/-- In steps of three the rule is of the fifth degree, and comes round after 31 of them. -/
theorem short_period (h : Recurs a 15 6 0) (n : Nat) : a (n + 93) = a n := by
  let b (k : Nat) : Bool := a (n + 3 * k)
  have five : Recurs b 5 2 0 := by
    intro k
    have next := h (n + 3 * k)
    rwa [Nat.add_assoc, Nat.add_assoc n] at next
  have ten : Recurs b 10 4 0 := five.doubled
  have twenty : Recurs b 20 8 0 := ten.doubled
  change b 31 = b 0
  rw [twenty 11, ten 9, ten 3, ten 1, five 4, five 2, five 1, five 0]
  change (b 4 ^^ b 2 ^^ b 3 ^^ (b 3 ^^ b 1 ^^ b 4) ^^ (b 2 ^^ b 0 ^^ b 1)) = b 0
  cases b 0 <;> cases b 1 <;> cases b 2 <;> cases b 3 <;> cases b 4 <;> rfl

end Recurs

namespace Noise

/-! ## The bits of a register -/

def bit (x : UInt16) (i : Nat) : Bool :=
  x.toNat.testBit i

/-- Which bit is fed back besides the lowest. -/
def tap (short : Bool) : Nat :=
  if short then 6 else 1

theorem bit_of_high {x : UInt16} (range : x ≤ 0x7FFF) {i : Nat} (high : 15 ≤ i) : bit x i = false := by
  have below : x.toNat < 2 ^ 15 := Nat.lt_succ_of_le range
  exact Nat.testBit_lt_two_pow (Nat.lt_of_lt_of_le below (Nat.pow_le_pow_right (by decide) high))

theorem eq_of_bits {x y : UInt16} (left : x ≤ 0x7FFF) (right : y ≤ 0x7FFF)
    (same : ∀ i ≤ 14, bit x i = bit y i) : x = y := by
  refine UInt16.toNat_inj.mp (Nat.eq_of_testBit_eq fun i => ?_)
  rcases Nat.lt_or_ge 14 i with high | low
  · exact (bit_of_high left high).trans (bit_of_high right high).symm
  · exact same i low

theorem bit_xor (x y : UInt16) (i : Nat) : bit (x ^^^ y) i = (bit x i ^^ bit y i) := by
  rw [bit, UInt16.toNat_xor, Nat.testBit_xor]
  rfl

theorem bit_shiftRight (x : UInt16) {places : UInt16} (few : places.toNat < 16) (i : Nat) :
    bit (x >>> places) i = bit x (i + places.toNat) := by
  rw [bit, UInt16.toNat_shiftRight, Nat.mod_eq_of_lt few, Nat.testBit_shiftRight, Nat.add_comm]
  rfl

theorem bit_lowest (x : UInt16) (i : Nat) : bit (x &&& 1) i = (decide (i = 0) && bit x 0) := by
  rw [bit, UInt16.toNat_and, Nat.testBit_and]
  cases i with
  | zero => exact Bool.and_comm _ _
  | succ i =>
      have none : Nat.testBit 1 (i + 1) = false :=
        Nat.testBit_lt_two_pow (Nat.one_lt_two_pow i.succ_ne_zero)
      rw [show (1 : UInt16).toNat = 1 from rfl, none, Bool.and_false]
      rfl

theorem bit_feedback (short : Bool) (x : UInt16) (i : Nat) :
    bit (feedback short x) i = (decide (i = 0) && (bit x 0 ^^ bit x (tap short))) := by
  have places : (if short then 6 else 1 : UInt16).toNat = tap short := by cases short <;> rfl
  have few : (if short then 6 else 1 : UInt16).toNat < 16 := by cases short <;> decide
  rw [feedback, bit_lowest, bit_xor, bit_shiftRight _ few, places, Nat.zero_add]

theorem bit_raised (short : Bool) (x : UInt16) (i : Nat) :
    bit (feedback short x <<< 14) i = (decide (i = 14) && (bit x 0 ^^ bit x (tap short))) := by
  have lifted : bit (feedback short x <<< 14) i =
      (decide (i < 16) && (decide (14 ≤ i) && bit (feedback short x) (i - 14))) := by
    rw [bit, UInt16.toNat_shiftLeft, Nat.testBit_mod_two_pow, Nat.testBit_shiftLeft]
    rfl
  rw [lifted, bit_feedback, ← Bool.and_assoc, ← Bool.and_assoc]
  congr 1
  rw [Bool.eq_iff_iff]
  simp only [Bool.and_eq_true, decide_eq_true_eq]
  omega

/-- A step moves the bits one place down; to the top goes the sum of the lowest and the tapped one. -/
theorem bit_stepShift (short : Bool) {x : UInt16} (range : x ≤ 0x7FFF) (i : Nat) :
    bit (stepShift short x) i =
      if i = 14 then (bit x 0 ^^ bit x (tap short)) else bit x (i + 1) := by
  have lowered : bit (x >>> 1) i = bit x (i + 1) := bit_shiftRight x (by decide) i
  have joined : bit (stepShift short x) i = (bit x (i + 1) || bit (feedback short x <<< 14) i) := by
    rw [← lowered, bit, stepShift, UInt16.toNat_or, Nat.testBit_or]
    rfl
  rw [joined, bit_raised]
  split
  next top =>
    rw [top, bit_of_high range (by decide)]
    rfl
  next other => simp [other]

/-! ## What is shifted out -/

/-- The bit that is lowest after so many steps. -/
def shiftedOut (short : Bool) (x : UInt16) (n : Nat) : Bool :=
  bit ((stepShift short)^[n] x) 0

theorem iterate_le (short : Bool) {x : UInt16} (range : x ≤ 0x7FFF) (n : Nat) :
    (stepShift short)^[n] x ≤ 0x7FFF :=
  Function.Iterate.rec (· ≤ 0x7FFF) range (fun _ => stepShift_le short) n

theorem bit_eq_shiftedOut (short : Bool) {x : UInt16} (range : x ≤ 0x7FFF) {i : Nat}
    (inside : i ≤ 14) : bit x i = shiftedOut short x i := by
  induction i generalizing x with
  | zero => rfl
  | succ i ih =>
      rw [shiftedOut, Function.iterate_succ_apply, ← shiftedOut,
        ← ih (stepShift_le short range) (by omega), bit_stepShift short range, if_neg (by omega)]

theorem shiftedOut_add (short : Bool) (x : UInt16) (n i : Nat) :
    shiftedOut short ((stepShift short)^[n] x) i = shiftedOut short x (n + i) := by
  rw [shiftedOut, ← Function.iterate_add_apply, Nat.add_comm, ← shiftedOut]

theorem bit_iterate (short : Bool) {x : UInt16} (range : x ≤ 0x7FFF) (n : Nat) {i : Nat}
    (inside : i ≤ 14) : bit ((stepShift short)^[n] x) i = shiftedOut short x (n + i) := by
  rw [bit_eq_shiftedOut short (iterate_le short range n) inside, shiftedOut_add]

theorem recurs_shiftedOut (short : Bool) {x : UInt16} (range : x ≤ 0x7FFF) :
    Recurs (shiftedOut short x) 15 (tap short) 0 := by
  intro n
  have inside : tap short ≤ 14 := by cases short <;> decide
  have here := iterate_le short range n
  calc shiftedOut short x (n + 15)
      = bit (stepShift short ((stepShift short)^[n] x)) 14 := by
        rw [← Function.iterate_succ_apply' (stepShift short), bit_iterate short range _ (Nat.le_refl 14),
          Nat.succ_add_eq_add_succ]
    _ = (bit ((stepShift short)^[n] x) 0 ^^ bit ((stepShift short)^[n] x) (tap short)) := by
        rw [bit_stepShift short here, if_pos rfl]
    _ = (shiftedOut short x (n + tap short) ^^ shiftedOut short x (n + 0)) := by
        rw [bit_iterate short range n inside, bit_iterate short range n (Nat.zero_le _),
          Bool.xor_comm]

theorem iterate_eq_self (short : Bool) {x : UInt16} (range : x ≤ 0x7FFF) {p : Nat}
    (period : ∀ n, shiftedOut short x (n + p) = shiftedOut short x n) :
    (stepShift short)^[p] x = x :=
  eq_of_bits (iterate_le short range p) range fun i inside => by
    rw [bit_iterate short range p inside, Nat.add_comm, period, bit_eq_shiftedOut short range inside]

theorem short_returns {x : UInt16} (range : x ≤ 0x7FFF) : (stepShift true)^[93] x = x :=
  iterate_eq_self true range (recurs_shiftedOut true range).short_period

theorem long_returns {x : UInt16} (range : x ≤ 0x7FFF) : (stepShift false)^[32767] x = x :=
  iterate_eq_self false range (recurs_shiftedOut false range).long_period

/-- A step of a register permutes its values. -/
theorem bijOn_stepShift (short : Bool) :
    Set.BijOn (stepShift short) {x | x ≤ 0x7FFF} {x | x ≤ 0x7FFF} := by
  obtain ⟨p, returns⟩ : ∃ p, ∀ x ≤ (0x7FFF : UInt16), (stepShift short)^[p + 1] x = x := by
    cases short with
    | false => exact ⟨32766, fun _ => long_returns⟩
    | true => exact ⟨92, fun _ => short_returns⟩
  refine ⟨fun _ => stepShift_le short, fun x left y right same => ?_, fun y range => ?_⟩
  · rw [← returns x left, ← returns y right, Function.iterate_succ_apply, same,
      ← Function.iterate_succ_apply]
  · refine ⟨(stepShift short)^[p] y, iterate_le short range p, ?_⟩
    rw [← Function.iterate_succ_apply' (stepShift short), returns y range]

/-! ## The order of the long mode -/

/-- As many steps of the long mode as the power of two, from four short runs. -/
def leap : Nat → UInt16 → UInt16
  | 0, x => stepShift false x
  | 1, x => (stepShift false)^[2] x
  | 2, x => (stepShift false)^[4] x
  | 3, x => (stepShift false)^[8] x
  | k + 4, x => leap (k + 1) x ^^^ leap k x

theorem xor_le {x y : UInt16} (left : x ≤ 0x7FFF) (right : y ≤ 0x7FFF) : x ^^^ y ≤ 0x7FFF := by
  have below : x.toNat ^^^ y.toNat < 2 ^ 15 :=
    Nat.xor_lt_two_pow (Nat.lt_succ_of_le left) (Nat.lt_succ_of_le right)
  rw [UInt16.le_iff_toNat_le, UInt16.toNat_xor]
  exact Nat.le_of_lt_succ below

theorem leap_eq {x : UInt16} (range : x ≤ 0x7FFF) (k : Nat) :
    leap k x = (stepShift false)^[2 ^ k] x := by
  fun_induction leap k x with
  | case1 | case2 | case3 | case4 => rfl
  | case5 k x one two =>
      rw [one range, two range]
      refine eq_of_bits (xor_le (iterate_le false range _) (iterate_le false range _))
        (iterate_le false range _) fun i inside => ?_
      have powers := (recurs_shiftedOut false range).powers k i
      rw [bit_xor, bit_iterate false range _ inside, bit_iterate false range _ inside,
        bit_iterate false range _ inside, Nat.add_comm _ i, Nat.add_comm _ i, Nat.add_comm _ i,
        powers]

/-- Leaps one after another. -/
def leaps (ks : List Nat) (x : UInt16) : UInt16 :=
  ks.foldl (fun x k => leap k x) x

theorem leaps_eq (ks : List Nat) {x : UInt16} (range : x ≤ 0x7FFF) :
    leaps ks x = (stepShift false)^[(ks.map (2 ^ ·)).sum] x := by
  induction ks generalizing x with
  | nil => rfl
  | cons k ks ih =>
      have landed : leap k x ≤ 0x7FFF := by
        rw [leap_eq range]
        exact iterate_le false range _
      rw [leaps, List.foldl_cons, ← leaps, ih landed, leap_eq range, ← Function.iterate_add_apply,
        Nat.add_comm, List.map_cons, List.sum_cons]

/-- A divisor that divides no proper part by a prime is the whole. -/
theorem eq_of_dvd_of_prime_parts {n whole : Nat} (divides : n ∣ whole)
    (parts : ∀ p, p.Prime → p ∣ whole → ¬ n ∣ whole / p) : n = whole := by
  obtain ⟨m, rfl⟩ := divides
  by_contra proper
  have more : m ≠ 1 := by
    rintro rfl
    exact proper n.mul_one.symm
  have factor := m.minFac_dvd
  refine parts m.minFac (Nat.minFac_prime more) (Dvd.dvd.mul_left factor n) ?_
  rw [Nat.mul_div_assoc n factor]
  exact Nat.dvd_mul_right n _

/-- From 1 the long mode is not back after any greatest proper divisor of `7 * 31 * 151`. -/
theorem minimalPeriod_one : Function.minimalPeriod (stepShift false) 1 = 32767 := by
  have one : (1 : UInt16) ≤ 0x7FFF := by decide
  have apart (ks : List Nat) (away : leaps ks 1 ≠ 1) :
      ¬ Function.minimalPeriod (stepShift false) 1 ∣ (ks.map (2 ^ ·)).sum := fun divides => by
    have back : (stepShift false)^[(ks.map (2 ^ ·)).sum] 1 = 1 :=
      Function.isPeriodicPt_iff_minimalPeriod_dvd.mpr divides
    rw [← leaps_eq ks one] at back
    exact away back
  refine eq_of_dvd_of_prime_parts (Function.IsPeriodicPt.minimalPeriod_dvd (long_returns one))
    fun p prime factor => ?_
  have factors : p = 7 ∨ p = 31 ∨ p = 151 := by
    have split : p ∣ 7 * (31 * 151) := factor
    rwa [prime.dvd_mul, prime.dvd_mul, Nat.prime_dvd_prime_iff_eq prime (by norm_num),
      Nat.prime_dvd_prime_iff_eq prime (by norm_num),
      Nat.prime_dvd_prime_iff_eq prime (by norm_num)] at split
  rcases factors with rfl | rfl | rfl
  · exact apart [0, 3, 6, 9, 12] (by decide +kernel)
  · exact apart [0, 5, 10] (by decide +kernel)
  · exact apart [0, 3, 4, 6, 7] (by decide +kernel)

/-- The values of a register that are not zero. -/
def values : List UInt16 :=
  (List.range' 1 32767).map Nat.toUInt16

theorem mem_values {y : UInt16} : y ∈ values ↔ 1 ≤ y ∧ y ≤ 0x7FFF := by
  rw [values, List.mem_map]
  constructor
  · rintro ⟨n, found, rfl⟩
    rw [List.mem_range'_1] at found
    have small : n.toUInt16.toNat = n := Nat.mod_eq_of_lt (by omega)
    rw [UInt16.le_iff_toNat_le, UInt16.le_iff_toNat_le, small]
    exact ⟨found.1, by change n ≤ 32767; omega⟩
  · rintro ⟨pos, range⟩
    have low : 1 ≤ y.toNat := pos
    have high : y.toNat ≤ 32767 := range
    exact ⟨y.toNat, List.mem_range'_1.mpr (by omega), UInt16.ofNat_toNat⟩

theorem one_le_iterate (short : Bool) {x : UInt16} (pos : 1 ≤ x) (n : Nat) :
    1 ≤ (stepShift short)^[n] x :=
  Function.Iterate.rec (1 ≤ ·) pos (fun _ => stepShift_pos short) n

/-- Values that are not back before 32767 steps are all there are. -/
theorem iterate_perm_values {x : UInt16} (pos : 1 ≤ x) (range : x ≤ 0x7FFF)
    (period : Function.minimalPeriod (stepShift false) x = 32767) :
    (List.iterate (stepShift false) x 32767).Nodup ∧
      List.Perm (List.iterate (stepShift false) x 32767) values := by
  have nodup : (List.iterate (stepShift false) x 32767).Nodup := by
    rw [← List.range_map_iterate]
    refine List.Nodup.map_on (fun i left j right same => ?_) List.nodup_range
    rw [List.mem_range, ← period] at left right
    exact Function.iterate_injOn_Iio_minimalPeriod left right same
  have inside : List.iterate (stepShift false) x 32767 ⊆ values := fun y found => by
    rw [← List.range_map_iterate] at found
    obtain ⟨n, -, rfl⟩ := List.mem_map.mp found
    exact mem_values.mpr ⟨one_le_iterate false pos n, iterate_le false range n⟩
  refine ⟨nodup, (List.subperm_of_subset nodup inside).perm_of_length_le ?_⟩
  rw [values, List.length_map, List.length_range', List.length_iterate]

/-- From every value but zero the long mode goes through all of them before it is back. -/
theorem long_runs_through {x : UInt16} (pos : 1 ≤ x) (range : x ≤ 0x7FFF) :
    (List.iterate (stepShift false) x 32767).Nodup ∧
      ∀ y, y ∈ List.iterate (stepShift false) x 32767 ↔ 1 ≤ y ∧ y ≤ 0x7FFF := by
  have one : (1 : UInt16) ≤ 0x7FFF := by decide
  have all := (iterate_perm_values (by decide) one minimalPeriod_one).2
  have found := all.mem_iff.mpr (mem_values.mpr ⟨pos, range⟩)
  rw [← List.range_map_iterate] at found
  obtain ⟨n, -, rfl⟩ := List.mem_map.mp found
  have returns : (1 : UInt16) ∈ Function.periodicPts (stepShift false) :=
    Function.mk_mem_periodicPts (by decide) (long_returns one)
  obtain ⟨nodup, perm⟩ := iterate_perm_values pos range
    ((Function.minimalPeriod_apply_iterate returns n).trans minimalPeriod_one)
  exact ⟨nodup, fun y => perm.mem_iff.trans mem_values⟩

end Noise

end ChipScribe
