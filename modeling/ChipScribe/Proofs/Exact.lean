import Mathlib
import ChipScribe.Pitch

/-!
# Whole numbers that floats hold exactly

A whole number below `2 ^ 53` is a float: its bits, shifted up until they fill the
mantissa.  Reading such a number from a word, adding two of them and multiplying
two of them give the exact result, as all the bits that rounding drops are zeros.
-/

namespace ChipScribe

open Float.Model UnpackedFloat

/-- The bits of a positive number, shifted up to bit 52. -/
private def fill (n : Nat) : Nat :=
  n * 2 ^ (52 - n.log2)

private theorem fill_pos (n : Nat) : 0 < fill (n + 1) :=
  Nat.mul_pos n.succ_pos (Nat.two_pow_pos _)

/-- A whole number without its format. -/
private def whole : Nat → UnpackedFloat
  | 0 => .zero .positive
  | n + 1 => .finite .positive (fill (n + 1)) ((n + 1).log2 - 52) (fill_pos n)

/-- The float that holds a whole number, if one does. -/
def wholeFloat (n : Nat) : Float :=
  ⟨Float.Model.pack (whole n)⟩

section Bits

variable {n : Nat} (pos : n ≠ 0) (small : n < 2 ^ 53)
include pos small

private theorem log2_le : n.log2 ≤ 52 :=
  Nat.le_of_lt_succ ((Nat.log2_lt pos).mpr small)

private theorem le_fill : 2 ^ 52 ≤ fill n := by
  have bits := log2_le pos small
  calc 2 ^ 52 = 2 ^ n.log2 * 2 ^ (52 - n.log2) := by rw [← Nat.pow_add, Nat.add_sub_cancel' bits]
    _ ≤ fill n := Nat.mul_le_mul_right _ (Nat.log2_self_le pos)

private theorem fill_lt : fill n < 2 ^ 53 := by
  have bits := log2_le pos small
  calc fill n < 2 ^ (n.log2 + 1) * 2 ^ (52 - n.log2) :=
        Nat.mul_lt_mul_of_pos_right Nat.lt_log2_self (Nat.two_pow_pos _)
    _ = 2 ^ 53 := by
        rw [← Nat.pow_add]
        congr 1
        omega

end Bits

/-! ## Packing -/

private theorem unpack_components {exponent : BitVec Format.binary64.exponentBits}
    {mantissa : BitVec Format.binary64.mantissaBitsWithoutImplicit} (below : exponent ≠ -1#_)
    (normal : exponent ≠ 0#_) (pos : 0 < (1#1 ++ mantissa).toNat) :
    UnpackedFloat.unpack Format.binary64
      (packComponents Format.binary64 .positive exponent mantissa) =
        .finite .positive (1#1 ++ mantissa).toNat (exponent.toNat - 1075) pos := by
  dsimp only [UnpackedFloat.unpack]
  simp only [unpackExponent_packComponents, unpackMantissa_packComponents,
    unpackSign_packComponents]
  rw [if_neg below, if_neg normal]
  rfl

/-- The bit that is not stored comes back in front of the others. -/
private theorem toNat_implicit {m : Nat} (least : 2 ^ 52 ≤ m) (most : m < 2 ^ 53) :
    (1#1 ++ BitVec.ofNat Format.binary64.mantissaBitsWithoutImplicit m).toNat = m := by
  rw [BitVec.toNat_append]
  change 2 ^ 52 ||| m % 2 ^ 52 = m
  rw [Nat.or_comm, Nat.or_two_pow_eq_add_of_lt (Nat.mod_lt _ (Nat.two_pow_pos 52))]
  omega

/-- What is packed is unpacked again. -/
private theorem unpack_pack {m : Nat} {e : Int} (least : 2 ^ 52 ≤ m) (most : m < 2 ^ 53)
    (low : -1074 ≤ e) (high : e ≤ 971) (pos : 0 < m) :
    UnpackedFloat.unpack Format.binary64
      (UnpackedFloat.pack Format.binary64 (.finite .positive m e pos)) =
        .finite .positive m e pos := by
  have bits : m.log2 = 52 := (Nat.log2_eq_iff (by omega)).mpr ⟨least, most⟩
  -- Biased by 1075, the exponent is neither of the two values with a meaning of their own.
  obtain ⟨b, rfl⟩ : ∃ b : Nat, e = b - 1075 := ⟨(e + 1075).toNat, by omega⟩
  have biased : ((b : Int) - 1075 + Format.binary64.exponentBias +
      Format.binary64.mantissaBitsWithoutImplicit).toNat = b := by
    change ((b : Int) - 1075 + 1023 + 52).toNat = b
    omega
  let exponent := BitVec.ofNat Format.binary64.exponentBits b
  let mantissa := BitVec.ofNat Format.binary64.mantissaBitsWithoutImplicit m
  have finite : ¬ 2 ^ Format.binary64.exponentBits ≤ b + 1 := by
    change ¬ 2048 ≤ b + 1
    omega
  have packed : UnpackedFloat.pack Format.binary64 (.finite .positive m (b - 1075) pos) =
      packComponents Format.binary64 .positive exponent mantissa := by
    simp only [UnpackedFloat.pack, biased, bits]
    rw [if_neg finite, if_pos (show 52 + 1 = Format.binary64.mantissaBits from rfl)]
  have same : exponent.toNat = b := by
    change b % 2048 = b
    omega
  have below : exponent ≠ -1#_ := by
    intro top
    rw [top] at same
    change 2047 = b at same
    omega
  have normal : exponent ≠ 0#_ := by
    intro zero
    rw [zero] at same
    change 0 = b at same
    omega
  have joined : (1#1 ++ mantissa).toNat = m := toNat_implicit least most
  rw [packed, unpack_components below normal (joined.symm ▸ pos)]
  simp only [joined, same]

/-! ## Rounding -/

private theorem shift_zeros (m k : Nat) : (⟨m * 2 ^ k, false, false⟩ : ExtendedMantissa) >>> k =
    ⟨m, false, false⟩ := by
  induction k generalizing m with
  | zero =>
      rw [Nat.pow_zero, Nat.mul_one]
      rfl
  | succ k ih =>
      have doubled : m * 2 ^ (k + 1) = m * 2 * 2 ^ k := by
        rw [Nat.pow_succ', Nat.mul_assoc]
      change ExtendedMantissa.shiftRightOne
        ((⟨m * 2 ^ (k + 1), false, false⟩ : ExtendedMantissa) >>> k) = _
      rw [doubled, ih]
      simp [ExtendedMantissa.shiftRightOne]

private theorem log2_shifted {n : Nat} (pos : n ≠ 0) (k : Nat) :
    (n * 2 ^ k).log2 = n.log2 + k := by
  induction k with
  | zero => rw [Nat.pow_zero, Nat.mul_one, Nat.add_zero]
  | succ k ih =>
      have doubled : n * 2 ^ (k + 1) = 2 * (n * 2 ^ k) := by
        rw [Nat.pow_succ', Nat.mul_left_comm]
      have more := Nat.mul_ne_zero pos (Nat.two_pow_pos k).ne'
      rw [doubled, Nat.log2_two_mul more, ih, Nat.add_assoc]

/-- The target of a mantissa whose low bits are zeros is where those have gone. -/
private theorem shiftToTarget_zeros {m : Nat} {e : Int} (least : 2 ^ 52 ≤ m) (most : m < 2 ^ 53)
    (low : -1074 ≤ e) (k : Nat) :
    shiftToTargetExponent Format.binary64 (m * 2 ^ k) (e - k) .exact = (⟨m, false, false⟩, e) := by
  have bits : m.log2 = 52 := (Nat.log2_eq_iff (by omega)).mpr ⟨least, most⟩
  have target : Format.binary64.targetExponent (totalExponent (m * 2 ^ k) (e - k)) = e := by
    rw [totalExponent, log2_shifted (by omega), bits]
    change max (((52 + k : Nat) : Int) + 1 + (e - k) - 53) (-1074) = e
    omega
  have amount : (e - (e - k)).toNat = k := by omega
  simp only [shiftToTargetExponent, shiftToExponent, target, amount,
    ExtendedMantissa.ofMantissaAndAccuracy, shift_zeros, Int.sub_add_cancel]

private theorem round_zeros {m : Nat} {e : Int} (least : 2 ^ 52 ≤ m) (most : m < 2 ^ 53)
    (low : -1074 ≤ e) (pos : 0 < m) (k : Nat) :
    roundWithAccuracy Format.binary64 .positive (m * 2 ^ k) (e - k) .exact =
      .finite .positive m e pos := by
  have first := shiftToTarget_zeros least most low k
  have second := shiftToTarget_zeros least most low 0
  rw [Nat.pow_zero, Nat.mul_one, Int.natCast_zero, Int.sub_zero] at second
  have rounded : (⟨m, false, false⟩ : ExtendedMantissa).roundedMantissa = m := rfl
  simp only [roundWithAccuracy, first, rounded, second]
  exact dif_neg pos.ne'

/-- Wherever its bits stand, a whole number is rounded to itself. -/
private theorem round_whole {n : Nat} (pos : n ≠ 0) (small : n < 2 ^ 53) {k : Nat}
    (room : 52 ≤ n.log2 + k) :
    roundWithAccuracy Format.binary64 .positive (n * 2 ^ k) (-k) .exact = whole n := by
  have least := le_fill pos small
  have bits := log2_le pos small
  have filled : n * 2 ^ k = fill n * 2 ^ (n.log2 + k - 52) := by
    rw [fill, Nat.mul_assoc, ← Nat.pow_add]
    congr 2
    omega
  have scale : (-k : Int) = (n.log2 : Int) - 52 - (n.log2 + k - 52 : Nat) := by omega
  obtain ⟨n, rfl⟩ := Nat.exists_eq_succ_of_ne_zero pos
  rw [filled, scale]
  exact round_zeros least (fill_lt pos small) (by omega) (fill_pos n) _

private theorem unpack_whole {n : Nat} (small : n < 2 ^ 53) :
    (wholeFloat n).toModel.unpack = whole n := by
  cases n with
  | zero => rfl
  | succ n =>
      have pos : n + 1 ≠ 0 := n.succ_ne_zero
      have bits := log2_le pos small
      exact unpack_pack (le_fill pos small) (fill_lt pos small) (by omega) (by omega) (fill_pos n)

private theorem normalize_whole {n : Nat} (pos : n ≠ 0) (small : n < 2 ^ 53) (k : Nat) :
    UnpackedFloat.normalize Format.binary64 ((n * 2 ^ k : Nat) : Int) (-k) .positive = whole n := by
  have bits := log2_le pos small
  have positive : (0 : Int) < (n * 2 ^ k : Nat) :=
    Int.natCast_pos.mpr (Nat.mul_pos (Nat.pos_of_ne_zero pos) (Nat.two_pow_pos k))
  have target : Format.binary64.targetExponent (totalExponent (n * 2 ^ k) (-k)) =
      (n.log2 : Int) - 52 := by
    rw [totalExponent, log2_shifted pos]
    change max (((n.log2 + k : Nat) : Int) + 1 + -k - 53) (-1074) = _
    omega
  have lifted : (n * 2 ^ k) <<< (-(k : Int) - (n.log2 - 52)).toNat =
      n * 2 ^ (k + (52 - n.log2 - k)) := by
    rw [Nat.shiftLeft_eq, Nat.mul_assoc, ← Nat.pow_add]
    congr 3
    omega
  have scale : -(k : Int) - ((-(k : Int) - (n.log2 - 52)).toNat : Nat) =
      -(k + (52 - n.log2 - k) : Nat) := by
    omega
  simp only [UnpackedFloat.normalize, Int.compare_eq_gt.mpr positive, Int.toNat_natCast,
    UnpackedFloat.round, target, decreaseExponent, lifted, scale]
  exact round_whole pos small (by omega)

/-- A whole number scaled down so far that its bits stand `k` places up. -/
private theorem decreaseExponent_fill {n k : Nat} (pos : n ≠ 0) (small : n < 2 ^ 53)
    (room : 52 ≤ n.log2 + k) : (decreaseExponent (fill n) (n.log2 - 52) (-k)).1 = n * 2 ^ k := by
  have bits := log2_le pos small
  have amount : (((n.log2 : Int) - 52) - -k).toNat = n.log2 + k - 52 := by omega
  simp only [decreaseExponent, amount]
  rw [Nat.shiftLeft_eq, fill, Nat.mul_assoc, ← Nat.pow_add]
  congr 2
  omega

/-! ## What is exact -/

private theorem ofNat_whole {n : Nat} (small : n < 2 ^ 53) :
    UnpackedFloat.ofNat Format.binary64 n = whole n := by
  rcases Nat.eq_zero_or_pos n with rfl | pos
  · rfl
  · have normal := normalize_whole pos.ne' small 0
    rw [Nat.pow_zero, Nat.mul_one, Int.natCast_zero, Int.neg_zero] at normal
    exact normal

private theorem pack_ofNat {n : Nat} (small : n < 2 ^ 53) :
    Float.ofModel (Float.Model.pack (UnpackedFloat.ofNat Format.binary64 n)) = wholeFloat n := by
  rw [ofNat_whole small]
  rfl

theorem toFloat_word (w : UInt16) : w.toFloat = wholeFloat w.toNat :=
  pack_ofNat (Nat.lt_trans w.toNat_lt (by decide))

theorem toFloat_long (w : UInt32) : w.toFloat = wholeFloat w.toNat :=
  pack_ofNat (Nat.lt_trans w.toNat_lt (by decide))

private theorem add_whole {a b : Nat} (small : a + b < 2 ^ 53) :
    UnpackedFloat.add Format.binary64 (whole a) (whole b) = whole (a + b) := by
  cases a with
  | zero =>
      rw [Nat.zero_add]
      cases b <;> rfl
  | succ a =>
      cases b with
      | zero => rfl
      | succ b =>
          let k := 52 - min (a + 1).log2 (b + 1).log2
          have left : a + 1 < 2 ^ 53 := by omega
          have right : b + 1 < 2 ^ 53 := by omega
          have bits : (a + 1).log2 ≤ 52 := log2_le a.succ_ne_zero left
          have bits' : (b + 1).log2 ≤ 52 := log2_le b.succ_ne_zero right
          have least : min (((a + 1).log2 : Int) - 52) (((b + 1).log2 : Int) - 52) = -k := by omega
          have raised :=
            decreaseExponent_fill a.succ_ne_zero left (show 52 ≤ (a + 1).log2 + k by omega)
          have raised' :=
            decreaseExponent_fill b.succ_ne_zero right (show 52 ≤ (b + 1).log2 + k by omega)
          have sum : ((((a + 1) * 2 ^ k : Nat) : Int) + ((b + 1) * 2 ^ k : Nat)) =
              ((a + 1 + (b + 1)) * 2 ^ k : Nat) := by
            rw [← Int.natCast_add, ← Nat.add_mul]
          simp only [whole, UnpackedFloat.add, least, raised, raised', Sign.apply, sum]
          exact normalize_whole (by omega) small k

private theorem mul_whole {a b : Nat} (small : a * b < 2 ^ 53) :
    UnpackedFloat.mul Format.binary64 (whole a) (whole b) = whole (a * b) := by
  cases a with
  | zero =>
      rw [Nat.zero_mul]
      cases b <;> rfl
  | succ a =>
      cases b with
      | zero => rfl
      | succ b =>
          have left : a + 1 < 2 ^ 53 :=
            Nat.lt_of_le_of_lt (Nat.le_mul_of_pos_right _ b.succ_pos) small
          have right : b + 1 < 2 ^ 53 :=
            Nat.lt_of_le_of_lt (Nat.le_mul_of_pos_left _ a.succ_pos) small
          have bits : (a + 1).log2 ≤ 52 := log2_le a.succ_ne_zero left
          have bits' : (b + 1).log2 ≤ 52 := log2_le b.succ_ne_zero right
          have pos : (a + 1) * (b + 1) ≠ 0 := Nat.mul_ne_zero a.succ_ne_zero b.succ_ne_zero
          let k := 52 - (a + 1).log2 + (52 - (b + 1).log2)
          have filled : fill (a + 1) * fill (b + 1) = (a + 1) * (b + 1) * 2 ^ k := by
            rw [fill, fill, Nat.mul_mul_mul_comm, ← Nat.pow_add]
          have scale : ((a + 1).log2 : Int) - 52 + (((b + 1).log2 : Int) - 52) = -k := by omega
          have grown : (a + 1).log2 + (b + 1).log2 ≤ ((a + 1) * (b + 1)).log2 := by
            rw [Nat.le_log2 pos, Nat.pow_add]
            exact Nat.mul_le_mul (Nat.log2_self_le a.succ_ne_zero) (Nat.log2_self_le b.succ_ne_zero)
          simp only [whole, UnpackedFloat.mul, filled, scale]
          exact round_whole pos small (by omega)

theorem wholeFloat_add {a b : Nat} (small : a + b < 2 ^ 53) :
    wholeFloat a + wholeFloat b = wholeFloat (a + b) := by
  have left : a < 2 ^ 53 := by omega
  have right : b < 2 ^ 53 := by omega
  change Float.ofModel (Float.Model.pack (UnpackedFloat.add Format.binary64
    (wholeFloat a).toModel.unpack (wholeFloat b).toModel.unpack)) = _
  rw [unpack_whole left, unpack_whole right, add_whole small]
  rfl

theorem wholeFloat_mul {a b : Nat} (small : a * b < 2 ^ 53) (left : a < 2 ^ 53)
    (right : b < 2 ^ 53) : wholeFloat a * wholeFloat b = wholeFloat (a * b) := by
  change Float.ofModel (Float.Model.pack (UnpackedFloat.mul Format.binary64
    (wholeFloat a).toModel.unpack (wholeFloat b).toModel.unpack)) = _
  rw [unpack_whole left, unpack_whole right, mul_whole small]
  rfl

end ChipScribe
