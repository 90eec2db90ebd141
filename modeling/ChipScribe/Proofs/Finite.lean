import Mathlib
import ChipScribe.Json.Basic

/-!
# An integer read as a float is finite

Sixty-four bits leave the exponent far below the one of an infinity.  The bounds
on the way are crude, as nothing else is read off them.
-/

namespace ChipScribe

open Float.Model UnpackedFloat

/-- Packed as a number, not as an infinity. -/
private def Packable : UnpackedFloat → Prop
  | .zero _ => True
  | .finite _ _ e _ => e ≤ 971
  | _ => False

private theorem isFinite_unpack {b : BitVec Format.binary64.numBits}
    (h : unpackExponent b ≠ -1#_) : (UnpackedFloat.unpack Format.binary64 b).isFinite := by
  dsimp only [UnpackedFloat.unpack]
  rw [if_neg h]
  split
  · split
    · rfl
    · rfl
  · rfl

private theorem packable_unpack {b : BitVec Format.binary64.numBits}
    (h : (UnpackedFloat.unpack Format.binary64 b).isFinite) :
    Packable (UnpackedFloat.unpack Format.binary64 b) := by
  dsimp only [UnpackedFloat.unpack] at h ⊢
  by_cases top : unpackExponent b = -1#_
  · rw [if_pos top] at h
    split at h
    · cases h
    · cases h
  · have below : (unpackExponent b).toNat ≠ 2047 := by
      intro eq
      apply top
      apply BitVec.eq_of_toNat_eq
      exact eq
    have bound : (unpackExponent b).toNat < 2048 := (unpackExponent b).isLt
    have unbiased : ((unpackExponent b).toNat : Int) - (1023 + 52) ≤ 971 := by
      generalize (unpackExponent b).toNat = n at below bound
      omega
    rw [if_neg top]
    by_cases least : unpackExponent b = 0#_
    · rw [if_pos least]
      split
      · trivial
      · rw [least]
        exact (by decide : (-1074 : Int) ≤ 971)
    · rw [if_neg least]
      exact unbiased

private theorem unpackExponent_pack {u : UnpackedFloat} (h : Packable u) :
    unpackExponent (UnpackedFloat.pack Format.binary64 u) ≠ -1#_ := by
  cases u with
  | notANumber => cases h
  | infinity s => cases h
  | zero s =>
      rw [UnpackedFloat.pack, packedZero, unpackExponent_packComponents]
      decide
  | finite s m e pos =>
      change e ≤ 971 at h
      have bias : e + Format.binary64.exponentBias + Format.binary64.mantissaBitsWithoutImplicit
          = e + 1075 := by
        change e + 1023 + 52 = _
        omega
      have small : ¬ 2 ^ Format.binary64.exponentBits ≤ (e + 1075).toNat + 1 := by
        change ¬ 2048 ≤ _
        omega
      simp only [UnpackedFloat.pack, bias]
      rw [if_neg small]
      split
      · rw [unpackExponent_packComponents]
        intro eq
        have value : (e + 1075).toNat % 2048 = 2047 := congrArg BitVec.toNat eq
        omega
      · rw [unpackExponent_packComponents]
        decide

private theorem isFinite_pack {u : UnpackedFloat} (h : Packable u) :
    (Float.Model.pack u).isFinite :=
  isFinite_unpack (unpackExponent_pack h)

/-! ## Rounding a whole number -/

private theorem mantissa_shift_le (em : ExtendedMantissa) (n : Nat) :
    (em >>> n).mantissa ≤ em.mantissa := by
  induction n with
  | zero => exact Nat.le_refl _
  | succ n ih =>
      change (em >>> n).mantissa / 2 ≤ _
      omega

private theorem roundedMantissa_le (em : ExtendedMantissa) :
    em.roundedMantissa ≤ em.mantissa + 1 := by
  obtain ⟨m, round, sticky⟩ := em
  cases round with
  | false =>
      cases sticky with
      | false => exact Nat.le_succ m
      | true => exact Nat.le_succ m
  | true =>
      cases sticky with
      | false =>
          change m + m % 2 ≤ m + 1
          omega
      | true => exact Nat.le_refl _

/-- A mantissa of `n` bits is shifted to an exponent of at most `n` more. -/
private theorem shift_exponent_le {m n : Nat} {e : Int} (a : Accuracy) (bound : m < 2 ^ n) :
    (shiftToTargetExponent Format.binary64 m e a).2 ≤ max e (max (n + e - 52) (-1074)) := by
  have bits : m.log2 ≤ n := by
    rcases Nat.eq_zero_or_pos m with rfl | pos
    · exact Nat.zero_le n
    · exact Nat.le_of_lt ((Nat.log2_lt (Nat.ne_of_gt pos)).mpr bound)
  change e + ((max ((m.log2 : Int) + 1 + e - 53) (-1074) - e).toNat : Int) ≤ _
  omega

private theorem packable_roundWithAccuracy {s : Sign} {m n : Nat} {e : Int} (a : Accuracy)
    (bound : m < 2 ^ n) (few : n ≤ 200) (small : e ≤ 0) :
    Packable (roundWithAccuracy Format.binary64 s m e a) := by
  have first := shift_exponent_le (e := e) a bound
  have kept : (shiftToTargetExponent Format.binary64 m e a).1.roundedMantissa < 2 ^ (n + 1) := by
    have shifted : (shiftToTargetExponent Format.binary64 m e a).1.mantissa ≤ m := by
      refine Nat.le_trans (mantissa_shift_le _ _) ?_
      rcases a with _ | _ | _ | _ <;> exact Nat.le_refl m
    have rounded := roundedMantissa_le (shiftToTargetExponent Format.binary64 m e a).1
    rw [Nat.pow_succ]
    omega
  have second := shift_exponent_le
    (e := (shiftToTargetExponent Format.binary64 m e a).2) .exact kept
  unfold roundWithAccuracy
  dsimp only
  split
  · trivial
  · change (shiftToTargetExponent Format.binary64 _ _ .exact).2 ≤ (971 : Int)
    push_cast at second
    omega

private theorem packable_ofNat {n : Nat} (bound : n < 2 ^ 64) :
    Packable (UnpackedFloat.ofNat Format.binary64 n) := by
  change Packable (UnpackedFloat.normalize Format.binary64 n 0 .positive)
  unfold UnpackedFloat.normalize
  split
  next below =>
    have := Int.compare_eq_lt.mp below
    omega
  · trivial
  · have scale : (0 - max ((n.log2 : Int) + 1 + 0 - 53) (-1074)).toNat ≤ 52 := by omega
    refine packable_roundWithAccuracy (n := 64 + 52) .exact ?_ (by decide) (by omega)
    rw [Nat.shiftLeft_eq, Nat.pow_add]
    exact Nat.mul_lt_mul_of_lt_of_le bound (Nat.pow_le_pow_right (by decide) scale)
      (Nat.two_pow_pos _)

theorem isFinite_toFloat (n : UInt64) : n.toFloat.isFinite :=
  isFinite_pack (packable_ofNat n.toNat_lt)

theorem isFinite_neg {x : Float} (h : x.isFinite) : (-x).isFinite := by
  have packable : Packable x.toModel.unpack := packable_unpack h
  apply isFinite_pack
  cases eq : x.toModel.unpack with
  | notANumber => rw [eq] at packable; cases packable
  | infinity s => rw [eq] at packable; cases packable
  | zero s => trivial
  | finite s m e pos =>
      rw [eq] at packable
      exact packable

namespace Json

theorem isFinite_floatOfInt (i : Int) : (floatOfInt i).isFinite := by
  unfold floatOfInt
  split
  · exact isFinite_neg (isFinite_toFloat _)
  · exact isFinite_toFloat _

end Json

end ChipScribe
