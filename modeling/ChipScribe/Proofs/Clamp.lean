import Mathlib.Algebra.Order.Group.Multiset
import ChipScribe.Tuning

/-!
# A clamped float fits into seven bits

Bytes that come from floats are clamped to 0 ... 127 and cut.  The proof goes
through the exact value of a float, a mantissa below `2 ^ 53` scaled by a power
of two; what is not a number is cut to 0.
-/

namespace ChipScribe

open Float.Model UnpackedFloat

private theorem mantissa_shift (em : ExtendedMantissa) (n : Nat) :
    (em >>> n).mantissa = em.mantissa / 2 ^ n := by
  induction n with
  | zero => exact (Nat.div_one _).symm
  | succ n ih =>
      change (em >>> n).mantissa / 2 = _
      rw [ih, Nat.div_div_eq_div_mul, Nat.pow_succ]

/-- A negative exponent only cuts bits off. -/
private theorem roundToInt_of_neg {m : Nat} {e : Int} (sign : Sign) (small : e ≤ 0) :
    roundToInt sign m e = sign.apply (m / 2 ^ (-e).toNat : Nat) := by
  have unscaled : e.toNat = 0 := by omega
  simp only [roundToInt, decreaseExponent, shiftToExponent, Int.sub_zero, unscaled,
    Nat.shiftLeft_zero, Int.natCast_zero, Int.zero_sub, mantissa_shift]
  rfl

private theorem mantissa_lt {b : BitVec Format.binary64.numBits} {s : Sign} {m : Nat} {e : Int}
    {pos : 0 < m} (h : UnpackedFloat.unpack Format.binary64 b = .finite s m e pos) :
    m < 2 ^ 53 := by
  dsimp only [UnpackedFloat.unpack] at h
  rcases Decidable.em (unpackExponent b = -1#_) with top | scaled
  · rw [if_pos top] at h
    rcases Decidable.em (unpackMantissa b = 0#_) with none | some
    · rw [if_pos none] at h
      cases h
    · rw [if_neg some] at h
      cases h
  · rw [if_neg scaled] at h
    rcases Decidable.em (unpackExponent b = 0#_) with least | normal
    · rw [if_pos least] at h
      rcases Decidable.em (unpackMantissa b = 0#_) with none | some
      · rw [dif_pos none] at h
        cases h
      · rw [dif_neg some] at h
        cases h
        exact Nat.lt_of_lt_of_le (BitVec.isLt _) (by decide)
    · rw [if_neg normal] at h
      cases h
      exact BitVec.isLt _

private theorem unpack_top :
    (127.0 : Float).toModel.unpack = .finite .positive (127 * 2 ^ 46) (-46) (by decide) := by
  rfl

private theorem ofNatClamp_le {n : Int} (small : n ≤ 127) : UInt8.ofNatClamp n.toNat ≤ 127 := by
  have fits : n.toNat < UInt8.size := by
    change n.toNat < 256
    omega
  rw [UInt8.ofNatClamp_eq_ofNat _ fits, UInt8.le_iff_toNat_le, UInt8.toNat_ofNat_of_lt' fits]
  change n.toNat ≤ 127
  omega

/-- The mantissa is below `2 ^ 53`, so an exponent below that of 127 gives less than `2 ^ 6`. -/
private theorem roundToInt_le {m : Nat} {e : Int} (bound : m < 2 ^ 53)
    (least : (compare (-46) e).then (compare (127 * 2 ^ 46) m) ≠ .lt) :
    roundToInt .positive m e ≤ 127 := by
  have upper : e ≤ -46 := by
    apply Int.not_lt.mp
    intro lt
    rw [Int.compare_eq_lt.mpr lt] at least
    exact least rfl
  rw [roundToInt_of_neg .positive (by omega)]
  change ((m / 2 ^ (-e).toNat : Nat) : Int) ≤ 127
  rcases Int.lt_or_eq_of_le upper with below | rfl
  · have divided : m / 2 ^ (-e).toNat ≤ m / 2 ^ 47 :=
      Nat.div_le_div_left (Nat.pow_le_pow_right (by decide) (by omega)) (by decide)
    omega
  · have small : m ≤ 127 * 2 ^ 46 := by
      apply Nat.not_lt.mp
      intro lt
      rw [Nat.compare_eq_lt.mpr lt] at least
      exact least rfl
    change ((m / 2 ^ 46 : Nat) : Int) ≤ 127
    omega

private theorem toUInt8_of_not_gt {x : Float} (h : ¬ x > 127.0) : x.toUInt8 ≤ 127 := by
  have least : (127.0 : Float).toModel.unpack.compare x.toModel.unpack ≠ some .lt := by
    intro eq
    apply h
    have below : (127.0 : Float).toModel.unpack.lt x.toModel.unpack = true := by
      rw [UnpackedFloat.lt, eq]
      rfl
    exact decide_eq_true below
  rw [unpack_top] at least
  change UInt8.ofNatClamp (x.toModel.unpack.toInt 0 255).toNat ≤ 127
  apply ofNatClamp_le
  cases eq : x.toModel.unpack with
  | notANumber => decide
  | infinity sign =>
      rw [eq] at least
      cases sign with
      | positive => exact absurd rfl least
      | negative => decide
  | zero sign => exact (by decide : (0 : Int) ≤ 127)
  | finite sign m e pos =>
      rw [eq] at least
      cases sign with
      | negative =>
          change -((_ : Nat) : Int) ≤ 127
          omega
      | positive =>
          refine roundToInt_le (mantissa_lt eq) ?_
          intro lt
          exact least (congrArg some lt)

theorem toUInt8_clampFloat (x : Float) : (clampFloat 0.0 127.0 x).toUInt8 ≤ 127 := by
  unfold clampFloat
  split
  · decide +kernel
  · split
    · decide +kernel
    next h => exact toUInt8_of_not_gt h

end ChipScribe
