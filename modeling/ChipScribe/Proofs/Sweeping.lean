import Mathlib.Data.Nat.Bitwise
import ChipScribe.Proofs.Divider
import ChipScribe.Proofs.Overflow

/-!
# How a sweep runs

The divider of a sweep runs out at even distances, and each time it does the timer
takes one step, worked out here in whole numbers.  A step that is taken never
leaves the eleven bits of the timer; where one would, the channel is muted, and a
muted sweep takes no step any more.
-/

namespace ChipScribe.Sweep

/-! ## In whole numbers -/

/-- The channel is silent: its timer is too low, or the next step up would leave eleven bits. -/
def Mutes (s : Sweep) (timer : Int) : Prop :=
  timer < 8 ∨ s.negate = false ∧ 2048 ≤ timer + timer / 2 ^ s.shift.toNat

instance (s : Sweep) (timer : Int) : Decidable (s.Mutes timer) :=
  inferInstanceAs (Decidable (_ ∨ _))

/-- Where a step leads; on the first channel a step down goes one further. -/
def exactTarget (side : PulseSide) (s : Sweep) (timer : Int) : Int :=
  if s.negate then timer - timer / 2 ^ s.shift.toNat - (if side = .first then 1 else 0)
  else timer + timer / 2 ^ s.shift.toNat

/-- The step, where it is taken. -/
def exactUpdate (side : PulseSide) (s : Sweep) (timer : Int) : Int :=
  if s.enabled = true ∧ 0 < s.shift ∧ ¬ s.Mutes timer then s.exactTarget side timer else timer

/-- A step is taken when the divider runs out. -/
def updates (s : Sweep) : Bool :=
  s.enabled && s.shift > 0 && s.audible

variable {s t : Sweep} {side : PulseSide}

theorem toNat_delta (h : s.InRange) : s.delta.toNat = s.timer.toNat / 2 ^ s.shift.toNat := by
  have places : s.shift.toNat ≤ 7 := h.shift
  rw [delta, UInt16.toNat_shiftRight, UInt8.toNat_toUInt16, Nat.mod_eq_of_lt (by omega),
    Nat.shiftRight_eq_div_pow]

/-- A sum of twelve bits has its highest one where it leaves eleven. -/
theorem bit_eleven (x : UInt16) (twelve : x.toNat < 4096) :
    (x &&& 0x800 != 0) = true ↔ 2048 ≤ x.toNat := by
  have masked : (x &&& 0x800).toNat = (x.toNat.testBit 11).toNat * 2048 :=
    (UInt16.toNat_and _ _).trans (Nat.and_two_pow _ 11)
  have bit : x.toNat.testBit 11 = decide (2048 ≤ x.toNat) := by
    rw [Nat.testBit_eq_decide_div_mod_eq, decide_eq_decide]
    omega
  rw [bne_iff_ne, Ne, ← UInt16.toNat_inj, masked, bit]
  by_cases high : 2048 ≤ x.toNat <;> simp [high]

theorem toNat_sum (h : s.InRange) :
    (s.timer + s.delta).toNat = s.timer.toNat + s.timer.toNat / 2 ^ s.shift.toNat := by
  have timer : s.timer.toNat ≤ 2047 := h.timer
  have delta := s.delta_le
  rw [UInt16.toNat_add, Nat.mod_eq_of_lt (by omega), toNat_delta h]

theorem audible_iff (h : s.InRange) : s.audible = true ↔ ¬ s.Mutes s.timer.toNat := by
  have timer : s.timer.toNat ≤ 2047 := h.timer
  have delta := s.delta_le
  have beyond := bit_eleven (s.timer + s.delta) (by rw [toNat_sum h, ← toNat_delta h]; omega)
  have low : s.timer < 0x008 ↔ (s.timer.toNat : Int) < 8 :=
    UInt16.lt_iff_toNat_lt.trans Int.ofNat_lt.symm
  have high : 2048 ≤ (s.timer + s.delta).toNat ↔
      (2048 : Int) ≤ s.timer.toNat + (s.timer.toNat : Int) / 2 ^ s.shift.toNat := by
    rw [toNat_sum h, ← Int.ofNat_le]
    push_cast
    rfl
  unfold audible overflows Mutes
  rw [← low, ← high, ← beyond]
  cases s.negate <;> simp

theorem update_of_updates (moves : s.updates = true) :
    s.update side = { s with timer := s.target side } :=
  if_pos moves

theorem update_of_not_updates (stays : ¬ s.updates = true) : s.update side = s :=
  if_neg stays

/-- A step that is taken comes out exactly; neither a borrow nor the mask has a part in it. -/
theorem target_exact (side : PulseSide) (h : s.InRange) (moves : s.updates = true) :
    0 ≤ s.exactTarget side s.timer.toNat ∧ s.exactTarget side s.timer.toNat ≤ 0x7FF ∧
      ((s.target side).toNat : Int) = s.exactTarget side s.timer.toNat := by
  simp only [updates, Bool.and_eq_true, decide_eq_true_eq] at moves
  obtain ⟨⟨-, shifts⟩, sounds⟩ := moves
  have timer : s.timer.toNat ≤ 2047 := h.timer
  have loud := (audible_iff h).mp sounds
  -- a shift by at least one place takes at most half
  have half : s.timer.toNat / 2 ^ s.shift.toNat ≤ s.timer.toNat / 2 := by
    have some : 0 < s.shift.toNat := shifts
    exact Nat.div_le_div_left (Nat.le_self_pow some.ne' 2) (by decide)
  have step := toNat_delta h
  have cast : ((s.timer.toNat / 2 ^ s.shift.toNat : Nat) : Int) =
      (s.timer.toNat : Int) / 2 ^ s.shift.toNat := by
    push_cast
    rfl
  have masked (x : UInt16) : (x &&& 0x7FF).toNat = x.toNat % 2048 :=
    (UInt16.toNat_and _ _).trans (Nat.and_two_pow_sub_one_eq_mod _ 11)
  simp only [Mutes, not_or, not_and, Int.not_lt, Int.not_le] at loud
  simp only [exactTarget, target, masked, ← cast] at loud ⊢
  cases down : s.negate with
  | false =>
      have up := loud.2 down
      simp only [Bool.false_eq_true, if_false, toNat_sum h]
      omega
  | true =>
      have below : (s.timer - s.delta).toNat = s.timer.toNat - s.delta.toNat :=
        UInt16.toNat_sub_of_le _ _ s.delta_le
      cases side with
      | first =>
          have further : (s.timer - s.delta - 1).toNat = (s.timer - s.delta).toNat - 1 :=
            UInt16.toNat_sub_of_le _ _ (show 1 ≤ (s.timer - s.delta).toNat by omega)
          simp only [if_true, further]
          omega
      | second =>
          simp only [if_true, reduceCtorEq, if_false]
          omega

theorem timer_update (h : s.InRange) :
    ((s.update side).timer.toNat : Int) = s.exactUpdate side s.timer.toNat := by
  have moves : s.updates = true ↔ s.enabled = true ∧ 0 < s.shift ∧ ¬ s.Mutes s.timer.toNat := by
    simp only [updates, Bool.and_eq_true, decide_eq_true_eq, audible_iff h, and_assoc, gt_iff_lt]
  unfold exactUpdate
  by_cases taken : s.updates = true
  · rw [if_pos (moves.mp taken), ← (target_exact side h taken).2.2, update_of_updates taken]
  · rw [if_neg fun all => taken (moves.mpr all), update_of_not_updates taken]

/-! ## Clocks -/

/-- The divider runs out on the next clock. -/
def expiring (s : Sweep) : Bool :=
  s.divider - 1 == 0

/-- How often the divider runs out within `n` clocks. -/
def expiries (side : PulseSide) (s : Sweep) (n : Nat) : Nat :=
  (List.iterate (clock side) s n).countP expiring

/-- The two are set alike; what they have come to may differ. -/
structure SetLike (s t : Sweep) : Prop where
  shift : t.shift = s.shift
  negate : t.negate = s.negate
  period : t.period = s.period
  enabled : t.enabled = s.enabled

namespace SetLike

variable (same : s.SetLike t)
include same

theorem mutes : t.Mutes = s.Mutes := by
  funext timer
  rw [Mutes, Mutes, same.shift, same.negate]

theorem exactTarget : t.exactTarget side = s.exactTarget side := by
  funext timer
  rw [Sweep.exactTarget, Sweep.exactTarget, same.shift, same.negate]

theorem exactUpdate : t.exactUpdate side = s.exactUpdate side := by
  funext timer
  simp only [Sweep.exactUpdate, same.exactTarget, same.mutes, same.shift, same.enabled]

end SetLike

theorem setLike_update (side : PulseSide) (s : Sweep) : s.SetLike (s.update side) := by
  unfold update
  split <;> exact ⟨rfl, rfl, rfl, rfl⟩

theorem setLike_clock (side : PulseSide) (s : Sweep) : s.SetLike (s.clock side) := by
  have moved := s.setLike_update side
  unfold clock
  cases s.divider - 1 == 0 <;> cases s.reload <;>
    first
    | exact ⟨rfl, rfl, rfl, rfl⟩
    | exact ⟨moved.shift, moved.negate, moved.period, moved.enabled⟩

theorem timer_clock (side : PulseSide) (s : Sweep) :
    (s.clock side).timer = if s.expiring then (s.update side).timer else s.timer := by
  unfold clock expiring
  cases s.divider - 1 == 0 <;> cases s.reload <;> rfl

theorem divider_clock (side : PulseSide) (s : Sweep) :
    (s.clock side).divider = if s.reload || s.expiring then s.period + 1 else s.divider - 1 := by
  unfold clock expiring
  cases s.divider - 1 == 0 <;> cases s.reload <;> rfl

theorem reload_clock (side : PulseSide) (s : Sweep) : (s.clock side).reload = false := by
  have same : (s.update side).reload = s.reload := by
    unfold update
    split <;> rfl
  unfold clock
  cases pending : s.reload <;> cases s.divider - 1 == 0 <;>
    first
    | rfl
    | exact pending
    | exact same.trans pending

theorem expiring_iff (s : Sweep) : s.expiring = true ↔ s.divider = 1 := by
  rw [expiring, beq_iff_eq, UInt8.sub_eq_iff_eq_add, UInt8.zero_add]

theorem inRange_iterate (h : s.InRange) (side : PulseSide) (n : Nat) :
    ((clock side)^[n] s).InRange :=
  Function.Iterate.rec InRange h (fun _ range => range.clock side) n

theorem expiries_succ (side : PulseSide) (s : Sweep) (n : Nat) :
    s.expiries side (n + 1) = (s.clock side).expiries side n + if s.expiring then 1 else 0 :=
  List.countP_cons

/-- The timer takes one step each time the divider runs out. -/
theorem timer_iterate (h : s.InRange) (side : PulseSide) (n : Nat) :
    (((clock side)^[n] s).timer.toNat : Int) =
      (s.exactUpdate side)^[s.expiries side n] s.timer.toNat := by
  induction n generalizing s with
  | zero => rfl
  | succ n ih =>
      rw [Function.iterate_succ_apply, ih (h.clock side), (s.setLike_clock side).exactUpdate,
        expiries_succ, timer_clock]
      cases s.expiring with
      | false => rfl
      | true =>
          simp only [if_true]
          rw [timer_update h, Function.iterate_succ_apply]

/-! ## The divider -/

/-- A sweep with nothing to reload, in range, and with this divider period. -/
structure Counts (period : UInt8) (s : Sweep) : Prop where
  range : s.InRange
  reload : s.reload = false
  period : s.period = period

/-- The divider alone; it moves nothing on. -/
def countdown (s : Sweep) : Divider Unit :=
  ⟨s.divider.toNat, ()⟩

theorem Counts.clock {period : UInt8} (h : s.Counts period) (side : PulseSide) :
    (s.clock side).Counts period :=
  ⟨h.range.clock side, s.reload_clock side, (s.setLike_clock side).period.trans h.period⟩

theorem toNat_period (h : s.InRange) : (s.period + 1).toNat = s.period.toNat + 1 := by
  have period : s.period.toNat ≤ 7 := h.period
  rw [UInt8.toNat_add]
  change (s.period.toNat + 1) % 256 = _
  omega

theorem countdown_eq_one (s : Sweep) : (s.countdown.left == 1) = s.expiring := by
  rw [Bool.eq_iff_iff, expiring_iff, beq_iff_eq]
  exact UInt8.toNat_inj (b := 1)

theorem Counts.countdown_clock {period : UInt8} (h : s.Counts period) (side : PulseSide) :
    (s.clock side).countdown = s.countdown.clock (period.toNat + 1) id := by
  have some : 1 ≤ s.divider.toNat := h.range.divider.1
  have next := s.divider_clock side
  rw [h.reload, Bool.false_or] at next
  unfold countdown
  rw [next]
  cases out : s.expiring with
  | true =>
      rw [if_pos rfl, toNat_period h.range, h.period, (s.expiring_iff).mp out]
      rfl
  | false =>
      have more : s.divider.toNat ≠ 1 := by
        rw [← s.countdown_eq_one, beq_eq_false_iff_ne] at out
        exact out
      have down : (s.divider - 1).toNat = s.divider.toNat - 1 := UInt8.toNat_sub_of_le _ _ some
      obtain ⟨left, whole⟩ := Nat.exists_eq_add_of_le (show 2 ≤ s.divider.toNat by omega)
      rw [if_neg (by decide), down, whole, Nat.add_comm 2, Divider.clock_more]
      rfl

theorem expiries_of_counts {period : UInt8} (h : s.Counts period) (side : PulseSide) (n : Nat) :
    s.expiries side n = Divider.turns (period.toNat + 1) s.divider.toNat n := by
  have run := Divider.map_iterate_of_clock (fun _ h => Counts.clock h side)
    (fun _ h => Counts.countdown_clock h side) h n
  have turned := Divider.countP_iterate id period.toNat.succ_pos
    (d := s.countdown) h.range.divider.1 n
  rw [← run, List.countP_map] at turned
  exact (List.countP_congr fun t _ => by
    rw [Function.comp_apply, countdown_eq_one]).trans turned

/-! ## A muted sweep -/

theorem audible_congr (same : s.SetLike t) (timer : t.timer = s.timer) : t.audible = s.audible := by
  simp only [audible, overflows, delta, same.shift, same.negate, timer]

theorem clock_of_muted (side : PulseSide) (muted : s.audible = false) :
    (s.clock side).audible = false ∧ (s.clock side).timer = s.timer := by
  have stays : s.update side = s := update_of_not_updates (by simp [updates, muted])
  have timer : (s.clock side).timer = s.timer := by
    rw [timer_clock, stays, ite_self]
  exact ⟨(audible_congr (s.setLike_clock side) timer).trans muted, timer⟩

theorem iterate_of_muted (side : PulseSide) (muted : s.audible = false) (n : Nat) :
    ((clock side)^[n] s).audible = false ∧ ((clock side)^[n] s).timer = s.timer := by
  induction n with
  | zero => exact ⟨muted, rfl⟩
  | succ n ih =>
      obtain ⟨still, same⟩ := clock_of_muted side ih.1
      rw [Function.iterate_succ_apply']
      exact ⟨still, same.trans ih.2⟩

/-! ## Unwritten runs -/

/-- What half frames make of a sweep, on one of the channels, while its registers are not written. -/
structure RunsExactly (side : PulseSide) (s : Sweep) : Prop where
  expiries : s.reload = false → ∀ n, s.expiries side n =
    if n < s.divider.toNat then 0 else 1 + (n - s.divider.toNat) / (s.period.toNat + 1)
  /-- A pending reload starts the divider over on the first clock, whether that is its last or not. -/
  reloaded : s.reload = true → (s.clock side).divider = s.period + 1 ∧
    (s.clock side).reload = false ∧ ∀ n, s.expiries side (n + 1) =
      (if s.divider = 1 then 1 else 0) + n / (s.period.toNat + 1)
  timer n : (((clock side)^[n] s).timer.toNat : Int) =
    (s.exactUpdate side)^[s.expiries side n] s.timer.toNat
  /-- No step that is taken leaves eleven bits. -/
  exact n : ((clock side)^[n] s).updates = true →
    let timer : Int := ((clock side)^[n] s).timer.toNat
    0 ≤ s.exactTarget side timer ∧ s.exactTarget side timer ≤ 0x7FF ∧
      ((((clock side)^[n] s).target side).toNat : Int) = s.exactTarget side timer
  audible n : ((clock side)^[n] s).audible = true ↔ ¬ s.Mutes ((clock side)^[n] s).timer.toNat
  /-- Once silent, silent for good. -/
  muted n : ((clock side)^[n] s).audible = false → ∀ m, n ≤ m →
    ((clock side)^[m] s).audible = false ∧ ((clock side)^[m] s).timer = ((clock side)^[n] s).timer

theorem setLike_iterate (side : PulseSide) (s : Sweep) (n : Nat) : s.SetLike ((clock side)^[n] s) := by
  induction n with
  | zero => exact ⟨rfl, rfl, rfl, rfl⟩
  | succ n ih =>
      have next := setLike_clock side ((clock side)^[n] s)
      rw [Function.iterate_succ_apply']
      exact ⟨next.shift.trans ih.shift, next.negate.trans ih.negate, next.period.trans ih.period,
        next.enabled.trans ih.enabled⟩

theorem InRange.runs_exactly (h : s.InRange) (side : PulseSide) : s.RunsExactly side where
  expiries settled n := expiries_of_counts ⟨h, settled, rfl⟩ side n
  reloaded pending := by
    have divider : (s.clock side).divider = s.period + 1 := by
      rw [divider_clock, pending, Bool.true_or, if_pos rfl]
    refine ⟨divider, s.reload_clock side, fun n => ?_⟩
    have counts : (s.clock side).Counts s.period :=
      ⟨h.clock side, s.reload_clock side, (s.setLike_clock side).period⟩
    rw [expiries_succ, expiries_of_counts counts, divider, toNat_period h,
      Divider.turns_self s.period.toNat.succ_pos, Nat.add_comm]
    simp only [expiring_iff]
  timer := timer_iterate h side
  exact n moves := by
    have same := s.setLike_iterate side n
    have exact := target_exact side (inRange_iterate h side n) moves
    rwa [same.exactTarget] at exact
  audible n := by
    rw [audible_iff (inRange_iterate h side n), (s.setLike_iterate side n).mutes]
  muted n silent m later := by
    obtain ⟨k, rfl⟩ := Nat.exists_eq_add_of_le' later
    rw [Function.iterate_add_apply]
    exact iterate_of_muted side silent k

/-- The first channel on its way down, with a reload pending on the last clock of the divider. -/
theorem runs_exactly_down :
    let s : Sweep := {
      shift := 1, negate := true, period := 2, divider := 1, enabled := true, reload := true
      timer := 0x7FF }
    s.InRange ∧ s.reload = true ∧ s.RunsExactly .first ∧ s.expiries .first 11 = 4 ∧
      (((clock .first)^[11] s).timer.toNat : Int) = 127 := by
  intro s
  have range : s.InRange := ⟨by decide, by decide, by decide, by decide⟩
  have runs := range.runs_exactly .first
  have times : s.expiries .first 11 = 4 := ((runs.reloaded rfl).2.2 10).trans (by decide)
  refine ⟨range, rfl, runs, times, ?_⟩
  rw [runs.timer 11, times]
  decide

end ChipScribe.Sweep
