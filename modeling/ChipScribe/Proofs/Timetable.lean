import Mathlib.Algebra.BigOperators.Intervals
import Mathlib.Algebra.Group.Nat.Even
import Mathlib.Data.Nat.ModEq
import ChipScribe.Proofs.Range

/-!
# The timetable of the frame sequencer

The sequencer counts the clocks of one step down and goes on to the next.  Seen
from its last restart it keeps a timetable: step `k` ends on the clocks that are
congruent to the length of the first `k + 1` steps, modulo the length of all
six.  A restart comes one clock after the write that asks for it, or two, so
that the clocks before it since power are even in number.
-/

namespace ChipScribe

/-! ## The timetable -/

namespace Region

/-- The clock, counted from a restart, on which a step ends for the first time. -/
def stepEnd (r : Region) (fiveStep : Bool) (step : Nat) : Nat :=
  ∑ i ∈ Finset.range (step + 1), (r.framePeriod fiveStep i.toUInt8).toNat

/-- The length of all six steps. -/
def frameLength (r : Region) (fiveStep : Bool) : Nat :=
  r.stepEnd fiveStep 5

variable (r : Region) (fiveStep : Bool)

theorem framePeriod_pos (step : UInt8) : 0 < (r.framePeriod fiveStep step).toNat :=
  UInt16.le_iff_toNat_le.mp (r.framePeriod_le fiveStep step).1

@[simp] theorem stepEnd_zero : r.stepEnd fiveStep 0 = (r.framePeriod fiveStep 0).toNat :=
  Finset.sum_range_one _

theorem stepEnd_succ (step : Nat) :
    r.stepEnd fiveStep (step + 1) =
      r.stepEnd fiveStep step + (r.framePeriod fiveStep (step + 1).toUInt8).toNat :=
  Finset.sum_range_succ _ _

theorem stepEnd_strictMono : StrictMono (r.stepEnd fiveStep) := by
  apply strictMono_nat_of_lt_succ
  intro step
  rw [stepEnd_succ]
  exact Nat.lt_add_of_pos_right (r.framePeriod_pos fiveStep _)

theorem stepEnd_le_frameLength {step : Nat} (h : step ≤ 5) :
    r.stepEnd fiveStep step ≤ r.frameLength fiveStep :=
  (r.stepEnd_strictMono fiveStep).monotone h

theorem stepEnd_pos (step : Nat) : 0 < r.stepEnd fiveStep step := by
  have first := (r.stepEnd_strictMono fiveStep).monotone (Nat.zero_le step)
  rw [stepEnd_zero] at first
  exact (r.framePeriod_pos fiveStep 0).trans_le first

end Region

namespace FrameSequencer

/-! ## Keeping time -/

/-- Where the sequencer stands `n` clocks after a restart. -/
structure OnTime (r : Region) (n : Nat) (f : FrameSequencer) : Prop where
  settled : f.resetPending = false
  step : f.step.toNat ≤ 5
  running : 0 < f.counter.toNat
  begun : f.counter.toNat ≤ (r.framePeriod f.fiveStep f.step).toNat
  due : n % r.frameLength f.fiveStep + f.counter.toNat = r.stepEnd f.fiveStep f.step.toNat

/-- What the clock does that is the `n`th after a restart. -/
structure Timely (r : Region) (n : Nat) (f : FrameSequencer) : Prop where
  goesOn : f.restarting = false
  quarter : f.signal = .quarter ↔
    n ≡ r.stepEnd f.fiveStep 0 [MOD r.frameLength f.fiveStep] ∨
      n ≡ r.stepEnd f.fiveStep 2 [MOD r.frameLength f.fiveStep]
  half : f.signal = .half ↔
    n ≡ r.stepEnd f.fiveStep 1 [MOD r.frameLength f.fiveStep] ∨
      n ≡ r.stepEnd f.fiveStep 4 [MOD r.frameLength f.fiveStep]
  irq : (f.advance r).irqPending = true ↔
    f.irqPending = true ∨ f.fiveStep = false ∧ f.irqInhibit = false ∧
      (n ≡ r.stepEnd f.fiveStep 3 [MOD r.frameLength f.fiveStep] ∨
        n ≡ r.stepEnd f.fiveStep 4 [MOD r.frameLength f.fiveStep] ∨
        n ≡ 0 [MOD r.frameLength f.fiveStep])

/-- The clock restarts the sequence, and signals a half frame in the five-step mode alone. -/
structure Restarts (r : Region) (f : FrameSequencer) : Prop where
  restarting : f.restarting = true
  signal : f.signal = if f.fiveStep then .half else .none
  settled : (f.advance r).resetPending = false
  step : (f.advance r).step = 0
  counter : (f.advance r).counter = r.framePeriod f.fiveStep 0
  irq : (f.advance r).irqPending = f.irqPending

variable {r : Region} {f : FrameSequencer} {n : Nat}

theorem OnTime.goesOn (h : f.OnTime r n) : f.restarting = false := by
  rw [restarting, h.settled, Bool.false_and]

/-- The clock that ends a step finds the counter at one. -/
theorem counter_pred (running : 0 < f.counter.toNat) :
    (f.counter - 1).toNat = f.counter.toNat - 1 :=
  UInt16.toNat_sub_of_le _ _ (UInt16.le_iff_toNat_le.mpr running)

theorem counter_pred_eq_zero (running : 0 < f.counter.toNat) :
    f.counter - 1 = 0 ↔ f.counter.toNat = 1 := by
  rw [← UInt16.toNat_inj, counter_pred running]
  change _ = 0 ↔ _
  omega

theorem OnTime.before_lt (h : f.OnTime r n) {step : Nat} (earlier : step < f.step.toNat) :
    r.stepEnd f.fiveStep step ≤ n % r.frameLength f.fiveStep := by
  obtain ⟨last, next⟩ : ∃ last, f.step.toNat = last + 1 := Nat.exists_eq_add_one.mpr (by omega)
  have begun := h.begun
  have due := h.due
  have named : (last + 1).toUInt8 = f.step := by
    rw [← next]
    exact UInt8.ofNat_toNat
  rw [next, Region.stepEnd_succ, named] at due
  have passed := (r.stepEnd_strictMono f.fiveStep).monotone (show step ≤ last by omega)
  omega

/-- A step ends on its clocks and on no others. -/
theorem OnTime.ends_iff (h : f.OnTime r n) {step : Nat} (known : step ≤ 5) :
    n + 1 ≡ r.stepEnd f.fiveStep step [MOD r.frameLength f.fiveStep] ↔
      f.counter - 1 = 0 ∧ f.step.toNat = step := by
  have due := h.due
  have running := h.running
  have reduced : n + 1 ≡ n % r.frameLength f.fiveStep + 1 [MOD r.frameLength f.fiveStep] :=
    (Nat.mod_modEq n _).symm.add_right 1
  rw [counter_pred_eq_zero h.running]
  constructor
  · intro now
    -- Both clocks lie within one frame, so that they are equal and not only congruent.
    have inFrame := r.stepEnd_le_frameLength f.fiveStep known
    have positive := r.stepEnd_pos f.fiveStep step
    have length_pos : 0 < r.frameLength f.fiveStep := r.stepEnd_pos f.fiveStep 5
    obtain ⟨last, eq⟩ := Nat.exists_eq_add_one.mpr positive
    rw [eq] at now inFrame
    have same : n % r.frameLength f.fiveStep = last :=
      ((reduced.symm.trans now).add_right_cancel' 1).eq_of_lt_of_lt (Nat.mod_lt n length_pos)
        (by omega)
    rcases lt_trichotomy step f.step.toNat with earlier | here | later
    · have passed := h.before_lt earlier
      omega
    · rw [here] at eq
      omega
    · have ahead := r.stepEnd_strictMono f.fiveStep later
      omega
  · rintro ⟨last, rfl⟩
    rw [last] at due
    rw [← due]
    exact reduced

/-! ## A clock on time -/

section Steps

variable {step : UInt8} (known : step.toNat ≤ 5)
include known

private theorem of_table {P : UInt8 → Prop} (table : ∀ k : Fin 6, P (UInt8.ofNat k)) : P step := by
  have here := table ⟨step.toNat, by omega⟩
  rwa [UInt8.ofNat_toNat] at here

theorem stepSignal_eq_quarter :
    stepSignal step = .quarter ↔ step.toNat = 0 ∨ step.toNat = 2 := by
  apply of_table known
  decide

theorem stepSignal_eq_half : stepSignal step = .half ↔ step.toNat = 1 ∨ step.toNat = 4 := by
  apply of_table known
  decide

theorem toNat_nextStep :
    (nextStep step).toNat = if step.toNat = 5 then 0 else step.toNat + 1 := by
  apply of_table known
  decide

private theorem late_iff : (!(step == 0 || step == 1 || step == 2)) = true ↔
    step.toNat = 3 ∨ step.toNat = 4 ∨ step.toNat = 5 := by
  apply of_table known
  decide

end Steps

theorem OnTime.timely (h : f.OnTime r n) : f.Timely r (n + 1) := by
  have goesOn := h.goesOn
  have ends {step : Nat} (known : step ≤ 5) := h.ends_iff known
  have signals (s : FrameSignal) (some : s ≠ .none) :
      f.signal = s ↔ f.counter - 1 = 0 ∧ stepSignal f.step = s := by
    simp only [signal, goesOn, Bool.false_eq_true, ↓reduceIte, beq_iff_eq]
    split
    next ends => simp [ends]
    next runs => simp [runs, some.symm]
  refine ⟨goesOn, ?quarter, ?half, ?irq⟩
  case quarter =>
    rw [signals _ (by simp), stepSignal_eq_quarter h.step, ends (by omega), ends (by omega),
      and_or_left]
  case half =>
    rw [signals _ (by simp), stepSignal_eq_half h.step, ends (by omega), ends (by omega),
      and_or_left]
  case irq =>
    have frame_end : r.stepEnd f.fiveStep 5 ≡ 0 [MOD r.frameLength f.fiveStep] :=
      Nat.modulus_modEq_zero
    have whole : n + 1 ≡ 0 [MOD r.frameLength f.fiveStep] ↔
        n + 1 ≡ r.stepEnd f.fiveStep 5 [MOD r.frameLength f.fiveStep] :=
      ⟨fun now => now.trans frame_end.symm, fun now => now.trans frame_end⟩
    have raised : (f.advance r).irqPending = true ↔
        f.irqPending = true ∨ f.counter - 1 = 0 ∧ f.raisesIrq = true := by
      simp only [FrameSequencer.advance, goesOn, Bool.false_eq_true, ↓reduceIte, beq_iff_eq]
      split
      next ends => simp [ends]
      next runs => simp [runs]
    have raises : f.raisesIrq = true ↔ f.fiveStep = false ∧ f.irqInhibit = false ∧
        (f.step.toNat = 3 ∨ f.step.toNat = 4 ∨ f.step.toNat = 5) := by
      rw [raisesIrq, Bool.and_eq_true, Bool.and_eq_true, late_iff h.step, Bool.not_eq_true',
        Bool.not_eq_true', and_assoc, and_comm, and_assoc]
    rw [raised, whole, ends (by omega), ends (by omega), ends (by omega), ← and_or_left,
      ← and_or_left, raises, and_left_comm, and_left_comm (a := f.counter - 1 = 0)]

/-- The step after this one begins where this one ends. -/
theorem OnTime.due_nextStep (h : f.OnTime r n) (last : f.counter.toNat = 1) :
    (n + 1) % r.frameLength f.fiveStep + (r.framePeriod f.fiveStep (nextStep f.step)).toNat =
      r.stepEnd f.fiveStep (nextStep f.step).toNat := by
  have due := h.due
  have known := h.step
  have next := toNat_nextStep known
  rw [← Nat.mod_add_mod]
  by_cases wraps : f.step.toNat = 5
  · -- The last step ends a whole number of frames after the restart.
    have first : nextStep f.step = 0 := by
      rw [if_pos wraps] at next
      exact UInt8.toNat_inj.mp next
    have whole : n % r.frameLength f.fiveStep + 1 = r.frameLength f.fiveStep := by
      rw [wraps, last] at due
      exact due
    rw [first, whole, Nat.mod_self, Nat.zero_add]
    exact (r.stepEnd_zero f.fiveStep).symm
  · rw [if_neg wraps] at next
    have named : (f.step.toNat + 1).toUInt8 = nextStep f.step := by
      rw [← next]
      exact UInt8.ofNat_toNat
    have later : r.stepEnd f.fiveStep f.step.toNat < r.frameLength f.fiveStep :=
      r.stepEnd_strictMono f.fiveStep (show f.step.toNat < 5 by omega)
    rw [next, Region.stepEnd_succ, named, Nat.mod_eq_of_lt (by omega)]
    omega

/-- Within a step, what the clock gains the counter loses. -/
theorem OnTime.due_counter (h : f.OnTime r n) (more : f.counter.toNat ≠ 1) :
    (n + 1) % r.frameLength f.fiveStep + (f.counter - 1).toNat =
      r.stepEnd f.fiveStep f.step.toNat := by
  have due := h.due
  have running := h.running
  have inFrame := r.stepEnd_le_frameLength f.fiveStep h.step
  rw [counter_pred running, ← Nat.mod_add_mod, Nat.mod_eq_of_lt (by omega)]
  omega

/-- A clock on time leaves the sequencer on time. -/
theorem OnTime.advance (h : f.OnTime r n) : (f.advance r).OnTime r (n + 1) := by
  have pred := counter_pred h.running
  have ended := counter_pred_eq_zero h.running
  unfold FrameSequencer.advance
  rw [if_neg (Bool.eq_false_iff.mp h.goesOn)]
  dsimp only
  split
  next ends =>
    have last := ended.mp (beq_iff_eq.mp ends)
    refine ⟨h.settled, ?_, r.framePeriod_pos _ _, le_rfl, h.due_nextStep last⟩
    have known := h.step
    have next := toNat_nextStep known
    change (nextStep f.step).toNat ≤ 5
    split at next <;> omega
  next runs =>
    have more : f.counter.toNat ≠ 1 := fun last => runs (beq_iff_eq.mpr (ended.mpr last))
    have running := h.running
    have begun := h.begun
    refine ⟨h.settled, h.step, ?_, ?_, h.due_counter more⟩
    · change 0 < (f.counter - 1).toNat
      omega
    · change (f.counter - 1).toNat ≤ (r.framePeriod f.fiveStep f.step).toNat
      omega

/-! ## Restarting -/

theorem OnTime.of_first (settled : f.resetPending = false) (step : f.step = 0)
    (counter : f.counter = r.framePeriod f.fiveStep 0) : f.OnTime r 0 := by
  refine ⟨settled, ?_, ?_, ?_, ?_⟩
  · rw [step]
    decide
  · rw [counter]
    exact r.framePeriod_pos _ _
  · rw [counter, step]
  · rw [counter, step, Nat.zero_mod, Nat.zero_add]
    exact (r.stepEnd_zero f.fiveStep).symm

theorem restarts_of_restarting (r : Region) (h : f.restarting = true) : f.Restarts r := by
  have next : f.advance r =
      { f with
        resetPending := false
        resetDelay := 0
        step := 0
        counter := r.framePeriod f.fiveStep 0
        odd := !f.odd } := if_pos h
  refine ⟨h, if_pos h, ?_, ?_, ?_, ?_⟩ <;> rw [next]

theorem mode_advance (r : Region) (f : FrameSequencer) :
    (f.advance r).fiveStep = f.fiveStep ∧ (f.advance r).irqInhibit = f.irqInhibit := by
  unfold FrameSequencer.advance
  dsimp only
  repeat' split
  all_goals exact ⟨rfl, rfl⟩

theorem odd_advance (r : Region) (f : FrameSequencer) : (f.advance r).odd = !f.odd := by
  unfold FrameSequencer.advance
  dsimp only
  repeat' split
  all_goals rfl

/-- A restart that is not due yet comes a clock closer. -/
theorem reset_advance (r : Region) (goesOn : f.restarting = false)
    (pending : f.resetPending = true) :
    (f.advance r).resetPending = true ∧ (f.advance r).resetDelay = f.resetDelay - 1 := by
  unfold FrameSequencer.advance
  rw [if_neg (Bool.eq_false_iff.mp goesOn), if_pos pending]
  dsimp only
  split
  · exact ⟨pending, rfl⟩
  · exact ⟨pending, rfl⟩

/-- Where the sequencer stands `n` clocks after a write that restarts it on the clock `wait`. -/
structure Follows (r : Region) (wait n : Nat) (f : FrameSequencer) : Prop where
  waiting : n < wait → f.resetPending = true ∧ f.resetDelay.toNat = wait - n
  onTime : wait ≤ n → f.OnTime r (n - wait)

variable {wait : Nat}

theorem Follows.restarting_iff (h : f.Follows r wait n) : f.restarting = true ↔ n + 1 = wait := by
  by_cases early : n < wait
  · obtain ⟨pending, delay⟩ := h.waiting early
    rw [restarting, pending, Bool.true_and, decide_eq_true_iff, UInt8.le_iff_toNat_le, delay]
    change _ ≤ 1 ↔ _
    omega
  · rw [(h.onTime (by omega)).goesOn]
    constructor
    · intro now
      cases now
    · omega

theorem Follows.clock (h : f.Follows r wait n) : (f.advance r).Follows r wait (n + 1) := by
  rcases lt_trichotomy (n + 1) wait with early | now | late
  · obtain ⟨pending, delay⟩ := h.waiting (by omega)
    have goesOn : f.restarting = false := by
      rw [Bool.eq_false_iff, ne_eq, h.restarting_iff]
      omega
    obtain ⟨pending', delay'⟩ := reset_advance r goesOn pending
    refine ⟨fun _ => ⟨pending', ?_⟩, by omega⟩
    rw [delay', UInt8.toNat_sub_of_le _ _ (UInt8.le_iff_toNat_le.mpr (by change 1 ≤ _; omega))]
    change _ - 1 = _
    omega
  · have restarts := restarts_of_restarting r (h.restarting_iff.mpr now)
    refine ⟨by omega, fun _ => ?_⟩
    rw [now, Nat.sub_self]
    apply OnTime.of_first restarts.settled restarts.step
    rw [(mode_advance r f).1]
    exact restarts.counter
  · have next := (h.onTime (by omega)).advance
    refine ⟨by omega, fun _ => ?_⟩
    rwa [Nat.sub_add_comm (by omega)]

theorem Follows.clearIrq (h : f.Follows r wait n) : f.clearIrq.Follows r wait n where
  waiting := h.waiting
  onTime late :=
    have before := h.onTime late
    ⟨before.settled, before.step, before.running, before.begun, before.due⟩

/-! ## Runs -/

/-- What a sequencer is told: a clock, a write, or that its interrupt was acknowledged. -/
inductive Call where
  | clock
  | write (data : UInt8)
  | clearIrq
  deriving DecidableEq, Repr

def Call.writes : Call → Bool
  | .write _ => true
  | .clock | .clearIrq => false

def obey (r : Region) (f : FrameSequencer) : Call → FrameSequencer
  | .clock => f.advance r
  | .write data => f.write data
  | .clearIrq => f.clearIrq

def after (r : Region) (f : FrameSequencer) (calls : List Call) : FrameSequencer :=
  calls.foldl (obey r) f

def clocks (calls : List Call) : Nat :=
  calls.count .clock

theorem clocks_cons_clock (calls : List Call) : clocks (.clock :: calls) = clocks calls + 1 :=
  List.count_cons_self

theorem after_append (r : Region) (f : FrameSequencer) (calls later : List Call) :
    after r f (calls ++ later) = after r (after r f calls) later :=
  List.foldl_append

/-- The parity of the sequencer is that of the clocks it has seen. -/
theorem odd_after (r : Region) (f : FrameSequencer) (calls : List Call) :
    (after r f calls).odd = (f.odd ^^ (clocks calls).bodd) := by
  induction calls generalizing f with
  | nil => simp [after, clocks]
  | cons call calls ih =>
      have rest := ih (f.obey r call)
      change (after r (f.obey r call) calls).odd = _
      rw [rest]
      cases call with
      | clock => simp [obey, odd_advance, clocks, Nat.bodd_succ]
      | write data => simp [obey, FrameSequencer.write, clocks]
      | clearIrq => simp [obey, FrameSequencer.clearIrq, clocks]

section Quiet

variable {calls : List Call} (quiet : ∀ call ∈ calls, call.writes = false)
include quiet

theorem mode_after (r : Region) (f : FrameSequencer) :
    (after r f calls).fiveStep = f.fiveStep ∧ (after r f calls).irqInhibit = f.irqInhibit := by
  induction calls generalizing f with
  | nil => exact ⟨rfl, rfl⟩
  | cons call calls ih =>
      have rest := ih (fun c member => quiet c (List.mem_cons_of_mem _ member)) (f.obey r call)
      cases call with
      | clock => rwa [obey, (mode_advance r f).1, (mode_advance r f).2] at rest
      | write data => cases quiet _ List.mem_cons_self
      | clearIrq => exact rest

theorem Follows.after (h : f.Follows r wait n) :
    (after r f calls).Follows r wait (n + clocks calls) := by
  induction calls generalizing f n with
  | nil => exact h
  | cons call calls ih =>
      have later := fun c member => quiet c (List.mem_cons_of_mem _ member)
      cases call with
      | clock =>
          have rest := ih later h.clock
          rwa [Nat.add_right_comm, Nat.add_assoc, ← clocks_cons_clock] at rest
      | write data => cases quiet _ List.mem_cons_self
      | clearIrq => exact ih later h.clearIrq

end Quiet

theorem follows_initial (r : Region) : (initial r).Follows r 0 0 where
  waiting := nofun
  onTime _ := .of_first rfl rfl rfl

/-- A write is followed on the next clock, or on the one after it where the parity is odd. -/
theorem follows_write (r : Region) (f : FrameSequencer) (data : UInt8) :
    (f.write data).Follows r (if f.odd then 2 else 1) 0 := by
  refine ⟨fun _ => ⟨rfl, ?_⟩, ?_⟩
  · simp only [FrameSequencer.write]
    split <;> rfl
  · split <;> omega

/-- What the next clock does, the `n`th after a write that restarts the sequence on `wait`. -/
structure KeepsTimetable (r : Region) (wait n : Nat) (f : FrameSequencer) : Prop where
  early : n < wait → f.restarting = false
  restarts : n = wait → f.Restarts r
  timely : wait < n → f.Timely r (n - wait)

theorem Follows.keepsTimetable (h : f.Follows r wait n) : f.KeepsTimetable r wait (n + 1) where
  early sooner := by
    rw [Bool.eq_false_iff, ne_eq, h.restarting_iff]
    omega
  restarts now := restarts_of_restarting r (h.restarting_iff.mpr now)
  timely later := by
    rw [Nat.sub_add_comm (by omega)]
    exact (h.onTime (by omega)).timely

/--
After any calls, and any number of clocks since the last write or since power, the next clock
does what the timetable has for it.
-/
theorem runs_to_timetable (r : Region) (earlier since : List Call) (data : UInt8)
    (quiet : ∀ call ∈ since, call.writes = false) :
    let powered := after r (initial r) since
    let written := after r (initial r) (earlier ++ .write data :: since)
    (powered.fiveStep = false ∧ powered.irqInhibit = false ∧
        powered.Timely r (clocks since + 1)) ∧
      written.fiveStep = (data &&& 0x80 != 0) ∧ written.irqInhibit = (data &&& 0x40 != 0) ∧
        written.KeepsTimetable r (if Even (clocks earlier) then 1 else 2) (clocks since + 1) := by
  intro powered written
  constructor
  · obtain ⟨mode, inhibit⟩ := mode_after quiet r (initial r)
    have follows := (follows_initial r).after quiet
    rw [Nat.zero_add] at follows
    exact ⟨mode, inhibit, follows.keepsTimetable.timely (Nat.succ_pos _)⟩
  · let before := after r (initial r) earlier
    have split : written = after r (before.write data) since := after_append r _ _ _
    obtain ⟨mode, inhibit⟩ := mode_after quiet r (before.write data)
    have parity : (if before.odd then 2 else 1) = if Even (clocks earlier) then 1 else 2 := by
      have odd : before.odd = (clocks earlier).bodd := by
        rw [odd_after]
        exact Bool.false_xor _
      simp only [odd, Nat.even_iff, Nat.mod_two_of_bodd]
      cases (clocks earlier).bodd <;> rfl
    have follows := (follows_write r before data).after quiet
    rw [parity, Nat.zero_add] at follows
    rw [split]
    exact ⟨mode, inhibit, follows.keepsTimetable⟩

/-- A write after an odd number of clocks lets one clock pass; the next one is a half frame. -/
theorem restarts_on_second_clock :
    (∀ call ∈ [Call.clock, .clearIrq], call.writes = false) ∧
      (after .pal (initial .pal) ([.clock] ++ .write 0x80 :: [.clock, .clearIrq])).signal =
        .half := by
  have quiet : ∀ call ∈ [Call.clock, .clearIrq], call.writes = false := by decide
  obtain ⟨-, mode, -, keeps⟩ := runs_to_timetable .pal [.clock] [.clock, .clearIrq] 0x80 quiet
  refine ⟨quiet, ?_⟩
  rw [(keeps.restarts rfl).signal, mode]
  rfl

end FrameSequencer

end ChipScribe
