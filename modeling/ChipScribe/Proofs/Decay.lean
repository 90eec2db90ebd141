import ChipScribe.Envelope
import ChipScribe.Proofs.Divider

/-!
# How an envelope decays

From the clock that takes a restart on, the level falls by one every `speed + 1`
clocks, down to nothing or round again.  However the register is written in
between, the level of an envelope that does not loop never rises by itself.
-/

namespace ChipScribe

/-- What can happen to an envelope. -/
inductive EnvelopeCall where
  | clock
  | write (data : UInt8)
  | restart
  deriving DecidableEq, Repr

/-- Neither a restart nor a write that sets the loop flag. -/
def EnvelopeCall.Gentle : EnvelopeCall → Prop
  | clock => True
  | write data => data &&& 0x20 = 0
  | restart => False

instance : DecidablePred EnvelopeCall.Gentle
  | .clock => .isTrue trivial
  | .write data => inferInstanceAs (Decidable (data &&& 0x20 = 0))
  | .restart => .isFalse id

namespace Envelope

def obey (e : Envelope) : EnvelopeCall → Envelope
  | .clock => e.clock
  | .write data => e.write data
  | .restart => { e with restart := true }

/-- The levels from call to call. -/
def levels (e : Envelope) : List EnvelopeCall → List UInt8
  | [] => [e.level]
  | call :: rest => e.level :: (e.obey call).levels rest

/-! ## The rate -/

/-- The level a step lower; at the bottom it stays, or starts over. -/
def lower (loop : Bool) (level : UInt8) : UInt8 :=
  ({ loop := loop, level := level } : Envelope).stepLevel

/-- The divider takes one clock more than it counts. -/
def timer (e : Envelope) : Divider UInt8 :=
  ⟨e.divider.toNat + 1, e.level⟩

/-- No restart is pending, and the register is set like this. -/
structure Runs (speed : UInt8) (constant loop : Bool) (e : Envelope) : Prop where
  restart : e.restart = false
  speed : e.speed = speed
  constant : e.constant = constant
  loop : e.loop = loop

variable {speed : UInt8} {constant loop : Bool} {e : Envelope}

theorem Runs.clock (h : e.Runs speed constant loop) : e.clock.Runs speed constant loop := by
  unfold Envelope.clock
  rw [h.restart, if_neg (by decide)]
  split <;> exact ⟨rfl, h.speed, h.constant, h.loop⟩

theorem Runs.timer_clock (h : e.Runs speed constant loop) :
    e.clock.timer = e.timer.clock (speed.toNat + 1) (lower loop) := by
  unfold Envelope.clock
  rw [h.restart, if_neg (by decide)]
  split
  next counting =>
    have some : 0 < e.divider.toNat := counting
    have down : (e.divider - 1).toNat = e.divider.toNat - 1 := UInt8.toNat_sub_of_le _ _ some
    obtain ⟨left, whole⟩ := Nat.exists_eq_add_of_lt some
    simp only [timer, down, whole, Nat.zero_add, Nat.add_sub_cancel, Divider.clock_more]
  next out =>
    have none : e.divider.toNat = 0 := Nat.eq_zero_of_not_pos out
    simp only [timer, none, Nat.zero_add, Divider.clock_last, h.speed]
    rw [← h.loop]
    rfl

theorem runs_clock_of_restart (restarted : e.restart = true) :
    e.clock.Runs e.speed e.constant e.loop := by
  unfold Envelope.clock
  rw [if_pos restarted]
  exact ⟨rfl, rfl, rfl, rfl⟩

theorem timer_clock_of_restart (restarted : e.restart = true) :
    e.clock.timer = ⟨e.speed.toNat + 1, 15⟩ := by
  unfold Envelope.clock
  rw [if_pos restarted]
  rfl

/-- After a restart the level has gone down once for each full count of the divider. -/
theorem iterate_of_restart (restarted : e.restart = true) (n : Nat) :
    (clock^[n + 1] e).Runs e.speed e.constant e.loop ∧
      (clock^[n + 1] e).level = (lower e.loop)^[n / (e.speed.toNat + 1)] 15 := by
  obtain ⟨runs, timer⟩ := Divider.iterate_of_clock (fun _ => Runs.clock) (fun _ => Runs.timer_clock)
    (runs_clock_of_restart restarted) n
  have moved := Divider.moved_iterate (lower e.loop) e.speed.toNat.succ_pos
    (d := e.clock.timer) (Nat.succ_pos _) n
  rw [← timer, timer_clock_of_restart restarted, Divider.turns_self e.speed.toNat.succ_pos] at moved
  exact ⟨runs, moved⟩

theorem toNat_lower (loop : Bool) (level : UInt8) :
    (lower loop level).toNat =
      if level.toNat = 0 then (if loop then 15 else 0) else level.toNat - 1 := by
  unfold lower stepLevel
  dsimp only
  split
  next some =>
    have pos : 0 < level.toNat := some
    rw [if_neg pos.ne', UInt8.toNat_sub_of_le _ _ pos]
    rfl
  next none =>
    have zero : level.toNat = 0 := Nat.eq_zero_of_not_pos none
    rw [if_pos zero]
    split
    · rfl
    · exact zero

/-- The level after so many steps from the top, as a whole number. -/
theorem level_lowered (loop : Bool) (steps : Nat) :
    (((lower loop)^[steps] 15).toNat : Int) =
      if loop then (15 - steps : Int) % 16 else max 0 (15 - steps : Int) := by
  induction steps with
  | zero => cases loop <;> rfl
  | succ steps ih =>
      rw [Function.iterate_succ_apply', toNat_lower]
      generalize ((lower loop)^[steps] 15).toNat = level at ih ⊢
      cases loop with
      | false =>
          simp only [Bool.false_eq_true, if_false] at ih ⊢
          split <;> omega
      | true =>
          simp only [if_true] at ih ⊢
          split <;> omega

/-! ## Falling -/

/-- Nothing is pending or set that could raise the level. -/
structure Falls (e : Envelope) : Prop where
  restart : e.restart = false
  loop : e.loop = false

namespace Falls

variable (h : e.Falls)
include h

theorem level_clock_le : e.clock.level ≤ e.level := by
  unfold Envelope.clock stepLevel
  rw [h.restart, h.loop, if_neg (by decide)]
  split
  · exact UInt8.le_refl _
  · dsimp only
    split
    next some =>
      rw [UInt8.le_iff_toNat_le, UInt8.toNat_sub_of_le _ _ (show 1 ≤ e.level from some)]
      exact Nat.sub_le _ _
    next => exact UInt8.le_refl _

theorem obey {call : EnvelopeCall} (gentle : call.Gentle) :
    (e.obey call).Falls ∧ (e.obey call).level ≤ e.level := by
  cases call with
  | clock =>
      have runs : e.Runs e.speed e.constant false := ⟨h.restart, rfl, rfl, h.loop⟩
      exact ⟨⟨runs.clock.restart, runs.clock.loop⟩, h.level_clock_le⟩
  | write data =>
      have clear : (data &&& 0x20 != 0) = false := by
        rw [show data &&& 0x20 = 0 from gentle]
        rfl
      exact ⟨⟨h.restart, clear⟩, UInt8.le_refl _⟩
  | restart => exact gentle.elim

theorem levels_le {calls : List EnvelopeCall} (gentle : ∀ call ∈ calls, call.Gentle) :
    ∀ level ∈ e.levels calls, level ≤ e.level := by
  induction calls generalizing e with
  | nil =>
      intro level member
      rw [List.mem_singleton.mp member]
      exact UInt8.le_refl _
  | cons call calls ih =>
      obtain ⟨here, later⟩ := List.forall_mem_cons.mp gentle
      obtain ⟨falls, le⟩ := h.obey here
      refine List.forall_mem_cons.mpr ⟨UInt8.le_refl _, fun level found => ?_⟩
      exact UInt8.le_trans (ih falls later level found) le

theorem pairwise_levels {calls : List EnvelopeCall} (gentle : ∀ call ∈ calls, call.Gentle) :
    (e.levels calls).Pairwise (· ≥ ·) := by
  induction calls generalizing e with
  | nil => exact List.pairwise_singleton _ _
  | cons call calls ih =>
      obtain ⟨here, later⟩ := List.forall_mem_cons.mp gentle
      obtain ⟨falls, le⟩ := h.obey here
      refine List.pairwise_cons.mpr ⟨fun level found => ?_, ih falls later⟩
      exact UInt8.le_trans (falls.levels_le later level found) le

end Falls

/--
After a restart the number of clocks tells the level, and constant volume does
not hear it.  The level never rises while nothing restarts the envelope or lets
it loop, whatever is written.
-/
theorem decays_by_rate (e : Envelope) :
    (e.restart = true → ∀ n : Nat, 1 ≤ n →
      let steps : Nat := (n - 1) / (e.speed.toNat + 1)
      (((clock^[n] e).level.toNat : Int) =
          if e.loop then (15 - steps : Int) % 16 else max 0 (15 - steps : Int)) ∧
        (clock^[n] e).volume = if e.constant then e.speed else (clock^[n] e).level) ∧
      (e.Falls → ∀ calls : List EnvelopeCall, (∀ call ∈ calls, call.Gentle) →
        (e.levels calls).Pairwise (· ≥ ·)) := by
  refine ⟨fun restarted n some => ?_, fun falls calls => falls.pairwise_levels⟩
  obtain ⟨n, rfl⟩ := Nat.exists_eq_add_of_le' some
  obtain ⟨runs, level⟩ := iterate_of_restart restarted n
  refine ⟨?_, ?_⟩
  · rw [level, level_lowered, Nat.add_sub_cancel]
  · rw [volume, runs.constant, runs.speed]

/-- A looping envelope that has just come round, and one whose divider is rewritten in mid-count. -/
theorem decays_by_rate_looping :
    let looping : Envelope := { speed := 2, loop := true, restart := true }
    let falling : Envelope := { speed := 7, divider := 4, level := 2 }
    let calls : List EnvelopeCall := [.clock, .write 0x00, .clock, .clock, .clock, .clock,
      .write 0x1F, .clock, .write 0x01, .clock, .clock, .clock]
    looping.restart = true ∧ 1 ≤ 49 ∧ ((clock^[49] looping).level.toNat : Int) = 15 ∧
      falling.Falls ∧ (∀ call ∈ calls, call.Gentle) ∧
        (falling.levels calls).Pairwise (· ≥ ·) := by
  intro looping falling calls
  have falls : falling.Falls := ⟨rfl, rfl⟩
  have gentle : ∀ call ∈ calls, call.Gentle := by decide
  have level := ((decays_by_rate looping).1 rfl 49 (by decide)).1
  exact ⟨rfl, by decide, level.trans (by decide), falls, gentle,
    (decays_by_rate falling).2 falls calls gentle⟩

end Envelope

end ChipScribe
