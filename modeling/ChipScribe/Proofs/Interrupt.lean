import Mathlib.Data.List.Chain
import ChipScribe.Proofs.Separation
import ChipScribe.Proofs.RoundTrip

/-!
# The interrupt line

Two sources ask for an interrupt: the frame sequencer and the delta channel.
The line is up while either of them does, and each asks only while its register
lets it.  A host that follows the levels driven onto its bus always knows the
line, and after power or a load it hears of it only when it changes.
-/

namespace ChipScribe

/-! ## The two sources -/

/-- An inhibited sequencer does not ask. -/
def FrameSequencer.Lawful (f : FrameSequencer) : Prop :=
  f.irqPending = true → f.irqInhibit = false

/-- Only a sample that is to interrupt and does not loop asks at its end. -/
def Dmc.Lawful (d : Dmc) : Prop :=
  d.irqPending = true → d.irqEnable = true ∧ d.loop = false

namespace FrameSequencer.Lawful

variable {f : FrameSequencer}

theorem initial (r : Region) : (FrameSequencer.initial r).Lawful :=
  fun asks => absurd asks Bool.false_ne_true

theorem advance (h : f.Lawful) (r : Region) : (f.advance r).Lawful := by
  unfold FrameSequencer.advance
  split
  · exact h
  · dsimp only
    split
    · intro asks
      rcases Bool.or_eq_true_iff.mp asks with before | raised
      · exact h before
      · simp only [raisesIrq, Bool.and_eq_true, Bool.not_eq_true'] at raised
        exact raised.2
    · exact h

theorem write (f : FrameSequencer) (data : UInt8) : (f.write data).Lawful := by
  intro asks
  have open_now := (Bool.and_eq_true_iff.mp asks).2
  exact (Bool.not_eq_true' _).mp open_now

theorem clearIrq (f : FrameSequencer) : f.clearIrq.Lawful :=
  fun asks => absurd asks Bool.false_ne_true

end FrameSequencer.Lawful

namespace Dmc

variable {d e : Dmc}

/-- The channels agree on everything that bears on the interrupt. -/
structure SameIrq (d e : Dmc) : Prop where
  pending : e.irqPending = d.irqPending
  enable : e.irqEnable = d.irqEnable
  loop : e.loop = d.loop

theorem sameIrq_advance (d : Dmc) (r : Region) : d.SameIrq (d.advance r) := by
  unfold advance tickAge runTimer stepBit runDelay
  dsimp only
  repeat' split
  all_goals exact ⟨rfl, rfl, rfl⟩

theorem Lawful.congr (h : d.Lawful) (same : d.SameIrq e) : e.Lawful := by
  unfold Lawful
  rw [same.pending, same.enable, same.loop]
  exact h

theorem Lawful.initial (r : Region) : (Dmc.initial r).Lawful :=
  fun asks => absurd asks Bool.false_ne_true

theorem Lawful.advance (h : d.Lawful) (r : Region) : (d.advance r).Lawful :=
  h.congr (d.sameIrq_advance r)

theorem Lawful.clearIrq (d : Dmc) : d.clearIrq.Lawful :=
  fun asks => absurd asks Bool.false_ne_true

theorem Lawful.writeControl (d : Dmc) (data : UInt8) : (d.writeControl data).Lawful := by
  intro asks
  simp only [Dmc.writeControl, Bool.and_eq_true, Bool.not_eq_true'] at asks
  exact ⟨asks.1.2, asks.2⟩

/-- The last byte of a sample is the only one that asks. -/
theorem Lawful.finishByte (h : d.Lawful) : d.finishByte.Lawful := by
  unfold Dmc.finishByte
  split
  · exact h
  · split
    · exact h
    next once =>
      split
      next enabled => exact fun _ => ⟨enabled, Bool.eq_false_iff.mpr once⟩
      next => exact h

theorem Lawful.supply (h : d.Lawful) (data : UInt8) : (d.supply data).Lawful := by
  unfold Dmc.supply
  dsimp only
  split
  · exact h
  · exact Lawful.finishByte h

end Dmc

/-! ## The line -/

namespace Synth

structure Coherent (s : Synth) : Prop where
  line : s.irqLine = (s.frame.irqPending || s.dmc.irqPending)
  frame : s.frame.Lawful
  dmc : s.dmc.Lawful

namespace Coherent

variable {s : Synth}

/-- Settling the line makes it right again, whatever was done to the sources. -/
theorem settleIrq (frame : s.frame.Lawful) (dmc : s.dmc.Lawful) : s.settleIrq.Coherent :=
  ⟨rfl, frame, dmc⟩

theorem initial (r : Region) : (Synth.initial r).Coherent :=
  ⟨rfl, .initial r, .initial r⟩

/-- The frame signal lands on the four channels with length counters alone. -/
theorem clock (h : s.Coherent) : s.clock.Coherent := by
  have frame := h.frame.advance s.region
  have dmc := h.dmc.advance s.region
  unfold Synth.clock
  cases s.frame.signal <;> exact .settleIrq frame dmc

theorem writePulse (h : s.Coherent) (side : PulseSide) (f : Pulse → Pulse) :
    (s.writePulse side f).Coherent := by
  cases side <;> exact ⟨h.line, h.frame, h.dmc⟩

theorem write (h : s.Coherent) (register : Register) (data : UInt8) :
    (s.write register data).Coherent := by
  cases register with
  | pulseControl side => exact h.writePulse side (·.writeControl data _)
  | pulseSweep side => exact h.writePulse side (·.writeSweep data)
  | pulseTimerLow side => exact h.writePulse side (·.writeTimerLow data)
  | pulseTimerHigh side => exact h.writePulse side (·.writeTimerHigh data _)
  | dmcControl => exact .settleIrq h.frame (.writeControl s.dmc data)
  | status => exact .settleIrq h.frame (.clearIrq _)
  | frame => exact .settleIrq (.write s.frame data) h.dmc
  | _ => exact ⟨h.line, h.frame, h.dmc⟩

theorem operate (h : s.Coherent) (o : Operation) : (s.operate o).Coherent := by
  cases o with
  | power => exact .initial s.region
  | clock memory => exact h.clock
  | write address data =>
      simp only [Synth.operate]
      split
      · exact h.write _ data
      · exact h
  | read address openBus =>
      simp only [Synth.operate]
      split
      · exact .settleIrq (.clearIrq s.frame) h.dmc
      · exact h
  | supply data => exact .settleIrq h.frame (h.dmc.supply data)
  | _ => exact h

end Coherent

end Synth

/-- A load takes over all of another chip's audible half or nothing. -/
theorem Synth.Coherent.load {c other : Chip} (h : c.synth.Coherent) (saved : other.synth.Coherent) :
    (c.load other.snapshot.toJson).2.1.synth.Coherent := by
  rcases c.load_snapshot other with taken | refused
  · rw [taken]
    exact saved
  · rw [refused]
    exact h

theorem Reachable.coherent {c : Chip} (h : Reachable c) : c.synth.Coherent := by
  induction h with
  | new s => exact .initial s.region
  | operate o _ before =>
      rw [Chip.synth_operate]
      exact before.operate o
  | load _ _ here saved => exact here.load saved

/-! ## Runs with loads -/

/-- A call of a run that may also load snapshots. -/
inductive Call where
  | operate (o : Operation)
  | load (j : Json)

namespace Call

/-- Power and loads drive the line in any case; every other call leaves it to its level. -/
def settles : Call → Bool
  | .operate .power | .load _ => false
  | .operate _ => true

/-- What is loaded was saved by a chip that a host can come by. -/
def Saved : Call → Prop
  | .operate _ => True
  | .load j => ∃ other : Chip, Reachable other ∧ j = other.snapshot.toJson

end Call

namespace Chip

def call (c : Chip) : Call → Chip × Report
  | .operate o => ((c.operate o).1, (c.operate o).2.toReport)
  | .load j => (c.load j).2

def afterCalls (c : Chip) : List Call → Chip
  | [] => c
  | call :: rest => (c.call call).1.afterCalls rest

/-- The levels that the calls of a run drive onto the bus, in order. -/
def levels (c : Chip) : List Call → List Bool
  | [] => []
  | call :: rest => (c.call call).2.irq.toList ++ (c.call call).1.levels rest

theorem coherent_call {c : Chip} (h : c.synth.Coherent) {call : Call} (saved : call.Saved) :
    (c.call call).1.synth.Coherent := by
  cases call with
  | operate o =>
      simp only [Chip.call, synth_operate]
      exact h.operate o
  | load j =>
      obtain ⟨other, reached, rfl⟩ := saved
      exact h.load reached.coherent

theorem coherent_afterCalls {c : Chip} (h : c.synth.Coherent) {calls : List Call}
    (saved : ∀ call ∈ calls, call.Saved) : (c.afterCalls calls).synth.Coherent := by
  induction calls generalizing c with
  | nil => exact h
  | cons call calls ih =>
      have here := coherent_call h (saved call List.mem_cons_self)
      exact ih here fun call' member => saved call' (List.mem_cons_of_mem _ member)

/-- A call that leaves the line to its level drives it where it changes. -/
theorem irq_of_settles (c : Chip) {call : Call} (settles : call.settles = true) :
    (c.call call).2.irq =
      if (c.call call).1.synth.irqLine = c.synth.irqLine then none
      else some (c.call call).1.synth.irqLine := by
  cases call with
  | load j => cases settles
  | operate o =>
      have driven : (c.operate o).2.irq = c.synth.drive (c.operate o).1.synth := by
        rw [irq_operate, synth_operate]
        cases o with
        | power => cases settles
        | _ => rfl
      simp only [Chip.call, driven, Synth.drive, beq_iff_eq]
      simp only [eq_comm]

/-- Any call tells the host the new level, or leaves the line as it was. -/
theorem irq_call (c : Chip) (call : Call) :
    (c.call call).2.irq = some (c.call call).1.synth.irqLine ∨
      (c.call call).2.irq = none ∧ (c.call call).1.synth.irqLine = c.synth.irqLine := by
  cases settles : call.settles with
  | true =>
      rw [c.irq_of_settles settles]
      split
      next same => exact .inr ⟨rfl, same⟩
      next => exact .inl rfl
  | false =>
      cases call with
      | operate o =>
          cases o with
          | power => exact .inl rfl
          | _ => cases settles
      | load j =>
          simp only [Chip.call, load]
          split
          · exact .inl rfl
          · exact .inr ⟨rfl, rfl⟩

/-- The last level that a run drives is the one the line is left at. -/
theorem last_level (c : Chip) (calls : List Call) :
    (c.levels calls).getLast?.getD c.synth.irqLine = (c.afterCalls calls).synth.irqLine := by
  induction calls generalizing c with
  | nil => rfl
  | cons call calls ih =>
      rw [levels, afterCalls, ← ih (c.call call).1, List.getLast?_append]
      rcases c.irq_call call with told | ⟨silent, same⟩
      · rw [told]
        cases ((c.call call).1.levels calls).getLast? <;> rfl
      · rw [silent, same]
        cases ((c.call call).1.levels calls).getLast? <;> rfl

theorem levels_alternate (c : Chip) {calls : List Call}
    (settle : ∀ call ∈ calls, call.settles = true) :
    (c.synth.irqLine :: c.levels calls).IsChain (· ≠ ·) := by
  induction calls generalizing c with
  | nil => exact .singleton _
  | cons call calls ih =>
      have rest := ih (c.call call).1 fun call' member =>
        settle call' (List.mem_cons_of_mem _ member)
      rw [levels, c.irq_of_settles (settle call List.mem_cons_self)]
      split
      next same =>
        rw [same] at rest
        exact rest
      next changed => exact .cons_cons (Ne.symm changed) rest

/--
Wherever a run that began with power has led: the line is up while a source
asks, the host was last told so, each source asks only while it may, and up to
the next power or load the host is told of the changes alone.
-/
structure LineKept (told : List Bool) (c : Chip) : Prop where
  line : c.synth.irqLine = (c.synth.frame.irqPending || c.synth.dmc.irqPending)
  heard : told.getLast? = some c.synth.irqLine
  frame : c.synth.frame.irqPending = true → c.synth.frame.irqInhibit = false
  dmc : c.synth.dmc.irqPending = true → c.synth.dmc.irqEnable = true ∧ c.synth.dmc.loop = false
  changes {call : Call} : call.settles = true →
    c.levels [call] =
      if (c.call call).1.synth.irqLine = c.synth.irqLine then []
      else [(c.call call).1.synth.irqLine]
  alternate {later : List Call} : (∀ call ∈ later, call.settles = true) →
    (c.synth.irqLine :: c.levels later).IsChain (· ≠ ·)

theorem interrupt_line_kept (c : Chip) (calls : List Call) (saved : ∀ call ∈ calls, call.Saved) :
    let run := .operate .power :: calls
    LineKept (c.levels run) (c.afterCalls run) := by
  intro run
  have powered : (c.call (.operate .power)).1.synth.Coherent := .initial c.synth.region
  have coherent : (c.afterCalls run).synth.Coherent := coherent_afterCalls powered saved
  refine ⟨coherent.line, ?heard, coherent.frame, coherent.dmc, ?changes, levels_alternate _⟩
  case heard =>
    have last := (c.call (.operate .power)).1.last_level calls
    change ([_] ++ _ : List Bool).getLast? = some (Chip.synth (Chip.afterCalls _ calls)).irqLine
    rw [← last, List.getLast?_append]
    cases ((c.call (.operate .power)).1.levels calls).getLast? <;> rfl
  case changes =>
    intro call settles
    rw [levels, irq_of_settles _ settles]
    split <;> rfl

/-- A quiet chip takes over one that asks, and is asked for the status. -/
theorem interrupt_line_kept_over_load :
    let asking : Chip := (ofSettings { region := .pal }).after
      [.power, .write 0x4010 0x80, .write 0x4015 0x10, .supply 0]
    let calls : List Call :=
      [.operate (.write 0x4017 0x40), .load asking.snapshot.toJson, .operate (.read 0x4015 0)]
    let run := .operate .power :: calls
    (∀ call ∈ calls, call.Saved) ∧
      LineKept ((ofSettings {}).levels run) ((ofSettings {}).afterCalls run) := by
  intro asking calls run
  have reached : Reachable asking := .after (.new { region := .pal }) _
  have saved : ∀ call ∈ calls, call.Saved := by
    intro call member
    simp only [calls, List.mem_cons, List.not_mem_nil, or_false] at member
    rcases member with rfl | rfl | rfl
    · trivial
    · exact ⟨asking, reached, rfl⟩
    · trivial
  exact ⟨saved, interrupt_line_kept _ calls saved⟩

end Chip

end ChipScribe
