import ChipScribe.Proofs.HeldBack
import ChipScribe.Proofs.Separation
import ChipScribe.Proofs.Timetable

/-!
# The forecast of a half frame

A length write asks the sequencer whether the clock of its cycle will be a half
frame, and is held back past the clock if so.  The sequencer answers from its
counter and its step.  The answer is right as long as the clock goes on with the
sequence: each length counter then runs through the cycle as one that is told of
the half frame beforehand.  A clock that restarts the sequence is a half frame in
the five-step mode alone, whatever the answer was.
-/

namespace ChipScribe

/-! ## The sequencer's answer -/

namespace FrameSequencer

variable {f : FrameSequencer}

theorem InRange.after (h : f.InRange) (r : Region) (calls : List Call) :
    (after r f calls).InRange := by
  induction calls generalizing f with
  | nil => exact h
  | cons call calls ih =>
      cases call with
      | clock => exact ih (h.advance r)
      | write data => exact ih (h.write data)
      | clearIrq => exact ih h.clearIrq

/-- Where a sequence goes on, it answers rightly. -/
theorem lengthClocking_iff (known : f.step.toNat ≤ 5) (goesOn : f.restarting = false) :
    f.lengthClocking = true ↔ f.signal = .half := by
  have last : f.counter - 1 = 0 ↔ f.counter = 1 := by
    rw [UInt16.sub_eq_iff_eq_add, UInt16.zero_add]
  have half := stepSignal_eq_half known
  have one : f.step = 1 ↔ f.step.toNat = 1 := UInt8.toNat_inj.symm
  have four : f.step = 4 ↔ f.step.toNat = 4 := UInt8.toNat_inj.symm
  simp only [lengthClocking, signal, goesOn, Bool.false_eq_true, ↓reduceIte, beq_iff_eq,
    Bool.and_eq_true, Bool.or_eq_true, one, four, ← half, last]
  split
  next ends => simp [ends]
  next runs => simp [runs]

theorem signal_of_restarting (now : f.restarting = true) :
    f.signal = .half ↔ f.fiveStep = true := by
  rw [(restarts_of_restarting .ntsc now).signal]
  cases f.fiveStep <;> simp

/-- The clock that ends the second step since power is a half frame. -/
theorem first_half (r : Region) {n : Nat} (last : n + 1 = r.stepEnd false 1) :
    let f := after r (initial r) (List.replicate n .clock)
    f.restarting = false ∧ f.signal = .half := by
  intro f
  have quiet : ∀ call ∈ List.replicate n Call.clock, call.writes = false := by
    intro call member
    rw [List.eq_of_mem_replicate member]
    rfl
  have mode : f.fiveStep = false := (mode_after quiet r (initial r)).1
  have follows := (follows_initial r).after quiet
  rw [clocks, List.count_replicate_self, Nat.zero_add] at follows
  have timely := follows.keepsTimetable.timely (Nat.succ_pos n)
  refine ⟨timely.goesOn, timely.half.mpr (.inl ?_)⟩
  rw [mode, Nat.sub_zero, last]

end FrameSequencer

/-! ## The length counters of the chip -/

namespace LengthCounter

/-- The channels that have a length counter. -/
inductive Owner where
  | pulse (side : PulseSide)
  | triangle
  | noise
  deriving DecidableEq, Repr

/-- The bit of the channel in the status register. -/
def Owner.statusBit : Owner → UInt8
  | .pulse .first => 0x01
  | .pulse .second => 0x02
  | .triangle => 0x04
  | .noise => 0x08

end LengthCounter

open LengthCounter

/-- What a write to a register means to the length counter of a channel, if anything. -/
def Register.access? (data : UInt8) (o : Owner) : Register → Option LengthCounter.Access
  | .pulseControl side => if o = .pulse side then some (.halt (data &&& 0x20 != 0)) else none
  | .pulseTimerHigh side => if o = .pulse side then some (.index (data >>> 3)) else none
  | .triangleLinear => if o = .triangle then some (.halt (data &&& 0x80 != 0)) else none
  | .triangleTimerHigh => if o = .triangle then some (.index (data >>> 3)) else none
  | .noiseControl => if o = .noise then some (.halt (data &&& 0x20 != 0)) else none
  | .noiseLength => if o = .noise then some (.index (data >>> 3)) else none
  | .status => some (.switch (data &&& o.statusBit != 0))
  | _ => none

namespace Operation

def accesses (o : Owner) : Operation → List LengthCounter.Access
  | .write address data => ((Register.ofAddress? address).bind (·.access? data o)).toList
  | _ => []

/-- Calls that a host may make between two clocks; power starts everything over. -/
def withinCycle : Operation → Bool
  | .power | .clock _ => false
  | _ => true

end Operation

namespace Synth

def counter (s : Synth) : Owner → LengthCounter
  | .pulse .first => s.pulse1.length
  | .pulse .second => s.pulse2.length
  | .triangle => s.triangle.length
  | .noise => s.noise.length

variable {s : Synth} {o : Owner}

theorem counter_write (s : Synth) (register : Register) (data : UInt8) (o : Owner) :
    (s.write register data).counter o =
      (register.access? data o).toList.foldl (access s.frame.lengthClocking) (s.counter o) := by
  rcases o with (_ | _) | _ | _ <;>
    rcases register with (_ | _) | (_ | _) | (_ | _) | (_ | _) | _ | _ | _ | _ | _ | _ | _ | _ |
      _ | _ | _ | _ <;> rfl

theorem counter_acknowledge (s : Synth) (o : Owner) : s.acknowledge.counter o = s.counter o := by
  rcases o with (_ | _) | _ | _ <;> rfl

theorem counter_supply (s : Synth) (data : UInt8) (o : Owner) :
    (s.supply data).counter o = s.counter o := by
  rcases o with (_ | _) | _ | _ <;> rfl

theorem length_advancePulse (p : Pulse) : p.advance.length = p.length := by
  unfold Pulse.advance
  repeat' split
  all_goals rfl

theorem length_advanceTriangle (t : Triangle) : t.advance.length = t.length := by
  unfold Triangle.advance
  repeat' split
  all_goals rfl

theorem length_advanceNoise (n : Noise) (r : Region) : (n.advance r).length = n.length := by
  unfold Noise.advance
  repeat' split
  all_goals rfl

/-- A clock counts the half frame it meets and then makes the writes that were held back. -/
theorem counter_clock (s : Synth) (o : Owner) :
    s.clock.counter o = ((s.counter o).clockIf (s.frame.signal == .half)).commit := by
  have advanced : s.advance.counter o = s.counter o := by
    rcases o with (_ | _) | _ | _
    · exact length_advancePulse s.pulse1
    · exact length_advancePulse s.pulse2
    · exact length_advanceTriangle s.triangle
    · exact length_advanceNoise s.noise s.region
  rw [← advanced]
  unfold clock
  cases s.frame.signal <;> rcases o with (_ | _) | _ | _ <;> rfl

theorem counter_operate (s : Synth) {op : Operation} (within : op.withinCycle = true)
    (o : Owner) :
    (s.operate op).counter o =
      (op.accesses o).foldl (access s.frame.lengthClocking) (s.counter o) := by
  cases op with
  | power | clock => cases within
  | write address data =>
      simp only [operate, Operation.accesses]
      cases Register.ofAddress? address with
      | some register => exact s.counter_write register data o
      | none => rfl
  | read address openBus =>
      simp only [operate]
      split
      · exact s.counter_acknowledge o
      · rfl
  | supply data => exact s.counter_supply data o
  | _ => rfl

/-- Only a clock or power moves the sequencer on; a write to it waits for the clock. -/
theorem standing_operate (s : Synth) {op : Operation} (within : op.withinCycle = true) :
    (s.operate op).frame.step = s.frame.step ∧ (s.operate op).frame.counter = s.frame.counter := by
  cases op with
  | power | clock => cases within
  | write address data =>
      simp only [operate]
      split
      next register _ =>
        rcases register with (_ | _) | (_ | _) | (_ | _) | (_ | _) | _ | _ | _ | _ | _ | _ | _ |
          _ | _ | _ | _ | _ <;> exact ⟨rfl, rfl⟩
      next => exact ⟨rfl, rfl⟩
  | read address openBus =>
      simp only [operate]
      split <;> exact ⟨rfl, rfl⟩
  | _ => exact ⟨rfl, rfl⟩

section Within

variable {ops : List Operation} (within : ∀ op ∈ ops, op.withinCycle = true)
include within

theorem standing_after (s : Synth) :
    (s.after ops).frame.step = s.frame.step ∧ (s.after ops).frame.counter = s.frame.counter := by
  induction ops generalizing s with
  | nil => exact ⟨rfl, rfl⟩
  | cons op ops ih =>
      obtain ⟨here, later⟩ := List.forall_mem_cons.mp within
      obtain ⟨step, counter⟩ := s.standing_operate here
      obtain ⟨step', counter'⟩ := ih later (s.operate op)
      exact ⟨step'.trans step, counter'.trans counter⟩

theorem lengthClocking_after (s : Synth) :
    (s.after ops).frame.lengthClocking = s.frame.lengthClocking := by
  obtain ⟨step, counter⟩ := s.standing_after within
  rw [FrameSequencer.lengthClocking, step, counter]
  rfl

/-- All length writes of a cycle get the same answer. -/
theorem counter_after (s : Synth) (o : Owner) :
    (s.after ops).counter o =
      (ops.flatMap (·.accesses o)).foldl (access s.frame.lengthClocking) (s.counter o) := by
  induction ops generalizing s with
  | nil => rfl
  | cons op ops ih =>
      obtain ⟨here, later⟩ := List.forall_mem_cons.mp within
      have same : (s.after [op]).frame.lengthClocking = s.frame.lengthClocking :=
        s.lengthClocking_after (by simpa using here)
      rw [List.flatMap_cons, List.foldl_append, ← s.counter_operate here, ← same]
      exact ih later (s.operate op)

/-- Through a cycle whose clock goes on, a counter runs as one told of the half frame. -/
theorem counter_cycle (known : s.frame.step.toNat ≤ 5)
    (goesOn : (s.after ops).frame.restarting = false) (o : Owner) :
    (s.after ops).clock.counter o =
      (s.counter o).cycle ⟨(s.after ops).frame.signal == .half, ops.flatMap (·.accesses o)⟩ := by
  have known' : (s.after ops).frame.step.toNat ≤ 5 := by
    rwa [(s.standing_after within).1]
  have answer : s.frame.lengthClocking = ((s.after ops).frame.signal == .half) := by
    rw [← s.lengthClocking_after within, Bool.eq_iff_iff, beq_iff_eq]
    exact FrameSequencer.lengthClocking_iff known' goesOn
  rw [counter_clock, s.counter_after within, cycle, answer]

end Within

/-- What the answer of the sequencer is worth to a cycle with the calls `ops` before its clock. -/
structure Foretold (s : Synth) (ops : List Operation) : Prop where
  answer : (s.after ops).frame.restarting = false →
    ((s.after ops).frame.lengthClocking = true ↔ (s.after ops).frame.signal = .half)
  held (o : Owner) : (s.after ops).frame.restarting = false →
    (s.after ops).clock.counter o =
      (s.counter o).cycle ⟨(s.after ops).frame.signal == .half, ops.flatMap (·.accesses o)⟩
  restart : (s.after ops).frame.restarting = true →
    ((s.after ops).frame.signal = .half ↔ (s.after ops).frame.fiveStep = true)
  overtaken (o : Owner) : (s.after ops).frame.restarting = true →
    (s.after ops).clock.counter o =
      (((ops.flatMap (·.accesses o)).foldl (access s.frame.lengthClocking) (s.counter o)).clockIf
        (s.after ops).frame.fiveStep).commit

/-- The answer is right for every sequencer since power, but for the clocks that restart it. -/
theorem half_frame_foretold {s : Synth} {calls : List FrameSequencer.Call}
    (reached : s.frame = FrameSequencer.after s.region (.initial s.region) calls)
    {ops : List Operation} (within : ∀ op ∈ ops, op.withinCycle = true) : s.Foretold ops := by
  have range : s.frame.InRange := by
    rw [reached]
    exact (FrameSequencer.InRange.initial s.region).after s.region calls
  have known : s.frame.step.toNat ≤ 5 := UInt8.le_iff_toNat_le.mp range.step
  have known' : (s.after ops).frame.step.toNat ≤ 5 := by
    rwa [(s.standing_after within).1]
  refine ⟨FrameSequencer.lengthClocking_iff known', fun o goesOn => ?held,
    FrameSequencer.signal_of_restarting, fun o now => ?overtaken⟩
  case held => exact counter_cycle within known goesOn o
  case overtaken =>
    have half : ((s.after ops).frame.signal == .half) = (s.after ops).frame.fiveStep := by
      rw [Bool.eq_iff_iff, beq_iff_eq]
      exact FrameSequencer.signal_of_restarting now
    rw [counter_clock, s.counter_after within, half]

/-- A load on the first half frame since power lands after it. -/
theorem half_frame_foretold_in_time :
    let s : Synth := { Synth.initial .ntsc with
      frame := FrameSequencer.after .ntsc (.initial .ntsc) (List.replicate 14912 .clock) }
    let ops : List Operation := [.write 0x4015 0x01, .write 0x4003 0x00]
    (∀ op ∈ ops, op.withinCycle = true) ∧ s.Foretold ops ∧
      (s.after ops).frame.lengthClocking = true ∧
      ((s.after ops).clock.counter (.pulse .first)).count = 10 := by
  -- the sequencer is named, as 14912 clocks are too many to compute
  obtain ⟨goesOn, half⟩ := FrameSequencer.first_half .ntsc (n := 14912) rfl
  generalize reached :
    FrameSequencer.after .ntsc (.initial .ntsc) (List.replicate 14912 .clock) = f at goesOn half ⊢
  intro s ops
  have within : ∀ op ∈ ops, op.withinCycle = true := by
    simp [ops, Operation.withinCycle]
  have foretold : s.Foretold ops := half_frame_foretold (s := s) reached.symm within
  have standing : (s.after ops).frame = f := rfl
  have counted := foretold.held (.pulse .first) (standing ▸ goesOn)
  rw [standing, half] at counted
  refine ⟨within, foretold, (foretold.answer (standing ▸ goesOn)).mpr (standing ▸ half), ?_⟩
  rw [counted]
  rfl

/-- The half frame of a restart comes unannounced, and the load before it is counted at once. -/
theorem restart_unforetold :
    let s := (Synth.initial .ntsc).after
      [.write 0x4017 0x80, .write 0x4015 0x01, .write 0x4003 0x00]
    s.frame = FrameSequencer.after .ntsc (.initial .ntsc) [.write 0x80] ∧
      s.frame.lengthClocking = false ∧ s.frame.signal = .half ∧
      (s.clock.counter (.pulse .first)).count = 9 := by
  decide

end Synth

end ChipScribe
