import ChipScribe.Synth

/-!
# The ranges of the registers

Every counter and latch of the audible half keeps to the width it has on the
chip, whatever is written and however often the chip is clocked.  Each unit has
a range of its own that its operations keep, and the ranges together are kept by
the operations of the whole.
-/

namespace ChipScribe

/-! ## The shared units -/

/-- A disabled counter is empty. -/
structure LengthCounter.InRange (c : LengthCounter) : Prop where
  idle : c.enabled = false → c.count = 0

namespace LengthCounter.InRange

variable {c : LengthCounter}

theorem clock (h : c.InRange) : c.clock.InRange := by
  unfold LengthCounter.clock
  split
  next runs =>
    simp only [Bool.and_eq_true] at runs
    refine ⟨fun off => ?_⟩
    exact absurd (off.symm.trans runs.1.2) Bool.false_ne_true
  next => exact h

theorem load (h : c.InRange) (index : UInt8) : (c.load index).InRange := by
  unfold LengthCounter.load
  split
  next on =>
    refine ⟨fun off => ?_⟩
    exact absurd (off.symm.trans on) Bool.false_ne_true
  next => exact h

theorem setEnabled (c : LengthCounter) (enabled : Bool) : (c.setEnabled enabled).InRange := by
  cases enabled with
  | false => exact ⟨fun _ => rfl⟩
  | true => exact ⟨fun off => absurd off (by simp)⟩

theorem writeHalt (h : c.InRange) (clocking halt : Bool) : (c.writeHalt clocking halt).InRange := by
  unfold LengthCounter.writeHalt
  split <;> exact ⟨h.idle⟩

theorem writeIndex (h : c.InRange) (clocking : Bool) (index : UInt8) :
    (c.writeIndex clocking index).InRange := by
  unfold LengthCounter.writeIndex
  split
  · exact h
  · split
    · exact ⟨h.idle⟩
    · exact h.load index

theorem commitHalt (h : c.InRange) : c.commitHalt.InRange := by
  unfold LengthCounter.commitHalt
  split <;> exact ⟨h.idle⟩

theorem commit (h : c.InRange) : c.commit.InRange := by
  have halted := h.commitHalt
  unfold LengthCounter.commit LengthCounter.commitLoad
  split
  · have landed : ({ c.commitHalt with loadPending := false }).InRange := ⟨halted.idle⟩
    exact landed.load _
  · exact halted

end LengthCounter.InRange

structure Envelope.InRange (e : Envelope) : Prop where
  speed : e.speed ≤ 15
  divider : e.divider ≤ 15
  level : e.level ≤ 15

namespace Envelope.InRange

variable {e : Envelope}

theorem stepLevel (h : e.InRange) : e.stepLevel ≤ 15 := by
  have level := h.level
  unfold Envelope.stepLevel
  split
  · grind
  · split
    · decide
    · exact level

theorem clock (h : e.InRange) : e.clock.InRange := by
  have divider := h.divider
  unfold Envelope.clock
  split
  · exact ⟨h.speed, h.speed, (by decide : (15 : UInt8) ≤ 15)⟩
  · split
    · exact ⟨h.speed, by grind, h.level⟩
    · exact ⟨h.speed, h.speed, h.stepLevel⟩

theorem write (h : e.InRange) (data : UInt8) : (e.write data).InRange where
  speed := UInt8.and_le_right
  divider := h.divider
  level := h.level

theorem restart (h : e.InRange) : ({ e with restart := true }).InRange :=
  ⟨h.speed, h.divider, h.level⟩

theorem volume (h : e.InRange) : e.volume ≤ 15 := by
  unfold Envelope.volume
  split
  · exact h.speed
  · exact h.level

end Envelope.InRange

/-! ## Eleven-bit timers -/

private theorem word_or_le {x y : UInt16} (left : x ≤ 0x7FF) (right : y ≤ 0x7FF) :
    x ||| y ≤ 0x7FF := by
  have below : x.toNat ||| y.toNat < 2048 :=
    Nat.or_lt_two_pow (n := 11) (Nat.lt_succ_of_le left) (Nat.lt_succ_of_le right)
  have joined : (x ||| y).toNat = x.toNat ||| y.toNat := UInt16.toNat_or x y
  change (x ||| y).toNat ≤ 2047
  omega

theorem timerLow_le (timer : UInt16) (data : UInt8) :
    (timer &&& (0x0700 : UInt16)) ||| data.toUInt16 ≤ 0x7FF := by
  have high : timer &&& (0x0700 : UInt16) ≤ 0x0700 := UInt16.and_le_right
  have low : data.toUInt16.toNat ≤ 255 := by
    rw [UInt8.toNat_toUInt16]
    exact Nat.le_of_lt_succ data.toNat_lt
  apply word_or_le
  · exact UInt16.le_trans high (by decide)
  · change data.toUInt16.toNat ≤ 2047
    omega

theorem timerHigh_le (timer : UInt16) (data : UInt8) :
    (timer &&& (0x00FF : UInt16)) ||| ((data &&& 7).toUInt16 <<< 8) ≤ 0x7FF := by
  have low : timer &&& (0x00FF : UInt16) ≤ 0x00FF := UInt16.and_le_right
  have table : ∀ n : Fin 8, (UInt8.ofNat n).toUInt16 <<< 8 ≤ 0x7FF := by decide
  have three : (data &&& 7).toNat < 8 := Nat.lt_succ_of_le (UInt8.and_le_right (a := data) (b := 7))
  apply word_or_le
  · exact UInt16.le_trans low (by decide)
  · have here := table ⟨(data &&& 7).toNat, three⟩
    rwa [UInt8.ofNat_toNat] at here

/-- A countdown that has not run out keeps within its reload value. -/
private theorem countdown_le {x top : UInt16} (range : 1 ≤ x ∧ x ≤ top)
    (runs : ¬ (x - 1 == 0) = true) : 1 ≤ x - 1 ∧ x - 1 ≤ top := by
  grind

structure Sweep.InRange (s : Sweep) : Prop where
  shift : s.shift ≤ 7
  period : s.period ≤ 7
  divider : 1 ≤ s.divider ∧ s.divider ≤ 8
  timer : s.timer ≤ 0x7FF

namespace Sweep.InRange

variable {s : Sweep}

theorem write (h : s.InRange) (data : UInt8) : (s.write data).InRange where
  shift := UInt8.and_le_right
  period := UInt8.and_le_right
  divider := h.divider
  timer := h.timer

theorem withTimer (h : s.InRange) {timer : UInt16} (range : timer ≤ 0x7FF) :
    ({ s with timer := timer }).InRange :=
  ⟨h.shift, h.period, h.divider, range⟩

theorem withDivider (h : s.InRange) {divider : UInt8} (range : 1 ≤ divider ∧ divider ≤ 8) :
    ({ s with divider := divider }).InRange :=
  ⟨h.shift, h.period, range, h.timer⟩

theorem reloaded (h : s.InRange) : 1 ≤ s.period + 1 ∧ s.period + 1 ≤ 8 := by
  have period := h.period
  grind

theorem update (h : s.InRange) (side : PulseSide) : (s.update side).InRange := by
  unfold Sweep.update
  split
  · exact h.withTimer UInt16.and_le_right
  · exact h

theorem clock (h : s.InRange) (side : PulseSide) : (s.clock side).InRange := by
  have ticked : (if s.divider - 1 == 0 then { s.update side with divider := s.period + 1 }
      else { s with divider := s.divider - 1 }).InRange := by
    have divider := h.divider
    split
    · exact (h.update side).withDivider h.reloaded
    · exact h.withDivider (by grind)
  unfold Sweep.clock
  dsimp only
  split
  · exact ⟨ticked.shift, ticked.period, h.reloaded, ticked.timer⟩
  · exact ticked

end Sweep.InRange

/-! ## The channels -/

structure Pulse.InRange (p : Pulse) : Prop where
  length : p.length.InRange
  envelope : p.envelope.InRange
  sweep : p.sweep.InRange
  duty : p.duty ≤ 3
  countdown : 1 ≤ p.countdown ∧ p.countdown ≤ 4096

namespace Pulse.InRange

variable {p : Pulse}

theorem initial : ({} : Pulse).InRange := by
  refine ⟨⟨fun _ => rfl⟩, ⟨?_, ?_, ?_⟩, ⟨?_, ?_, ?_, ?_⟩, ?_, ?_⟩ <;> decide

theorem reloaded (h : p.InRange) :
    1 ≤ (p.sweep.timer + 1) * 2 ∧ (p.sweep.timer + 1) * 2 ≤ 4096 := by
  have timer := h.sweep.timer
  grind

theorem advance (h : p.InRange) : p.advance.InRange := by
  unfold Pulse.advance
  split
  · exact h
  · split
    · exact { h with countdown := h.reloaded }
    next runs => exact { h with countdown := countdown_le h.countdown runs }

theorem clockQuarter (h : p.InRange) : p.clockQuarter.InRange :=
  { h with envelope := h.envelope.clock }

theorem clockHalf (h : p.InRange) (side : PulseSide) : (p.clockHalf side).InRange :=
  { h with length := h.length.clock, sweep := h.sweep.clock side }

theorem commit (h : p.InRange) : p.commit.InRange :=
  { h with length := h.length.commit }

theorem setEnabled (h : p.InRange) (enabled : Bool) : (p.setEnabled enabled).InRange :=
  { h with length := .setEnabled p.length enabled }

theorem writeControl (h : p.InRange) (data : UInt8) (clocking : Bool) :
    (p.writeControl data clocking).InRange := by
  have duty : (data >>> 6).toNat ≤ 3 := by
    have bound := data.toNat_lt
    have shifted : (data >>> 6).toNat = data.toNat >>> 6 := rfl
    rw [shifted, Nat.shiftRight_eq_div_pow]
    omega
  exact { h with
    envelope := h.envelope.write data, length := h.length.writeHalt clocking _, duty := duty }

theorem writeSweep (h : p.InRange) (data : UInt8) : (p.writeSweep data).InRange :=
  { h with sweep := h.sweep.write data }

theorem writeTimerLow (h : p.InRange) (data : UInt8) : (p.writeTimerLow data).InRange :=
  { h with sweep := h.sweep.withTimer (timerLow_le p.sweep.timer data) }

theorem writeTimerHigh (h : p.InRange) (data : UInt8) (clocking : Bool) :
    (p.writeTimerHigh data clocking).InRange :=
  { h with
    sweep := h.sweep.withTimer (timerHigh_le p.sweep.timer data)
    envelope := h.envelope.restart
    length := h.length.writeIndex clocking _ }

end Pulse.InRange

structure Triangle.InRange (t : Triangle) : Prop where
  length : t.length.InRange
  timer : t.timer ≤ 0x7FF
  countdown : 1 ≤ t.countdown ∧ t.countdown ≤ 2048
  step : t.step ≤ 31

namespace Triangle.InRange

variable {t : Triangle}

theorem initial : ({} : Triangle).InRange := by
  refine ⟨⟨fun _ => rfl⟩, ?_, ?_, ?_⟩ <;> decide

theorem reloaded (h : t.InRange) : 1 ≤ t.timer + 1 ∧ t.timer + 1 ≤ 2048 := by
  have timer := h.timer
  grind

theorem advance (h : t.InRange) : t.advance.InRange := by
  unfold Triangle.advance
  split
  · exact h
  · split
    · exact { h with step := UInt8.and_le_right, countdown := h.reloaded }
    next runs => exact { h with countdown := countdown_le h.countdown runs }

theorem clockQuarter (h : t.InRange) : t.clockQuarter.InRange :=
  { h with }

theorem clockHalf (h : t.InRange) : t.clockHalf.InRange :=
  { h with length := h.length.clock }

theorem commit (h : t.InRange) : t.commit.InRange :=
  { h with length := h.length.commit }

theorem setEnabled (h : t.InRange) (enabled : Bool) : (t.setEnabled enabled).InRange :=
  { h with length := .setEnabled t.length enabled }

theorem writeLinear (h : t.InRange) (data : UInt8) (clocking : Bool) :
    (t.writeLinear data clocking).InRange :=
  { h with length := h.length.writeHalt clocking _ }

theorem writeTimerLow (h : t.InRange) (data : UInt8) : (t.writeTimerLow data).InRange :=
  { h with timer := timerLow_le t.timer data }

theorem writeTimerHigh (h : t.InRange) (data : UInt8) (clocking : Bool) :
    (t.writeTimerHigh data clocking).InRange :=
  { h with timer := timerHigh_le t.timer data, length := h.length.writeIndex clocking _ }

end Triangle.InRange

/-! ## Periods of the regions -/

namespace Region

theorem noisePeriod_le (r : Region) (index : UInt8) :
    1 ≤ r.noisePeriod index ∧ r.noisePeriod index ≤ 4068 := by
  have table : ∀ i : Fin 16, 1 ≤ r.noisePeriods[i] ∧ r.noisePeriods[i] ≤ 4068 := by
    cases r <;> decide
  exact table ⟨index.toNat % 16, lowBits_lt index⟩

theorem dmcPeriod_le (r : Region) (index : UInt8) :
    1 ≤ r.dmcPeriod index ∧ r.dmcPeriod index ≤ 428 := by
  have table : ∀ i : Fin 16, 1 ≤ r.dmcPeriods[i] ∧ r.dmcPeriods[i] ≤ 428 := by
    cases r <;> decide
  exact table ⟨index.toNat % 16, lowBits_lt index⟩

theorem framePeriod_le (r : Region) (fiveStep : Bool) (step : UInt8) :
    1 ≤ r.framePeriod fiveStep step ∧ r.framePeriod fiveStep step ≤ 8320 := by
  have table : ∀ i : Fin 6, 1 ≤ (r.framePeriods fiveStep)[i] ∧
      (r.framePeriods fiveStep)[i] ≤ 8320 := by
    cases r <;> cases fiveStep <;> decide
  exact table ⟨min step.toNat 5, by omega⟩

end Region

/-! ## The shift register -/

namespace Noise

theorem feedback_le (shortMode : Bool) (shift : UInt16) : feedback shortMode shift ≤ 1 :=
  UInt16.and_le_right

/-- A register that holds only its lowest bit feeds that bit back. -/
theorem feedback_one (shortMode : Bool) : feedback shortMode 1 = 1 := by
  cases shortMode <;> decide

private theorem halve_toNat (shift : UInt16) : (shift >>> 1).toNat = shift.toNat / 2 := by
  have shifted : (shift >>> 1).toNat = shift.toNat >>> 1 := rfl
  rw [shifted, Nat.shiftRight_eq_div_pow]

theorem stepShift_pos (shortMode : Bool) {shift : UInt16} (range : 1 ≤ shift) :
    1 ≤ stepShift shortMode shift := by
  have joined : (stepShift shortMode shift).toNat =
      (shift >>> 1).toNat ||| (feedback shortMode shift <<< 14).toNat := UInt16.toNat_or _ _
  change 1 ≤ (stepShift shortMode shift).toNat
  by_cases low : shift = 1
  · subst low
    rw [joined, feedback_one]
    decide
  · -- another bit is left after the shift
    have some : 1 ≤ (shift >>> 1).toNat := by
      have pos : 1 ≤ shift.toNat := range
      have other : shift.toNat ≠ 1 := fun eq => low (UInt16.toNat_inj.mp eq)
      rw [halve_toNat]
      omega
    rw [joined]
    exact Nat.le_trans some Nat.left_le_or

theorem stepShift_le (shortMode : Bool) {shift : UInt16} (range : shift ≤ 0x7FFF) :
    stepShift shortMode shift ≤ 0x7FFF := by
  have joined : (stepShift shortMode shift).toNat =
      (shift >>> 1).toNat ||| (feedback shortMode shift <<< 14).toNat := UInt16.toNat_or _ _
  have top : (feedback shortMode shift <<< 14).toNat < 32768 := by
    have bit : feedback shortMode shift = 0 ∨ feedback shortMode shift = 1 := by
      have bound := feedback_le shortMode shift
      grind
    rcases bit with bit | bit <;> rw [bit] <;> decide
  have rest : (shift >>> 1).toNat < 32768 := by
    have bound : shift.toNat ≤ 0x7FFF := range
    rw [halve_toNat]
    omega
  change (stepShift shortMode shift).toNat ≤ 0x7FFF
  rw [joined]
  exact Nat.le_of_lt_succ (Nat.or_lt_two_pow (n := 15) rest top)

structure InRange (n : Noise) : Prop where
  length : n.length.InRange
  envelope : n.envelope.InRange
  countdown : 1 ≤ n.countdown ∧ n.countdown ≤ 4068
  shift : 1 ≤ n.shift ∧ n.shift ≤ 0x7FFF

namespace InRange

variable {n : Noise}

theorem initial : ({} : Noise).InRange := by
  refine ⟨⟨fun _ => rfl⟩, ⟨?_, ?_, ?_⟩, ?_, ?_⟩ <;> decide

theorem advance (h : n.InRange) (r : Region) : (n.advance r).InRange := by
  unfold Noise.advance
  split
  · exact h
  · split
    · exact { h with
        shift := ⟨stepShift_pos _ h.shift.1, stepShift_le _ h.shift.2⟩
        countdown := r.noisePeriod_le n.period }
    next runs => exact { h with countdown := countdown_le h.countdown runs }

theorem clockQuarter (h : n.InRange) : n.clockQuarter.InRange :=
  { h with envelope := h.envelope.clock }

theorem clockHalf (h : n.InRange) : n.clockHalf.InRange :=
  { h with length := h.length.clock }

theorem commit (h : n.InRange) : n.commit.InRange :=
  { h with length := h.length.commit }

theorem setEnabled (h : n.InRange) (enabled : Bool) : (n.setEnabled enabled).InRange :=
  { h with length := .setEnabled n.length enabled }

theorem writeControl (h : n.InRange) (data : UInt8) (clocking : Bool) :
    (n.writeControl data clocking).InRange :=
  { h with envelope := h.envelope.write data, length := h.length.writeHalt clocking _ }

theorem writePeriod (h : n.InRange) (data : UInt8) : (n.writePeriod data).InRange :=
  { h with }

theorem writeLength (h : n.InRange) (data : UInt8) (clocking : Bool) :
    (n.writeLength data clocking).InRange :=
  { h with envelope := h.envelope.restart, length := h.length.writeIndex clocking _ }

end InRange

end Noise

/-! ## The delta channel -/

namespace Dmc

theorem stepLevel_le {level : UInt8} (range : level ≤ 127) (bit : Bool) :
    stepLevel level bit ≤ 127 := by
  unfold stepLevel
  split
  · split
    · grind
    · exact range
  · split
    · grind
    · exact range

theorem lengthShifted_toNat (d : Dmc) :
    (d.lengthLatch.toUInt16 <<< 4).toNat = d.lengthLatch.toNat * 16 := by
  have latch := d.lengthLatch.toNat_lt
  rw [UInt16.toNat_shiftLeft, UInt8.toNat_toUInt16, Nat.shiftLeft_eq]
  change d.lengthLatch.toNat * 16 % 65536 = _
  omega

theorem sampleLength_toNat (d : Dmc) : d.sampleLength.toNat = d.lengthLatch.toNat * 16 + 1 := by
  have latch := d.lengthLatch.toNat_lt
  rw [sampleLength, UInt16.toNat_add, lengthShifted_toNat]
  change (d.lengthLatch.toNat * 16 + 1) % 65536 = _
  omega

structure InRange (d : Dmc) : Prop where
  remaining : d.remaining ≤ 4081
  countdown : 1 ≤ d.countdown ∧ d.countdown ≤ 428
  level : d.level ≤ 127
  cursor : d.cursor ≤ 0x7FFF
  bit : d.bit ≤ 7
  startDelay : d.startDelay ≤ 3

namespace InRange

variable {d : Dmc}

theorem initial (r : Region) : (Dmc.initial r).InRange := by
  refine ⟨?_, r.dmcPeriod_le 0, ?_, ?_, ?_, ?_⟩ <;> cases r <;> decide

theorem rewind (h : d.InRange) : d.rewind.InRange := by
  have length : d.sampleLength ≤ 4081 := by
    have latch := d.lengthLatch.toNat_lt
    have bytes := d.sampleLength_toNat
    change d.sampleLength.toNat ≤ 4081
    omega
  exact { h with remaining := length, cursor := UInt16.and_le_right }

theorem primeDelay (h : d.InRange) : d.primeDelay ≤ 3 := by
  unfold Dmc.primeDelay
  split
  · exact h.startDelay
  · split <;> decide

theorem start (h : d.InRange) : d.start.InRange := by
  unfold Dmc.start
  split
  · exact h
  · exact { h.rewind with startDelay := h.primeDelay }

theorem stop (h : d.InRange) : d.stop.InRange :=
  { h with remaining := (by decide : (0 : UInt16) ≤ 4081) }

theorem stepBit (h : d.InRange) (r : Region) : (d.stepBit r).InRange := by
  have level : (if d.shifting then stepLevel d.level d.currentBit else d.level) ≤ 127 := by
    split
    · exact stepLevel_le h.level _
    · exact h.level
  have bit : (d.bit + 1) &&& 7 ≤ 7 := UInt8.and_le_right
  have countdown := r.dmcPeriod_le d.rate
  unfold Dmc.stepBit
  dsimp only
  split
  · split
    · exact { h with level := level, bit := bit, countdown := countdown }
    · exact { h with level := level, bit := bit, countdown := countdown }
  · exact { h with level := level, bit := bit, countdown := countdown }

theorem tickAge (h : d.InRange) : d.tickAge.InRange :=
  { h with }

theorem runTimer (h : d.InRange) (r : Region) : (d.runTimer r).InRange := by
  unfold Dmc.runTimer
  split
  · exact h.stepBit r
  next runs => exact { h with countdown := countdown_le h.countdown runs }

theorem runDelay (h : d.InRange) : d.runDelay.InRange := by
  unfold Dmc.runDelay
  split
  · have delay := h.startDelay
    exact { h with startDelay := by grind }
  · exact h

theorem advance (h : d.InRange) (r : Region) : (d.advance r).InRange :=
  (h.tickAge.runTimer r).runDelay

theorem finishByte (h : d.InRange) : d.finishByte.InRange := by
  unfold Dmc.finishByte
  split
  · exact h
  · split
    · exact h.rewind
    · split
      · exact { h with }
      · exact h

theorem supply (h : d.InRange) (data : UInt8) : (d.supply data).InRange := by
  unfold Dmc.supply
  dsimp only
  split
  · exact { h with }
  next some =>
    have remaining := h.remaining
    refine InRange.finishByte ?_
    exact { h with remaining := by grind, cursor := UInt16.and_le_right }

theorem writeControl (h : d.InRange) (data : UInt8) : (d.writeControl data).InRange :=
  { h with }

theorem writeLevel (h : d.InRange) (data : UInt8) : (d.writeLevel data).InRange :=
  { h with level := UInt8.and_le_right }

theorem writeAddress (h : d.InRange) (data : UInt8) : (d.writeAddress data).InRange :=
  { h with }

theorem writeLength (h : d.InRange) (data : UInt8) : (d.writeLength data).InRange :=
  { h with }

theorem clearIrq (h : d.InRange) : d.clearIrq.InRange :=
  { h with }

end InRange

end Dmc

/-! ## The frame sequencer -/

namespace FrameSequencer

/-- The delay counts down from one or two while a restart is pending, and is 0 otherwise. -/
structure InRange (f : FrameSequencer) : Prop where
  step : f.step ≤ 5
  counter : 1 ≤ f.counter ∧ f.counter ≤ 8320
  waiting : f.resetPending = true → f.resetDelay = 1 ∨ f.resetDelay = 2
  settled : f.resetPending = false → f.resetDelay = 0

namespace InRange

variable {f : FrameSequencer}

theorem initial (r : Region) : (FrameSequencer.initial r).InRange where
  step := (by decide : (0 : UInt8) ≤ 5)
  counter := r.framePeriod_le false 0
  waiting pending := absurd pending Bool.false_ne_true
  settled _ := rfl

theorem nextStep_le (step : UInt8) : nextStep step ≤ 5 := by
  unfold nextStep
  split
  · decide
  · grind

theorem advance (h : f.InRange) (r : Region) : (f.advance r).InRange := by
  unfold FrameSequencer.advance
  split
  · exact {
      step := (by decide : (0 : UInt8) ≤ 5)
      counter := r.framePeriod_le _ _
      waiting := fun pending => absurd pending Bool.false_ne_true
      settled := fun _ => rfl }
  next goesOn =>
    -- a pending restart that is not due yet waits for its second clock
    have waiting (pending : f.resetPending = true) :
        (if f.resetPending then f.resetDelay - 1 else f.resetDelay) = 1 := by
      have more : ¬ f.resetDelay ≤ 1 := by
        simpa [restarting, pending] using goesOn
      rcases h.waiting pending with one | two
      · rw [one] at more
        exact absurd (by decide) more
      · rw [if_pos pending, two]
        rfl
    have settled (none : f.resetPending = false) :
        (if f.resetPending then f.resetDelay - 1 else f.resetDelay) = 0 := by
      rw [none]
      exact h.settled none
    dsimp only
    split
    · exact {
        step := nextStep_le f.step
        counter := r.framePeriod_le _ _
        waiting := fun pending => .inl (waiting pending)
        settled := settled }
    next runs =>
      exact {
        step := h.step
        counter := countdown_le h.counter runs
        waiting := fun pending => .inl (waiting pending)
        settled := settled }

theorem write (h : f.InRange) (data : UInt8) : (f.write data).InRange where
  step := h.step
  counter := h.counter
  waiting _ := by
    cases odd : f.odd with
    | false => exact .inl (if_neg (ne_true_of_eq_false odd))
    | true => exact .inr (if_pos odd)
  settled none := absurd none (by simp [FrameSequencer.write])

theorem clearIrq (h : f.InRange) : f.clearIrq.InRange :=
  { h with }

end InRange

end FrameSequencer

/-! ## The whole -/

namespace Synth

structure InRange (s : Synth) : Prop where
  pulse1 : s.pulse1.InRange
  pulse2 : s.pulse2.InRange
  triangle : s.triangle.InRange
  noise : s.noise.InRange
  dmc : s.dmc.InRange
  frame : s.frame.InRange

namespace InRange

variable {s : Synth}

theorem initial (r : Region) : (Synth.initial r).InRange :=
  ⟨.initial, .initial, .initial, .initial, .initial r, .initial r⟩

theorem settleIrq (h : s.InRange) : s.settleIrq.InRange :=
  { h with }

theorem clockQuarter (h : s.InRange) : s.clockQuarter.InRange :=
  { h with
    pulse1 := h.pulse1.clockQuarter
    pulse2 := h.pulse2.clockQuarter
    triangle := h.triangle.clockQuarter
    noise := h.noise.clockQuarter }

theorem clockHalf (h : s.InRange) : s.clockHalf.InRange :=
  { h with
    pulse1 := h.pulse1.clockHalf .first
    pulse2 := h.pulse2.clockHalf .second
    triangle := h.triangle.clockHalf
    noise := h.noise.clockHalf }

theorem heed (h : s.InRange) (signal : FrameSignal) : (s.heed signal).InRange := by
  cases signal with
  | none => exact h
  | quarter => exact h.clockQuarter
  | half => exact h.clockHalf.clockQuarter

theorem commit (h : s.InRange) : s.commit.InRange :=
  { h with
    pulse1 := h.pulse1.commit
    pulse2 := h.pulse2.commit
    triangle := h.triangle.commit
    noise := h.noise.commit }

theorem advance (h : s.InRange) : s.advance.InRange where
  pulse1 := h.pulse1.advance
  pulse2 := h.pulse2.advance
  triangle := h.triangle.advance
  noise := h.noise.advance s.region
  dmc := h.dmc.advance s.region
  frame := h.frame.advance s.region

theorem clock (h : s.InRange) : s.clock.InRange :=
  ((h.advance.heed s.frame.signal).commit).settleIrq

theorem writePulse (h : s.InRange) (side : PulseSide) {f : Pulse → Pulse}
    (keeps : ∀ p : Pulse, p.InRange → (f p).InRange) : (s.writePulse side f).InRange := by
  cases side with
  | first => exact { h with pulse1 := keeps _ h.pulse1 }
  | second => exact { h with pulse2 := keeps _ h.pulse2 }

theorem writeStatus (h : s.InRange) (data : UInt8) : (s.writeStatus data).InRange := by
  have dmc : (if data &&& 0x10 != 0 then s.dmc.start else s.dmc.stop).InRange := by
    split
    · exact h.dmc.start
    · exact h.dmc.stop
  exact { h with
    pulse1 := h.pulse1.setEnabled _
    pulse2 := h.pulse2.setEnabled _
    triangle := h.triangle.setEnabled _
    noise := h.noise.setEnabled _
    dmc := dmc.clearIrq }

theorem write (h : s.InRange) (register : Register) (data : UInt8) :
    (s.write register data).InRange := by
  cases register with
  | pulseControl side => exact h.writePulse side fun _ kept => kept.writeControl data _
  | pulseSweep side => exact h.writePulse side fun _ kept => kept.writeSweep data
  | pulseTimerLow side => exact h.writePulse side fun _ kept => kept.writeTimerLow data
  | pulseTimerHigh side => exact h.writePulse side fun _ kept => kept.writeTimerHigh data _
  | triangleLinear => exact { h with triangle := h.triangle.writeLinear data _ }
  | triangleTimerLow => exact { h with triangle := h.triangle.writeTimerLow data }
  | triangleTimerHigh => exact { h with triangle := h.triangle.writeTimerHigh data _ }
  | noiseControl => exact { h with noise := h.noise.writeControl data _ }
  | noisePeriod => exact { h with noise := h.noise.writePeriod data }
  | noiseLength => exact { h with noise := h.noise.writeLength data _ }
  | dmcControl => exact { h with dmc := h.dmc.writeControl data }
  | dmcLevel => exact { h with dmc := h.dmc.writeLevel data }
  | dmcAddress => exact { h with dmc := h.dmc.writeAddress data }
  | dmcLength => exact { h with dmc := h.dmc.writeLength data }
  | status => exact (h.writeStatus data).settleIrq
  | frame => exact { h with frame := h.frame.write data }

theorem acknowledge (h : s.InRange) : s.acknowledge.InRange :=
  { h with frame := h.frame.clearIrq }

theorem supply (h : s.InRange) (data : UInt8) : (s.supply data).InRange :=
  { h with dmc := h.dmc.supply data }

end InRange

end Synth

end ChipScribe
