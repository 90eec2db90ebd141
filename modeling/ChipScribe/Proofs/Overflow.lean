import ChipScribe.Proofs.Range
import ChipScribe.Proofs.Checked

/-!
# No checked operation fails

Within the ranges the checked chip does what the chip does: every sum and
difference fits, every shift is short enough and every index lies in its table.
-/

namespace ChipScribe

open Word

/-! ## Indices -/

theorem low_toNat (x : UInt8) :
    (x &&& 3).toNat = x.toNat % 4 ∧ (x &&& 7).toNat = x.toNat % 8 ∧
      (x &&& 0x0F).toNat = x.toNat % 16 ∧ (x &&& 0x1F).toNat = x.toNat % 32 := by
  refine ⟨?_, ?_, ?_, ?_⟩
  · exact (UInt8.toNat_and _ _).trans (Nat.and_two_pow_sub_one_eq_mod _ 2)
  · exact (UInt8.toNat_and _ _).trans (Nat.and_two_pow_sub_one_eq_mod _ 3)
  · exact (UInt8.toNat_and _ _).trans (Nat.and_two_pow_sub_one_eq_mod _ 4)
  · exact (UInt8.toNat_and _ _).trans (Nat.and_two_pow_sub_one_eq_mod _ 5)

theorem entry {α : Type} {n : Nat} (v : Vector α n) {i j : Nat} (same : i = j)
    (inside : j < n) : v[i]? = some v[j] := by
  subst same
  exact Vector.getElem?_eq_getElem inside

namespace Region

theorem noisePeriod?_eq (r : Region) (index : UInt8) :
    r.noisePeriod? index = some (r.noisePeriod index) :=
  entry _ (low_toNat index).2.2.1 (lowBits_lt index)

theorem dmcPeriod?_eq (r : Region) (index : UInt8) :
    r.dmcPeriod? index = some (r.dmcPeriod index) :=
  entry _ (low_toNat index).2.2.1 (lowBits_lt index)

theorem framePeriod?_eq (r : Region) (fiveStep : Bool) (step : UInt8) :
    r.framePeriod? fiveStep step = some (r.framePeriod fiveStep step) :=
  entry _ rfl _

end Region

/-! ## Units -/

namespace LengthCounter

variable (c : LengthCounter)

theorem clock?_eq : c.clock? = some c.clock := by
  unfold clock? clock
  split
  next runs =>
    simp only [Bool.and_eq_true, decide_eq_true_eq] at runs
    have some : 1 ≤ c.count := runs.2
    rw [minus_eq some]
    rfl
  next => rfl

theorem load?_eq (index : UInt8) : c.load? index = some (c.load index) := by
  unfold load? load
  split
  · rw [entry table (low_toNat index).2.2.2 (Nat.mod_lt _ (by decide))]
    rfl
  · rfl

theorem writeIndex?_eq (clocking : Bool) (index : UInt8) :
    c.writeIndex? clocking index = some (c.writeIndex clocking index) := by
  unfold writeIndex? writeIndex
  split
  · rfl
  · split
    · rfl
    · exact c.load?_eq index

theorem commit?_eq : c.commit? = some c.commit := by
  unfold commit? commit commitLoad
  dsimp only
  split
  · exact load?_eq _ _
  · rfl

end LengthCounter

namespace Envelope

variable (e : Envelope)

theorem stepLevel?_eq : e.stepLevel? = some e.stepLevel := by
  unfold stepLevel? stepLevel
  split
  next falls =>
    have some : 1 ≤ e.level := falls
    rw [minus_eq some]
  next => rfl

theorem clock?_eq : e.clock? = some e.clock := by
  unfold clock? clock
  split
  · rfl
  · split
    next runs =>
      have some : 1 ≤ e.divider := runs
      rw [minus_eq some]
      rfl
    next =>
      rw [stepLevel?_eq]
      rfl

end Envelope

namespace Sweep

theorem delta_le (s : Sweep) : s.delta.toNat ≤ s.timer.toNat := by
  rw [delta, UInt16.toNat_shiftRight, Nat.shiftRight_eq_div_pow]
  exact Nat.div_le_self _ _

namespace InRange

variable {s : Sweep} (h : s.InRange)

include h

theorem delta?_eq : s.delta? = some s.delta := by
  have places : s.shift.toUInt16.toNat ≤ 7 := by
    rw [UInt8.toNat_toUInt16]
    exact h.shift
  exact down_eq (Nat.lt_of_le_of_lt places (by decide))

theorem plus_delta : plus s.timer s.delta = some (s.timer + s.delta) := by
  have timer : s.timer.toNat ≤ 2047 := h.timer
  have delta := s.delta_le
  apply plus_eq
  change s.timer.toNat + s.delta.toNat < 65536
  omega

theorem overflows?_eq : s.overflows? = some s.overflows := by
  unfold overflows? overflows
  split
  next negated => simp [negated]
  next straight =>
    rw [h.delta?_eq]
    simp only [Option.bind_eq_bind, Option.bind_some, h.plus_delta]
    simp [straight]

theorem audible?_eq : s.audible? = some s.audible := by
  unfold audible? audible
  split
  next low => simp [low]
  next high =>
    rw [h.overflows?_eq]
    simp [high]

theorem target?_eq (side : PulseSide) : s.target? side = some (s.target side) := by
  unfold target? target
  rw [h.delta?_eq]
  simp only [Option.bind_eq_bind, Option.bind_some]
  -- downwards the difference cannot be negative, upwards the sum has at most twelve bits
  split
  · rw [minus_eq s.delta_le]
    cases side <;> rfl
  · rw [h.plus_delta]
    rfl

theorem update?_eq (side : PulseSide) : s.update? side = some (Sweep.update side s) := by
  unfold update? Sweep.update
  rw [h.audible?_eq, h.target?_eq]
  cases s.enabled && s.shift > 0 <;> cases s.audible <;> rfl

theorem plus_period : plus s.period 1 = some (s.period + 1) := by
  have period : s.period.toNat ≤ 7 := h.period
  apply plus_eq
  change s.period.toNat + 1 < 256
  omega

theorem clock?_eq (side : PulseSide) : s.clock? side = some (Sweep.clock side s) := by
  unfold clock? tick? Sweep.clock
  rw [h.update?_eq, h.plus_period]
  cases s.divider - 1 == 0 <;> cases s.reload <;> rfl

end InRange

end Sweep

namespace FrameSequencer

theorem nextStep?_eq (step : UInt8) : nextStep? step = some (nextStep step) := by
  unfold nextStep? nextStep
  split
  · rfl
  next below =>
    have low : step.toNat < 5 := UInt8.lt_iff_toNat_lt.mp (UInt8.not_le.mp below)
    apply plus_eq
    change step.toNat + 1 < 256
    omega

theorem InRange.delay?_eq {f : FrameSequencer} (h : f.InRange) :
    f.delay? = some (if f.resetPending then f.resetDelay - 1 else f.resetDelay) := by
  unfold delay?
  split
  next pending =>
    -- a restart that is pending has a clock or two to go
    have some : 1 ≤ f.resetDelay := by
      rcases h.waiting pending with one | two
      · rw [one]
        decide
      · rw [two]
        decide
    exact minus_eq some
  next => rfl

theorem InRange.advance?_eq {f : FrameSequencer} (h : f.InRange) (r : Region) :
    f.advance? r = some (FrameSequencer.advance r f) := by
  unfold advance? FrameSequencer.advance
  rw [h.delay?_eq, nextStep?_eq]
  simp only [Region.framePeriod?_eq, Option.bind_eq_bind, Option.bind_some, Option.pure_def]
  cases f.restarting <;> cases f.counter - 1 == 0 <;> rfl

end FrameSequencer

/-! ## Channels -/

namespace Pulse

theorem high?_eq (duty phase : UInt8) : high? duty phase = some (high duty phase) := by
  unfold high?
  rw [entry dutyTable (low_toNat duty).1 (Nat.mod_lt _ (by decide))]
  exact entry _ (low_toNat phase).2.1 _

theorem clockQuarter?_eq (p : Pulse) : p.clockQuarter? = some p.clockQuarter := by
  unfold clockQuarter?
  rw [p.envelope.clock?_eq]
  rfl

theorem commit?_eq (p : Pulse) : p.commit? = some p.commit := by
  unfold commit?
  rw [p.length.commit?_eq]
  rfl

theorem writeTimerHigh?_eq (p : Pulse) (data : UInt8) (clocking : Bool) :
    p.writeTimerHigh? data clocking = some (p.writeTimerHigh data clocking) := by
  unfold writeTimerHigh?
  rw [p.length.writeIndex?_eq]
  rfl

namespace InRange

variable {p : Pulse} (h : p.InRange)

include h

theorem sounding?_eq : p.sounding? = some p.sounding := by
  unfold sounding?
  rw [h.sweep.audible?_eq]
  rfl

theorem output?_eq : p.output? = some p.output := by
  unfold output? output
  rw [h.sounding?_eq]
  cases p.sounding with
  | false => rfl
  | true =>
      simp only [Option.bind_eq_bind, Option.bind_some, high?_eq]
      rfl

theorem output_le : p.output ≤ 15 := by
  unfold Pulse.output
  split
  · exact h.envelope.volume
  · decide

theorem period?_eq : (do
    let period ← plus p.sweep.timer 1
    times period 2) = some ((p.sweep.timer + 1) * 2) := by
  have timer : p.sweep.timer.toNat ≤ 2047 := h.sweep.timer
  have sum : (p.sweep.timer + 1).toNat ≤ 2048 := by
    have range : p.sweep.timer + 1 ≤ 2048 := by
      have bound := h.sweep.timer
      grind
    exact range
  rw [plus_eq (show p.sweep.timer.toNat + 1 < 65536 by omega)]
  exact times_eq (show (p.sweep.timer + 1).toNat * 2 < 65536 by omega)

theorem advance?_eq : p.advance? = some p.advance := by
  unfold advance? Pulse.advance
  have period := h.period?_eq
  rw [h.sounding?_eq]
  cases p.sounding with
  | false => rfl
  | true =>
      simp only [Option.bind_eq_bind, Option.bind_some] at period ⊢
      split
      · rfl
      · split
        · rw [← Option.bind_assoc, period]
          rfl
        · rfl

theorem clockHalf?_eq (side : PulseSide) : p.clockHalf? side = some (p.clockHalf side) := by
  unfold clockHalf?
  rw [p.length.clock?_eq, h.sweep.clock?_eq]
  rfl

end InRange

end Pulse

namespace Triangle

variable (t : Triangle)

theorem linear?_eq : t.linear? = some t.clockQuarter.linear := by
  unfold linear? clockQuarter
  dsimp only
  split
  · rfl
  · split
    next runs =>
      have some : 1 ≤ t.linear := runs
      exact minus_eq some
    next => rfl

theorem clockQuarter?_eq : t.clockQuarter? = some t.clockQuarter := by
  unfold clockQuarter?
  rw [linear?_eq]
  rfl

theorem clockHalf?_eq : t.clockHalf? = some t.clockHalf := by
  unfold clockHalf?
  rw [t.length.clock?_eq]
  rfl

theorem commit?_eq : t.commit? = some t.commit := by
  unfold commit?
  rw [t.length.commit?_eq]
  rfl

theorem writeTimerHigh?_eq (data : UInt8) (clocking : Bool) :
    t.writeTimerHigh? data clocking = some (t.writeTimerHigh data clocking) := by
  unfold writeTimerHigh?
  rw [t.length.writeIndex?_eq]
  rfl

theorem InRange.advance?_eq {t : Triangle} (h : t.InRange) :
    t.advance? = some (Triangle.advance t) := by
  have step : t.step.toNat ≤ 31 := h.step
  have timer : t.timer.toNat ≤ 2047 := h.timer
  unfold advance? Triangle.advance
  rw [plus_eq (show t.step.toNat + 1 < 256 by omega),
    plus_eq (show t.timer.toNat + 1 < 65536 by omega)]
  cases t.sounding <;> cases t.countdown - 1 == 0 <;> rfl

end Triangle

namespace Noise

variable (n : Noise)

theorem advance?_eq (r : Region) : n.advance? r = some (n.advance r) := by
  unfold advance? advance
  rw [r.noisePeriod?_eq]
  cases n.length.active <;> cases n.countdown - 1 == 0 <;> rfl

theorem clockQuarter?_eq : n.clockQuarter? = some n.clockQuarter := by
  unfold clockQuarter?
  rw [n.envelope.clock?_eq]
  rfl

theorem clockHalf?_eq : n.clockHalf? = some n.clockHalf := by
  unfold clockHalf?
  rw [n.length.clock?_eq]
  rfl

theorem commit?_eq : n.commit? = some n.commit := by
  unfold commit?
  rw [n.length.commit?_eq]
  rfl

theorem writeLength?_eq (data : UInt8) (clocking : Bool) :
    n.writeLength? data clocking = some (n.writeLength data clocking) := by
  unfold writeLength?
  rw [n.length.writeIndex?_eq]
  rfl

end Noise

namespace Dmc

theorem stepLevel?_eq {level : UInt8} (bit : Bool) :
    stepLevel? level bit = some (stepLevel level bit) := by
  unfold stepLevel? stepLevel
  split
  · split
    next low =>
      have bound : level.toNat ≤ 125 := low
      exact plus_eq (show level.toNat + 2 < 256 by omega)
    next => rfl
  · split
    next high => exact minus_eq high
    next => rfl

theorem sampleLength?_eq (d : Dmc) : d.sampleLength? = some d.sampleLength := by
  have latch := d.lengthLatch.toNat_lt
  have shifted := d.lengthShifted_toNat
  exact plus_eq (show (d.lengthLatch.toUInt16 <<< 4).toNat + 1 < 65536 by omega)

theorem rewind?_eq (d : Dmc) : d.rewind? = some d.rewind := by
  unfold rewind?
  rw [sampleLength?_eq]
  rfl

theorem start?_eq (d : Dmc) : d.start? = some d.start := by
  unfold start? start
  rw [rewind?_eq]
  cases d.remaining != 0 <;> rfl

theorem runDelay?_eq (d : Dmc) : d.runDelay? = some d.runDelay := by
  unfold runDelay? runDelay
  split
  next runs =>
    have some : 1 ≤ d.startDelay := runs
    rw [minus_eq some]
    rfl
  next => rfl

theorem finishByte?_eq (d : Dmc) : d.finishByte? = some d.finishByte := by
  unfold finishByte?
  rw [rewind?_eq]
  unfold finishByte
  cases d.remaining != 0 <;> cases d.loop <;> rfl

namespace InRange

variable {d : Dmc} (h : d.InRange)

include h

theorem currentBit?_eq : d.currentBit? = some d.currentBit := by
  have places : d.bit.toNat ≤ 7 := h.bit
  unfold currentBit?
  rw [down_eq (show d.bit.toNat < 8 by omega)]
  rfl

theorem nextLevel?_eq :
    d.nextLevel? = some (if d.shifting then Dmc.stepLevel d.level d.currentBit else d.level) := by
  unfold nextLevel?
  rw [h.currentBit?_eq]
  cases d.shifting with
  | false => rfl
  | true => exact stepLevel?_eq d.currentBit

theorem stepBit?_eq (r : Region) : d.stepBit? r = some (d.stepBit r) := by
  have bit : d.bit.toNat ≤ 7 := h.bit
  unfold stepBit? Dmc.stepBit
  rw [h.nextLevel?_eq, plus_eq (show d.bit.toNat + 1 < 256 by omega), r.dmcPeriod?_eq]
  simp only [Option.bind_eq_bind, Option.bind_some]
  cases (d.bit + 1) &&& 7 == 0 <;> cases d.buffered <;> rfl

theorem runTimer?_eq (r : Region) : d.runTimer? r = some (d.runTimer r) := by
  unfold runTimer?
  rw [h.stepBit?_eq]
  unfold Dmc.runTimer
  cases d.stepping <;> rfl

theorem advance?_eq (r : Region) : d.advance? r = some (d.advance r) := by
  unfold advance?
  rw [h.tickAge.runTimer?_eq r]
  exact runDelay?_eq _

theorem supply?_eq (data : UInt8) : d.supply? data = some (d.supply data) := by
  have cursor : d.cursor.toNat ≤ 0x7FFF := h.cursor
  unfold supply? Dmc.supply
  dsimp only
  split
  · rfl
  next left =>
    have some : 1 ≤ d.remaining := by grind
    rw [minus_eq some, plus_eq (show d.cursor.toNat + 1 < 65536 by omega)]
    exact finishByte?_eq _

end InRange

end Dmc

/-! ## The mixer -/

namespace Mixer

theorem pulseLevel?_eq (amp : UInt8) : pulseLevel? amp = some (pulseLevel amp) := by
  have index : (amp &&& 0x1F).toNat ≤ 31 := UInt8.and_le_right (a := amp) (b := 0x1F)
  exact if_pos (by omega)

theorem rampLevel?_eq (dmc triangle noise : UInt8) :
    rampLevel? dmc triangle noise = some (rampLevel dmc triangle noise) := by
  have high : (dmc &&& 0x7F).toNat ≤ 127 := UInt8.and_le_right (a := dmc) (b := 0x7F)
  have mid : (triangle &&& 0x0F).toNat ≤ 15 := UInt8.and_le_right (a := triangle) (b := 0x0F)
  have low : (noise &&& 0x0F).toNat ≤ 15 := UInt8.and_le_right (a := noise) (b := 0x0F)
  have index : rampIndex dmc triangle noise < 128 * 16 * 16 := by
    unfold rampIndex
    omega
  exact if_pos index

theorem mix?_eq {pulse1 pulse2 : UInt8} (first : pulse1 ≤ 15) (second : pulse2 ≤ 15)
    (triangle noise dmc : UInt8) :
    mix? pulse1 pulse2 triangle noise dmc = some (mix pulse1 pulse2 triangle noise dmc) := by
  have left : pulse1.toNat ≤ 15 := first
  have right : pulse2.toNat ≤ 15 := second
  have pulse := (pulseLevel (pulse1 + pulse2)).toNat_lt
  have ramp := (rampLevel dmc triangle noise).toNat_lt
  unfold mix?
  -- the sum of two four-bit outputs is a byte; that of the two levels needs 17 bits
  rw [plus_eq (show pulse1.toNat + pulse2.toNat < 256 by omega), rampLevel?_eq]
  simp only [Option.bind_eq_bind, Option.bind_some, pulseLevel?_eq]
  exact if_pos (by omega)

end Mixer

/-! ## The audible half -/

namespace Synth

theorem commit?_eq (s : Synth) : s.commit? = some s.commit := by
  unfold commit?
  rw [s.pulse1.commit?_eq, s.pulse2.commit?_eq, s.triangle.commit?_eq, s.noise.commit?_eq]
  rfl

theorem clockQuarter?_eq (s : Synth) : s.clockQuarter? = some s.clockQuarter := by
  unfold clockQuarter?
  rw [s.pulse1.clockQuarter?_eq, s.pulse2.clockQuarter?_eq, s.triangle.clockQuarter?_eq,
    s.noise.clockQuarter?_eq]
  rfl

namespace InRange

variable {s : Synth} (h : s.InRange)

include h

theorem sample?_eq : s.sample? = some s.sample := by
  unfold sample?
  rw [h.pulse1.output?_eq, h.pulse2.output?_eq]
  exact Mixer.mix?_eq h.pulse1.output_le h.pulse2.output_le _ _ _

theorem clockHalf?_eq : s.clockHalf? = some s.clockHalf := by
  unfold clockHalf?
  rw [h.pulse1.clockHalf?_eq, h.pulse2.clockHalf?_eq, s.triangle.clockHalf?_eq,
    s.noise.clockHalf?_eq]
  rfl

theorem heed?_eq (signal : FrameSignal) : s.heed? signal = some (s.heed signal) := by
  cases signal with
  | none => rfl
  | quarter => exact s.clockQuarter?_eq
  | half =>
      simp only [heed?, h.clockHalf?_eq]
      exact clockQuarter?_eq _

theorem advance?_eq : s.advance? = some s.advance := by
  unfold advance?
  rw [h.pulse1.advance?_eq, h.pulse2.advance?_eq, h.triangle.advance?_eq, s.noise.advance?_eq,
    h.dmc.advance?_eq, h.frame.advance?_eq]
  rfl

theorem clock?_eq : s.clock? = some s.clock := by
  unfold clock?
  rw [h.advance?_eq]
  simp only [Option.bind_eq_bind, Option.bind_some, h.advance.heed?_eq, commit?_eq]
  rfl

end InRange

theorem writePulse?_eq (s : Synth) (side : PulseSide) {f? : Pulse → Option Pulse}
    {f : Pulse → Pulse} (same : ∀ p : Pulse, f? p = some (f p)) :
    s.writePulse? side f? = some (s.writePulse side f) := by
  cases side with
  | first =>
      simp only [writePulse?, same]
      rfl
  | second =>
      simp only [writePulse?, same]
      rfl

theorem writeStatus?_eq (s : Synth) (data : UInt8) :
    s.writeStatus? data = some (s.writeStatus data) := by
  unfold writeStatus? writeStatus
  rw [s.dmc.start?_eq]
  cases data &&& 0x10 != 0 <;> rfl

theorem write?_eq (s : Synth) (register : Register) (data : UInt8) :
    s.write? register data = some (s.write register data) := by
  -- the other registers have nothing to check
  cases register with
  | pulseTimerHigh side => exact s.writePulse?_eq side fun p => p.writeTimerHigh?_eq data _
  | triangleTimerHigh =>
      simp only [write?, s.triangle.writeTimerHigh?_eq]
      rfl
  | noiseLength =>
      simp only [write?, s.noise.writeLength?_eq]
      rfl
  | status =>
      simp only [write?, s.writeStatus?_eq]
      rfl
  | _ => rfl

theorem InRange.supply?_eq {s : Synth} (h : s.InRange) (data : UInt8) :
    s.supply? data = some (s.supply data) := by
  unfold supply?
  rw [h.dmc.supply?_eq]
  rfl

end Synth

end ChipScribe
