import ChipScribe.Proofs.Overflow
import ChipScribe.Proofs.Channels
import ChipScribe.Proofs.Separation
import ChipScribe.Proofs.RoundTrip

/-!
# No call overflows

The transcribing half has checked operations of its own: the drum keys, the
lanes of a duty, the pitch tables, the decoder and the counters.  They hold as
long as the registers and the remembered duties keep their ranges, and every
chip a host can come by keeps them.
-/

namespace ChipScribe

open Midi Word

/-! ## Drums and samples -/

namespace Drum

theorem key?_eq (alternate constantVolume : Bool) (period : UInt8) :
    key? alternate constantVolume period =
      some (ofPeriod alternate constantVolume period).key := by
  have bit : period &&& 1 = 0 ∨ period &&& 1 = 1 := by
    have bound : (period &&& 1).toNat ≤ 1 := UInt8.and_le_right (a := period) (b := 1)
    have cases : (period &&& 1).toNat = 0 ∨ (period &&& 1).toNat = 1 := by omega
    rcases cases with zero | one
    · exact .inl (UInt8.toNat_inj.mp zero)
    · exact .inr (UInt8.toNat_inj.mp one)
  unfold key? ofPeriod
  generalize (decide (0x0B ≤ period) && decide (period ≤ 0x0F)) = bass
  generalize (decide (0x06 ≤ period) && decide (period ≤ 0x0A)) = snare
  rcases bit with even | odd
  · simp only [even]
    cases alternate <;> cases bass <;> cases snare <;> rfl
  · simp only [odd]
    cases alternate <;> cases bass <;> cases snare <;> rfl

end Drum

namespace Waveform

theorem levelsFrom?_eq (level : UInt8) (bits : List Bool) :
    levelsFrom? level bits = some (levelsFrom level bits) := by
  induction bits generalizing level with
  | nil => rfl
  | cons bit rest ih =>
      simp only [levelsFrom?, Dmc.stepLevel?_eq, Option.bind_eq_bind, Option.bind_some, ih]
      rfl

theorem levelsFrom_le {start : UInt8} (range : start ≤ 127) (bits : List Bool) :
    ∀ level ∈ levelsFrom start bits, level ≤ 127 := by
  induction bits generalizing start with
  | nil => simp [levelsFrom]
  | cons bit rest ih =>
      have next := Dmc.stepLevel_le range bit
      intro level member
      rcases List.mem_cons.mp member with rfl | later
      · exact next
      · exact ih next level later

theorem columns?_eq {levels : List UInt8} (range : ∀ level ∈ levels, level ≤ 127) :
    levels.mapM column? = some (levels.map Mixer.dmcLevel) := by
  induction levels with
  | nil => rfl
  | cons level rest ih =>
      have bound : level.toNat ≤ 127 := range level (by simp)
      have here : column? level = some (Mixer.dmcLevel level) := if_pos (by omega)
      have there := ih fun later member => range later (by simp [member])
      simp [List.mapM_cons, here, there]

theorem decode?_eq (bytes : List UInt8) : decode? bytes = some (decode Mixer.dmcLevel bytes) := by
  have range := levelsFrom_le (by decide : (0 : UInt8) ≤ 127) (bytes.flatMap bits)
  unfold decode?
  rw [levelsFrom?_eq]
  exact columns?_eq range

end Waveform

/-! ## The emitter -/

namespace Midi.Emitter

theorem offer?_eq (e : Emitter) (m : Message) : e.offer? m = some (e.offer m) := by
  cases m with
  | delay => rfl
  | short status data1 data2 =>
      have row : (status &&& 0x0F).toNat ≤ 15 := UInt8.and_le_right (a := status) (b := 0x0F)
      have column : (data1 &&& 0x7F).toNat ≤ 127 := UInt8.and_le_right (a := data1) (b := 0x7F)
      exact if_pos ⟨by omega, by omega⟩

theorem deliver?_eq (e : Emitter) (ms : List Message) : e.deliver? ms = some (e.deliver ms) := by
  induction ms generalizing e with
  | nil => rfl
  | cons m rest ih =>
      simp only [deliver?, offer?_eq, Option.bind_eq_bind, Option.bind_some, ih]
      rfl

theorem announce?_eq (e : Emitter) (front back : List Message) :
    e.announce? front back = some (e.announce front back) := by
  simp only [announce?, deliver?_eq, Option.bind_eq_bind, Option.bind_some]
  rfl

end Midi.Emitter

/-! ## Voices -/

theorem Instrument.pitch?_eq (i : Instrument) (rate : UInt8) :
    i.pitch? rate = some (i.pitch rate) :=
  entry i.pitches (low_toNat rate).2.2.1 (rateIndex_lt rate)

theorem Library.recordUnknown?_eq (l : Library) (hash : Fingerprint) (rate : UInt8)
    (bytes : List UInt8) :
    l.recordUnknown? hash rate bytes = some (l.recordUnknown hash rate bytes) := by
  unfold recordUnknown?
  rw [Waveform.decode?_eq,
    entry Waveform.sampleRates (low_toNat rate).2.2.1 (Nat.mod_lt _ (by decide))]
  split <;> rfl

namespace Voice

variable (v : Voice)

theorem lane?_eq {duty : UInt8} (range : duty ≤ 3) : v.lanes[duty.toNat]? = some (v.lane duty) := by
  have bound : duty.toNat ≤ 3 := range
  exact entry v.lanes (by omega) (laneIndex_lt duty)

theorem settle?_eq (runs : v.settle > 0) : v.settle? = some { v with settle := v.settle - 1 } := by
  have some : 1 ≤ v.settle := runs
  unfold settle?
  rw [minus_eq some]
  rfl

theorem beginNote?_eq (duty held : UInt8) :
    v.beginNote? duty held = some (v.beginNote duty held) := by
  have low : duty &&& 3 ≤ 3 := UInt8.and_le_right
  unfold beginNote? beginNote
  rw [v.lane?_eq low]
  split <;> rfl

theorem duty_beginNote (range : v.duty ≤ 3) (duty held : UInt8) :
    (v.beginNote duty held).duty ≤ 3 := by
  unfold beginNote
  split
  · exact UInt8.and_le_right
  · exact range

variable {v} (range : v.duty ≤ 3)

include range

theorem chooseLane?_eq (t : Tuning) (duty : UInt8) :
    v.chooseLane? t duty = some (v.chooseLane t duty) := by
  unfold chooseLane? chooseLane
  rw [v.lane?_eq range]
  split <;> rfl

theorem duty_chooseLane (t : Tuning) (duty : UInt8) : (v.chooseLane t duty).duty ≤ 3 := by
  unfold chooseLane
  split
  · exact UInt8.and_le_right
  · exact range

theorem soundPulse?_eq (t : Tuning) (p : Pulse) (pitch : Float) :
    v.soundPulse? t p pitch = some (v.soundPulse t p pitch) := by
  unfold soundPulse?
  simp only [beginNote?_eq, Option.bind_eq_bind, Option.bind_some]
  apply chooseLane?_eq
  apply duty_beginNote
  exact range

theorem duty_soundPulse (t : Tuning) (p : Pulse) (pitch : Float) :
    (v.soundPulse t p pitch).duty ≤ 3 := by
  unfold soundPulse
  apply duty_chooseLane
  apply duty_beginNote
  exact range

theorem followPulse?_eq (t : Tuning) {p : Pulse} (h : p.InRange) :
    v.followPulse? t p = some (v.followPulse t p) := by
  unfold followPulse? followPulse
  split
  next runs => exact v.settle?_eq runs
  next =>
    rw [h.sounding?_eq]
    simp only [Option.bind_eq_bind, Option.bind_some, soundPulse?_eq range]
    cases p.sounding with
    | false => rfl
    | true =>
        simp only [Bool.not_true, Bool.false_eq_true, ↓reduceIte]
        split <;> rfl

theorem duty_followPulse (t : Tuning) (p : Pulse) : (v.followPulse t p).duty ≤ 3 := by
  unfold followPulse
  split
  · exact range
  · split
    · exact range
    · dsimp only
      split
      · exact range
      · exact duty_soundPulse range t p _

omit range

theorem followTriangle?_eq (v : Voice) (t : Tuning) (c : Triangle) :
    v.followTriangle? t c = some (v.followTriangle t c) := by
  have lane : v.lanes[0]? = some (v.lane 0) := v.lane?_eq (by decide : (0 : UInt8) ≤ 3)
  unfold followTriangle? followTriangle
  split
  next runs => exact v.settle?_eq runs
  next =>
    rw [lane]
    simp only [Option.bind_eq_bind, Option.bind_some]
    split
    · rfl
    · split <;> rfl

theorem followNoise?_eq (v : Voice) (t : Tuning) (n : Noise) :
    v.followNoise? t n = some (v.followNoise t n) := by
  have lane : v.lanes[0]? = some (v.lane 0) := v.lane?_eq (by decide : (0 : UInt8) ≤ 3)
  unfold followNoise? followNoise
  dsimp only
  split
  · rfl
  · simp only [Drum.key?_eq, Option.bind_eq_bind, Option.bind_some]
    split
    · simp only [strikeDrum?, sightNoise, lane]
      rfl
    · rfl

theorem playInstrument?_eq (v : Voice) (t : Tuning) (i : Instrument) (rate : UInt8) :
    v.playInstrument? t i rate = some (v.playInstrument t i rate) := by
  unfold playInstrument?
  rw [i.pitch?_eq]
  rfl

theorem lookUp?_eq (v : Voice) (t : Tuning) (m : Memory) (d : Dmc) (l : Library) :
    v.lookUp? t m d l = some (v.lookUp t m d l) := by
  unfold lookUp? lookUp sampleBytes
  rw [d.sampleLength?_eq]
  simp only [Option.bind_eq_bind, Option.bind_some]
  cases l.lookup? (Fingerprint.ofBytes (sampleBytesFrom m d.sampleStart d.sampleLength.toNat)) with
  | some i =>
      simp only [i.pitch?_eq, playInstrument?_eq, Option.bind_some]
      split <;> rfl
  | none =>
      simp only [l.recordUnknown?_eq, Option.bind_some]
      rfl

theorem followDmc?_eq (v : Voice) (t : Tuning) (m : Memory) (d : Dmc) (l : Library) :
    v.followDmc? t m d l = some (v.followDmc t m d l) := by
  unfold followDmc? followDmc
  rw [lookUp?_eq]
  split <;> rfl

end Voice

theorem Voice.transmit?_eq (burst : Voice → Burst) (t : Tuning) (v : Voice) (e : Emitter) :
    Voice.transmit? burst t v e = some (Voice.transmit burst t v e) := by
  unfold transmit? transmit
  rw [Emitter.deliver?_eq]
  split <;> rfl

/-! ## The transcribing half -/

namespace Scribe

structure InRange (c : Scribe) : Prop where
  duty (side : PulseSide) : (c.voice (.pulse side)).duty ≤ 3
  reportClock : c.reportClock < reportPeriod

theorem setupSequence?_eq : setupSequence? = some setupSequence := by
  decide

theorem transmit?_eq (c : Scribe) : c.transmit? = some c.transmit := by
  simp only [transmit?, Voice.transmit?_eq, Option.bind_eq_bind, Option.bind_some]
  rfl

theorem reset?_eq (c : Scribe) : c.reset? = some c.reset := by
  simp only [reset?, Emitter.announce?_eq, Option.bind_eq_bind, Option.bind_some]
  rfl

theorem setUp?_eq (c : Scribe) : c.setUp? = some c.setUp := by
  simp only [setUp?, reset?_eq, setupSequence?_eq, Emitter.announce?_eq, Option.bind_eq_bind,
    Option.bind_some]
  rfl

theorem InRange.follow?_eq {c : Scribe} (h : c.InRange) (m : Memory) {s : Synth}
    (sound : s.InRange) :
    c.follow? m s = some (c.follow m s) := by
  have first : c.pulse1.duty ≤ 3 := h.duty .first
  have second : c.pulse2.duty ≤ 3 := h.duty .second
  unfold follow?
  rw [Voice.followPulse?_eq first _ sound.pulse1, Voice.followPulse?_eq second _ sound.pulse2,
    Voice.followTriangle?_eq, Voice.followNoise?_eq, Voice.followDmc?_eq]
  rfl

/-- Even the largest count of messages, times thirty, is a word of 64 bits. -/
theorem meter?_eq {c : Scribe} (range : c.reportClock < reportPeriod) :
    c.meter? = some c.meter := by
  have clock : c.reportClock.toNat < 1789773 := range
  have count := c.emitter.takeReport.1.toNat_lt
  have bits : times c.emitter.takeReport.1.toUInt64 30 =
      some (c.emitter.takeReport.1.toUInt64 * 30) := by
    apply times_eq
    change c.emitter.takeReport.1.toNat * 30 < 18446744073709551616
    omega
  unfold meter? meter
  rw [plus_eq (show c.reportClock.toNat + 1 < 4294967296 by omega)]
  simp only [Option.bind_eq_bind, Option.bind_some, bits]
  split <;> rfl

theorem reportClock_meter (c : Scribe) : c.meter.1.reportClock < reportPeriod := by
  unfold meter
  dsimp only
  split
  · exact (by decide : (0 : UInt32) < reportPeriod)
  next early => exact UInt32.not_le.mp early

theorem reportClock_watchWrite (c : Scribe) (s : Synth) (register : Register) (data : UInt8) :
    (c.watchWrite s register data).reportClock = c.reportClock := by
  cases register with
  | pulseTimerLow side | pulseTimerHigh side => cases side <;> rfl
  | _ => rfl

end Scribe

/-! ## The remembered duties -/

/-- The duty that a pulse voice remembers is one of the four. -/
def Part.Dutiful : Part → Voice → Prop
  | .pulse _, v => v.duty ≤ 3
  | .triangle, _ | .noise, _ | .dmc, _ => True

theorem dutiful_invariant : VoiceInvariant Part.Dutiful fun _ => True where
  home p := by
    rcases p with (_ | _) | _ | _ | _
    case triangle | noise | dmc => trivial
    all_goals exact (by decide : (0 : UInt8) ≤ 3)
  alike {p v w} alike low := by
    cases p with
    | pulse side =>
        change w.duty ≤ 3
        rw [alike.duty]
        exact low
    | _ => trivial
  released {p v} low := by
    cases p <;> exact low
  follow {p v} t m s l _ low := by
    cases p with
    | pulse side => cases side <;> exact Voice.duty_followPulse low t _
    | _ => trivial
  burst {p v} t low := by
    cases p with
    | pulse side =>
        change (v.pulseBurst t).1.duty ≤ 3
        rw [(v.sent_pulseBurst t).duty]
        exact low
    | _ => trivial

/-! ## The chip -/

theorem Synth.InRange.operate {s : Synth} (h : s.InRange) (o : Operation) :
    (s.operate o).InRange := by
  cases o with
  | power => exact .initial s.region
  | clock memory => exact h.clock
  | write address data =>
      simp only [Synth.operate]
      split
      · exact h.write _ data
      · exact h
  | read address openBus =>
      simp only [Synth.operate]
      split
      · exact h.acknowledge
      · exact h
  | supply data => exact h.supply data
  | _ => exact h

namespace Chip

structure InRange (c : Chip) : Prop where
  synth : c.synth.InRange
  scribe : c.scribe.InRange

theorem inRange_new (s : Settings) : (ofSettings s).InRange where
  synth := .initial s.region
  scribe := by
    refine ⟨fun side => ?_, (by decide : (0 : UInt32) < Scribe.reportPeriod)⟩
    cases side <;> exact (by decide : (0 : UInt8) ≤ 3)

theorem reportClock_operate {c : Chip} (range : c.scribe.reportClock < Scribe.reportPeriod)
    (o : Operation) : (c.operate o).1.scribe.reportClock < Scribe.reportPeriod := by
  cases o with
  | power => exact (by decide : (0 : UInt32) < Scribe.reportPeriod)
  | clock memory => exact Scribe.reportClock_meter _
  | write address data =>
      simp only [operate, write]
      split
      next register _ =>
        have same := c.scribe.reportClock_watchWrite c.synth register data
        simpa only [writeRegister, same] using range
      next => exact range
  | read address openBus =>
      simp only [operate, read]
      split <;> exact range
  | _ => exact range

namespace InRange

variable {c : Chip}

theorem operate (h : c.InRange) (o : Operation) : (c.operate o).1.InRange where
  synth := by
    rw [c.synth_operate]
    exact h.synth.operate o
  scribe := {
    duty := fun side => dutiful_invariant.operate (p := .pulse side) o (fun _ _ _ => trivial)
      (h.scribe.duty side)
    reportClock := reportClock_operate h.scribe.reportClock o }

/-- The snapshot of a chip in range brings its registers and its duties, and no report clock. -/
theorem load {other : Chip} (h : c.InRange) (saved : other.InRange) :
    (c.load other.snapshot.toJson).2.1.InRange := by
  rcases c.load_snapshot other with taken | refused
  · rw [taken]
    refine ⟨saved.synth, fun side => ?_, h.scribe.reportClock⟩
    cases side with
    | first => exact saved.scribe.duty .first
    | second => exact saved.scribe.duty .second
  · rw [refused]
    exact h

theorem power?_eq (c : Chip) : c.power? = some c.power := by
  unfold power?
  rw [c.scribe.setUp?_eq]
  rfl

theorem clock?_eq (h : c.InRange) (m : Memory) : c.clock? m = some (c.clock m) := by
  have metered := Scribe.meter?_eq (c := (c.scribe.follow m c.synth.clock).1.transmit.1)
    h.scribe.reportClock
  unfold clock?
  rw [h.synth.clock?_eq, h.synth.sample?_eq]
  simp only [Option.bind_eq_bind, Option.bind_some, h.scribe.follow?_eq m h.synth.clock,
    Scribe.transmit?_eq, metered]
  rfl

theorem write?_eq (c : Chip) (address : UInt16) (data : UInt8) :
    c.write? address data = some (c.write address data) := by
  unfold write? Chip.write
  cases Register.ofAddress? address with
  | some register =>
      simp only [writeRegister?, c.synth.write?_eq]
      rfl
  | none => rfl

theorem supply?_eq (h : c.InRange) (data : UInt8) : c.supply? data = some (c.supply data) := by
  unfold supply?
  rw [h.synth.supply?_eq]
  rfl

theorem transcribe?_eq (h : c.InRange) (m : Memory) :
    c.transcribe? m = some (c.transcribe m) := by
  unfold transcribe?
  rw [h.scribe.follow?_eq m h.synth]
  simp only [Option.bind_eq_bind, Option.bind_some, Scribe.transmit?_eq]
  rfl

theorem setUpReceiver?_eq (c : Chip) : c.setUpReceiver? = some c.setUpReceiver := by
  unfold setUpReceiver?
  rw [c.scribe.setUp?_eq]
  rfl

theorem silence?_eq (c : Chip) : c.silence? = some c.silence := by
  unfold silence?
  rw [c.scribe.reset?_eq]
  rfl

theorem operate?_eq (h : c.InRange) (o : Operation) : c.operate? o = some (c.operate o) := by
  cases o with
  | power =>
      simp only [operate?, power?_eq]
      rfl
  | clock memory =>
      simp only [operate?, h.clock?_eq]
      rfl
  | write address data =>
      simp only [operate?, write?_eq]
      rfl
  | supply data =>
      simp only [operate?, h.supply?_eq]
      rfl
  | transcribe memory =>
      simp only [operate?, h.transcribe?_eq]
      rfl
  | setUpReceiver =>
      simp only [operate?, setUpReceiver?_eq]
      rfl
  | silence =>
      simp only [operate?, silence?_eq]
      rfl
  | _ => rfl

end InRange

end Chip

theorem Reachable.inRange {c : Chip} (h : Reachable c) : c.InRange := by
  induction h with
  | new s => exact Chip.inRange_new s
  | operate o _ before => exact before.operate o
  | load _ _ here saved => exact here.load saved

/--
Every register of a chip that a host can come by is in its range, and no call of
it overflows, underflows, shifts a word out or leaves a table.
-/
theorem Reachable.unfailing {c : Chip} (h : Reachable c) :
    c.InRange ∧ ∀ o : Operation, c.operate? o = some (c.operate o) :=
  ⟨h.inRange, h.inRange.operate?_eq⟩

/-- A chip with a restart of the frame sequencer pending, as another chip loads it. -/
theorem unfailing_when_loaded :
    let saved : Chip := (Chip.ofSettings { region := .pal }).after [.power, .write 0x4017 0x80]
    let loaded : Chip := ((Chip.ofSettings {}).load saved.snapshot.toJson).2.1
    loaded.InRange ∧ ∀ o : Operation, loaded.operate? o = some (loaded.operate o) :=
  Reachable.unfailing (.load (.new {}) (Reachable.after (.new { region := .pal }) _))

end ChipScribe
