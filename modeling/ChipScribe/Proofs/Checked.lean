import Mathlib.Algebra.Group.Nat.Defs
import ChipScribe.Proofs.Operation

/-!
# The chip with checked arithmetic

The chip once more, with words that refuse to wrap around: a sum, a difference
or a product that does not fit, a shift by the whole width and an index beyond
its table give no result.  Only the countdowns, the sequencer of the pulse
channels, the one's complement of the first sweep, addresses and fingerprints
wrap around on purpose, and stay as they are.
-/

namespace ChipScribe

/-! ## Words -/

/-- A machine word of some width. -/
class Word (α : Type) where
  width : Nat
  toNat : α → Nat

instance : Word UInt8 := ⟨8, UInt8.toNat⟩

instance : Word UInt16 := ⟨16, UInt16.toNat⟩

instance : Word UInt32 := ⟨32, UInt32.toNat⟩

instance : Word UInt64 := ⟨64, UInt64.toNat⟩

namespace Word

variable {α : Type} [Word α]

def plus [Add α] (a b : α) : Option α :=
  if toNat a + toNat b < 2 ^ width α then some (a + b) else none

def minus [Sub α] (a b : α) : Option α :=
  if toNat b ≤ toNat a then some (a - b) else none

def times [Mul α] (a b : α) : Option α :=
  if toNat a * toNat b < 2 ^ width α then some (a * b) else none

/-- A shift down by fewer places than the word has. -/
def down [ShiftRight α] (a places : α) : Option α :=
  if toNat places < width α then some (a >>> places) else none

theorem plus_eq [Add α] {a b : α} (fits : toNat a + toNat b < 2 ^ width α) :
    plus a b = some (a + b) :=
  if_pos fits

theorem minus_eq [Sub α] {a b : α} (fits : toNat b ≤ toNat a) : minus a b = some (a - b) :=
  if_pos fits

theorem times_eq [Mul α] {a b : α} (fits : toNat a * toNat b < 2 ^ width α) :
    times a b = some (a * b) :=
  if_pos fits

theorem down_eq [ShiftRight α] {a places : α} (fits : toNat places < width α) :
    down a places = some (a >>> places) :=
  if_pos fits

end Word

open Midi Word

/-! ## Periods -/

namespace Region

def noisePeriod? (r : Region) (index : UInt8) : Option UInt16 :=
  r.noisePeriods[(index &&& 0x0F).toNat]?

def dmcPeriod? (r : Region) (index : UInt8) : Option UInt16 :=
  r.dmcPeriods[(index &&& 0x0F).toNat]?

def framePeriod? (r : Region) (fiveStep : Bool) (step : UInt8) : Option UInt16 :=
  (r.framePeriods fiveStep)[min step.toNat 5]?

end Region

/-! ## Units -/

namespace LengthCounter

def clock? (c : LengthCounter) : Option LengthCounter := do
  if !c.halt && c.enabled && c.count > 0 then
    let count ← minus c.count 1
    return { c with count }
  else return c

def load? (c : LengthCounter) (index : UInt8) : Option LengthCounter := do
  if c.enabled then
    let count ← table[(index &&& 0x1F).toNat]?
    return { c with count }
  else return c

def writeIndex? (c : LengthCounter) (clocking : Bool) (index : UInt8) : Option LengthCounter :=
  if !c.enabled then some c
  else if clocking then some (c.writeIndex clocking index)
  else c.load? index

def commit? (c : LengthCounter) : Option LengthCounter :=
  let halted := c.commitHalt
  if halted.loadPending then { halted with loadPending := false }.load? halted.nextIndex
  else some halted

end LengthCounter

namespace Envelope

def stepLevel? (e : Envelope) : Option UInt8 :=
  if e.level > 0 then minus e.level 1 else some (if e.loop then 15 else e.level)

def clock? (e : Envelope) : Option Envelope := do
  if e.restart then return { e with restart := false, level := 15, divider := e.speed }
  else if e.divider > 0 then
    let divider ← minus e.divider 1
    return { e with divider }
  else
    let level ← e.stepLevel?
    return { e with divider := e.speed, level }

end Envelope

namespace Sweep

def delta? (s : Sweep) : Option UInt16 :=
  down s.timer s.shift.toUInt16

def overflows? (s : Sweep) : Option Bool := do
  if s.negate then return false
  else
    let delta ← s.delta?
    let target ← plus s.timer delta
    return target &&& 0x800 != 0

def audible? (s : Sweep) : Option Bool := do
  if s.timer < 0x008 then return false
  else
    let overflows ← s.overflows?
    return !overflows

def target? (side : PulseSide) (s : Sweep) : Option UInt16 := do
  let delta ← s.delta?
  if s.negate then
    let lower ← minus s.timer delta
    match side with
    | .first => return (lower - 1) &&& 0x7FF
    | .second => return lower &&& 0x7FF
  else
    let upper ← plus s.timer delta
    return upper &&& 0x7FF

def update? (side : PulseSide) (s : Sweep) : Option Sweep := do
  if s.enabled && s.shift > 0 then
    let audible ← s.audible?
    if audible then
      let timer ← s.target? side
      return { s with timer }
    else return s
  else return s

def tick? (side : PulseSide) (s : Sweep) : Option Sweep := do
  if s.divider - 1 == 0 then
    let updated ← s.update? side
    let divider ← plus s.period 1
    return { updated with divider }
  else return { s with divider := s.divider - 1 }

def clock? (side : PulseSide) (s : Sweep) : Option Sweep := do
  let ticked ← s.tick? side
  if s.reload then
    let divider ← plus s.period 1
    return { ticked with reload := false, divider }
  else return ticked

end Sweep

namespace FrameSequencer

def nextStep? (step : UInt8) : Option UInt8 :=
  if step ≥ 5 then some 0 else plus step 1

def delay? (f : FrameSequencer) : Option UInt8 :=
  if f.resetPending then minus f.resetDelay 1 else some f.resetDelay

def advance? (r : Region) (f : FrameSequencer) : Option FrameSequencer := do
  if f.restarting then
    let counter ← r.framePeriod? f.fiveStep 0
    return { f with
      resetPending := false, resetDelay := 0, step := 0, counter, odd := !f.odd }
  else
    let resetDelay ← f.delay?
    if f.counter - 1 == 0 then
      let step ← nextStep? f.step
      let counter ← r.framePeriod? f.fiveStep step
      return { f with
        resetDelay, irqPending := f.irqPending || f.raisesIrq, step, counter, odd := !f.odd }
    else return { f with resetDelay, counter := f.counter - 1, odd := !f.odd }

end FrameSequencer

/-! ## Channels -/

namespace Pulse

def high? (duty phase : UInt8) : Option Bool := do
  let cycle ← dutyTable[(duty &&& 3).toNat]?
  cycle[(phase &&& 7).toNat]?

def sounding? (p : Pulse) : Option Bool := do
  let audible ← p.sweep.audible?
  return audible && p.length.active

def output? (p : Pulse) : Option UInt8 := do
  let sounding ← p.sounding?
  if sounding then
    let high ← high? p.duty p.phase
    return if high then p.envelope.volume else 0
  else return 0

def advance? (p : Pulse) : Option Pulse := do
  let sounding ← p.sounding?
  if !sounding then return p
  else if p.countdown - 1 == 0 then
    let period ← plus p.sweep.timer 1
    let countdown ← times period 2
    return { p with countdown, phase := (p.phase - 1) &&& 7 }
  else return { p with countdown := p.countdown - 1 }

def clockQuarter? (p : Pulse) : Option Pulse := do
  let envelope ← p.envelope.clock?
  return { p with envelope }

def clockHalf? (side : PulseSide) (p : Pulse) : Option Pulse := do
  let length ← p.length.clock?
  let sweep ← p.sweep.clock? side
  return { p with length, sweep }

def commit? (p : Pulse) : Option Pulse := do
  let length ← p.length.commit?
  return { p with length }

def writeTimerHigh? (p : Pulse) (data : UInt8) (clocking : Bool) : Option Pulse := do
  let length ← p.length.writeIndex? clocking (data >>> 3)
  return { p.writeTimerHigh data clocking with length }

end Pulse

namespace Triangle

def advance? (t : Triangle) : Option Triangle := do
  if !t.sounding then return t
  else if t.countdown - 1 == 0 then
    let step ← plus t.step 1
    let countdown ← plus t.timer 1
    return { t with step := step &&& 0x1F, countdown }
  else return { t with countdown := t.countdown - 1 }

def linear? (t : Triangle) : Option UInt8 :=
  if t.linearReload then some t.linearLength
  else if t.linear > 0 then minus t.linear 1
  else some t.linear

def clockQuarter? (t : Triangle) : Option Triangle := do
  let linear ← t.linear?
  return { t with linear, linearReload := t.linearReload && t.length.halt }

def clockHalf? (t : Triangle) : Option Triangle := do
  let length ← t.length.clock?
  return { t with length }

def commit? (t : Triangle) : Option Triangle := do
  let length ← t.length.commit?
  return { t with length }

def writeTimerHigh? (t : Triangle) (data : UInt8) (clocking : Bool) : Option Triangle := do
  let length ← t.length.writeIndex? clocking (data >>> 3)
  return { t.writeTimerHigh data clocking with length }

end Triangle

namespace Noise

def advance? (r : Region) (n : Noise) : Option Noise := do
  if !n.length.active then return n
  else if n.countdown - 1 == 0 then
    let countdown ← r.noisePeriod? n.period
    return { n with shift := stepShift n.shortMode n.shift, countdown }
  else return { n with countdown := n.countdown - 1 }

def clockQuarter? (n : Noise) : Option Noise := do
  let envelope ← n.envelope.clock?
  return { n with envelope }

def clockHalf? (n : Noise) : Option Noise := do
  let length ← n.length.clock?
  return { n with length }

def commit? (n : Noise) : Option Noise := do
  let length ← n.length.commit?
  return { n with length }

def writeLength? (n : Noise) (data : UInt8) (clocking : Bool) : Option Noise := do
  let length ← n.length.writeIndex? clocking (data >>> 3)
  return { n.writeLength data clocking with length }

end Noise

namespace Dmc

def stepLevel? (level : UInt8) (bit : Bool) : Option UInt8 :=
  if bit then (if level ≤ 125 then plus level 2 else some level)
  else if level ≥ 2 then minus level 2
  else some level

def sampleLength? (d : Dmc) : Option UInt16 :=
  plus (d.lengthLatch.toUInt16 <<< 4) 1

def rewind? (d : Dmc) : Option Dmc := do
  let remaining ← d.sampleLength?
  return { d with cursor := d.sampleStart &&& 0x7FFF, remaining }

def start? (d : Dmc) : Option Dmc := do
  if d.remaining != 0 then return d
  else
    let rewound ← d.rewind?
    return { rewound with
      age := if rewound.remaining > 1 then 1 else d.age
      startDelay := d.primeDelay }

def currentBit? (d : Dmc) : Option Bool := do
  let rest ← down d.shift d.bit
  return rest &&& 1 != 0

def nextLevel? (d : Dmc) : Option UInt8 := do
  if d.shifting then
    let bit ← d.currentBit?
    stepLevel? d.level bit
  else return d.level

def stepBit? (r : Region) (d : Dmc) : Option Dmc := do
  let level ← d.nextLevel?
  let bit ← plus d.bit 1
  let countdown ← r.dmcPeriod? d.rate
  if bit &&& 7 == 0 then
    if d.buffered then
      return { d with
        level, bit := bit &&& 7, countdown, shifting := true, shift := d.buffer, buffered := false }
    else return { d with level, bit := bit &&& 7, countdown, shifting := false }
  else return { d with level, bit := bit &&& 7, countdown }

def runTimer? (r : Region) (d : Dmc) : Option Dmc :=
  if d.stepping then d.stepBit? r else some { d with countdown := d.countdown - 1 }

def runDelay? (d : Dmc) : Option Dmc := do
  if d.startDelay > 0 then
    let startDelay ← minus d.startDelay 1
    return { d with startDelay }
  else return d

def advance? (r : Region) (d : Dmc) : Option Dmc := do
  let timed ← d.tickAge.runTimer? r
  timed.runDelay?

def finishByte? (d : Dmc) : Option Dmc :=
  if d.remaining != 0 then some d
  else if d.loop then d.rewind?
  else some d.finishByte

def supply? (d : Dmc) (data : UInt8) : Option Dmc := do
  let filled := { d with buffer := data, buffered := true }
  if d.remaining == 0 then return filled
  else
    let remaining ← minus d.remaining 1
    let cursor ← plus d.cursor 1
    { filled with remaining, cursor := cursor &&& 0x7FFF }.finishByte?

end Dmc

/-! ## The mixer -/

namespace Mixer

/-- Where the second ladder has the level of the three inputs. -/
def rampIndex (dmc triangle noise : UInt8) : Nat :=
  (dmc &&& 0x7F).toNat * 256 + (triangle &&& 0x0F).toNat * 16 + (noise &&& 0x0F).toNat

def pulseLevel? (amp : UInt8) : Option UInt16 :=
  if (amp &&& 0x1F).toNat < 32 then some (pulseLevel amp) else none

def rampLevel? (dmc triangle noise : UInt8) : Option UInt16 :=
  if rampIndex dmc triangle noise < 128 * 16 * 16 then some (rampLevel dmc triangle noise) else none

def mix? (pulse1 pulse2 triangle noise dmc : UInt8) : Option Nat := do
  let amp ← plus pulse1 pulse2
  let pulse ← pulseLevel? amp
  let ramp ← rampLevel? dmc triangle noise
  let sum := pulse.toNat + ramp.toNat
  if sum < 2 ^ 31 then return min sum 32767 else none

end Mixer

/-! ## The audible half -/

namespace Synth

def sample? (s : Synth) : Option Nat := do
  let pulse1 ← s.pulse1.output?
  let pulse2 ← s.pulse2.output?
  Mixer.mix? pulse1 pulse2 s.triangle.output s.noise.output s.dmc.level

def clockQuarter? (s : Synth) : Option Synth := do
  let pulse1 ← s.pulse1.clockQuarter?
  let pulse2 ← s.pulse2.clockQuarter?
  let triangle ← s.triangle.clockQuarter?
  let noise ← s.noise.clockQuarter?
  return { s with pulse1, pulse2, triangle, noise }

def clockHalf? (s : Synth) : Option Synth := do
  let pulse1 ← s.pulse1.clockHalf? .first
  let pulse2 ← s.pulse2.clockHalf? .second
  let triangle ← s.triangle.clockHalf?
  let noise ← s.noise.clockHalf?
  return { s with pulse1, pulse2, triangle, noise }

def heed? (s : Synth) : FrameSignal → Option Synth
  | .none => some s
  | .quarter => s.clockQuarter?
  | .half => do
      let halved ← s.clockHalf?
      halved.clockQuarter?

def commit? (s : Synth) : Option Synth := do
  let pulse1 ← s.pulse1.commit?
  let pulse2 ← s.pulse2.commit?
  let triangle ← s.triangle.commit?
  let noise ← s.noise.commit?
  return { s with pulse1, pulse2, triangle, noise }

def advance? (s : Synth) : Option Synth := do
  let pulse1 ← s.pulse1.advance?
  let pulse2 ← s.pulse2.advance?
  let triangle ← s.triangle.advance?
  let noise ← s.noise.advance? s.region
  let dmc ← s.dmc.advance? s.region
  let frame ← s.frame.advance? s.region
  return { s with pulse1, pulse2, triangle, noise, dmc, frame }

def clock? (s : Synth) : Option Synth := do
  let advanced ← s.advance?
  let heeded ← advanced.heed? s.frame.signal
  let committed ← heeded.commit?
  return committed.settleIrq

def writePulse? (s : Synth) (side : PulseSide) (f : Pulse → Option Pulse) : Option Synth :=
  match side with
  | .first => do
      let pulse1 ← f s.pulse1
      return { s with pulse1 }
  | .second => do
      let pulse2 ← f s.pulse2
      return { s with pulse2 }

def writeStatus? (s : Synth) (data : UInt8) : Option Synth := do
  let dmc ← if data &&& 0x10 != 0 then s.dmc.start? else some s.dmc.stop
  return { s.writeStatus data with dmc := dmc.clearIrq }

/-- Writes without a checked operation are as before. -/
def write? (s : Synth) (register : Register) (data : UInt8) : Option Synth :=
  let clocking := s.frame.lengthClocking
  match register with
  | .pulseTimerHigh side => s.writePulse? side (·.writeTimerHigh? data clocking)
  | .triangleTimerHigh => do
      let triangle ← s.triangle.writeTimerHigh? data clocking
      return { s with triangle }
  | .noiseLength => do
      let noise ← s.noise.writeLength? data clocking
      return { s with noise }
  | .status => do
      let written ← s.writeStatus? data
      return written.settleIrq
  | _ => some (s.write register data)

def supply? (s : Synth) (data : UInt8) : Option Synth := do
  let dmc ← s.dmc.supply? data
  return { s with dmc }.settleIrq

end Synth

/-! ## The emitter -/

namespace Midi.Emitter

/-- The tables have a row for each channel, and that of the controllers 128 columns. -/
def offer? (e : Emitter) : Message → Option (Emitter × List Message)
  | .delay => some (e, [.delay])
  | .short status data1 data2 =>
      if (status &&& 0x0F).toNat < 16 ∧ (data1 &&& 0x7F).toNat < 128 then
        some (e.offer (.short status data1 data2))
      else none

def deliver? (e : Emitter) : List Message → Option (Emitter × List Message)
  | [] => some (e, [])
  | m :: rest => do
      let first ← e.offer? m
      let second ← first.1.deliver? rest
      return (second.1, first.2 ++ second.2)

def announce? (e : Emitter) (front back : List Message) : Option (Emitter × List Message) := do
  let first ← e.deliver? front
  let second ← first.1.forget.deliver? back
  return (second.1.resetCount, first.2 ++ second.2)

end Midi.Emitter

/-! ## Voices -/

namespace Drum

/-- Odd periods add one, or two, to the key of their drum. -/
def key? (alternate constantVolume : Bool) (period : UInt8) : Option UInt8 :=
  let odd := if alternate then period &&& 1 else 0
  if 0x0B ≤ period && period ≤ 0x0F then plus 35 odd
  else if 0x06 ≤ period && period ≤ 0x0A then plus 38 (odd <<< 1)
  else some (ofPeriod alternate constantVolume period).key

end Drum

namespace Waveform

def levelsFrom? : UInt8 → List Bool → Option (List UInt8)
  | _, [] => some []
  | level, bit :: rest => do
      let level ← Dmc.stepLevel? level bit
      let later ← levelsFrom? level rest
      return level :: later

/-- The ladder has one entry for each of the 128 levels. -/
def column? (level : UInt8) : Option UInt16 :=
  if level.toNat < 128 then some (Mixer.dmcLevel level) else none

def decode? (bytes : List UInt8) : Option (List UInt16) := do
  let levels ← levelsFrom? 0 (bytes.flatMap bits)
  levels.mapM column?

end Waveform

namespace Voice

def settle? (v : Voice) : Option Voice := do
  let settle ← minus v.settle 1
  return { v with settle }

def beginNote? (v : Voice) (duty held : UInt8) : Option Voice := do
  if held == 0 || v.want.note != held then
    let chan ← v.lanes[(duty &&& 3).toNat]?
    return { v with duty := duty &&& 3, want := { v.want with chan }, age := 1 }
  else return { v with age := ageTick v.age }

/-- The remembered duty is taken as it is. -/
def chooseLane? (v : Voice) (t : Tuning) (duty : UInt8) : Option Voice := do
  if v.age < t.dutyHysteresis then return { v with duty := duty &&& 3 }
  else
    let chan ← v.lanes[v.duty.toNat]?
    return { v with want := { v.want with chan } }

def soundPulse? (v : Voice) (t : Tuning) (p : Pulse) (pitch : Float) : Option Voice := do
  let held := v.want.note
  let steered := v.steer t pitch
  let loud := { steered with
    want := { steered.want with vel := t.pulseVelocity p.envelope.volume } }
  let begun ← loud.beginNote? p.duty held
  begun.chooseLane? t p.duty

def followPulse? (t : Tuning) (p : Pulse) (v : Voice) : Option Voice := do
  if v.settle > 0 then v.settle?
  else
    let sounding ← p.sounding?
    if !sounding then return v.hush
    else
      let pitch := Pitch.ofPeriod Pitch.pulseDivider p.sweep.timer
      if pitch > 127.0 then return v.hush else v.soundPulse? t p pitch

def followTriangle? (t : Tuning) (c : Triangle) (v : Voice) : Option Voice := do
  if v.settle > 0 then v.settle?
  else
    let chan ← v.lanes[0]?
    let placed := { v with want := { v.want with chan, vel := t.triangleVelocity } }
    if !c.sounding || c.timer ≤ 1 then return { placed with want := { placed.want with note := 0 } }
    else
      let pitch := Pitch.ofPeriod Pitch.triangleDivider c.timer
      if pitch > 127.0 then return { placed with want := { placed.want with note := 0 } }
      else return placed.steer t pitch

def strikeDrum? (v : Voice) (t : Tuning) (n : Noise) (note : UInt8) : Option Voice := do
  let chan ← v.lanes[0]?
  return { v with
    fresh := true
    want := { v.want with note, chan, vel := t.noiseVelocity n.envelope.volume } }

def followNoise? (t : Tuning) (n : Noise) (v : Voice) : Option Voice := do
  let volume := n.envelope.volume
  if !n.length.active || volume == 0 then return v.silenceNoise n.period
  else
    let note ← Drum.key? t.alternateDrums n.envelope.constant n.period
    let sighted := v.sightNoise n.period volume
    if n.period != v.seen.period || volume > v.seen.volume then sighted.strikeDrum? t n note
    else return sighted

end Voice

/-- The pitch of an instrument, from its table of sixteen. -/
def Instrument.pitch? (i : Instrument) (rate : UInt8) : Option Float :=
  i.pitches[(rate &&& 0x0F).toNat]?

/-- A new sample with a place to dump it is decoded, and its rate is noted beside it. -/
def Library.recordUnknown? (l : Library) (hash : Fingerprint) (rate : UInt8)
    (bytes : List UInt8) : Option (Library × Option Waveform.Dump) := do
  if l.isNew ⟨hash, rate &&& 0x0F⟩ && l.dumpDirectory.isSome then
    let _content ← Waveform.decode? bytes
    let _sampleRate ← Waveform.sampleRates[(rate &&& 0x0F).toNat]?
    return l.recordUnknown hash rate bytes
  else return l.recordUnknown hash rate bytes

namespace Voice

def playInstrument? (v : Voice) (t : Tuning) (i : Instrument) (rate : UInt8) : Option Voice := do
  let pitch ← i.pitch? rate
  let patched := { v with
    program := i.program
    volume := i.volume
    fresh := true
    want := { v.want with chan := i.channel, vel := i.velocity } }
  return patched.steer t pitch

def lookUp? (t : Tuning) (m : Memory) (d : Dmc) (l : Library) (v : Voice) :
    Option (Voice × Library × List Effect) := do
  let length ← d.sampleLength?
  let bytes := sampleBytesFrom m d.sampleStart length.toNat
  let hash := Fingerprint.ofBytes bytes
  let sighted := v.sightLatches d
  match l.lookup? hash with
  | some i =>
      let pitch ← i.pitch? d.rate
      if pitch > 0.0 then
        let played ← sighted.playInstrument? t i d.rate
        return (played, l, [.notice (.sampleFound hash d.addressLatch d.lengthLatch d.rate)])
      else return (sighted.silenceSample, l, [.notice (.sampleSilent hash d.rate)])
  | none =>
      let recorded ← l.recordUnknown? hash d.rate bytes
      return (sighted.silenceSample, recorded.1,
        .notice (.sampleUnknown hash d.addressLatch d.lengthLatch d.rate) ::
          recorded.2.toList.map .dump)

def followDmc? (t : Tuning) (m : Memory) (d : Dmc) (l : Library) (v : Voice) :
    Option (Voice × Library × List Effect) := do
  if v.dueLookup t d then
    let found ← v.lookUp? t m d l
    return (found.1.endSample d, found.2)
  else return (v.endSample d, l, [])

def transmit? (burst : Voice → Burst) (t : Tuning) (v : Voice) (e : Emitter) :
    Option (Voice × Emitter × List Message) := do
  if v.pacer.busy t.cyclesPerMessage then return ({ v with pacer := v.pacer.tick }, e, [])
  else
    let delivered ← e.deliver? (burst v).2
    return ({ (burst v).1 with pacer := .restart delivered.2.length.toUInt32 },
      delivered.1, delivered.2)

end Voice

/-! ## The transcribing half -/

namespace Scribe

def follow? (c : Scribe) (m : Memory) (s : Synth) : Option (Scribe × List Effect) := do
  let pulse1 ← c.pulse1.followPulse? c.tuning s.pulse1
  let pulse2 ← c.pulse2.followPulse? c.tuning s.pulse2
  let triangle ← c.triangle.followTriangle? c.tuning s.triangle
  let noise ← c.noise.followNoise? c.tuning s.noise
  let dmc ← c.dmc.followDmc? c.tuning m s.dmc c.library
  return ({ c with pulse1, pulse2, triangle, noise, dmc := dmc.1, library := dmc.2.1 }, dmc.2.2)

/-- The report gives the messages of the period, times thirty. -/
def meter? (c : Scribe) : Option (Scribe × List Effect) := do
  let reportClock ← plus c.reportClock 1
  if reportClock ≥ reportPeriod then
    let counted := c.emitter.takeReport
    let _bits ← times counted.1.toUInt64 30
    return ({ c with reportClock := 0, emitter := counted.2 }, [.notice (.bandwidth counted.1)])
  else return ({ c with reportClock }, [])

def transmit? (c : Scribe) : Option (Scribe × List Message) := do
  let t := c.tuning
  let dmc ← Voice.transmit? Voice.dmcBurst t c.dmc c.emitter
  let noise ← Voice.transmit? Voice.noiseBurst t c.noise dmc.2.1
  let triangle ← Voice.transmit? (Voice.triangleBurst t) t c.triangle noise.2.1
  let pulse1 ← Voice.transmit? (Voice.pulseBurst t) t c.pulse1 triangle.2.1
  let pulse2 ← Voice.transmit? (Voice.pulseBurst t) t c.pulse2 pulse1.2.1
  return ({ c with
      pulse1 := pulse1.1, pulse2 := pulse2.1
      triangle := triangle.1, noise := noise.1, dmc := dmc.1
      emitter := pulse2.2.1 },
    dmc.2.2 ++ noise.2.2 ++ triangle.2.2 ++ pulse1.2.2 ++ pulse2.2.2)

def reset? (c : Scribe) : Option (Scribe × List Message) := do
  let hushed ← c.emitter.announce? c.releases hushSequence
  return ({ c.reset.1 with emitter := hushed.1 }, hushed.2)

def setupSequence? : Option (List Message) := do
  let duties ← dutyPrograms.zipIdx.mapM fun entry => do
    let second ← plus entry.2.toUInt8 4
    return dutySetup entry.1 entry.2.toUInt8 second
  return duties.flatten ++ fixedSetup

def setUp? (c : Scribe) : Option (Scribe × List Message) := do
  let hushed ← c.reset?
  let sequence ← setupSequence?
  let set ← hushed.1.emitter.announce? [] sequence
  return ({ (c.setUpWith sequence).1 with emitter := set.1 }, hushed.2 ++ set.2)

end Scribe

/-! ## The chip -/

namespace Chip

def power? (c : Chip) : Option (Chip × Report) := do
  let set ← c.scribe.setUp?
  let synth := c.synth.power
  return ({ synth, scribe := { set.1 with
      reportClock := 0, emitter := set.1.emitter.takeReport.2 } },
    { irq := some synth.irqLine
      midi := set.2
      effects := [.notice (.powered synth.region c.scribe.library.size)] })

def transcribe? (m : Memory) (c : Chip) : Option (Chip × Report) := do
  let followed ← c.scribe.follow? m c.synth
  let transmitted ← followed.1.transmit?
  return ({ c with scribe := transmitted.1 }, { midi := transmitted.2, effects := followed.2 })

def clock? (m : Memory) (c : Chip) : Option (Chip × Cycle) := do
  let synth ← c.synth.clock?
  let sample ← c.synth.sample?
  let followed ← c.scribe.follow? m synth
  let transmitted ← followed.1.transmit?
  let metered ← transmitted.1.meter?
  return ({ synth, scribe := metered.1 },
    { sample
      requests := c.synth.requests
      irq := c.synth.drive synth
      midi := transmitted.2
      effects := followed.2 ++ metered.2 })

def writeRegister? (c : Chip) (register : Register) (data : UInt8) : Option (Chip × Report) := do
  let synth ← c.synth.write? register data
  let scribe := c.scribe.watchWrite c.synth register data
  return (⟨synth, scribe⟩, { irq := c.synth.drive synth, effects := writeNotices register data })

def write? (c : Chip) (address : UInt16) (data : UInt8) : Option (Chip × Report) :=
  match Register.ofAddress? address with
  | some register => c.writeRegister? register data
  | none => some (c.write address data)

def supply? (c : Chip) (data : UInt8) : Option (Chip × Report) := do
  let synth ← c.synth.supply? data
  return ({ c with synth }, { irq := c.synth.drive synth })

def silence? (c : Chip) : Option (Chip × Report) := do
  let reset ← c.scribe.reset?
  return ({ c with scribe := reset.1 }, { midi := reset.2 })

def setUpReceiver? (c : Chip) : Option (Chip × Report) := do
  let set ← c.scribe.setUp?
  return ({ c with scribe := set.1 }, { midi := set.2 })

/-- Reading and the settings hold no checked operation. -/
def operate? (c : Chip) : Operation → Option (Chip × Outcome)
  | .power => do
      let done ← c.power?
      return (done.1, .ofReport done.2)
  | .clock memory => do
      let clocked ← c.clock? memory
      return (clocked.1, { clocked.2.toReport with
        sample := some clocked.2.sample, requests := clocked.2.requests })
  | .write address data => do
      let done ← c.write? address data
      return (done.1, .ofReport done.2)
  | .supply data => do
      let done ← c.supply? data
      return (done.1, .ofReport done.2)
  | .transcribe memory => do
      let done ← c.transcribe? memory
      return (done.1, .ofReport done.2)
  | .setUpReceiver => do
      let done ← c.setUpReceiver?
      return (done.1, .ofReport done.2)
  | .silence => do
      let done ← c.silence?
      return (done.1, .ofReport done.2)
  | o => some (c.operate o)

end Chip

end ChipScribe
