import ChipScribe.Synth
import ChipScribe.Voice.Pulse
import ChipScribe.Voice.Triangle
import ChipScribe.Voice.Noise
import ChipScribe.Voice.Dmc

/-!
The transcribing half of the chip: a voice for each channel, the emitter they
share, the sample library and the tuning.  It watches the audible half and
never touches it.
-/

namespace ChipScribe

open Midi

structure Scribe where
  pulse1 : Voice := {}
  pulse2 : Voice := {}
  triangle : Voice := {}
  noise : Voice := {}
  dmc : Voice := {}
  emitter : Emitter := .initial
  library : Library := {}
  tuning : Tuning := {}
  /-- Where the libraries of this chip dump unknown samples. -/
  dumpDirectory : Option String := none
  /-- Clocks since the last bandwidth report. -/
  reportClock : UInt32 := 0

namespace Scribe

instance : Inhabited Scribe := ⟨{}⟩

/-! ## Watching the registers -/

def pulseVoice (c : Scribe) (side : PulseSide) (f : Voice → Voice) : Scribe :=
  match side with
  | .first => { c with pulse1 := f c.pulse1 }
  | .second => { c with pulse2 := f c.pulse2 }

/-- A write to `register` of the chip in state `s`, before it takes effect. -/
def watchWrite (c : Scribe) (s : Synth) (register : Register) (data : UInt8) : Scribe :=
  match register with
  | .pulseTimerLow side | .pulseTimerHigh side =>
      c.pulseVoice side (·.holdOff c.tuning.periodSettle)
  | .triangleTimerLow | .triangleTimerHigh =>
      { c with triangle := c.triangle.holdOff c.tuning.periodSettle }
  | .status =>
      { c with dmc := if data &&& 0x10 != 0 then c.dmc.startSample s.dmc
                      else c.dmc.stopSample s.dmc }
  | _ => c

/-! ## Transcribing -/

def follow (c : Scribe) (m : Memory) (s : Synth) : Scribe × List Effect :=
  let (dmc, library, effects) := c.dmc.followDmc c.tuning m s.dmc c.library
  ({ c with
      pulse1 := c.pulse1.followPulse c.tuning s.pulse1
      pulse2 := c.pulse2.followPulse c.tuning s.pulse2
      triangle := c.triangle.followTriangle c.tuning s.triangle
      noise := c.noise.followNoise c.tuning s.noise
      dmc := dmc
      library := library },
    effects)

/-- Let every voice send, percussion first so that the melodic voices cannot starve it. -/
def transmit (c : Scribe) : Scribe × List Message :=
  let t := c.tuning
  let dmc := Voice.transmit Voice.dmcBurst t c.dmc c.emitter
  let noise := Voice.transmit Voice.noiseBurst t c.noise dmc.2.1
  let triangle := Voice.transmit (Voice.triangleBurst t) t c.triangle noise.2.1
  let pulse1 := Voice.transmit (Voice.pulseBurst t) t c.pulse1 triangle.2.1
  let pulse2 := Voice.transmit (Voice.pulseBurst t) t c.pulse2 pulse1.2.1
  ({ c with
      pulse1 := pulse1.1, pulse2 := pulse2.1
      triangle := triangle.1, noise := noise.1, dmc := dmc.1
      emitter := pulse2.2.1 },
    dmc.2.2 ++ noise.2.2 ++ triangle.2.2 ++ pulse1.2.2 ++ pulse2.2.2)

/-- Clocks between bandwidth reports. -/
def reportPeriod : UInt32 := 1789773

/-- Count a clock; at the end of a period, report how much was sent. -/
def meter (c : Scribe) : Scribe × List Effect :=
  let clock := c.reportClock + 1
  if clock ≥ reportPeriod then
    let (messages, emitter) := c.emitter.takeReport
    ({ c with reportClock := 0, emitter := emitter }, [.notice (.bandwidth messages)])
  else ({ c with reportClock := clock }, [])

/-! ## Silencing and setting up the receiver -/

/-- The notes to release before the receiver is silenced. -/
def pulseReleases (v : Voice) : List Message :=
  if v.sent.note != 0 then v.lanes.toList.map fun chan => .off chan v.sent.note else []

def wantedRelease (v : Voice) : List Message :=
  if v.sent.note != 0 then [.off v.want.chan v.sent.note] else []

def sentRelease (v : Voice) : List Message :=
  if v.sent.note != 0 then [.off v.sent.chan v.sent.note] else []

def releases (c : Scribe) : List Message :=
  pulseReleases c.pulse1 ++ pulseReleases c.pulse2 ++ wantedRelease c.triangle ++
    wantedRelease c.noise ++ sentRelease c.dmc

def channels : List UInt8 :=
  (List.range 16).map (·.toUInt8)

/-- All notes off, then all controllers reset, on every channel and with pauses. -/
def hushSequence : List Message :=
  (channels.flatMap fun chan => [.delay, .control chan Message.allNotesOff 0, .delay]) ++
  (channels.flatMap fun chan =>
    [.delay, .control chan Message.resetControllers 0, .delay, .delay, .delay])

/-- Silence the receiver.  What it holds afterwards is not known. -/
def reset (c : Scribe) : Scribe × List Message :=
  let hushed := c.emitter.announce c.releases hushSequence
  ({ c with
      pulse1 := c.pulse1.released, pulse2 := c.pulse2.released
      triangle := c.triangle.released, noise := c.noise.released, dmc := c.dmc.released
      emitter := hushed.1 },
    hushed.2)

/-- General MIDI programs by duty. -/
def dutyPrograms : List UInt8 := [81, 63, 80, 87]

def pulse1Pan : UInt8 := 0x28
def pulse2Pan : UInt8 := 0x58
def triangleChannel : UInt8 := 8
def triangleProgram : UInt8 := 33
def triangleVolume : UInt8 := 0x48
def trianglePan : UInt8 := 0x40
def noiseChannel : UInt8 := 9
def noiseVolume : UInt8 := 0x60

def pulseSetup (chan program pan : UInt8) : List Message :=
  [.delay, .program chan program, .delay, .control chan Message.channelVolume 0,
    .delay, .control chan Message.pan pan]

def dutySetup (program first second : UInt8) : List Message :=
  pulseSetup first program pulse1Pan ++ pulseSetup second program pulse2Pan

def fixedSetup : List Message :=
  [.delay, .program triangleChannel triangleProgram,
    .delay, .control triangleChannel Message.channelVolume triangleVolume,
    .delay, .control triangleChannel Message.pan trianglePan,
    .delay, .program noiseChannel 0,
    .delay, .control noiseChannel Message.channelVolume noiseVolume]

def setupSequence : List Message :=
  (dutyPrograms.zipIdx.flatMap fun (program, duty) =>
    dutySetup program duty.toUInt8 (duty.toUInt8 + 4)) ++ fixedSetup

def freshVoice (lanes : Vector UInt8 4) : Voice :=
  { lanes := lanes }

def pulse1Home : Voice := freshVoice #v[0, 1, 2, 3]

def pulse2Home : Voice := freshVoice #v[4, 5, 6, 7]

def triangleHome : Voice := freshVoice #v[triangleChannel, 0, 0, 0]

def noiseHome : Voice := freshVoice #v[noiseChannel, 0, 0, 0]

/-- Silence the receiver and send it the sequence; every voice starts over on its channels. -/
def setUpWith (c : Scribe) (sequence : List Message) : Scribe × List Message :=
  let hushed := c.reset
  let set := hushed.1.emitter.announce [] sequence
  ({ c with
      pulse1 := pulse1Home
      pulse2 := pulse2Home
      triangle := triangleHome
      noise := noiseHome
      dmc := {}
      emitter := set.1 },
    hushed.2 ++ set.2)

/-- Silence the receiver, then give every voice its channels, programs, volumes and pans. -/
def setUp (c : Scribe) : Scribe × List Message :=
  c.setUpWith setupSequence

def power (c : Scribe) : Scribe × List Message :=
  let set := c.setUp
  ({ set.1 with reportClock := 0, emitter := set.1.emitter.takeReport.2 }, set.2)

end Scribe

end ChipScribe
