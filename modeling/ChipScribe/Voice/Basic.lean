import ChipScribe.Tuning
import ChipScribe.Midi.Emitter

/-!
A voice is the transcription of one channel.  It holds the tone that the channel
should be sounding, recomputed on every clock, and the tone that was last sent;
what is sent is the difference between the two.  A pacer keeps the voice quiet
while the cable is still busy with its last burst.
-/

namespace ChipScribe

/-- A note on a channel with its loudness, its 14-bit bend and its exact pitch; note 0 is none. -/
structure Tone where
  note : UInt8 := 0
  chan : UInt8 := 0
  vel : UInt8 := 0
  wheel : UInt16 := 0
  pitch : Float := 0.0
  deriving Repr, Inhabited

/-- The size of the last burst, and the clocks since. -/
structure Pacer where
  burst : UInt32 := 0
  elapsed : UInt32 := 0
  deriving DecidableEq, Repr, Inhabited

namespace Pacer

/-- A burst of `n` messages keeps the cable busy for `n * cyclesPerMessage` clocks. -/
def busy (p : Pacer) (cyclesPerMessage : UInt32) : Bool :=
  p.elapsed.toNat < min (cyclesPerMessage.toNat * p.burst.toNat) 0xFFFFFFFF

def tick (p : Pacer) : Pacer :=
  if p.elapsed == 0xFFFFFFFF then p else { p with elapsed := p.elapsed + 1 }

def restart (burst : UInt32) : Pacer :=
  { burst := burst, elapsed := 0 }

end Pacer

/-- What the last recalculation saw of the channel. -/
structure Sighting where
  period : UInt8 := 0
  volume : UInt8 := 0
  addressLatch : UInt8 := 0
  lengthLatch : UInt8 := 0
  remaining : UInt16 := 0
  deriving DecidableEq, Repr, Inhabited

structure Voice where
  want : Tone := {}
  sent : Tone := {}
  /-- The wanted note has to be struck again even if it is the one last sent. -/
  fresh : Bool := false
  /-- The duty that chose the channel. -/
  duty : UInt8 := 0
  /-- Recalculations since the note began, counting from 1; 0 while there is none. -/
  age : UInt32 := 0
  program : UInt8 := 0
  volume : UInt8 := 0
  /-- Recalculations to skip until a period write has settled. -/
  settle : UInt32 := 0
  seen : Sighting := {}
  /-- A sample was started and waits to be looked up. -/
  triggered : Bool := false
  /-- A sample was stopped before its end. -/
  stopped : Bool := false
  /-- The receiver channel for each duty; the other voices use the first alone. -/
  lanes : Vector UInt8 4 := .replicate 4 0
  pacer : Pacer := {}
  deriving Repr

namespace Voice

instance : Inhabited Voice := ⟨{}⟩

theorem laneIndex_lt (duty : UInt8) : duty.toNat % 4 < 4 :=
  Nat.mod_lt _ (by decide)

def lane (v : Voice) (duty : UInt8) : UInt8 :=
  have bound := laneIndex_lt duty
  v.lanes[duty.toNat % 4]

def holdOff (v : Voice) (settle : UInt32) : Voice :=
  { v with settle := settle }

def wheelCenter : Float := 8192.0

/--
The note to bend towards `pitch`: the held one, unless the pitch jumps by the
retrigger threshold or leaves the bend range; otherwise the nearest.
-/
def nearestNote (t : Tuning) (want : Tone) (pitch : Float) : Float :=
  let held := want.note.toFloat
  if want.note != 0 && (pitch - want.pitch).abs < t.retriggerThreshold
      && (pitch - held).abs < t.bendRange then held
  else roundFloat pitch

def wheelFor (t : Tuning) (bend : Float) : UInt16 :=
  (clampFloat 0.0 16383.0 (wheelCenter + bend * (wheelCenter / t.bendRange))).toUInt16 &&& 0x3FFF

/-- Move the wanted tone to a pitch, as a note and a bend. -/
def steer (v : Voice) (t : Tuning) (pitch : Float) : Voice :=
  let note := nearestNote t v.want pitch
  let bend := pitch - note
  let bend := if bend.abs < t.bendDeadband then 0.0 else bend
  { v with want := { v.want with
      note := (clampFloat 0.0 127.0 note).toUInt8
      wheel := wheelFor t bend
      pitch := pitch } }

/-- A burst is what a voice asks to send, with the state it is in once that is sent. -/
abbrev Burst := Voice × List Midi.Message

/-- What the voice asks for next follows in the same burst. -/
@[inline] def Burst.andThen (first : Burst) (next : Voice → Burst) : Burst :=
  let second := next first.1
  (second.1, first.2 ++ second.2)

/--
Send what `burst` asks for, unless the cable is busy.  The pacer is charged with
what the emitter lets through.
-/
@[inline] def transmit (burst : Voice → Burst) (t : Tuning) (v : Voice) (e : Midi.Emitter) :
    Voice × Midi.Emitter × List Midi.Message :=
  if v.pacer.busy t.cyclesPerMessage then
    ({ v with pacer := v.pacer.tick }, e, [])
  else
    let (v, asked) := burst v
    let (e, sent) := e.deliver asked
    ({ v with pacer := .restart sent.length.toUInt32 }, e, sent)

def released (v : Voice) : Voice :=
  { v with sent := { v.sent with note := 0 } }

end Voice

end ChipScribe
