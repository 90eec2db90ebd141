import ChipScribe.Voice.Basic
import ChipScribe.Pulse
import ChipScribe.Pitch

/-!
The voice of a pulse channel.  Loudness travels as channel volume, so that it
can change during a note.  The duty chooses one of four receiver channels; it
may change that choice only in the first clocks of a note, and once.
-/

namespace ChipScribe.Voice

open Midi

def hush (v : Voice) : Voice :=
  { v with want := { v.want with note := 0 }, age := 0 }

def ageTick (age : UInt32) : UInt32 :=
  if age == 0 || age == 0xFFFFFFFF then age else age + 1

/-- A note that is not the held one begins on the channel of the present duty. -/
def beginNote (v : Voice) (duty held : UInt8) : Voice :=
  if held == 0 || v.want.note != held then
    let duty := duty &&& 3
    { v with duty := duty, want := { v.want with chan := v.lane duty }, age := 1 }
  else { v with age := ageTick v.age }

/-- Within the hysteresis the duty is followed; after it the channel follows the last duty. -/
def chooseLane (v : Voice) (t : Tuning) (duty : UInt8) : Voice :=
  if v.age < t.dutyHysteresis then { v with duty := duty &&& 3 }
  else { v with want := { v.want with chan := v.lane v.duty } }

def soundPulse (v : Voice) (t : Tuning) (p : Pulse) (pitch : Float) : Voice :=
  let held := v.want.note
  let v := v.steer t pitch
  let v := { v with want := { v.want with vel := t.pulseVelocity p.envelope.volume } }
  (v.beginNote p.duty held).chooseLane t p.duty

def followPulse (t : Tuning) (p : Pulse) (v : Voice) : Voice :=
  if v.settle > 0 then { v with settle := v.settle - 1 }
  else if !p.sounding then v.hush
  else
    let pitch := Pitch.ofPeriod Pitch.pulseDivider p.sweep.timer
    if pitch > 127.0 then v.hush else v.soundPulse t p pitch

def fadeBurst (v : Voice) : Burst :=
  if v.sent.note != 0 && v.want.vel == 0 && v.sent.vel != 0 then
    ({ v with sent := { v.sent with note := 0, pitch := 0.0, vel := 0 } },
      [.off v.sent.chan v.sent.note])
  else (v, [])

def releaseBurst (v : Voice) : Burst :=
  if v.sent.note != 0 then
    ({ v with sent := { v.sent with note := 0, pitch := 0.0 } }, [.off v.sent.chan v.sent.note])
  else (v, [])

def audible (v : Voice) : Bool :=
  v.want.note != 0 && v.want.vel != 0

def strikeBurst (t : Tuning) (v : Voice) : Burst :=
  if v.audible then
    ({ v with sent := { v.sent with
        note := v.want.note, chan := v.want.chan, pitch := v.want.pitch } },
      [.on v.want.chan v.want.note t.noteOnVelocity])
  else (v, [])

/-- A change of note or channel releases the old note and strikes the new one. -/
def changeBurst (t : Tuning) (v : Voice) : Burst :=
  if v.want.note != v.sent.note || v.want.chan != v.sent.chan then
    v.releaseBurst.andThen (strikeBurst t)
  else (v, [])

/-- `lastChan` is the channel of the previous burst; a new channel needs bend and volume anew. -/
def bendBurst (lastChan : UInt8) (v : Voice) : Burst :=
  if v.audible && (v.want.wheel != v.sent.wheel || v.want.chan != lastChan) then
    ({ v with sent := { v.sent with wheel := v.want.wheel, pitch := v.want.pitch } },
      [.bend v.want.chan v.want.wheel])
  else (v, [])

def volumeBurst (lastChan : UInt8) (v : Voice) : Burst :=
  if v.audible && (v.want.vel != v.sent.vel || v.want.chan != lastChan) then
    ({ v with sent := { v.sent with vel := v.want.vel } },
      [.volume v.want.chan v.want.vel])
  else (v, [])

/-- Everything that moves the receiver from the sent tone to the wanted one. -/
def pulseBurst (t : Tuning) (v : Voice) : Burst :=
  let lastChan := v.sent.chan
  v.fadeBurst.andThen (changeBurst t) |>.andThen (bendBurst lastChan)
    |>.andThen (volumeBurst lastChan)

end ChipScribe.Voice
