import ChipScribe.Voice.Basic
import ChipScribe.Triangle
import ChipScribe.Pitch

/-!
The voice of the triangle: notes and bends, and no volume to follow.
-/

namespace ChipScribe.Voice

open Midi

/-- Recompute the wanted tone; periods 0 and 1 are above hearing. -/
def followTriangle (t : Tuning) (c : Triangle) (v : Voice) : Voice :=
  if v.settle > 0 then { v with settle := v.settle - 1 }
  else
    let v := { v with want := { v.want with chan := v.lane 0, vel := t.triangleVelocity } }
    if !c.sounding || c.timer ≤ 1 then { v with want := { v.want with note := 0 } }
    else
      let pitch := Pitch.ofPeriod Pitch.triangleDivider c.timer
      if pitch > 127.0 then { v with want := { v.want with note := 0 } }
      else v.steer t pitch

/-- The note is released on the channel that is wanted now. -/
def triangleReleaseBurst (v : Voice) : Burst :=
  if v.sent.note != 0 then
    ({ v with sent := { v.sent with note := 0, pitch := 0.0 } }, [.off v.want.chan v.sent.note])
  else (v, [])

def triangleStrikeBurst (t : Tuning) (v : Voice) : Burst :=
  if v.want.note != 0 then
    ({ v with sent := { v.sent with
        note := v.want.note, chan := v.want.chan, pitch := v.want.pitch } },
      [.on v.want.chan v.want.note t.noteOnVelocity])
  else (v, [])

def triangleChangeBurst (t : Tuning) (v : Voice) : Burst :=
  if v.want.note != v.sent.note then
    v.triangleReleaseBurst.andThen (triangleStrikeBurst t)
  else (v, [])

def triangleBendBurst (v : Voice) : Burst :=
  if v.want.note != 0 && v.want.wheel != v.sent.wheel then
    ({ v with sent := { v.sent with wheel := v.want.wheel, pitch := v.want.pitch } },
      [.bend v.want.chan v.want.wheel])
  else (v, [])

def triangleBurst (t : Tuning) (v : Voice) : Burst :=
  (v.triangleChangeBurst t).andThen triangleBendBurst

end ChipScribe.Voice
