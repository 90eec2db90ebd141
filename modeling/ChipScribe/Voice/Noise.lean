import ChipScribe.Voice.Basic
import ChipScribe.Noise

/-!
The voice of the noise channel: a drum for each period, struck when the period
changes or the volume rises.  A falling volume never strikes again.
-/

namespace ChipScribe

/-- General MIDI percussion keys. -/
inductive Drum where
  | bass2
  | bass1
  | snare1
  | snare2
  | closedHat
  | openHat
  | crash1
  | crash2
  | openTriangle
  deriving DecidableEq, Repr

namespace Drum

def key : Drum → UInt8
  | bass2 => 35
  | bass1 => 36
  | snare1 => 38
  | snare2 => 40
  | closedHat => 42
  | openHat => 46
  | crash1 => 49
  | crash2 => 57
  | openTriangle => 81

/-- `alternate` lets odd periods choose the second bass drum and the second snare. -/
def ofPeriod (alternate constantVolume : Bool) (period : UInt8) : Drum :=
  let odd := period &&& 1 != 0
  if 0x0B ≤ period && period ≤ 0x0F then if alternate && odd then bass1 else bass2
  else if 0x06 ≤ period && period ≤ 0x0A then if alternate && odd then snare2 else snare1
  else if 0x04 ≤ period && period ≤ 0x05 then if odd then crash1 else crash2
  else if 0x02 ≤ period && period ≤ 0x03 then closedHat
  else if constantVolume then openTriangle
  else openHat

end Drum

namespace Voice

open Midi

def sightNoise (v : Voice) (period volume : UInt8) : Voice :=
  { v with seen := { v.seen with period := period, volume := volume } }

def silenceNoise (v : Voice) (period : UInt8) : Voice :=
  { v.sightNoise period 0 with fresh := false, want := { v.want with note := 0, vel := 0 } }

def strikeDrum (v : Voice) (t : Tuning) (n : Noise) : Voice :=
  { v with
    fresh := true
    want := { v.want with
      note := (Drum.ofPeriod t.alternateDrums n.envelope.constant n.period).key
      chan := v.lane 0
      vel := t.noiseVelocity n.envelope.volume } }

def followNoise (t : Tuning) (n : Noise) (v : Voice) : Voice :=
  let volume := n.envelope.volume
  if !n.length.active || volume == 0 then v.silenceNoise n.period
  else
    let struck := n.period != v.seen.period || volume > v.seen.volume
    let v := v.sightNoise n.period volume
    if struck then v.strikeDrum t n else v

def noiseFadeBurst (v : Voice) : Burst :=
  if v.sent.note != 0 && v.want.vel == 0 && v.sent.vel != 0 then
    ({ v with sent := { v.sent with note := 0, vel := 0 } }, [.off v.sent.chan v.sent.note])
  else (v, [])

/-- The drum is released on the channel that is wanted now. -/
def noiseReleaseBurst (v : Voice) : Burst :=
  if v.sent.note != 0 then
    ({ v with sent := { v.sent with note := 0, vel := 0 } }, [.off v.want.chan v.sent.note])
  else (v, [])

def noiseStrikeBurst (v : Voice) : Burst :=
  if v.want.note != 0 && v.want.vel != 0 then
    ({ v with
        sent := { v.sent with chan := v.want.chan, note := v.want.note, vel := v.want.vel }
        fresh := false },
      [.on v.want.chan v.want.note v.want.vel])
  else (v, [])

def noiseChangeBurst (v : Voice) : Burst :=
  if v.want.note != v.sent.note || v.want.vel != v.sent.vel || v.fresh then
    v.noiseReleaseBurst.andThen noiseStrikeBurst
  else (v, [])

def noiseBurst (v : Voice) : Burst :=
  v.noiseFadeBurst.andThen noiseChangeBurst

end Voice

end ChipScribe
