/-!
The constants of the transcription.  None of them comes from the hardware: they
trade cable bandwidth against how closely the transcription follows the chip.
-/

namespace ChipScribe

structure Tuning where
  /-- Clocks that one message occupies on a 31.25 kbaud cable. -/
  cyclesPerMessage : UInt32 := 1715
  /-- Clocks to wait after a period write before the period is read. -/
  periodSettle : UInt32 := 256
  /-- Clocks of a note during which a change of duty may still move it to another channel. -/
  dutyHysteresis : UInt32 := 131072
  /-- Clocks between the start of a sample and its lookup. -/
  dmcSettle : UInt32 := 16
  /-- Movement in semitones that forces a new note. -/
  retriggerThreshold : Float := 0.8
  /-- Semitones that the pitch bend covers on either side of a note. -/
  bendRange : Float := 2.0
  /-- Bends smaller than this many semitones are dropped. -/
  bendDeadband : Float := 0.15
  noteOnVelocity : UInt8 := 96
  triangleVelocity : UInt8 := 96
  pulseVelocityOffset : Float := 24.0
  pulseVelocityScale : Float := 384.0
  noiseVelocityScale : Float := 384.0
  /-- Odd noise periods choose the second bass drum and the second snare. -/
  alternateDrums : Bool := false
  deriving Repr, Inhabited

/-- `x` held within `lo` and `hi`; not a number stays not a number. -/
def clampFloat (lo hi x : Float) : Float :=
  if x < lo then lo else if x > hi then hi else x

/-- The nearest whole number, halves away from zero. -/
def roundFloat (x : Float) : Float :=
  -- From 2 ^ 52 on there are only whole numbers.
  if x.abs < 4503599627370496.0 then
    let whole := x.abs.toUInt64.toFloat
    let near := if x.abs - whole < 0.5 then whole else whole + 1.0
    if x < 0.0 then -near else near
  else x

namespace Tuning

/-- Follows the pulse ladder of the mixer. -/
def pulseVelocity (t : Tuning) (volume : UInt8) : UInt8 :=
  if volume == 0 then 0
  else
    (clampFloat 0.0 127.0 (t.pulseVelocityOffset +
      t.pulseVelocityScale * 95.88 / (8128.0 / (volume.toFloat * 2.0) + 100.0))).toUInt8

/-- Follows the noise input of the mixer. -/
def noiseVelocity (t : Tuning) (volume : UInt8) : UInt8 :=
  if volume == 0 then 0
  else
    (clampFloat 0.0 127.0 (t.noiseVelocityScale * 159.79 /
      (100.0 + 1.0 / (volume.toFloat / 12241.0)))).toUInt8

end Tuning

end ChipScribe
