/-!
From timer periods to pitch.  Pitch is continuous and counted in MIDI
semitones: 21 is 27.5 Hz and 69 is 440 Hz.
-/

namespace ChipScribe.Pitch

/-- The clock that pitches are computed against, in both regions. -/
def clockHz : Float := 1789773.0

/-- The pitch of a wave that takes `divider * (period + 1)` clocks. -/
def ofPeriod (divider : Float) (period : UInt16) : Float :=
  12.0 * (clockHz / (divider * (period.toFloat + 1.0)) / 27.5).log2 + 21.0

/-- A full turn of a pulse channel's sequencer, per step of its timer. -/
def pulseDivider : Float := 16.0

/-- A full turn of the triangle's staircase, per step of its timer. -/
def triangleDivider : Float := 32.0

end ChipScribe.Pitch
