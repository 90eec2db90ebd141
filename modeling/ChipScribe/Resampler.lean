import ChipScribe.Tuning
import ChipScribe.Sample.Waveform

/-!
From one sample per clock down to 44100 a second: every output sample is the
mean of the clocks since the one before.
-/

namespace ChipScribe

structure Resampler where
  /-- Clocks in an output sample, rarely a whole number. -/
  cyclesPerSample : Float
  /-- Clocks not yet paid out, with the fraction left by the last output. -/
  phase : Float := 0.0
  sum : Float := 0.0
  count : UInt32 := 0
  output : Array UInt16 := #[]

namespace Resampler

def sampleHz : Float := 44100.0

def ofClock (hz : Float) : Resampler :=
  { cyclesPerSample := hz / sampleHz }

/-- The 16-bit word of a level between -1 and 1; a mean beyond that is cut off. -/
def word (level : Float) : UInt16 :=
  (clampFloat (-32768.0) 32767.0 (level * 32767.0)).toInt16.toUInt16

def emit (r : Resampler) : Resampler :=
  { r with
    phase := r.phase - r.cyclesPerSample
    sum := 0.0
    count := 0
    output := r.output.push (word (r.sum / r.count.toFloat)) }

def push (r : Resampler) (sample : Float) : Resampler :=
  let r := { r with sum := r.sum + sample, count := r.count + 1, phase := r.phase + 1.0 }
  if r.phase ≥ r.cyclesPerSample then r.emit else r

/-- The output as bytes, low half of each word first. -/
def bytes (r : Resampler) : List UInt8 :=
  r.output.toList.flatMap Waveform.littleEndian

end Resampler

end ChipScribe
