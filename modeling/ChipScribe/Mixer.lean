/-!
The output mixer.  The chip sums its channels through two resistor ladders, one
for the pulse pair and one for triangle, noise and delta channel.  Both give
16-bit levels; a sample is their sum, in units of 1/32768.
-/

namespace ChipScribe.Mixer

/-- The first ladder, by the sum of the two pulse outputs. -/
def pulseLevel (amp : UInt8) : UInt16 :=
  let amp := amp &&& 0x1F
  if amp == 0 then 0
  else (32768.0 * 95.88 / (8128.0 / amp.toFloat + 100.0)).toUInt16

def rampLevel (dmc triangle noise : UInt8) : UInt16 :=
  let dmc := dmc &&& 0x7F
  let triangle := triangle &&& 0x0F
  let noise := noise &&& 0x0F
  if dmc == 0 && triangle == 0 && noise == 0 then 0
  else
    let sum := triangle.toFloat / 8227.0 + noise.toFloat / 12241.0 + dmc.toFloat / 22638.0
    (32768.0 * 159.79 / (100.0 + 1.0 / sum)).toUInt16

/-- The delta channel alone, which is how recorded samples are rendered. -/
def dmcLevel (level : UInt8) : UInt16 :=
  rampLevel level 0 0

/-- One sample, in units of 1/32768 and never above full scale. -/
def mix (pulse1 pulse2 triangle noise dmc : UInt8) : Nat :=
  min ((pulseLevel (pulse1 + pulse2)).toNat + (rampLevel dmc triangle noise).toNat) 32767

end ChipScribe.Mixer
