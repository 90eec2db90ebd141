import ChipScribe.Sweep

/-!
The register window `$4000`-`$4017`.  An address either names a register of one
unit, or the status register, which all units share, or nothing.
-/

namespace ChipScribe

inductive Register where
  | pulseControl (side : PulseSide)
  | pulseSweep (side : PulseSide)
  | pulseTimerLow (side : PulseSide)
  | pulseTimerHigh (side : PulseSide)
  | triangleLinear
  | triangleTimerLow
  | triangleTimerHigh
  | noiseControl
  | noisePeriod
  | noiseLength
  | dmcControl
  | dmcLevel
  | dmcAddress
  | dmcLength
  | status
  | frame
  deriving DecidableEq, Repr

namespace Register

def statusAddress : UInt16 := 0x4015

def ofAddress? (address : UInt16) : Option Register :=
  match address with
  | 0x4000 => some (.pulseControl .first)
  | 0x4001 => some (.pulseSweep .first)
  | 0x4002 => some (.pulseTimerLow .first)
  | 0x4003 => some (.pulseTimerHigh .first)
  | 0x4004 => some (.pulseControl .second)
  | 0x4005 => some (.pulseSweep .second)
  | 0x4006 => some (.pulseTimerLow .second)
  | 0x4007 => some (.pulseTimerHigh .second)
  | 0x4008 => some .triangleLinear
  | 0x400A => some .triangleTimerLow
  | 0x400B => some .triangleTimerHigh
  | 0x400C => some .noiseControl
  | 0x400E => some .noisePeriod
  | 0x400F => some .noiseLength
  | 0x4010 => some .dmcControl
  | 0x4011 => some .dmcLevel
  | 0x4012 => some .dmcAddress
  | 0x4013 => some .dmcLength
  | 0x4015 => some .status
  | 0x4017 => some .frame
  | _ => none

/-- The window a script may touch, with the addresses that name nothing. -/
def inWindow (address : UInt16) : Bool :=
  0x4000 ≤ address && address ≤ 0x4017

/-- The units that writes are sorted by; the status register belongs to none of them. -/
inductive Part where
  | pulse (side : PulseSide)
  | triangle
  | noise
  | dmc
  | frame
  deriving DecidableEq, Repr

def part? : Register → Option Part
  | pulseControl side | pulseSweep side | pulseTimerLow side | pulseTimerHigh side =>
      some (.pulse side)
  | triangleLinear | triangleTimerLow | triangleTimerHigh => some .triangle
  | noiseControl | noisePeriod | noiseLength => some .noise
  | dmcControl | dmcLevel | dmcAddress | dmcLength => some .dmc
  | status => none
  | frame => some .frame

end Register

end ChipScribe
