import ChipScribe.FrameSequencer
import ChipScribe.Pulse
import ChipScribe.Triangle
import ChipScribe.Noise
import ChipScribe.Dmc
import ChipScribe.Mixer
import ChipScribe.Register

/-!
The audible half of the chip: five channels, the frame sequencer and the
interrupt line.  Nothing here knows of the transcription.  What a clock puts
out (`sample`, `requests`) is read off the state before it; the interrupt line
is driven exactly where `irqLine` changes.
-/

namespace ChipScribe

structure Synth where
  region : Region
  pulse1 : Pulse := {}
  pulse2 : Pulse := {}
  triangle : Triangle := {}
  noise : Noise := {}
  dmc : Dmc
  frame : FrameSequencer
  irqLine : Bool := false
  deriving DecidableEq, Repr

namespace Synth

def initial (r : Region) : Synth :=
  { region := r, dmc := .initial r, frame := .initial r }

/-! ## The interrupt line -/

def irqLevel (s : Synth) : Bool :=
  s.frame.irqPending || s.dmc.irqPending

def settleIrq (s : Synth) : Synth :=
  { s with irqLine := s.irqLevel }

/-- The level driven onto the bus by an operation that led from one state to the other. -/
def drive (before after : Synth) : Option Bool :=
  if before.irqLine == after.irqLine then none else some after.irqLine

@[simp] theorem irqLine_settleIrq (s : Synth) : s.settleIrq.irqLine = s.irqLevel := rfl

@[simp] theorem irqLevel_settleIrq (s : Synth) : s.settleIrq.irqLevel = s.irqLevel := rfl

/-! ## Power -/

/-- Every unit starts over; the region stays. -/
def power (s : Synth) : Synth :=
  { s with
    pulse1 := s.pulse1.power
    pulse2 := s.pulse2.power
    triangle := s.triangle.power
    noise := s.noise.power
    dmc := s.dmc.power s.region
    frame := s.frame.power s.region }.settleIrq

/-! ## The clock -/

def sample (s : Synth) : Nat :=
  Mixer.mix s.pulse1.output s.pulse2.output s.triangle.output s.noise.output s.dmc.level

def requests (s : Synth) : Nat :=
  s.dmc.requests

def clockQuarter (s : Synth) : Synth :=
  { s with
    pulse1 := s.pulse1.clockQuarter
    pulse2 := s.pulse2.clockQuarter
    triangle := s.triangle.clockQuarter
    noise := s.noise.clockQuarter }

def clockHalf (s : Synth) : Synth :=
  { s with
    pulse1 := s.pulse1.clockHalf .first
    pulse2 := s.pulse2.clockHalf .second
    triangle := s.triangle.clockHalf
    noise := s.noise.clockHalf }

def heed (s : Synth) : FrameSignal → Synth
  | .none => s
  | .quarter => s.clockQuarter
  | .half => s.clockHalf.clockQuarter

def commit (s : Synth) : Synth :=
  { s with
    pulse1 := s.pulse1.commit
    pulse2 := s.pulse2.commit
    triangle := s.triangle.commit
    noise := s.noise.commit }

def advance (s : Synth) : Synth :=
  { s with
    pulse1 := s.pulse1.advance
    pulse2 := s.pulse2.advance
    triangle := s.triangle.advance
    noise := s.noise.advance s.region
    dmc := s.dmc.advance s.region
    frame := s.frame.advance s.region }

/-- One clock: the units run, the frame signal lands, then the held-back length writes. -/
def clock (s : Synth) : Synth :=
  ((s.advance.heed s.frame.signal).commit).settleIrq

/-! ## Registers -/

def writePulse (s : Synth) (side : PulseSide) (f : Pulse → Pulse) : Synth :=
  match side with
  | .first => { s with pulse1 := f s.pulse1 }
  | .second => { s with pulse2 := f s.pulse2 }

def writeStatus (s : Synth) (data : UInt8) : Synth :=
  { s with
    pulse1 := s.pulse1.setEnabled (data &&& 0x01 != 0)
    pulse2 := s.pulse2.setEnabled (data &&& 0x02 != 0)
    triangle := s.triangle.setEnabled (data &&& 0x04 != 0)
    noise := s.noise.setEnabled (data &&& 0x08 != 0)
    dmc := (if data &&& 0x10 != 0 then s.dmc.start else s.dmc.stop).clearIrq }

def write (s : Synth) (register : Register) (data : UInt8) : Synth :=
  let clocking := s.frame.lengthClocking
  match register with
  | .pulseControl side => s.writePulse side (·.writeControl data clocking)
  | .pulseSweep side => s.writePulse side (·.writeSweep data)
  | .pulseTimerLow side => s.writePulse side (·.writeTimerLow data)
  | .pulseTimerHigh side => s.writePulse side (·.writeTimerHigh data clocking)
  | .triangleLinear => { s with triangle := s.triangle.writeLinear data clocking }
  | .triangleTimerLow => { s with triangle := s.triangle.writeTimerLow data }
  | .triangleTimerHigh => { s with triangle := s.triangle.writeTimerHigh data clocking }
  | .noiseControl => { s with noise := s.noise.writeControl data clocking }
  | .noisePeriod => { s with noise := s.noise.writePeriod data }
  | .noiseLength => { s with noise := s.noise.writeLength data clocking }
  | .dmcControl => { s with dmc := s.dmc.writeControl data }.settleIrq
  | .dmcLevel => { s with dmc := s.dmc.writeLevel data }
  | .dmcAddress => { s with dmc := s.dmc.writeAddress data }
  | .dmcLength => { s with dmc := s.dmc.writeLength data }
  | .status => (s.writeStatus data).settleIrq
  | .frame => { s with frame := s.frame.write data }.settleIrq

/-- The status register's layout is `IF-D NT21`. -/
def status (s : Synth) : UInt8 :=
  s.pulse1.length.active.toUInt8 |||
  (s.pulse2.length.active.toUInt8 <<< 1) |||
  (s.triangle.length.active.toUInt8 <<< 2) |||
  (s.noise.length.active.toUInt8 <<< 3) |||
  ((decide (s.dmc.remaining > 0)).toUInt8 <<< 4) |||
  (s.frame.irqPending.toUInt8 <<< 6) |||
  (s.dmc.irqPending.toUInt8 <<< 7)

/-- Reading the status register acknowledges the frame interrupt. -/
def acknowledge (s : Synth) : Synth :=
  { s with frame := s.frame.clearIrq }.settleIrq

def supply (s : Synth) (data : UInt8) : Synth :=
  { s with dmc := s.dmc.supply data }.settleIrq

end Synth

end ChipScribe
