import ChipScribe.LengthCounter
import ChipScribe.Envelope
import ChipScribe.Sweep

/-!
A pulse channel: a square wave in one of four duty cycles.  Its envelope gives
the volume, its sweep unit the period, its length counter the duration.
-/

namespace ChipScribe

structure Pulse where
  length : LengthCounter := {}
  envelope : Envelope := {}
  sweep : Sweep := {}
  duty : UInt8 := 0
  phase : UInt8 := 0
  countdown : UInt16 := 1
  deriving DecidableEq, Repr, Inhabited

namespace Pulse

def power (p : Pulse) : Pulse :=
  { p with
    length := p.length.power
    envelope := {}
    sweep := {}
    countdown := 1
    duty := 0
    phase := 0 }

/-- The sequences are walked downwards: phases 0, 7, 6, and so on to 1. -/
def dutyTable : Vector (Vector Bool 8) 4 :=
  #v[#v[false, false, false, false, false, false, false, true],
     #v[false, false, false, false, false, false, true, true],
     #v[false, false, false, false, true, true, true, true],
     #v[true, true, true, true, true, true, false, false]]

def high (duty phase : UInt8) : Bool :=
  (dutyTable[duty.toNat % 4])[phase.toNat % 8]

/-- A muted or finished channel is silent and its sequencer stands still. -/
def sounding (p : Pulse) : Bool :=
  p.sweep.audible && p.length.active

def output (p : Pulse) : UInt8 :=
  if p.sounding && high p.duty p.phase then p.envelope.volume else 0

def advance (p : Pulse) : Pulse :=
  if !p.sounding then p
  else if p.countdown - 1 == 0 then
    { p with countdown := (p.sweep.timer + 1) * 2, phase := (p.phase - 1) &&& 7 }
  else { p with countdown := p.countdown - 1 }

def clockQuarter (p : Pulse) : Pulse :=
  { p with envelope := p.envelope.clock }

/-- The half-frame clock of the length counter and the sweep; the quarter frame is separate. -/
def clockHalf (side : PulseSide) (p : Pulse) : Pulse :=
  { p with length := p.length.clock, sweep := p.sweep.clock side }

def commit (p : Pulse) : Pulse :=
  { p with length := p.length.commit }

def setEnabled (p : Pulse) (enabled : Bool) : Pulse :=
  { p with length := p.length.setEnabled enabled }

/-- The register layout is `DDLC VVVV`. -/
def writeControl (p : Pulse) (data : UInt8) (clocking : Bool) : Pulse :=
  { p with
    envelope := p.envelope.write data
    length := p.length.writeHalt clocking (data &&& 0x20 != 0)
    duty := data >>> 6 }

def writeSweep (p : Pulse) (data : UInt8) : Pulse :=
  { p with sweep := p.sweep.write data }

def writeTimerLow (p : Pulse) (data : UInt8) : Pulse :=
  { p with sweep := { p.sweep with timer := (p.sweep.timer &&& (0x0700 : UInt16)) ||| data.toUInt16 } }

/-- The register layout is `LLLL LHHH`; the write restarts the sequencer and the envelope. -/
def writeTimerHigh (p : Pulse) (data : UInt8) (clocking : Bool) : Pulse :=
  { p with
    sweep := { p.sweep with
      timer := (p.sweep.timer &&& (0x00FF : UInt16)) ||| ((data &&& 7).toUInt16 <<< 8) }
    phase := 0
    envelope := { p.envelope with restart := true }
    length := p.length.writeIndex clocking (data >>> 3) }

end Pulse

end ChipScribe
