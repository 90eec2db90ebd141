import ChipScribe.Region
import ChipScribe.LengthCounter
import ChipScribe.Envelope

/-!
The noise channel: a 15-bit linear feedback shift register, stepped at one of
sixteen rates.  The long mode feeds back bits 0 and 1, the short mode bits 0
and 6.
-/

namespace ChipScribe

structure Noise where
  length : LengthCounter := {}
  envelope : Envelope := {}
  period : UInt8 := 0
  shortMode : Bool := false
  countdown : UInt16 := 1
  shift : UInt16 := 1
  deriving DecidableEq, Repr, Inhabited

namespace Noise

def power (n : Noise) : Noise :=
  { n with
    length := n.length.power
    envelope := {}
    countdown := 1
    period := 0
    shortMode := false
    shift := 1 }

def feedback (shortMode : Bool) (shift : UInt16) : UInt16 :=
  (shift ^^^ (shift >>> (if shortMode then 6 else 1))) &&& 1

def stepShift (shortMode : Bool) (shift : UInt16) : UInt16 :=
  (shift >>> 1) ||| (feedback shortMode shift <<< 14)

def output (n : Noise) : UInt8 :=
  if n.length.active && n.shift &&& 1 != 0 then n.envelope.volume else 0

def advance (r : Region) (n : Noise) : Noise :=
  if !n.length.active then n
  else if n.countdown - 1 == 0 then
    { n with shift := stepShift n.shortMode n.shift, countdown := r.noisePeriod n.period }
  else { n with countdown := n.countdown - 1 }

def clockQuarter (n : Noise) : Noise :=
  { n with envelope := n.envelope.clock }

def clockHalf (n : Noise) : Noise :=
  { n with length := n.length.clock }

def commit (n : Noise) : Noise :=
  { n with length := n.length.commit }

def setEnabled (n : Noise) (enabled : Bool) : Noise :=
  { n with length := n.length.setEnabled enabled }

/-- The register layout is `--LC VVVV`. -/
def writeControl (n : Noise) (data : UInt8) (clocking : Bool) : Noise :=
  { n with
    envelope := n.envelope.write data
    length := n.length.writeHalt clocking (data &&& 0x20 != 0) }

/-- The register layout is `M--- PPPP`. -/
def writePeriod (n : Noise) (data : UInt8) : Noise :=
  { n with period := data &&& 0x0F, shortMode := data &&& 0x80 != 0 }

/-- The register layout is `LLLL L---`. -/
def writeLength (n : Noise) (data : UInt8) (clocking : Bool) : Noise :=
  { n with
    envelope := { n.envelope with restart := true }
    length := n.length.writeIndex clocking (data >>> 3) }

end Noise

end ChipScribe
