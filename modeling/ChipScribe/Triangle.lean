import ChipScribe.LengthCounter

/-!
The triangle channel: a staircase of 32 steps without a volume.  The length
counter and the linear counter both gate it; when either runs out the staircase
stands still and keeps its level.
-/

namespace ChipScribe

structure Triangle where
  length : LengthCounter := {}
  linearLength : UInt8 := 0
  linear : UInt8 := 0
  linearReload : Bool := false
  timer : UInt16 := 0
  countdown : UInt16 := 1
  step : UInt8 := 16
  deriving DecidableEq, Repr, Inhabited

namespace Triangle

def power (t : Triangle) : Triangle :=
  { t with
    length := t.length.power
    countdown := 1
    linearLength := 0
    timer := 0
    step := 16
    linear := 0
    linearReload := false }

def sounding (t : Triangle) : Bool :=
  t.length.active && t.linear > 0

/-- The four-bit output: down from 15 to 0 in the lower half of the steps, then up again. -/
def output (t : Triangle) : UInt8 :=
  if t.step &&& 0x10 == 0 then (t.step &&& 0x0F) ^^^ 0x0F else t.step &&& 0x0F

def advance (t : Triangle) : Triangle :=
  if !t.sounding then t
  else if t.countdown - 1 == 0 then
    { t with step := (t.step + 1) &&& 0x1F, countdown := t.timer + 1 }
  else { t with countdown := t.countdown - 1 }

/-- The quarter-frame clock; the halt flag keeps the reload armed. -/
def clockQuarter (t : Triangle) : Triangle :=
  { t with
    linear :=
      if t.linearReload then t.linearLength
      else if t.linear > 0 then t.linear - 1
      else t.linear
    linearReload := t.linearReload && t.length.halt }

def clockHalf (t : Triangle) : Triangle :=
  { t with length := t.length.clock }

def commit (t : Triangle) : Triangle :=
  { t with length := t.length.commit }

def setEnabled (t : Triangle) (enabled : Bool) : Triangle :=
  { t with length := t.length.setEnabled enabled }

/-- The register layout is `CRRR RRRR`. -/
def writeLinear (t : Triangle) (data : UInt8) (clocking : Bool) : Triangle :=
  { t with
    linearLength := data &&& 0x7F
    length := t.length.writeHalt clocking (data &&& 0x80 != 0) }

def writeTimerLow (t : Triangle) (data : UInt8) : Triangle :=
  { t with timer := (t.timer &&& (0x0700 : UInt16)) ||| data.toUInt16 }

/-- The register layout is `LLLL LHHH`; the write arms the linear counter. -/
def writeTimerHigh (t : Triangle) (data : UInt8) (clocking : Bool) : Triangle :=
  { t with
    timer := (t.timer &&& (0x00FF : UInt16)) ||| ((data &&& 7).toUInt16 <<< 8)
    linearReload := true
    length := t.length.writeIndex clocking (data >>> 3) }

end Triangle

end ChipScribe
