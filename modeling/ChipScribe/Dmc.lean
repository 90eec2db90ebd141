import ChipScribe.Region

/-!
The delta channel.  It plays one-bit samples: a set bit raises the seven-bit
level by two, a clear bit lowers it by two, and a step that would leave the
range is dropped.  The bytes come from memory: the channel asks its host for
one at a time, and the host hands it over later with `supply`.
-/

namespace ChipScribe

structure Dmc where
  remaining : UInt16 := 0
  irqPending : Bool := false
  rate : UInt8 := 0
  countdown : UInt16
  irqEnable : Bool := false
  loop : Bool := false
  level : UInt8 := 0
  addressLatch : UInt8 := 0
  lengthLatch : UInt8 := 0
  cursor : UInt16 := 0
  bit : UInt8 := 0
  buffered : Bool := false
  buffer : UInt8 := 0
  shifting : Bool := false
  shift : UInt8 := 0
  startDelay : UInt8 := 0
  age : UInt32 := 0
  deriving DecidableEq, Repr

namespace Dmc

def stepLevel (level : UInt8) (bit : Bool) : UInt8 :=
  if bit then (if level ≤ 125 then level + 2 else level)
  else if level ≥ 2 then level - 2
  else level

def initial (r : Region) : Dmc :=
  { countdown := r.dmcPeriod 0 }

def power (r : Region) (_ : Dmc) : Dmc :=
  initial r

/-- The latched address, as an offset within the upper half of memory. -/
def sampleStart (d : Dmc) : UInt16 :=
  (0x4000 : UInt16) + (d.addressLatch.toUInt16 <<< 6)

def sampleLength (d : Dmc) : UInt16 :=
  (d.lengthLatch.toUInt16 <<< 4) + 1

def address (d : Dmc) : UInt16 :=
  0x8000 ||| d.cursor

def rewind (d : Dmc) : Dmc :=
  { d with cursor := d.sampleStart &&& 0x7FFF, remaining := d.sampleLength }

/-- The first byte is asked for two or three clocks later, unless one is still buffered. -/
def primeDelay (d : Dmc) : UInt8 :=
  if d.buffered then d.startDelay else if d.countdown &&& 1 != 0 then 2 else 3

/-- A start while bytes are left is ignored. -/
def start (d : Dmc) : Dmc :=
  if d.remaining != 0 then d
  else
    { d.rewind with
      age := if d.sampleLength > 1 then 1 else d.age
      startDelay := d.primeDelay }

def stop (d : Dmc) : Dmc :=
  { d with remaining := 0 }

/-- The bit timer fires on the clock that is about to run. -/
def stepping (d : Dmc) : Bool :=
  d.countdown - 1 == 0

/-- The shifter has used up its byte on the clock that is about to run. -/
def emptying (d : Dmc) : Bool :=
  d.stepping && (d.bit + 1) &&& 7 == 0

def requests (d : Dmc) : Nat :=
  (if d.emptying && d.buffered && d.remaining > 0 then 1 else 0) +
    (if d.startDelay == 1 then 1 else 0)

def currentBit (d : Dmc) : Bool :=
  (d.shift >>> d.bit) &&& 1 != 0

def ageTick (age : UInt32) : UInt32 :=
  if age == 0 || age == 0xFFFFFFFF then age else age + 1

/-- The bit timer fires: move the level, and take the buffered byte after the eighth bit. -/
def stepBit (r : Region) (d : Dmc) : Dmc :=
  let level := if d.shifting then stepLevel d.level d.currentBit else d.level
  let bit := (d.bit + 1) &&& 7
  let countdown := r.dmcPeriod d.rate
  if bit == 0 then
    if d.buffered then
      { d with
        level := level, bit := bit, countdown := countdown
        shifting := true, shift := d.buffer, buffered := false }
    else { d with level := level, bit := bit, countdown := countdown, shifting := false }
  else { d with level := level, bit := bit, countdown := countdown }

def tickAge (d : Dmc) : Dmc :=
  { d with age := ageTick d.age }

def runTimer (r : Region) (d : Dmc) : Dmc :=
  if d.stepping then d.stepBit r else { d with countdown := d.countdown - 1 }

def runDelay (d : Dmc) : Dmc :=
  if d.startDelay > 0 then { d with startDelay := d.startDelay - 1 } else d

/-- One clock; the output of the clock is the level before it. -/
def advance (r : Region) (d : Dmc) : Dmc :=
  (d.tickAge.runTimer r).runDelay

/-- After the last byte a looping sample starts over and any other may interrupt. -/
def finishByte (d : Dmc) : Dmc :=
  if d.remaining != 0 then d
  else if d.loop then d.rewind
  else if d.irqEnable then { d with irqPending := true }
  else d

def supply (d : Dmc) (data : UInt8) : Dmc :=
  let d := { d with buffer := data, buffered := true }
  if d.remaining == 0 then d
  else
    ({ d with
      remaining := d.remaining - 1
      cursor := (d.cursor + 1) &&& 0x7FFF }).finishByte

/-- The register layout is `IL-- RRRR`. -/
def writeControl (d : Dmc) (data : UInt8) : Dmc :=
  let irqEnable := data &&& 0x80 != 0
  let loop := data &&& 0x40 != 0
  { d with
    rate := data &&& 0x0F
    loop := loop
    irqEnable := irqEnable
    irqPending := d.irqPending && irqEnable && !loop }

def writeLevel (d : Dmc) (data : UInt8) : Dmc :=
  { d with level := data &&& 0x7F }

def writeAddress (d : Dmc) (data : UInt8) : Dmc :=
  { d with addressLatch := data }

def writeLength (d : Dmc) (data : UInt8) : Dmc :=
  { d with lengthLatch := data }

def clearIrq (d : Dmc) : Dmc :=
  { d with irqPending := false }

end Dmc

end ChipScribe
