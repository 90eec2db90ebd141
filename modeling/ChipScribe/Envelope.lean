/-!
The envelope: a volume that falls from 15 to 0, one level every `speed + 1`
quarter frames, or a constant volume equal to `speed`.
-/

namespace ChipScribe

structure Envelope where
  speed : UInt8 := 0
  constant : Bool := false
  loop : Bool := false
  restart : Bool := false
  divider : UInt8 := 0
  level : UInt8 := 0
  deriving DecidableEq, Repr, Inhabited

namespace Envelope

def volume (e : Envelope) : UInt8 :=
  if e.constant then e.speed else e.level

/-- The level after one step down; at the bottom a looping envelope starts over. -/
def stepLevel (e : Envelope) : UInt8 :=
  if e.level > 0 then e.level - 1 else if e.loop then 15 else e.level

def clock (e : Envelope) : Envelope :=
  if e.restart then { e with restart := false, level := 15, divider := e.speed }
  else if e.divider > 0 then { e with divider := e.divider - 1 }
  else { e with divider := e.speed, level := e.stepLevel }

/-- The register layout is `--LC VVVV`. -/
def write (e : Envelope) (data : UInt8) : Envelope :=
  { e with
    speed := data &&& 0x0F
    constant := data &&& 0x10 != 0
    loop := data &&& 0x20 != 0 }

end Envelope

end ChipScribe
