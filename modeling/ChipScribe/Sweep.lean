/-!
The sweep unit of a pulse channel.  It owns the channel's 11-bit timer period,
shifts it up or down every few half frames, and mutes the channel while the
period is too low or the next target would overflow.
-/

namespace ChipScribe

/-- Which of the two pulse channels; their sweeps subtract differently. -/
inductive PulseSide where
  | first
  | second
  deriving DecidableEq, Repr, Inhabited

structure Sweep where
  shift : UInt8 := 0
  negate : Bool := false
  period : UInt8 := 0
  divider : UInt8 := 1
  enabled : Bool := false
  reload : Bool := false
  timer : UInt16 := 0
  deriving DecidableEq, Repr, Inhabited

namespace Sweep

/-- The register layout is `EPPP NSSS`. -/
def write (s : Sweep) (data : UInt8) : Sweep :=
  { s with
    shift := data &&& 0x07
    negate := data &&& 0x08 != 0
    period := (data >>> 4) &&& 0x07
    enabled := data &&& 0x80 != 0
    reload := true }

def delta (s : Sweep) : UInt16 :=
  s.timer >>> s.shift.toUInt16

/-- The target is watched even while the sweep is switched off. -/
def overflows (s : Sweep) : Bool :=
  !s.negate && (s.timer + s.delta) &&& 0x800 != 0

/-- False while the channel is muted. -/
def audible (s : Sweep) : Bool :=
  !(s.timer < 0x008) && !s.overflows

/-- Negation is one's complement on the first pulse channel and two's on the second. -/
def target (side : PulseSide) (s : Sweep) : UInt16 :=
  let raw :=
    if s.negate then
      match side with
      | .first => s.timer - s.delta - 1
      | .second => s.timer - s.delta
    else s.timer + s.delta
  raw &&& 0x7FF

def update (side : PulseSide) (s : Sweep) : Sweep :=
  if s.enabled && s.shift > 0 && s.audible then { s with timer := s.target side } else s

def clock (side : PulseSide) (s : Sweep) : Sweep :=
  let ticked :=
    if s.divider - 1 == 0 then { s.update side with divider := s.period + 1 }
    else { s with divider := s.divider - 1 }
  if s.reload then { ticked with reload := false, divider := s.period + 1 } else ticked

end Sweep

end ChipScribe
