import ChipScribe.Region

/-!
The frame sequencer: the slow clock behind envelopes, length counters and
sweeps.  It runs through six steps whose lengths depend on the region and on
the four-step or five-step mode; the end of a step signals a quarter frame, a
half frame or nothing, and the last three steps raise the frame interrupt in
the four-step mode.  A write changes the mode at once but restarts the sequence
one or two clocks later, depending on the parity of the clock.
-/

namespace ChipScribe

/-- What the rest of the chip is told; a half frame is also a quarter frame. -/
inductive FrameSignal where
  | none
  | quarter
  | half
  deriving DecidableEq, Repr, Inhabited

structure FrameSequencer where
  irqInhibit : Bool := false
  fiveStep : Bool := false
  irqPending : Bool := false
  step : UInt8 := 0
  counter : UInt16
  odd : Bool := false
  resetPending : Bool := false
  resetDelay : UInt8 := 0
  deriving DecidableEq, Repr

namespace FrameSequencer

def initial (r : Region) : FrameSequencer :=
  { counter := r.framePeriod false 0 }

def power (r : Region) (_ : FrameSequencer) : FrameSequencer :=
  initial r

/-- A half frame is due on this clock, so a length write must wait until after it. -/
def lengthClocking (f : FrameSequencer) : Bool :=
  f.counter == 1 && (f.step == 1 || f.step == 4)

/-- The restart asked for by a write happens on this clock. -/
def restarting (f : FrameSequencer) : Bool :=
  f.resetPending && f.resetDelay ≤ 1

def stepSignal (step : UInt8) : FrameSignal :=
  if step == 0 || step == 2 then .quarter
  else if step == 1 then .half
  else if step == 3 || step == 5 then .none
  else .half

def signal (f : FrameSequencer) : FrameSignal :=
  if f.restarting then (if f.fiveStep then .half else .none)
  else if f.counter - 1 == 0 then stepSignal f.step
  else .none

def raisesIrq (f : FrameSequencer) : Bool :=
  !(f.step == 0 || f.step == 1 || f.step == 2) && !f.fiveStep && !f.irqInhibit

def nextStep (step : UInt8) : UInt8 :=
  if step ≥ 5 then 0 else step + 1

def advance (r : Region) (f : FrameSequencer) : FrameSequencer :=
  if f.restarting then
    { f with
      resetPending := false
      resetDelay := 0
      step := 0
      counter := r.framePeriod f.fiveStep 0
      odd := !f.odd }
  else
    let resetDelay := if f.resetPending then f.resetDelay - 1 else f.resetDelay
    if f.counter - 1 == 0 then
      let step := nextStep f.step
      { f with
        resetDelay := resetDelay
        irqPending := f.irqPending || f.raisesIrq
        step := step
        counter := r.framePeriod f.fiveStep step
        odd := !f.odd }
    else
      { f with resetDelay := resetDelay, counter := f.counter - 1, odd := !f.odd }

/-- The register layout is `MI-- ----`: five-step mode, interrupt inhibit. -/
def write (f : FrameSequencer) (data : UInt8) : FrameSequencer :=
  let inhibit := data &&& 0x40 != 0
  { f with
    fiveStep := data &&& 0x80 != 0
    irqInhibit := inhibit
    irqPending := f.irqPending && !inhibit
    resetPending := true
    resetDelay := if f.odd then 2 else 1 }

def clearIrq (f : FrameSequencer) : FrameSequencer :=
  { f with irqPending := false }

end FrameSequencer

end ChipScribe
