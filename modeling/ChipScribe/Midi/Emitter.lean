import ChipScribe.Midi.Message

/-!
The way out to the receiver, shared by all voices.  The emitter masks data bytes
to seven bits, drops control and program changes that would not change what
the receiver holds, and counts what it delivers.
-/

namespace ChipScribe.Midi

/--
What the receiver is known to hold (`none` where nothing is known), the count
of messages since the last reset, and the count since the last bandwidth report.
-/
structure Emitter where
  programs : Vector (Option UInt8) 16
  controllers : Vector (Option UInt8) 2048
  count : UInt32
  reportCount : UInt32
  deriving DecidableEq

namespace Emitter

def initial : Emitter where
  programs := .replicate 16 none
  controllers := .replicate 2048 none
  count := 0
  reportCount := 0

instance : Inhabited Emitter := ⟨initial⟩

def programSlot (status : UInt8) : Fin 16 :=
  ⟨status.toNat % 16, by omega⟩

def controllerSlot (status controller : UInt8) : Fin 2048 :=
  ⟨status.toNat % 16 * 128 + controller.toNat % 128, by omega⟩

/-- The receiver already holds what this message would set. -/
def redundant (e : Emitter) (status data1 data2 : UInt8) : Bool :=
  if status &&& 0xF0 == Message.controlChange then
    e.controllers[controllerSlot status data1] == some data2
  else if status &&& 0xF0 == Message.programChange then
    e.programs[programSlot status] == some data1
  else false

/-- What is known of the receiver after this message. -/
def learn (e : Emitter) (status data1 data2 : UInt8) : Emitter :=
  if status &&& 0xF0 == Message.controlChange then
    { e with controllers := e.controllers.set (controllerSlot status data1) (some data2) }
  else if status &&& 0xF0 == Message.programChange then
    { e with programs := e.programs.set (programSlot status) (some data1) }
  else e

def tally (e : Emitter) : Emitter :=
  { e with count := e.count + 1, reportCount := e.reportCount + 1 }

/-- Offer one message; the result lists what is delivered. -/
def offer (e : Emitter) : Message → Emitter × List Message
  | .delay => (e, [.delay])
  | .short status data1 data2 =>
      let data1 := data1 &&& 0x7F
      let data2 := data2 &&& 0x7F
      if e.redundant status data1 data2 then (e, [])
      else ((e.learn status data1 data2).tally, [.short status data1 data2])

def deliver (e : Emitter) : List Message → Emitter × List Message
  | [] => (e, [])
  | m :: rest =>
      let (e, sent) := e.offer m
      let (e, more) := e.deliver rest
      (e, sent ++ more)

def forget (e : Emitter) : Emitter :=
  { e with programs := .replicate 16 none, controllers := .replicate 2048 none }

def resetCount (e : Emitter) : Emitter :=
  { e with count := 0 }

/-- The count since the last report, which then starts over. -/
def takeReport (e : Emitter) : UInt32 × Emitter :=
  (e.reportCount, { e with reportCount := 0 })

/-- Deliver `front`; then forget the receiver, deliver `back` and start the count over. -/
def announce (e : Emitter) (front back : List Message) : Emitter × List Message :=
  let first := e.deliver front
  let second := first.1.forget.deliver back
  (second.1.resetCount, first.2 ++ second.2)

@[simp] theorem controllers_takeReport (e : Emitter) :
    e.takeReport.2.controllers = e.controllers := rfl

@[simp] theorem deliver_nil (e : Emitter) : e.deliver [] = (e, []) := rfl

theorem deliver_append (e : Emitter) (l₁ l₂ : List Message) :
    e.deliver (l₁ ++ l₂) =
      (((e.deliver l₁).1.deliver l₂).1, (e.deliver l₁).2 ++ ((e.deliver l₁).1.deliver l₂).2) := by
  induction l₁ generalizing e with
  | nil => simp [deliver]
  | cons m rest ih => simp [deliver, ih, List.append_assoc]

end Emitter

end ChipScribe.Midi
