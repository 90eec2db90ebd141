import ChipScribe.Synth
import ChipScribe.Json.Record

/-!
The units of the audible half as JSON.  Reading takes back exactly what writing
gives.
-/

namespace ChipScribe

open Json

namespace LengthCounter

def fieldNames : List String :=
  ["counter", "halt", "enable", "delay_halt", "new_halt", "delay_counter", "counter_index"]

def toJson (c : LengthCounter) : Json :=
  .obj [("counter", ofUInt8 c.count), ("halt", .bool c.halt), ("enable", .bool c.enabled),
    ("delay_halt", .bool c.haltPending), ("new_halt", .bool c.nextHalt),
    ("delay_counter", .bool c.loadPending), ("counter_index", ofUInt8 c.nextIndex)]

def ofJson? (j : Json) : Option LengthCounter := do
  let fields ← j.fields? fieldNames
  let count ← fields.need "counter" asUInt8?
  let halt ← fields.need "halt" asBool?
  let enabled ← fields.need "enable" asBool?
  let haltPending ← fields.need "delay_halt" asBool?
  let nextHalt ← fields.need "new_halt" asBool?
  let loadPending ← fields.need "delay_counter" asBool?
  let nextIndex ← fields.need "counter_index" asUInt8?
  return { count, halt, enabled, haltPending, nextHalt, loadPending, nextIndex }

end LengthCounter

namespace Envelope

def fieldNames : List String :=
  ["speed", "use_speed_as_volume", "loop_mode", "reload_decay", "decay_counter", "decay_volume"]

def toJson (e : Envelope) : Json :=
  .obj [("speed", ofUInt8 e.speed), ("use_speed_as_volume", .bool e.constant),
    ("loop_mode", .bool e.loop), ("reload_decay", .bool e.restart),
    ("decay_counter", ofUInt8 e.divider), ("decay_volume", ofUInt8 e.level)]

def ofJson? (j : Json) : Option Envelope := do
  let fields ← j.fields? fieldNames
  let speed ← fields.need "speed" asUInt8?
  let constant ← fields.need "use_speed_as_volume" asBool?
  let loop ← fields.need "loop_mode" asBool?
  let restart ← fields.need "reload_decay" asBool?
  let divider ← fields.need "decay_counter" asUInt8?
  let level ← fields.need "decay_volume" asUInt8?
  return { speed, constant, loop, restart, divider, level }

end Envelope

namespace Sweep

def fieldNames : List String :=
  ["shift", "decrement", "period", "counter", "enable", "reload", "pulse_period"]

def toJson (s : Sweep) : Json :=
  .obj [("shift", ofUInt8 s.shift), ("decrement", .bool s.negate), ("period", ofUInt8 s.period),
    ("counter", ofUInt8 s.divider), ("enable", .bool s.enabled), ("reload", .bool s.reload),
    ("pulse_period", ofUInt16 s.timer)]

def ofJson? (j : Json) : Option Sweep := do
  let fields ← j.fields? fieldNames
  let shift ← fields.need "shift" asUInt8?
  let negate ← fields.need "decrement" asBool?
  let period ← fields.need "period" asUInt8?
  let divider ← fields.need "counter" asUInt8?
  let enabled ← fields.need "enable" asBool?
  let reload ← fields.need "reload" asBool?
  let timer ← fields.need "pulse_period" asUInt16?
  return { shift, negate, period, divider, enabled, reload, timer }

end Sweep

namespace FrameSequencer

def fieldNames : List String :=
  ["irq_inhibit", "five_step", "irq_pending", "step", "counter", "odd", "delay", "delay_counter"]

def toJson (f : FrameSequencer) : Json :=
  .obj [("irq_inhibit", .bool f.irqInhibit), ("five_step", .bool f.fiveStep),
    ("irq_pending", .bool f.irqPending), ("step", ofUInt8 f.step),
    ("counter", ofUInt16 f.counter), ("odd", .bool f.odd), ("delay", .bool f.resetPending),
    ("delay_counter", ofUInt8 f.resetDelay)]

def ofJson? (j : Json) : Option FrameSequencer := do
  let fields ← j.fields? fieldNames
  let irqInhibit ← fields.need "irq_inhibit" asBool?
  let fiveStep ← fields.need "five_step" asBool?
  let irqPending ← fields.need "irq_pending" asBool?
  let step ← fields.need "step" asUInt8?
  let counter ← fields.need "counter" asUInt16?
  let odd ← fields.need "odd" asBool?
  let resetPending ← fields.need "delay" asBool?
  let resetDelay ← fields.need "delay_counter" asUInt8?
  return { irqInhibit, fiveStep, irqPending, step, counter, odd, resetPending, resetDelay }

end FrameSequencer

/-! ## Writing and reading are inverse -/

@[simp] theorem LengthCounter.ofJson?_toJson (c : LengthCounter) :
    LengthCounter.ofJson? c.toJson = some c := by
  simp [ofJson?, toJson, fields?, fieldNames, Fields.need, List.lookup_cons]

@[simp] theorem Envelope.ofJson?_toJson (e : Envelope) :
    Envelope.ofJson? e.toJson = some e := by
  simp [ofJson?, toJson, fields?, fieldNames, Fields.need, List.lookup_cons]

@[simp] theorem Sweep.ofJson?_toJson (s : Sweep) : Sweep.ofJson? s.toJson = some s := by
  simp [ofJson?, toJson, fields?, fieldNames, Fields.need, List.lookup_cons]

@[simp] theorem FrameSequencer.ofJson?_toJson (f : FrameSequencer) :
    FrameSequencer.ofJson? f.toJson = some f := by
  simp [ofJson?, toJson, fields?, fieldNames, Fields.need, List.lookup_cons]

end ChipScribe
