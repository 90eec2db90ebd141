import ChipScribe.Snapshot.Units
import ChipScribe.Snapshot.Voice

/-!
The five channels as JSON, each together with its voice.
-/

namespace ChipScribe

open Json

namespace Pulse

def fieldNames : List String :=
  ["length", "envelope", "sweep", "duty", "duty_counter", "period_counter", "midi"]

def toJson (p : Pulse) (v : Voice) : Json :=
  .obj [("length", p.length.toJson), ("envelope", p.envelope.toJson), ("sweep", p.sweep.toJson),
    ("duty", ofUInt8 p.duty), ("duty_counter", ofUInt8 p.phase),
    ("period_counter", ofUInt16 p.countdown), ("midi", v.toJson)]

def ofJson? (j : Json) : Option (Pulse × Voice) := do
  let fields ← j.fields? fieldNames
  let length ← fields.need "length" LengthCounter.ofJson?
  let envelope ← fields.need "envelope" Envelope.ofJson?
  let sweep ← fields.need "sweep" Sweep.ofJson?
  let duty ← fields.need "duty" asUInt8?
  let phase ← fields.need "duty_counter" asUInt8?
  let countdown ← fields.need "period_counter" asUInt16?
  let voice ← fields.need "midi" Voice.ofJson?
  return ({ length, envelope, sweep, duty, phase, countdown }, voice)

end Pulse

namespace Triangle

def fieldNames : List String :=
  ["length", "linear_length", "linear_length_counter", "reload_linear", "period",
    "period_counter", "step_counter", "midi"]

def toJson (t : Triangle) (v : Voice) : Json :=
  .obj [("length", t.length.toJson), ("linear_length", ofUInt8 t.linearLength),
    ("linear_length_counter", ofUInt8 t.linear), ("reload_linear", .bool t.linearReload),
    ("period", ofUInt16 t.timer), ("period_counter", ofUInt16 t.countdown),
    ("step_counter", ofUInt8 t.step), ("midi", v.toJson)]

def ofJson? (j : Json) : Option (Triangle × Voice) := do
  let fields ← j.fields? fieldNames
  let length ← fields.need "length" LengthCounter.ofJson?
  let linearLength ← fields.need "linear_length" asUInt8?
  let linear ← fields.need "linear_length_counter" asUInt8?
  let linearReload ← fields.need "reload_linear" asBool?
  let timer ← fields.need "period" asUInt16?
  let countdown ← fields.need "period_counter" asUInt16?
  let step ← fields.need "step_counter" asUInt8?
  let voice ← fields.need "midi" Voice.ofJson?
  return ({ length, linearLength, linear, linearReload, timer, countdown, step }, voice)

end Triangle

namespace Noise

def fieldNames : List String :=
  ["length", "envelope", "period", "short_mode", "period_counter", "lfsr", "midi"]

def toJson (n : Noise) (v : Voice) : Json :=
  .obj [("length", n.length.toJson), ("envelope", n.envelope.toJson),
    ("period", ofUInt8 n.period), ("short_mode", .bool n.shortMode),
    ("period_counter", ofUInt16 n.countdown), ("lfsr", ofUInt16 n.shift), ("midi", v.toJson)]

def ofJson? (j : Json) : Option (Noise × Voice) := do
  let fields ← j.fields? fieldNames
  let length ← fields.need "length" LengthCounter.ofJson?
  let envelope ← fields.need "envelope" Envelope.ofJson?
  let period ← fields.need "period" asUInt8?
  let shortMode ← fields.need "short_mode" asBool?
  let countdown ← fields.need "period_counter" asUInt16?
  let shift ← fields.need "lfsr" asUInt16?
  let voice ← fields.need "midi" Voice.ofJson?
  return ({ length, envelope, period, shortMode, countdown, shift }, voice)

end Noise

namespace Dmc

def fieldNames : List String :=
  ["length_counter", "irq_pending", "period", "period_counter", "irq_enable", "loop_mode",
    "dac_latch", "address_latch", "length_latch", "read_address", "bit_counter",
    "dma_buffer_valid", "dma_buffer", "sample_valid", "sample", "dma_delay_counter",
    "clocks_since_start", "midi"]

def toJson (d : Dmc) (v : Voice) : Json :=
  .obj [
    ("length_counter", ofUInt16 d.remaining),
    ("irq_pending", .bool d.irqPending),
    ("period", ofUInt8 d.rate),
    ("period_counter", ofUInt16 d.countdown),
    ("irq_enable", .bool d.irqEnable),
    ("loop_mode", .bool d.loop),
    ("dac_latch", ofUInt8 d.level),
    ("address_latch", ofUInt8 d.addressLatch),
    ("length_latch", ofUInt8 d.lengthLatch),
    ("read_address", ofUInt16 d.cursor),
    ("bit_counter", ofUInt8 d.bit),
    ("dma_buffer_valid", .bool d.buffered),
    ("dma_buffer", ofUInt8 d.buffer),
    ("sample_valid", .bool d.shifting),
    ("sample", ofUInt8 d.shift),
    ("dma_delay_counter", ofUInt8 d.startDelay),
    ("clocks_since_start", ofUInt32 d.age),
    ("midi", v.toJson)]

def ofJson? (j : Json) : Option (Dmc × Voice) := do
  let fields ← j.fields? fieldNames
  let remaining ← fields.need "length_counter" asUInt16?
  let irqPending ← fields.need "irq_pending" asBool?
  let rate ← fields.need "period" asUInt8?
  let countdown ← fields.need "period_counter" asUInt16?
  let irqEnable ← fields.need "irq_enable" asBool?
  let loop ← fields.need "loop_mode" asBool?
  let level ← fields.need "dac_latch" asUInt8?
  let addressLatch ← fields.need "address_latch" asUInt8?
  let lengthLatch ← fields.need "length_latch" asUInt8?
  let cursor ← fields.need "read_address" asUInt16?
  let bit ← fields.need "bit_counter" asUInt8?
  let buffered ← fields.need "dma_buffer_valid" asBool?
  let buffer ← fields.need "dma_buffer" asUInt8?
  let shifting ← fields.need "sample_valid" asBool?
  let shift ← fields.need "sample" asUInt8?
  let startDelay ← fields.need "dma_delay_counter" asUInt8?
  let age ← fields.need "clocks_since_start" asUInt32?
  let voice ← fields.need "midi" Voice.ofJson?
  return ({
    remaining, irqPending, rate, countdown, irqEnable, loop, level, addressLatch, lengthLatch
    cursor, bit, buffered, buffer, shifting, shift, startDelay, age }, voice)

end Dmc

/-! ## Writing and reading are inverse -/

/-- Both pitches have a written form. -/
def Voice.writable (v : Voice) : Prop :=
  v.want.pitch.isFinite ∧ v.sent.pitch.isFinite

variable {v : Voice}

theorem Voice.ofJson?_of_writable (h : v.writable) : Voice.ofJson? v.toJson = some v :=
  Voice.ofJson?_toJson h.1 h.2

theorem Voice.ofJson?_of_not_writable (h : ¬ v.writable) : Voice.ofJson? v.toJson = none := by
  have fields : v.toJson.fields? Voice.fieldNames = some _ :=
    fields?_obj rfl Voice.fieldNames_nodup
  by_cases wanted : v.want.pitch.isFinite
  · have sent : ¬ v.sent.pitch.isFinite := fun sent => h ⟨wanted, sent⟩
    simp [-Option.bind_eq_bind, Voice.ofJson?, fields, Voice.ofFields?, Voice.wantOfFields?,
      Voice.sentOfFields?, some_bind, none_bind, Fields.need_cons_other, asFloat?_ofFloat wanted,
      asFloat?_ofFloat_of_not sent]
  · simp [-Option.bind_eq_bind, Voice.ofJson?, fields, Voice.ofFields?, Voice.wantOfFields?,
      some_bind, none_bind, Fields.need_cons_other, asFloat?_ofFloat_of_not wanted]

theorem Pulse.ofJson?_toJson (p : Pulse) (v : Voice) :
    Pulse.ofJson? (p.toJson v) = (Voice.ofJson? v.toJson).map fun w => (p, w) := by
  have fields : (p.toJson v).fields? fieldNames = some _ := fields?_obj rfl (by decide)
  simp [-Option.bind_eq_bind, ofJson?, fields, some_bind, Fields.need_cons_other,
    bind_some_eq_map]

theorem Triangle.ofJson?_toJson (t : Triangle) (v : Voice) :
    Triangle.ofJson? (t.toJson v) = (Voice.ofJson? v.toJson).map fun w => (t, w) := by
  have fields : (t.toJson v).fields? fieldNames = some _ := fields?_obj rfl (by decide)
  simp [-Option.bind_eq_bind, ofJson?, fields, some_bind, Fields.need_cons_other,
    bind_some_eq_map]

theorem Noise.ofJson?_toJson (n : Noise) (v : Voice) :
    Noise.ofJson? (n.toJson v) = (Voice.ofJson? v.toJson).map fun w => (n, w) := by
  have fields : (n.toJson v).fields? fieldNames = some _ := fields?_obj rfl (by decide)
  simp [-Option.bind_eq_bind, ofJson?, fields, some_bind, Fields.need_cons_other,
    bind_some_eq_map]

theorem Dmc.ofJson?_toJson (d : Dmc) (v : Voice) :
    Dmc.ofJson? (d.toJson v) = (Voice.ofJson? v.toJson).map fun w => (d, w) := by
  have fields : (d.toJson v).fields? fieldNames = some _ := fields?_obj rfl (by decide)
  simp [-Option.bind_eq_bind, ofJson?, fields, some_bind, Fields.need_cons_other,
    bind_some_eq_map]

end ChipScribe
