import ChipScribe.Chip
import ChipScribe.Json.Record

/-!
Settings as JSON: the region, the tuning, and both with a dump directory.  Every
field may be left out and then has its default.
-/

namespace ChipScribe

open Json

def Region.ofJson? (j : Json) : Option Region :=
  j.asName?.bind Region.ofName?

def Region.toJson (r : Region) : Json :=
  .str r.name

@[simp] theorem Region.ofJson?_toJson (r : Region) : Region.ofJson? r.toJson = some r := by
  simp [ofJson?, toJson, asName?]

namespace Tuning

def fieldNames : List String :=
  ["cycles_per_message", "period_write_settle", "duty_hysteresis_cycles", "dmc_settle_cycles",
    "retrigger_threshold", "bend_range", "bend_deadband", "note_on_velocity",
    "triangle_velocity", "pulse_velocity_offset", "pulse_velocity_scale",
    "noise_velocity_scale", "alternate_drums"]

def ofJson? (j : Json) : Option Tuning := do
  let d : Tuning := {}
  let fields ← j.fields? fieldNames
  let cyclesPerMessage ← fields.want "cycles_per_message" asUInt32? d.cyclesPerMessage
  let periodSettle ← fields.want "period_write_settle" asUInt32? d.periodSettle
  let dutyHysteresis ← fields.want "duty_hysteresis_cycles" asUInt32? d.dutyHysteresis
  let dmcSettle ← fields.want "dmc_settle_cycles" asUInt32? d.dmcSettle
  let retriggerThreshold ← fields.want "retrigger_threshold" asFloat? d.retriggerThreshold
  let bendRange ← fields.want "bend_range" asFloat? d.bendRange
  let bendDeadband ← fields.want "bend_deadband" asFloat? d.bendDeadband
  let noteOnVelocity ← fields.want "note_on_velocity" asUInt8? d.noteOnVelocity
  let triangleVelocity ← fields.want "triangle_velocity" asUInt8? d.triangleVelocity
  let pulseVelocityOffset ← fields.want "pulse_velocity_offset" asFloat? d.pulseVelocityOffset
  let pulseVelocityScale ← fields.want "pulse_velocity_scale" asFloat? d.pulseVelocityScale
  let noiseVelocityScale ← fields.want "noise_velocity_scale" asFloat? d.noiseVelocityScale
  let alternateDrums ← fields.want "alternate_drums" asBool? d.alternateDrums
  return {
    cyclesPerMessage, periodSettle, dutyHysteresis, dmcSettle, retriggerThreshold, bendRange
    bendDeadband, noteOnVelocity, triangleVelocity, pulseVelocityOffset, pulseVelocityScale
    noiseVelocityScale, alternateDrums }

def toJson (t : Tuning) : Json :=
  .obj [
    ("cycles_per_message", ofUInt32 t.cyclesPerMessage),
    ("period_write_settle", ofUInt32 t.periodSettle),
    ("duty_hysteresis_cycles", ofUInt32 t.dutyHysteresis),
    ("dmc_settle_cycles", ofUInt32 t.dmcSettle),
    ("retrigger_threshold", ofFloat t.retriggerThreshold),
    ("bend_range", ofFloat t.bendRange),
    ("bend_deadband", ofFloat t.bendDeadband),
    ("note_on_velocity", ofUInt8 t.noteOnVelocity),
    ("triangle_velocity", ofUInt8 t.triangleVelocity),
    ("pulse_velocity_offset", ofFloat t.pulseVelocityOffset),
    ("pulse_velocity_scale", ofFloat t.pulseVelocityScale),
    ("noise_velocity_scale", ofFloat t.noiseVelocityScale),
    ("alternate_drums", .bool t.alternateDrums)]

end Tuning

namespace Settings

def ofJson? (j : Json) : Option Settings := do
  let fields ← j.fields? ["timing", "tuning", "sample_dump_dir"]
  let region ← fields.want "timing" Region.ofJson? .ntsc
  let tuning ← fields.want "tuning" Tuning.ofJson? {}
  let dumpDirectory ← fields.want "sample_dump_dir" (asOptionOf? asString?) none
  return { region, tuning, dumpDirectory }

end Settings

end ChipScribe
