import ChipScribe.Voice.Basic
import ChipScribe.Json.Record

/-!
A voice as JSON: one flat object with the wanted tone, the tone last sent, and
the rest of what the voice remembers.  A pitch that is not finite has no written
form, so a voice that holds one cannot be read back.
-/

namespace ChipScribe.Voice

open Json

def fieldNames : List String :=
  ["note_new", "note_on", "note_chan", "note_vel", "note_wheel", "note_freq", "note_duty",
    "clocks_since_note_on", "chan_program", "chan_volume", "last_note_on", "last_chan",
    "last_vel", "last_wheel", "last_freq", "period_write_countdown", "last_period",
    "last_cycle_volume", "last_address_latch", "last_length_latch", "last_length_counter",
    "triggered", "triggered_stop", "chans", "messages", "clocks"]

theorem fieldNames_nodup : fieldNames.Nodup := by
  decide

def toJson (v : Voice) : Json :=
  .obj [
    ("note_new", .bool v.fresh),
    ("note_on", ofUInt8 v.want.note),
    ("note_chan", ofUInt8 v.want.chan),
    ("note_vel", ofUInt8 v.want.vel),
    ("note_wheel", ofUInt16 v.want.wheel),
    ("note_freq", ofFloat v.want.pitch),
    ("note_duty", ofUInt8 v.duty),
    ("clocks_since_note_on", ofUInt32 v.age),
    ("chan_program", ofUInt8 v.program),
    ("chan_volume", ofUInt8 v.volume),
    ("last_note_on", ofUInt8 v.sent.note),
    ("last_chan", ofUInt8 v.sent.chan),
    ("last_vel", ofUInt8 v.sent.vel),
    ("last_wheel", ofUInt16 v.sent.wheel),
    ("last_freq", ofFloat v.sent.pitch),
    ("period_write_countdown", ofUInt32 v.settle),
    ("last_period", ofUInt8 v.seen.period),
    ("last_cycle_volume", ofUInt8 v.seen.volume),
    ("last_address_latch", ofUInt8 v.seen.addressLatch),
    ("last_length_latch", ofUInt8 v.seen.lengthLatch),
    ("last_length_counter", ofUInt16 v.seen.remaining),
    ("triggered", .bool v.triggered),
    ("triggered_stop", .bool v.stopped),
    ("chans", .arr (v.lanes.toList.map ofUInt8)),
    ("messages", ofUInt32 v.pacer.burst),
    ("clocks", ofUInt32 v.pacer.elapsed)]

def wantOfFields? (fields : Fields) : Option Tone := do
  let note ← fields.need "note_on" asUInt8?
  let chan ← fields.need "note_chan" asUInt8?
  let vel ← fields.need "note_vel" asUInt8?
  let wheel ← fields.need "note_wheel" asUInt16?
  let pitch ← fields.need "note_freq" asFloat?
  return { note, chan, vel, wheel, pitch }

def sentOfFields? (fields : Fields) : Option Tone := do
  let note ← fields.need "last_note_on" asUInt8?
  let chan ← fields.need "last_chan" asUInt8?
  let vel ← fields.need "last_vel" asUInt8?
  let wheel ← fields.need "last_wheel" asUInt16?
  let pitch ← fields.need "last_freq" asFloat?
  return { note, chan, vel, wheel, pitch }

def seenOfFields? (fields : Fields) : Option Sighting := do
  let period ← fields.need "last_period" asUInt8?
  let volume ← fields.need "last_cycle_volume" asUInt8?
  let addressLatch ← fields.need "last_address_latch" asUInt8?
  let lengthLatch ← fields.need "last_length_latch" asUInt8?
  let remaining ← fields.need "last_length_counter" asUInt16?
  return { period, volume, addressLatch, lengthLatch, remaining }

def pacerOfFields? (fields : Fields) : Option Pacer := do
  let burst ← fields.need "messages" asUInt32?
  let elapsed ← fields.need "clocks" asUInt32?
  return { burst, elapsed }

def ofFields? (fields : Fields) : Option Voice := do
  let want ← wantOfFields? fields
  let sent ← sentOfFields? fields
  let seen ← seenOfFields? fields
  let pacer ← pacerOfFields? fields
  let fresh ← fields.need "note_new" asBool?
  let duty ← fields.need "note_duty" asUInt8?
  let age ← fields.need "clocks_since_note_on" asUInt32?
  let program ← fields.need "chan_program" asUInt8?
  let volume ← fields.need "chan_volume" asUInt8?
  let settle ← fields.need "period_write_countdown" asUInt32?
  let triggered ← fields.need "triggered" asBool?
  let stopped ← fields.need "triggered_stop" asBool?
  let lanes ← fields.need "chans" (asVectorOf? 4 asUInt8?)
  return {
    want, sent, fresh, duty, age, program, volume, settle, seen, triggered, stopped, lanes
    pacer }

def ofJson? (j : Json) : Option Voice :=
  (j.fields? fieldNames).bind ofFields?

theorem ofJson?_toJson {v : Voice} (wanted : v.want.pitch.isFinite)
    (sent : v.sent.pitch.isFinite) : ofJson? v.toJson = some v := by
  have fields : v.toJson.fields? fieldNames = some _ := fields?_obj rfl fieldNames_nodup
  simp [-Option.bind_eq_bind, ofJson?, fields, ofFields?, wantOfFields?, sentOfFields?,
    seenOfFields?, pacerOfFields?, some_bind, Fields.need_cons_other,
    asVectorOf?_map asUInt8?_ofUInt8, asFloat?_ofFloat wanted, asFloat?_ofFloat sent]

end ChipScribe.Voice
