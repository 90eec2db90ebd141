import ChipScribe.Midi.Message
import ChipScribe.Json.Record

/-!
Messages as JSON: the word for a pause, or the three bytes of a channel message.
-/

namespace ChipScribe.Midi.Message

open Json

def toJson : Message → Json
  | .delay => .str "Delay"
  | .short status data1 data2 =>
      .obj [("Short", .obj [("status", ofUInt8 status), ("data1", ofUInt8 data1),
        ("data2", ofUInt8 data2)])]

def shortOfJson? (j : Json) : Option Message := do
  let fields ← j.fields? ["status", "data1", "data2"]
  let status ← fields.need "status" asUInt8?
  let data1 ← fields.need "data1" asUInt8?
  let data2 ← fields.need "data2" asUInt8?
  return .short status data1 data2

def ofJson? : Json → Option Message
  | .obj [("Short", j)] => shortOfJson? j
  | j => if j.asName? = some "Delay" then some .delay else none

theorem ofJson?_toJson (m : Message) : ofJson? m.toJson = some m := by
  cases m with
  | delay => rfl
  | short status data1 data2 =>
      simp [toJson, ofJson?, shortOfJson?, fields?, Fields.need, List.lookup_cons]

end ChipScribe.Midi.Message
