import ChipScribe.Sample.Library
import ChipScribe.Json.Record
import ChipScribe.Json.Reader

/-!
Library files: a JSON list of records, of which only the fingerprint is
required.
-/

namespace ChipScribe

open Json

namespace Instrument

def fieldNames : List String := ["channel", "program", "volume", "velocity", "notes"]

/-- An instrument given in full; its values are taken as they stand. -/
def ofJson? (j : Json) : Option Instrument := do
  let fields ← j.fields? fieldNames
  let channel ← fields.need "channel" asUInt8?
  let program ← fields.need "program" asUInt8?
  let volume ← fields.need "volume" asUInt8?
  let velocity ← fields.need "velocity" asUInt8?
  let pitches ← fields.need "notes" (asVectorOf? 16 asFloat?)
  return { channel, program, volume, velocity, pitches }

def toJson (i : Instrument) : Json :=
  .obj [("channel", ofUInt8 i.channel), ("program", ofUInt8 i.program),
    ("volume", ofUInt8 i.volume), ("velocity", ofUInt8 i.velocity),
    ("notes", .arr (i.pitches.toList.map ofFloat))]

end Instrument

namespace Library

def Record.ofJson? (j : Json) : Option Record := do
  let fields ← j.fields? ("fnv64a" :: Instrument.fieldNames)
  let literal ← fields.need "fnv64a" asString?
  let channel ← fields.want "channel" asUInt8? 9
  let program ← fields.want "program" asUInt8? 0
  let volume ← fields.want "volume" asUInt8? 0x60
  let velocity ← fields.want "velocity" asUInt8? 96
  let pitches ← fields.want "notes" (asListOf? asFloat?) []
  return { literal, channel, program, volume, velocity, pitches }

def ofJson (j : Json) : Except Error Library :=
  match j.asListOf? Record.ofJson? with
  | some records => ofRecords records
  | none => .error .malformed

def parse (text : String) : Except Error Library :=
  match Json.parse? text with
  | some j => ofJson j
  | none => .error .malformed

def ofFile : Except FileError String → Except Error Library
  | .ok text => parse text
  | .error cause => .error (.file cause)

end Library

end ChipScribe
