import Std.Data.HashMap
import ChipScribe.FileError
import ChipScribe.Text.Quoted
import ChipScribe.Text.Numeral
import ChipScribe.Sample.Waveform

/-!
The sample library: which instrument stands in for a recorded sample, by
fingerprint, and which samples were heard that it does not know.  A library is
built from a list of records, whole or not at all; of two records for one
fingerprint the later counts.
-/

namespace ChipScribe

/-- What a known sample turns into.  Pitches go by rate index; 0 means no note. -/
structure Instrument where
  channel : UInt8
  program : UInt8
  volume : UInt8
  velocity : UInt8
  pitches : Vector Float 16
  deriving Repr

namespace Instrument

theorem rateIndex_lt (rate : UInt8) : rate.toNat % 16 < 16 :=
  Nat.mod_lt _ (by decide)

def pitch (i : Instrument) (rate : UInt8) : Float :=
  have bound := rateIndex_lt rate
  i.pitches[rate.toNat % 16]

end Instrument

/-- An unknown sample at the rate it was heard. -/
structure Unknown where
  hash : Fingerprint
  rate : UInt8
  deriving DecidableEq, Repr

structure Library where
  instruments : Std.HashMap Fingerprint Instrument := ∅
  unknown : List Unknown := []
  dumpDirectory : Option String := none

namespace Library

def empty : Library := {}

instance : Inhabited Library := ⟨empty⟩

def insert (l : Library) (hash : Fingerprint) (i : Instrument) : Library :=
  { l with instruments := l.instruments.insert hash i }

def lookup? (l : Library) (hash : Fingerprint) : Option Instrument :=
  l.instruments[hash]?

def size (l : Library) : Nat :=
  l.instruments.size

def dumpingTo (l : Library) (directory : Option String) : Library :=
  { l with dumpDirectory := directory }

@[simp] theorem lookup?_empty (hash : Fingerprint) : empty.lookup? hash = none := by
  simp [lookup?, empty]

theorem lookup?_insert (l : Library) (hash hash' : Fingerprint) (i : Instrument) :
    (l.insert hash i).lookup? hash' = if hash = hash' then some i else l.lookup? hash' := by
  simp [lookup?, insert, Std.HashMap.getElem?_insert]

/-! ## Unknown samples -/

def isNew (l : Library) (u : Unknown) : Bool :=
  !l.unknown.contains u

/-- Remember an unknown sample; a new one is dumped where dumping is on. -/
def recordUnknown (l : Library) (hash : Fingerprint) (rate : UInt8) (bytes : List UInt8) :
    Library × Option Waveform.Dump :=
  let u : Unknown := ⟨hash, rate &&& 0x0F⟩
  if l.isNew u then
    ({ l with unknown := u :: l.unknown },
      l.dumpDirectory.map fun directory => ⟨directory, hash, u.rate, bytes⟩)
  else (l, none)

/-- The rates an unknown sample was heard at, ascending. -/
def unknownRates (l : Library) (hash : Fingerprint) : List UInt8 :=
  ((l.unknown.filter (·.hash == hash)).map (·.rate)).mergeSort (· ≤ ·)

def unknownHashes (l : Library) : List Fingerprint :=
  (l.unknown.map (·.hash)).eraseDups

/-! ## Reading records -/

inductive Error where
  | file (cause : FileError)
  | malformed
  | invalidHash (literal : String)
  | pitchCount (hash : Fingerprint) (count : Nat)
  deriving DecidableEq, Repr

namespace Error

def message : Error → String
  | .file cause => "failed to read sample library: " ++ cause.message
  | .malformed => "malformed sample library"
  | .invalidHash literal => "invalid fnv64a hash literal " ++ Text.quoted literal
  | .pitchCount hash count =>
      "sample " ++ Text.upperHexPadded 16 hash.toNat ++ " lists " ++ toString count ++
        " notes, expected 16"

end Error

structure Record where
  literal : String
  channel : UInt8 := 9
  program : UInt8 := 0
  volume : UInt8 := 0x60
  velocity : UInt8 := 96
  pitches : List Float := []
  deriving Repr

/-- Around the literal blanks are ignored; `0x` or `0X` in front makes it hexadecimal. -/
def parseHash? (literal : String) : Option Fingerprint :=
  let cs := Text.trim literal.toList
  let value :=
    match (Text.strip? ['0', 'x'] cs).or (Text.strip? ['0', 'X'] cs) with
    | some digits => Text.hex64? digits
    | none => Text.decimal64? cs
  value.map (·.toUInt64)

namespace Record

/-- Sixteen pitches, or none at all, which stands for sixteen zeros. -/
def pitchTable? (pitches : List Float) : Option (Vector Float 16) :=
  if pitches.isEmpty then some (.replicate 16 0.0)
  else if h : pitches.toArray.size = 16 then some ⟨pitches.toArray, h⟩
  else none

/-- The fingerprint and instrument of a record; values are cut to the width MIDI gives them. -/
def resolve (r : Record) : Except Error (Fingerprint × Instrument) :=
  match parseHash? r.literal with
  | none => .error (.invalidHash r.literal)
  | some hash =>
      match pitchTable? r.pitches with
      | none => .error (.pitchCount hash r.pitches.length)
      | some pitches =>
          .ok (hash, {
            channel := r.channel &&& 0x0F
            program := r.program &&& 0x7F
            volume := r.volume &&& 0x7F
            velocity := r.velocity &&& 0x7F
            pitches := pitches })

end Record

/-- Add records in order, up to the first faulty one. -/
def addRecords (l : Library) : List Record → Except Error Library
  | [] => .ok l
  | r :: rest =>
      match r.resolve with
      | .error e => .error e
      | .ok (hash, i) => (l.insert hash i).addRecords rest

def ofRecords (records : List Record) : Except Error Library :=
  empty.addRecords records

end Library

end ChipScribe
