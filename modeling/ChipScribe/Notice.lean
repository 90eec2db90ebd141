import ChipScribe.Region
import ChipScribe.Log
import ChipScribe.Sample.Library

/-!
What the chip reports: each notice has a category, a level and a text.  Beside
notices, looking up samples can ask for a dump; both come in order as effects.
-/

namespace ChipScribe

inductive Notice where
  | powered (region : Region) (samples : Nat)
  | sampleFound (hash : Fingerprint) (address length rate : UInt8)
  | sampleSilent (hash : Fingerprint) (rate : UInt8)
  | sampleUnknown (hash : Fingerprint) (address length rate : UInt8)
  | dumpFailed (hash : Fingerprint) (rate : UInt8) (cause : FileError)
  | libraryLoaded (path : String) (samples : Nat)
  | libraryMissing (path : String) (cause : Library.Error)
  | bandwidth (messages : UInt32)
  | writeOnlyRead (address : UInt16)
  | ignoredWrite (address : UInt16) (data : UInt8)
  | frameMode (fiveStep inhibited : Bool)
  deriving DecidableEq, Repr

namespace Notice

def category : Notice → Log.Category
  | powered .. => .chip
  | sampleFound .. | sampleSilent .. | sampleUnknown .. | dumpFailed .. => .dmc
  | libraryLoaded .. | libraryMissing .. => .dmc
  | bandwidth .. => .midi
  | writeOnlyRead .. | ignoredWrite .. => .bus
  | frameMode .. => .frame

def level : Notice → Log.Level
  | powered .. | sampleUnknown .. | libraryLoaded .. => .info
  | sampleFound .. | sampleSilent .. | bandwidth .. => .debug
  | dumpFailed .. | libraryMissing .. => .warn
  | writeOnlyRead .. | ignoredWrite .. | frameMode .. => .trace

def regionTitle : Region → String
  | .ntsc => "Ntsc"
  | .pal => "Pal"

def hex16 (hash : Fingerprint) : String :=
  Text.upperHexPadded 16 hash.toNat

def hex4 (address : UInt16) : String :=
  Text.upperHexPadded 4 address.toNat

def hex2 (byte : UInt8) : String :=
  Text.upperHexPadded 2 byte.toNat

def hex1 (rate : UInt8) : String :=
  Text.upperHex rate.toNat

def latches (address length rate : UInt8) : String :=
  "a=" ++ hex2 address ++ ", l=" ++ hex2 length ++ ", p=" ++ hex1 rate

def text : Notice → String
  | powered region samples =>
      "apu: power (" ++ regionTitle region ++ ", " ++ toString samples ++ " dmc samples mapped)"
  | sampleFound hash address length rate =>
      "dmc: 0x" ++ hex16 hash ++ ": " ++ latches address length rate ++ " found"
  | sampleSilent hash rate =>
      "dmc: 0x" ++ hex16 hash ++ ": no note at rate " ++ hex1 rate
  | sampleUnknown hash address length rate =>
      "dmc: 0x" ++ hex16 hash ++ ": " ++ latches address length rate ++ " NOT found"
  | dumpFailed hash rate cause =>
      "dmc: failed to dump sample " ++ hex16 hash ++ "." ++ hex1 rate ++ ": " ++ cause.message
  | libraryLoaded path samples =>
      "dmc: " ++ toString samples ++ " samples loaded from " ++ path
  | libraryMissing path cause =>
      "dmc: no sample library from " ++ path ++ ": " ++ cause.message
  | bandwidth messages => "midi: " ++ toString (messages.toNat * 30) ++ " bps"
  | writeOnlyRead address => "apu: read of write-only $" ++ hex4 address
  | ignoredWrite address data => "apu: ignored write $" ++ hex4 address ++ " = " ++ hex2 data
  | frameMode fiveStep inhibited =>
      "frame: " ++ (if fiveStep then "5" else "4") ++ "-step, irq " ++
        (if inhibited then "inhibited" else "enabled")

end Notice

inductive Effect where
  | notice (n : Notice)
  | dump (d : Waveform.Dump)
  deriving DecidableEq, Repr

def Log.Console.report (k : Log.Console) (n : Notice) : Log.Console :=
  if k.levels.admits n.category n.level then (k.log n.category n.level n.text).1 else k

end ChipScribe
