import ChipScribe.Dmc
import ChipScribe.Mixer
import ChipScribe.Text.Hex
import ChipScribe.Sample.Fingerprint

/-!
Recorded samples as sound.  The bits of each byte, lowest first, move the level
of the delta channel from zero; a ladder turns each level into a 16-bit sample.
Samples that no instrument is known for can be dumped in this form, each beside
a note of its rate and layout.
-/

namespace ChipScribe.Waveform

/-- The bits of a byte, lowest first. -/
def bits (byte : UInt8) : List Bool :=
  (List.range 8).map fun i => (byte >>> i.toUInt8) &&& 1 != 0

def levelsFrom : UInt8 → List Bool → List UInt8
  | _, [] => []
  | level, bit :: rest =>
      let level := Dmc.stepLevel level bit
      level :: levelsFrom level rest

def levels (bytes : List UInt8) : List UInt8 :=
  levelsFrom 0 (bytes.flatMap bits)

def decode (ladder : UInt8 → UInt16) (bytes : List UInt8) : List UInt16 :=
  (levels bytes).map ladder

def littleEndian (x : UInt16) : List UInt8 :=
  [x.toUInt8, (x >>> 8).toUInt8]

/-- Playback rates in Hz, rounded, by rate index. -/
def sampleRates : Vector Nat 16 :=
  #v[4182, 4710, 5264, 5593, 6258, 7046, 7919, 8363,
     9420, 11186, 12604, 13983, 16885, 21307, 24858, 33144]

structure Dump where
  directory : String
  hash : Fingerprint
  rate : UInt8
  bytes : List UInt8
  deriving DecidableEq, Repr

namespace Dump

def name (d : Dump) : String :=
  Text.upperHexPadded 16 d.hash.toNat ++ "." ++ Text.upperHex d.rate.toNat ++ ".pcm"

def content (d : Dump) : List UInt8 :=
  (decode Mixer.dmcLevel d.bytes).flatMap littleEndian

def sidecarName (d : Dump) : String :=
  d.name ++ ".rsrc.txt"

def sidecar (d : Dump) : String :=
  "SAMPLERATE " ++ toString (sampleRates[d.rate.toNat % 16]) ++ "\n" ++
  "CHANNELS 1\nBITSPERSAMPLE 16\nPREFPOS -1\nENDIAN LITTLE\nBYTEOFFS 0\nBYTELEN 0\n"

end Dump

end ChipScribe.Waveform
