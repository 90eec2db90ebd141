import ChipScribe.Midi.Message
import ChipScribe.Midi.Quantity

/-!
Standard MIDI files: one track of messages, each with the time since the one
before it.  The tempo is fixed, so that a tick is 1/960 of a second.  A pause is
not stored; it moves everything after it by one tick.
-/

namespace ChipScribe.Midi

structure Event where
  cycle : Nat
  message : Message
  deriving DecidableEq, Repr

namespace File

/-- Ticks in a quarter note. -/
def division : Nat := 480

/-- Microseconds in a quarter note. -/
def tempo : Nat := 500000

def ticksPerSecond : Float :=
  division.toFloat * 1000000.0 / tempo.toFloat

/-- Times between messages are cut off here, as they have four groups at most. -/
def maxDelta : Nat := 0x0FFFFFFF

/-- The tick of a clock at `hz` clocks a second. -/
def tickOf (hz : Float) (cycle : Nat) : Nat :=
  (cycle.toUInt64.toFloat * ticksPerSecond / hz).round.toUInt64.toNat

/-- Messages with the ticks since the one before, after `delays` pauses and the tick `last`. -/
def deltasFrom (hz : Float) : (delays last : Nat) → List Event → List (Nat × Message)
  | _, _, [] => []
  | delays, last, e :: rest =>
      if e.message = .delay then deltasFrom hz (delays + 1) last rest
      else
        let tick := tickOf hz e.cycle + delays
        (min (tick - last) maxDelta, e.message) :: deltasFrom hz delays (max last tick) rest

def deltas (hz : Float) (events : List Event) : List (Nat × Message) :=
  deltasFrom hz 0 0 events

/-- The low `count` bytes, highest first. -/
def bigEndian : (count n : Nat) → List UInt8
  | 0, _ => []
  | count + 1, n => (n / 256 ^ count).toUInt8 :: bigEndian count n

def metaTempo : List UInt8 :=
  [0xFF, 0x51, 0x03] ++ bigEndian 3 tempo

def endOfTrack : List UInt8 :=
  [0xFF, 0x2F, 0x00]

def timed (delta : Nat) (bytes : List UInt8) : List UInt8 :=
  Quantity.encode delta.toUInt32 ++ bytes

def track (hz : Float) (events : List Event) : List UInt8 :=
  timed 0 metaTempo ++
    (deltas hz events).flatMap (fun (delta, message) => timed delta message.bytes) ++
    timed 0 endOfTrack

/-- A chunk is a name of four letters, the length of its body, and the body. -/
def chunk (name : String) (body : List UInt8) : List UInt8 :=
  name.toList.map (fun c => c.toNat.toUInt8) ++ bigEndian 4 body.length ++ body

/-- A file of format 0, with one track. -/
def header : List UInt8 :=
  chunk "MThd" (bigEndian 2 0 ++ bigEndian 2 1 ++ bigEndian 2 division)

def encode (hz : Float) (events : List Event) : List UInt8 :=
  header ++ chunk "MTrk" (track hz events)

end File

end ChipScribe.Midi
