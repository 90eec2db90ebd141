import ChipScribe.Voice.Basic
import ChipScribe.Dmc
import ChipScribe.Memory
import ChipScribe.Notice

/-!
The voice of the delta channel.  A sample has no pitch to follow, so some clocks
after its start its bytes are hashed and looked up in the library, which names
the instrument and the note.  The note ends with the sample.
-/

namespace ChipScribe.Voice

open Midi

/-- A start that begins a sample of more than one byte asks for a lookup. -/
def startSample (v : Voice) (d : Dmc) : Voice :=
  if d.remaining == 0 && d.sampleLength > 1 then { v with triggered := true } else v

/-- A stop before the end of a sample takes the lookup back and ends the note. -/
def stopSample (v : Voice) (d : Dmc) : Voice :=
  if d.remaining != 0 then { v with triggered := false, stopped := true } else v

/-- The latched sample as the host's memory holds it; addresses wrap within the upper half. -/
def sampleBytesFrom (m : Memory) (offset : UInt16) : Nat → List UInt8
  | 0 => []
  | count + 1 => m.read (0x8000 ||| offset) :: sampleBytesFrom m (offset + 1) count

def sampleBytes (m : Memory) (d : Dmc) : List UInt8 :=
  sampleBytesFrom m d.sampleStart d.sampleLength.toNat

def silenceSample (v : Voice) : Voice :=
  { v with want := { v.want with note := 0, vel := 0 } }

def playInstrument (v : Voice) (t : Tuning) (i : Instrument) (rate : UInt8) : Voice :=
  let v := { v with
    program := i.program
    volume := i.volume
    fresh := true
    want := { v.want with chan := i.channel, vel := i.velocity } }
  v.steer t (i.pitch rate)

def dueLookup (t : Tuning) (d : Dmc) (v : Voice) : Bool :=
  v.triggered && d.age > t.dmcSettle

def sightLatches (v : Voice) (d : Dmc) : Voice :=
  { v with
    triggered := false
    seen := { v.seen with
      addressLatch := d.addressLatch, lengthLatch := d.lengthLatch, period := d.rate } }

def lookUp (t : Tuning) (m : Memory) (d : Dmc) (l : Library) (v : Voice) :
    Voice × Library × List Effect :=
  let bytes := sampleBytes m d
  let hash := Fingerprint.ofBytes bytes
  let v := v.sightLatches d
  match l.lookup? hash with
  | some i =>
      if i.pitch d.rate > 0.0 then
        (v.playInstrument t i d.rate, l,
          [.notice (.sampleFound hash d.addressLatch d.lengthLatch d.rate)])
      else (v.silenceSample, l, [.notice (.sampleSilent hash d.rate)])
  | none =>
      let (l, dump) := l.recordUnknown hash d.rate bytes
      (v.silenceSample, l,
        .notice (.sampleUnknown hash d.addressLatch d.lengthLatch d.rate) ::
          dump.toList.map .dump)

/-- The sample has run out or was stopped since the last recalculation. -/
def sampleEnded (d : Dmc) (v : Voice) : Bool :=
  (!d.loop && d.remaining == 0 && v.seen.remaining != 0) || v.stopped

def endSample (d : Dmc) (v : Voice) : Voice :=
  let v := if v.sampleEnded d then v.silenceSample else v
  { v with stopped := false, seen := { v.seen with remaining := d.remaining } }

def followDmc (t : Tuning) (m : Memory) (d : Dmc) (l : Library) (v : Voice) :
    Voice × Library × List Effect :=
  if v.dueLookup t d then
    let (v, l, effects) := v.lookUp t m d l
    (v.endSample d, l, effects)
  else (v.endSample d, l, [])

def dmcReleaseBurst (v : Voice) : Burst :=
  if v.sent.note != 0 then
    ({ v with sent := { v.sent with note := 0 } }, [.off v.sent.chan v.sent.note])
  else (v, [])

/-- Program and volume go ahead of the note; the emitter drops what the channel already has. -/
def dmcStrikeBurst (v : Voice) : Burst :=
  if v.want.note != 0 && v.want.vel != 0 then
    ({ v with sent := { v.sent with chan := v.want.chan, note := v.want.note } },
      [.program v.want.chan v.program,
       .control v.want.chan Message.channelVolume v.volume,
       .on v.want.chan v.want.note v.want.vel])
  else (v, [])

def dmcBurst (v : Voice) : Burst :=
  if v.want.note != v.sent.note || v.want.vel != v.sent.vel || v.fresh then
    let struck := v.dmcReleaseBurst.andThen dmcStrikeBurst
    ({ struck.1 with sent := { struck.1.sent with vel := struck.1.want.vel }, fresh := false },
      struck.2)
  else (v, [])

end ChipScribe.Voice
