import ChipScribe.Chip
import ChipScribe.Settings
import ChipScribe.Snapshot.Channels
import ChipScribe.Json.Canonical
import ChipScribe.Json.Printer

/-!
Snapshots: the channels with their voices, the frame sequencer, the region and
the interrupt line.  The emitter, the library and the tuning stay with the chip.
A snapshot is read whole or not at all; of several faults the first counts, in
the order version, system, then field by field.
-/

namespace ChipScribe

open Json

structure Snapshot where
  synth : Synth
  pulse1 : Voice
  pulse2 : Voice
  triangle : Voice
  noise : Voice
  dmc : Voice
  deriving Repr

namespace Snapshot

inductive Error where
  | version (n : UInt64)
  | system (name : String)
  | missing (field : String)
  | malformed
  deriving DecidableEq, Repr

namespace Error

def message : Error → String
  | .version n => "unsupported save state version " ++ toString n.toNat
  | .system name => "save state belongs to " ++ Text.quoted name
  | .missing field => "save state is missing " ++ Text.quoted field
  | .malformed => "malformed save state"

end Error

def version : UInt64 := 1

def system : String := "famicom-apu"

/-! ## Writing -/

def toJson (s : Snapshot) : Json :=
  .obj [
    ("version", ofNat version.toNat),
    ("system", .str system),
    ("timing", s.synth.region.toJson),
    ("pulse1", s.synth.pulse1.toJson s.pulse1),
    ("pulse2", s.synth.pulse2.toJson s.pulse2),
    ("triangle", s.synth.triangle.toJson s.triangle),
    ("noise", s.synth.noise.toJson s.noise),
    ("dmc", s.synth.dmc.toJson s.dmc),
    ("frame", s.synth.frame.toJson),
    ("irq_line", .bool s.synth.irqLine)]

/-- The text of a snapshot file, with the fields of every object in order. -/
def text (s : Snapshot) : String :=
  ((canonical? s.toJson).getD s.toJson).pretty

/-! ## Reading -/

def foundVersion (j : Json) : UInt64 :=
  ((j.get? "version").bind asUInt64?).getD 0

def foundSystem (j : Json) : String :=
  ((j.get? "system").bind asString?).getD ""

def field {α : Type} (j : Json) (name : String) (read : Json → Option α) : Except Error α :=
  match j.get? name with
  | none => .error (.missing name)
  | some value =>
      match read value with
      | some x => .ok x
      | none => .error .malformed

def fieldsOfJson (j : Json) : Except Error Snapshot := do
  let region ← field j "timing" Region.ofJson?
  let (pulse1, voice1) ← field j "pulse1" Pulse.ofJson?
  let (pulse2, voice2) ← field j "pulse2" Pulse.ofJson?
  let (triangle, voice3) ← field j "triangle" Triangle.ofJson?
  let (noise, voice4) ← field j "noise" Noise.ofJson?
  let (dmc, voice5) ← field j "dmc" Dmc.ofJson?
  let frame ← field j "frame" FrameSequencer.ofJson?
  let irqLine ← field j "irq_line" asBool?
  return {
    synth := { region, pulse1, pulse2, triangle, noise, dmc, frame, irqLine }
    pulse1 := voice1, pulse2 := voice2, triangle := voice3, noise := voice4, dmc := voice5 }

def ofJson (j : Json) : Except Error Snapshot :=
  if foundVersion j != version then .error (.version (foundVersion j))
  else if foundSystem j != system then .error (.system (foundSystem j))
  else fieldsOfJson j

/-- Every pitch has a written form. -/
def writable (s : Snapshot) : Prop :=
  s.pulse1.writable ∧ s.pulse2.writable ∧ s.triangle.writable ∧ s.noise.writable ∧
    s.dmc.writable

end Snapshot

namespace Chip

def snapshot (c : Chip) : Snapshot where
  synth := c.synth
  pulse1 := c.scribe.pulse1
  pulse2 := c.scribe.pulse2
  triangle := c.scribe.triangle
  noise := c.scribe.noise
  dmc := c.scribe.dmc

/-- Take over a snapshot.  What the receiver holds is no longer known. -/
def restore (c : Chip) (s : Snapshot) : Chip × Report :=
  ({ synth := s.synth
     scribe := { c.scribe with
       pulse1 := s.pulse1
       pulse2 := s.pulse2
       triangle := s.triangle
       noise := s.noise
       dmc := s.dmc
       emitter := c.scribe.emitter.forget } },
    { irq := some s.synth.irqLine })

/-- A snapshot that cannot be read changes nothing. -/
def load (c : Chip) (j : Json) : Except Snapshot.Error Unit × Chip × Report :=
  match Snapshot.ofJson j with
  | .ok s =>
      let (c, report) := c.restore s
      (.ok (), c, report)
  | .error e => (.error e, c, {})

@[simp] theorem snapshot_restore (c : Chip) (s : Snapshot) :
    (c.restore s).1.snapshot = s := rfl

end Chip

end ChipScribe
