import Mathlib.Algebra.Group.Int.Defs
import Mathlib.Algebra.Group.Nat.Defs
import ChipScribe.Snapshot

/-!
# The shapes of a snapshot

A shape says of which kind every value in a part of a snapshot is, and nothing
of what becomes of it.  The reader of each part takes the values of its shape
and no others, down to the last field of a voice.
-/

namespace ChipScribe

namespace Json

/-- A kind of value, told apart from all others. -/
abbrev Shape := Json → Bool

namespace Shape

def flag : Shape
  | .bool _ => true
  | _ => false

/-- An integer of `bits` bits. -/
def unsigned (bits : Nat) : Shape
  | .int i => decide (0 ≤ i ∧ i < 2 ^ bits)
  | _ => false

def number : Shape
  | .float _ => true
  | .int _ => true
  | _ => false

/-- One of the names of an enumeration. -/
def name (names : List String) : Shape := fun j =>
  j.asName?.any names.contains

def repeated (n : Nat) (shape : Shape) : Shape
  | .arr items => items.length == n && items.all shape
  | _ => false

/-- The fields found hold what they should. -/
def fieldsFit (found : Fields) (fields : List (String × Shape)) : Bool :=
  fields.all fun f => (found.lookup f.1).any f.2

/-- An object or array with the fields, each of its own shape. -/
def record (fields : List (String × Shape)) : Shape := fun j =>
  (j.fields? (fields.map Prod.fst)).any (fieldsFit · fields)

end Shape

/-- The reader takes the values of a shape and no others. -/
def Reads {α : Type} (read : Json → Option α) (shape : Shape) : Prop :=
  ∀ j, (read j).isSome = shape j

theorem reads_asBool? : Reads asBool? .flag := by
  intro j
  cases j <;> rfl

private theorem isSome_asNat? (bits : Nat) (j : Json) :
    (j.asNat? (2 ^ bits - 1)).isSome = Shape.unsigned bits j := by
  cases j with
  | int i =>
      have positive := Nat.two_pow_pos bits
      have same : (0 ≤ i ∧ i.toNat ≤ 2 ^ bits - 1) ↔ (0 ≤ i ∧ i < 2 ^ bits) := by
        have cast : ((2 ^ bits : Nat) : Int) = 2 ^ bits := by push_cast; rfl
        omega
      change (if _ then some i.toNat else none).isSome = decide _
      split
      next fits => exact (decide_eq_true (same.mp fits)).symm
      next wide => exact (decide_eq_false (mt same.mpr wide)).symm
  | _ => rfl

theorem reads_asUInt8? : Reads asUInt8? (.unsigned 8) := by
  intro j
  rw [asUInt8?, Option.isSome_map]
  exact isSome_asNat? 8 j

theorem reads_asUInt16? : Reads asUInt16? (.unsigned 16) := by
  intro j
  rw [asUInt16?, Option.isSome_map]
  exact isSome_asNat? 16 j

theorem reads_asUInt32? : Reads asUInt32? (.unsigned 32) := by
  intro j
  rw [asUInt32?, Option.isSome_map]
  exact isSome_asNat? 32 j

theorem reads_asFloat? : Reads asFloat? .number := by
  intro j
  cases j <;> rfl

private theorem isSome_mapM {α : Type} {read : Json → Option α} {shape : Shape}
    (h : Reads read shape) (l : List Json) : (l.mapM read).isSome = l.all shape := by
  induction l with
  | nil => rfl
  | cons j rest ih =>
      rw [List.mapM_cons, List.all_cons, ← h j, ← ih]
      cases read j with
      | none => rfl
      | some a => cases rest.mapM read <;> rfl

private theorem length_mapM {α : Type} {read : Json → Option α} {l : List Json} {items : List α}
    (h : l.mapM read = some items) : items.length = l.length := by
  induction l generalizing items with
  | nil =>
      cases h
      rfl
  | cons j rest ih =>
      simp only [List.mapM_cons, Option.bind_eq_bind, Option.bind_eq_some_iff] at h
      obtain ⟨a, -, others, read_others, eq⟩ := h
      cases eq
      rw [List.length_cons, List.length_cons, ih read_others]

theorem Reads.repeated {α : Type} {read : Json → Option α} {shape : Shape}
    (h : Reads read shape) (n : Nat) : Reads (asVectorOf? n read) (.repeated n shape) := by
  intro j
  cases j with
  | arr l =>
      have all := isSome_mapM h l
      change ((l.mapM read).bind fun items => _).isSome = (l.length == n && l.all shape)
      rw [← all]
      cases read_l : l.mapM read with
      | none => simp
      | some items =>
          have length := length_mapM read_l
          by_cases fits : l.length = n
          · simp [length, fits]
          · simp [length, fits]
  | _ => rfl

theorem isSome_bind {α β : Type} {o : Option α} {f : α → Option β} {a b : Bool}
    (first : o.isSome = a) (rest : ∀ x, (f x).isSome = b) : (o >>= f).isSome = (a && b) := by
  subst first
  cases o with
  | none => rfl
  | some x => exact rest x

/-- One field is read, and the others whatever it holds. -/
theorem Reads.need {α β : Type} {read : Json → Option α} {shape : Shape} (h : Reads read shape)
    {found : Fields} {name : String} {others : List (String × Shape)} {f : α → Option β}
    (rest : ∀ a, (f a).isSome = Shape.fieldsFit found others) :
    (found.need name read >>= f).isSome = Shape.fieldsFit found ((name, shape) :: others) := by
  refine isSome_bind ?_ rest
  cases inner : found.lookup name with
  | none => simp [Fields.need, inner]
  | some j => simpa [Fields.need, inner] using h j

/-- A record is read field by field once its fields are found. -/
theorem isSome_record {α : Type} {fields : List (String × Shape)} {names : List String}
    {read : Fields → Option α} (j : Json) (same : fields.map Prod.fst = names)
    (h : ∀ found, (read found).isSome = Shape.fieldsFit found fields) :
    (j.fields? names >>= read).isSome = Shape.record fields j := by
  rw [Shape.record, same]
  cases inner : j.fields? names with
  | none => rfl
  | some found => exact h found

end Json

open Json

/-! ## The shapes of the parts -/

def LengthCounter.shape : Shape := .record [
  ("counter", .unsigned 8), ("halt", .flag), ("enable", .flag), ("delay_halt", .flag),
  ("new_halt", .flag), ("delay_counter", .flag), ("counter_index", .unsigned 8)]

def Envelope.shape : Shape := .record [
  ("speed", .unsigned 8), ("use_speed_as_volume", .flag), ("loop_mode", .flag),
  ("reload_decay", .flag), ("decay_counter", .unsigned 8), ("decay_volume", .unsigned 8)]

def Sweep.shape : Shape := .record [
  ("shift", .unsigned 8), ("decrement", .flag), ("period", .unsigned 8),
  ("counter", .unsigned 8), ("enable", .flag), ("reload", .flag), ("pulse_period", .unsigned 16)]

def FrameSequencer.shape : Shape := .record [
  ("irq_inhibit", .flag), ("five_step", .flag), ("irq_pending", .flag), ("step", .unsigned 8),
  ("counter", .unsigned 16), ("odd", .flag), ("delay", .flag), ("delay_counter", .unsigned 8)]

def Voice.shape : Shape := .record [
  ("note_new", .flag), ("note_on", .unsigned 8), ("note_chan", .unsigned 8),
  ("note_vel", .unsigned 8), ("note_wheel", .unsigned 16), ("note_freq", .number),
  ("note_duty", .unsigned 8), ("clocks_since_note_on", .unsigned 32),
  ("chan_program", .unsigned 8), ("chan_volume", .unsigned 8), ("last_note_on", .unsigned 8),
  ("last_chan", .unsigned 8), ("last_vel", .unsigned 8), ("last_wheel", .unsigned 16),
  ("last_freq", .number), ("period_write_countdown", .unsigned 32), ("last_period", .unsigned 8),
  ("last_cycle_volume", .unsigned 8), ("last_address_latch", .unsigned 8),
  ("last_length_latch", .unsigned 8), ("last_length_counter", .unsigned 16),
  ("triggered", .flag), ("triggered_stop", .flag), ("chans", .repeated 4 (.unsigned 8)),
  ("messages", .unsigned 32), ("clocks", .unsigned 32)]

def Pulse.shape : Shape := .record [
  ("length", LengthCounter.shape), ("envelope", Envelope.shape), ("sweep", Sweep.shape),
  ("duty", .unsigned 8), ("duty_counter", .unsigned 8), ("period_counter", .unsigned 16),
  ("midi", Voice.shape)]

def Triangle.shape : Shape := .record [
  ("length", LengthCounter.shape), ("linear_length", .unsigned 8),
  ("linear_length_counter", .unsigned 8), ("reload_linear", .flag), ("period", .unsigned 16),
  ("period_counter", .unsigned 16), ("step_counter", .unsigned 8), ("midi", Voice.shape)]

def Noise.shape : Shape := .record [
  ("length", LengthCounter.shape), ("envelope", Envelope.shape), ("period", .unsigned 8),
  ("short_mode", .flag), ("period_counter", .unsigned 16), ("lfsr", .unsigned 16),
  ("midi", Voice.shape)]

def Dmc.shape : Shape := .record [
  ("length_counter", .unsigned 16), ("irq_pending", .flag), ("period", .unsigned 8),
  ("period_counter", .unsigned 16), ("irq_enable", .flag), ("loop_mode", .flag),
  ("dac_latch", .unsigned 8), ("address_latch", .unsigned 8), ("length_latch", .unsigned 8),
  ("read_address", .unsigned 16), ("bit_counter", .unsigned 8), ("dma_buffer_valid", .flag),
  ("dma_buffer", .unsigned 8), ("sample_valid", .flag), ("sample", .unsigned 8),
  ("dma_delay_counter", .unsigned 8), ("clocks_since_start", .unsigned 32),
  ("midi", Voice.shape)]

def Region.shape : Shape :=
  .name ["ntsc", "pal"]

theorem LengthCounter.reads : Reads LengthCounter.ofJson? LengthCounter.shape := by
  intro j
  unfold ofJson? shape
  refine isSome_record j rfl fun found => ?_
  exact reads_asUInt8?.need fun _ => reads_asBool?.need fun _ => reads_asBool?.need fun _ =>
    reads_asBool?.need fun _ => reads_asBool?.need fun _ => reads_asBool?.need fun _ =>
    reads_asUInt8?.need fun _ => rfl

theorem Envelope.reads : Reads Envelope.ofJson? Envelope.shape := by
  intro j
  unfold ofJson? shape
  refine isSome_record j rfl fun found => ?_
  exact reads_asUInt8?.need fun _ => reads_asBool?.need fun _ => reads_asBool?.need fun _ =>
    reads_asBool?.need fun _ => reads_asUInt8?.need fun _ => reads_asUInt8?.need fun _ => rfl

theorem Sweep.reads : Reads Sweep.ofJson? Sweep.shape := by
  intro j
  unfold ofJson? shape
  refine isSome_record j rfl fun found => ?_
  exact reads_asUInt8?.need fun _ => reads_asBool?.need fun _ => reads_asUInt8?.need fun _ =>
    reads_asUInt8?.need fun _ => reads_asBool?.need fun _ => reads_asBool?.need fun _ =>
    reads_asUInt16?.need fun _ => rfl

theorem FrameSequencer.reads : Reads FrameSequencer.ofJson? FrameSequencer.shape := by
  intro j
  unfold ofJson? shape
  refine isSome_record j rfl fun found => ?_
  exact reads_asBool?.need fun _ => reads_asBool?.need fun _ => reads_asBool?.need fun _ =>
    reads_asUInt8?.need fun _ => reads_asUInt16?.need fun _ => reads_asBool?.need fun _ =>
    reads_asBool?.need fun _ => reads_asUInt8?.need fun _ => rfl

theorem Region.reads : Reads Region.ofJson? Region.shape := by
  have named (s : String) : (Region.ofName? s).isSome = ["ntsc", "pal"].contains s := by
    unfold Region.ofName?
    split
    · rfl
    · rfl
    next ntsc pal =>
      have other : s ∉ ["ntsc", "pal"] := by
        simp only [List.mem_cons, List.not_mem_nil, or_false, not_or]
        exact ⟨ntsc, pal⟩
      rw [List.contains_eq_mem, decide_eq_false other]
      rfl
  intro j
  unfold Region.ofJson? Region.shape Shape.name
  cases j.asName? with
  | none => rfl
  | some s => exact named s

section

variable (found : Fields)

theorem Voice.isSome_wantOfFields? : (Voice.wantOfFields? found).isSome =
    Shape.fieldsFit found [("note_on", .unsigned 8), ("note_chan", .unsigned 8),
      ("note_vel", .unsigned 8), ("note_wheel", .unsigned 16), ("note_freq", .number)] := by
  unfold wantOfFields?
  exact reads_asUInt8?.need fun _ => reads_asUInt8?.need fun _ => reads_asUInt8?.need fun _ =>
    reads_asUInt16?.need fun _ => reads_asFloat?.need fun _ => rfl

theorem Voice.isSome_sentOfFields? : (Voice.sentOfFields? found).isSome =
    Shape.fieldsFit found [("last_note_on", .unsigned 8), ("last_chan", .unsigned 8),
      ("last_vel", .unsigned 8), ("last_wheel", .unsigned 16), ("last_freq", .number)] := by
  unfold sentOfFields?
  exact reads_asUInt8?.need fun _ => reads_asUInt8?.need fun _ => reads_asUInt8?.need fun _ =>
    reads_asUInt16?.need fun _ => reads_asFloat?.need fun _ => rfl

theorem Voice.isSome_seenOfFields? : (Voice.seenOfFields? found).isSome =
    Shape.fieldsFit found [("last_period", .unsigned 8), ("last_cycle_volume", .unsigned 8),
      ("last_address_latch", .unsigned 8), ("last_length_latch", .unsigned 8),
      ("last_length_counter", .unsigned 16)] := by
  unfold seenOfFields?
  exact reads_asUInt8?.need fun _ => reads_asUInt8?.need fun _ => reads_asUInt8?.need fun _ =>
    reads_asUInt8?.need fun _ => reads_asUInt16?.need fun _ => rfl

theorem Voice.isSome_pacerOfFields? : (Voice.pacerOfFields? found).isSome =
    Shape.fieldsFit found [("messages", .unsigned 32), ("clocks", .unsigned 32)] := by
  unfold pacerOfFields?
  exact reads_asUInt32?.need fun _ => reads_asUInt32?.need fun _ => rfl

end

/-- The fields are read in another order than the one they stand in. -/
theorem Voice.reads : Reads Voice.ofJson? Voice.shape := by
  intro j
  unfold Voice.ofJson? Voice.shape
  refine isSome_record j rfl fun found => ?_
  unfold Voice.ofFields?
  refine Eq.trans (isSome_bind (isSome_wantOfFields? found) fun _ =>
    isSome_bind (isSome_sentOfFields? found) fun _ =>
    isSome_bind (isSome_seenOfFields? found) fun _ =>
    isSome_bind (isSome_pacerOfFields? found) fun _ =>
    reads_asBool?.need fun _ => reads_asUInt8?.need fun _ => reads_asUInt32?.need fun _ =>
    reads_asUInt8?.need fun _ => reads_asUInt8?.need fun _ => reads_asUInt32?.need fun _ =>
    reads_asBool?.need fun _ => reads_asBool?.need fun _ =>
    (reads_asUInt8?.repeated 4).need fun _ => (rfl : _ = Shape.fieldsFit found [])) ?_
  simp only [Shape.fieldsFit, List.all_cons, List.all_nil, Bool.and_true]
  ac_rfl

theorem Pulse.reads : Reads Pulse.ofJson? Pulse.shape := by
  intro j
  unfold ofJson? shape
  refine isSome_record j rfl fun found => ?_
  exact LengthCounter.reads.need fun _ => Envelope.reads.need fun _ => Sweep.reads.need fun _ =>
    reads_asUInt8?.need fun _ => reads_asUInt8?.need fun _ => reads_asUInt16?.need fun _ =>
    Voice.reads.need fun _ => rfl

theorem Triangle.reads : Reads Triangle.ofJson? Triangle.shape := by
  intro j
  unfold ofJson? shape
  refine isSome_record j rfl fun found => ?_
  exact LengthCounter.reads.need fun _ => reads_asUInt8?.need fun _ =>
    reads_asUInt8?.need fun _ => reads_asBool?.need fun _ => reads_asUInt16?.need fun _ =>
    reads_asUInt16?.need fun _ => reads_asUInt8?.need fun _ => Voice.reads.need fun _ => rfl

theorem Noise.reads : Reads Noise.ofJson? Noise.shape := by
  intro j
  unfold ofJson? shape
  refine isSome_record j rfl fun found => ?_
  exact LengthCounter.reads.need fun _ => Envelope.reads.need fun _ =>
    reads_asUInt8?.need fun _ => reads_asBool?.need fun _ => reads_asUInt16?.need fun _ =>
    reads_asUInt16?.need fun _ => Voice.reads.need fun _ => rfl

theorem Dmc.reads : Reads Dmc.ofJson? Dmc.shape := by
  intro j
  unfold ofJson? shape
  refine isSome_record j rfl fun found => ?_
  exact reads_asUInt16?.need fun _ => reads_asBool?.need fun _ => reads_asUInt8?.need fun _ =>
    reads_asUInt16?.need fun _ => reads_asBool?.need fun _ => reads_asBool?.need fun _ =>
    reads_asUInt8?.need fun _ => reads_asUInt8?.need fun _ => reads_asUInt8?.need fun _ =>
    reads_asUInt16?.need fun _ => reads_asUInt8?.need fun _ => reads_asBool?.need fun _ =>
    reads_asUInt8?.need fun _ => reads_asBool?.need fun _ => reads_asUInt8?.need fun _ =>
    reads_asUInt8?.need fun _ => reads_asUInt32?.need fun _ => Voice.reads.need fun _ => rfl

end ChipScribe
