import ChipScribe.Proofs.Finite
import ChipScribe.Proofs.RoundTrip
import ChipScribe.Proofs.Shapes

/-!
# Saving and loading

A snapshot is checked part by part in a fixed order.  If every check passes the
chip takes it over whole, and saving and loading once more changes nothing;
otherwise the first check that fails gives the error, and the chip stays as it is.
-/

namespace ChipScribe

open Json

/-! ## Finite values -/

namespace Json

/-- Every number in the value is finite, as numbers with a written form are. -/
inductive Finite : Json → Prop
  | null : Finite .null
  | bool (b : Bool) : Finite (.bool b)
  | int (i : Int) : Finite (.int i)
  | float {x : Float} (h : x.isFinite) : Finite (.float x)
  | str (s : String) : Finite (.str s)
  | arr {items : List Json} (h : ∀ j ∈ items, Finite j) : Finite (.arr items)
  | obj {fields : Fields} (h : ∀ f ∈ fields, Finite f.2) : Finite (.obj fields)
  | invalid : Finite .invalid

theorem mem_of_lookup {found : Fields} {name : String} {j : Json}
    (h : found.lookup name = some j) : (name, j) ∈ found := by
  obtain ⟨front, back, rfl, -⟩ := List.lookup_eq_some_iff.mp h
  exact List.mem_append_right front List.mem_cons_self

variable {j value : Json} {found : Fields} {name : String}

theorem Finite.get? (h : j.Finite) (got : j.get? name = some value) : value.Finite := by
  cases h with
  | obj fields => exact fields _ (List.mem_reverse.mp (mem_of_lookup got))
  | _ => cases got

theorem Finite.fields? {names : List String} (h : j.Finite) (got : j.fields? names = some found) :
    ∀ f ∈ found, f.2.Finite := by
  intro f mem
  cases h with
  | obj fields =>
      dsimp only [Json.fields?] at got
      split at got
      · cases got
        exact fields f (List.mem_filter.mp mem).1
      · cases got
  | arr items =>
      dsimp only [Json.fields?] at got
      split at got
      · cases got
        exact items f.2 (List.of_mem_zip mem).2
      · cases got
  | _ => cases got

theorem Finite.asFloat? {x : Float} (h : j.Finite) (got : j.asFloat? = some x) : x.isFinite := by
  cases h with
  | float finite =>
      cases got
      exact finite
  | int i =>
      cases got
      exact isFinite_floatOfInt i
  | _ => cases got

/-- What a field of finite values holds is read off a finite value. -/
theorem finite_need {α : Type} {read : Json → Option α} {a : α}
    (h : ∀ f ∈ found, f.2.Finite) (got : found.need name read = some a) :
    ∃ value : Json, value.Finite ∧ read value = some a := by
  obtain ⟨value, inner, taken⟩ := Option.bind_eq_some_iff.mp got
  exact ⟨value, h _ (mem_of_lookup inner), taken⟩

end Json

namespace Voice

theorem finite_wantOfFields? {found : Fields} {t : Tone} (h : ∀ f ∈ found, f.2.Finite)
    (got : wantOfFields? found = some t) : t.pitch.isFinite := by
  simp only [wantOfFields?, Option.bind_eq_bind, Option.bind_eq_some_iff] at got
  obtain ⟨_, -, _, -, _, -, _, -, pitch, pitch_read, eq⟩ := got
  cases eq
  obtain ⟨value, finite, taken⟩ := finite_need h pitch_read
  exact finite.asFloat? taken

theorem finite_sentOfFields? {found : Fields} {t : Tone} (h : ∀ f ∈ found, f.2.Finite)
    (got : sentOfFields? found = some t) : t.pitch.isFinite := by
  simp only [sentOfFields?, Option.bind_eq_bind, Option.bind_eq_some_iff] at got
  obtain ⟨_, -, _, -, _, -, _, -, pitch, pitch_read, eq⟩ := got
  cases eq
  obtain ⟨value, finite, taken⟩ := finite_need h pitch_read
  exact finite.asFloat? taken

theorem writable_of_finite {j : Json} {v : Voice} (h : j.Finite) (got : ofJson? j = some v) :
    v.writable := by
  obtain ⟨found, inner, got⟩ := Option.bind_eq_some_iff.mp got
  obtain ⟨want, want_read, got⟩ := Option.bind_eq_some_iff.mp got
  obtain ⟨sent, sent_read, got⟩ := Option.bind_eq_some_iff.mp got
  -- The other fields hold no numbers that matter here.
  iterate 11 obtain ⟨_, -, got⟩ := Option.bind_eq_some_iff.mp got
  cases got
  exact ⟨finite_wantOfFields? (h.fields? inner) want_read,
    finite_sentOfFields? (h.fields? inner) sent_read⟩

end Voice

/-- The voice of a channel stands in one of its fields. -/
theorem writable_of_need {found : Fields} {v : Voice} (h : ∀ f ∈ found, f.2.Finite)
    (got : found.need "midi" Voice.ofJson? = some v) : v.writable := by
  obtain ⟨value, finite, taken⟩ := finite_need h got
  exact Voice.writable_of_finite finite taken

section

variable {j : Json} {v : Voice}

theorem Pulse.writable_of_finite {p : Pulse} (h : j.Finite) (got : ofJson? j = some (p, v)) :
    v.writable := by
  obtain ⟨found, inner, got⟩ := Option.bind_eq_some_iff.mp got
  iterate 6 obtain ⟨_, -, got⟩ := Option.bind_eq_some_iff.mp got
  obtain ⟨voice, voice_read, got⟩ := Option.bind_eq_some_iff.mp got
  cases got
  exact writable_of_need (h.fields? inner) voice_read

theorem Triangle.writable_of_finite {t : Triangle} (h : j.Finite)
    (got : ofJson? j = some (t, v)) : v.writable := by
  obtain ⟨found, inner, got⟩ := Option.bind_eq_some_iff.mp got
  iterate 7 obtain ⟨_, -, got⟩ := Option.bind_eq_some_iff.mp got
  obtain ⟨voice, voice_read, got⟩ := Option.bind_eq_some_iff.mp got
  cases got
  exact writable_of_need (h.fields? inner) voice_read

theorem Noise.writable_of_finite {n : Noise} (h : j.Finite) (got : ofJson? j = some (n, v)) :
    v.writable := by
  obtain ⟨found, inner, got⟩ := Option.bind_eq_some_iff.mp got
  iterate 6 obtain ⟨_, -, got⟩ := Option.bind_eq_some_iff.mp got
  obtain ⟨voice, voice_read, got⟩ := Option.bind_eq_some_iff.mp got
  cases got
  exact writable_of_need (h.fields? inner) voice_read

theorem Dmc.writable_of_finite {d : Dmc} (h : j.Finite) (got : ofJson? j = some (d, v)) :
    v.writable := by
  obtain ⟨found, inner, got⟩ := Option.bind_eq_some_iff.mp got
  iterate 17 obtain ⟨_, -, got⟩ := Option.bind_eq_some_iff.mp got
  obtain ⟨voice, voice_read, got⟩ := Option.bind_eq_some_iff.mp got
  cases got
  exact writable_of_need (h.fields? inner) voice_read

end

/-! ## The checks -/

namespace Snapshot

def versionFault? (j : Json) : Option Error :=
  if foundVersion j = version then none else some (.version (foundVersion j))

def systemFault? (j : Json) : Option Error :=
  if foundSystem j = system then none else some (.system (foundSystem j))

/-- A field that is missing, or does not have its shape. -/
def fieldFault? (name : String) (shape : Shape) (j : Json) : Option Error :=
  match j.get? name with
  | none => some (.missing name)
  | some value => if shape value then none else some .malformed

/-- The checks that a snapshot goes through, in order; each gives the error of its failure. -/
def checks : List (Json → Option Error) := [
  versionFault?,
  systemFault?,
  fieldFault? "timing" Region.shape,
  fieldFault? "pulse1" Pulse.shape,
  fieldFault? "pulse2" Pulse.shape,
  fieldFault? "triangle" Triangle.shape,
  fieldFault? "noise" Noise.shape,
  fieldFault? "dmc" Dmc.shape,
  fieldFault? "frame" FrameSequencer.shape,
  fieldFault? "irq_line" .flag]

def firstFault? (j : Json) : Option Error :=
  checks.findSome? fun check => check j

def fault? {α : Type} : Except Error α → Option Error
  | .ok _ => none
  | .error e => some e

/-- A field is checked, and the rest whatever it holds. -/
theorem fault?_field_bind {α β : Type} {read : Json → Option α} {shape : Shape}
    (h : Reads read shape) {j : Json} {name : String} {f : α → Except Error β}
    {others : List (Json → Option Error)}
    (rest : ∀ a, fault? (f a) = others.findSome? fun check => check j) :
    fault? (field j name read >>= f) =
      (fieldFault? name shape :: others).findSome? fun check => check j := by
  rw [List.findSome?_cons]
  cases got : j.get? name with
  | none => simp only [field, fieldFault?, got]; rfl
  | some value =>
      have fits := h value
      cases taken : read value with
      | none =>
          rw [taken] at fits
          simp only [field, fieldFault?, got, taken, ← fits]
          rfl
      | some a =>
          rw [taken] at fits
          simp only [field, fieldFault?, got, taken, ← fits]
          exact rest a

theorem fault?_ofJson (j : Json) : fault? (ofJson j) = firstFault? j := by
  have parts : fault? (fieldsOfJson j) = (checks.drop 2).findSome? fun check => check j := by
    unfold fieldsOfJson
    exact fault?_field_bind Region.reads fun _ =>
      fault?_field_bind Pulse.reads fun _ => fault?_field_bind Pulse.reads fun _ =>
      fault?_field_bind Triangle.reads fun _ => fault?_field_bind Noise.reads fun _ =>
      fault?_field_bind Dmc.reads fun _ => fault?_field_bind FrameSequencer.reads fun _ =>
      fault?_field_bind reads_asBool? fun _ => rfl
  change _ = (versionFault? :: systemFault? :: checks.drop 2).findSome? fun check => check j
  simp only [List.findSome?_cons, ← parts, ofJson, versionFault?, systemFault?]
  by_cases current : foundVersion j = version
  · by_cases own : foundSystem j = system
    · simp [current, own]
    · simp [current, own, fault?]
  · simp [current, fault?]

private theorem ok_of_bind {α β : Type} {o : Except Error α} {f : α → Except Error β} {b : β}
    (h : (o >>= f) = .ok b) : ∃ a, o = .ok a ∧ f a = .ok b := by
  cases o with
  | ok a => exact ⟨a, rfl, h⟩
  | error e => cases h

private theorem field_ok {α : Type} {j : Json} {name : String} {read : Json → Option α} {a : α}
    (h : field j name read = .ok a) : ∃ value, j.get? name = some value ∧ read value = some a := by
  unfold field at h
  split at h
  · cases h
  next value found =>
    split at h
    next taken =>
      cases h
      exact ⟨value, found, taken⟩
    · cases h

theorem writable_of_ofJson {j : Json} {s : Snapshot} (h : j.Finite) (got : ofJson j = .ok s) :
    s.writable := by
  unfold ofJson at got
  split at got
  · cases got
  · split at got
    · cases got
    · obtain ⟨region, -, got⟩ := ok_of_bind got
      obtain ⟨⟨pulse1, voice1⟩, read1, got⟩ := ok_of_bind got
      obtain ⟨⟨pulse2, voice2⟩, read2, got⟩ := ok_of_bind got
      obtain ⟨⟨triangle, voice3⟩, read3, got⟩ := ok_of_bind got
      obtain ⟨⟨noise, voice4⟩, read4, got⟩ := ok_of_bind got
      obtain ⟨⟨dmc, voice5⟩, read5, got⟩ := ok_of_bind got
      obtain ⟨frame, -, got⟩ := ok_of_bind got
      obtain ⟨irqLine, -, got⟩ := ok_of_bind got
      cases got
      obtain ⟨value1, found1, taken1⟩ := field_ok read1
      obtain ⟨value2, found2, taken2⟩ := field_ok read2
      obtain ⟨value3, found3, taken3⟩ := field_ok read3
      obtain ⟨value4, found4, taken4⟩ := field_ok read4
      obtain ⟨value5, found5, taken5⟩ := field_ok read5
      exact ⟨Pulse.writable_of_finite (h.get? found1) taken1,
        Pulse.writable_of_finite (h.get? found2) taken2,
        Triangle.writable_of_finite (h.get? found3) taken3,
        Noise.writable_of_finite (h.get? found4) taken4,
        Dmc.writable_of_finite (h.get? found5) taken5⟩

end Snapshot

/-! ## Loading -/

namespace Chip

variable {c : Chip}

theorem load_of_ok {j : Json} {s : Snapshot} (h : Snapshot.ofJson j = .ok s) :
    c.load j = (.ok (), (c.restore s).1, { irq := some s.synth.irqLine }) := by
  rw [load, h]
  rfl

theorem load_of_error {j : Json} {e : Snapshot.Error} (h : Snapshot.ofJson j = .error e) :
    c.load j = (.error e, c, {}) := by
  rw [load, h]

theorem load_cases (c : Chip) (j : Json) :
    (∃ s, Snapshot.ofJson j = .ok s ∧
      c.load j = (.ok (), (c.restore s).1, { irq := some s.synth.irqLine })) ∨
    (∃ e, Snapshot.ofJson j = .error e ∧ c.load j = (.error e, c, {})) := by
  cases read : Snapshot.ofJson j with
  | ok s => exact .inl ⟨s, rfl, load_of_ok read⟩
  | error e => exact .inr ⟨e, rfl, load_of_error read⟩

/-- What the receiver holds is forgotten once and for all. -/
theorem restore_restore (c : Chip) (s : Snapshot) :
    ((c.restore s).1.restore s).1 = (c.restore s).1 := rfl

/-- What saving and loading promise on the chip `c`. -/
structure LoadsWhole (c : Chip) : Prop where
  /-- What another chip saved is taken over whole, and the interrupt line driven once. -/
  saved (other : Chip) (h : other.snapshot.writable) :
    (c.load other.snapshot.toJson).1 = .ok () ∧
      (c.load other.snapshot.toJson).2.1.snapshot = other.snapshot ∧
      (c.load other.snapshot.toJson).2.2 = { irq := some other.synth.irqLine }
  /-- After a value was taken over, saving and loading again is accepted and changes nothing. -/
  settled (j : Json) (finite : j.Finite) (taken : (c.load j).1 = .ok ()) :
    let loaded := (c.load j).2.1
    loaded.load loaded.snapshot.toJson =
      (.ok (), loaded, { irq := some loaded.synth.irqLine })
  /-- A value is rejected with the error of the first check that fails, -/
  verdict (j : Json) (e : Snapshot.Error) :
    (c.load j).1 = .error e ↔ Snapshot.firstFault? j = some e
  /-- and then nothing has changed and nothing was put out. -/
  rejected (j : Json) (e : Snapshot.Error) (h : (c.load j).1 = .error e) :
    (c.load j).2 = (c, {})

theorem loads_whole (c : Chip) : c.LoadsWhole where
  saved other h := by
    rw [load_of_ok (Snapshot.ofJson_of_writable h)]
    exact ⟨rfl, rfl, rfl⟩
  settled j finite taken := by
    obtain ⟨s, read, eq⟩ | ⟨e, -, eq⟩ := c.load_cases j
    · have writable : s.writable := Snapshot.writable_of_ofJson finite read
      rw [eq]
      dsimp only
      rw [snapshot_restore, load_of_ok (Snapshot.ofJson_of_writable writable), restore_restore]
      rfl
    · rw [eq] at taken
      cases taken
  verdict j e := by
    rw [← Snapshot.fault?_ofJson]
    obtain ⟨s, read, eq⟩ | ⟨found, read, eq⟩ := c.load_cases j
    · rw [eq, read]
      simp [Snapshot.fault?]
    · rw [eq, read]
      simp [Snapshot.fault?]
  rejected j e h := by
    obtain ⟨s, -, eq⟩ | ⟨found, -, eq⟩ := c.load_cases j
    · rw [eq] at h
      cases h
    · rw [eq]

/-- A snapshot of the other region is taken over, and one whose region is a number is not. -/
theorem loads_whole_across_regions :
    let c := Chip.ofSettings {}
    let other := Chip.ofSettings { region := .pal }
    let odd := Json.obj [("version", ofNat 1), ("system", .str "famicom-apu"), ("timing", ofNat 50)]
    (c.load other.snapshot.toJson).2.1.snapshot = other.snapshot ∧
      (c.load odd).1 = .error .malformed ∧ (c.load odd).2 = (c, {}) := by
  intro c other odd
  have zero : (0.0 : Float).isFinite := by decide +kernel
  have writable : other.snapshot.writable :=
    ⟨⟨zero, zero⟩, ⟨zero, zero⟩, ⟨zero, zero⟩, ⟨zero, zero⟩, ⟨zero, zero⟩⟩
  have refused : (c.load odd).1 = .error .malformed :=
    ((loads_whole c).verdict odd .malformed).mpr rfl
  exact ⟨((loads_whole c).saved other writable).2.1, refused,
    (loads_whole c).rejected odd .malformed refused⟩

end Chip

end ChipScribe
