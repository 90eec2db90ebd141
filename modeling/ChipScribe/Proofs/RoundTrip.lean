import ChipScribe.Snapshot

/-!
# Reading a written snapshot

A snapshot whose pitches all have a written form is read back as it was; any
other is refused whole, so that a chip never takes over half of one.
-/

namespace ChipScribe

open Json

instance (v : Voice) : Decidable v.writable :=
  inferInstanceAs (Decidable (_ ∧ _))

namespace Snapshot

instance (s : Snapshot) : Decidable s.writable :=
  inferInstanceAs (Decidable (_ ∧ _ ∧ _ ∧ _ ∧ _))

variable (s : Snapshot)

private theorem field_toJson {α : Type} {name : String} {value : Json} {read : Json → Option α}
    (found : s.toJson.get? name = some value) :
    field s.toJson name read =
      match read value with
      | some x => .ok x
      | none => .error .malformed := by
  cases taken : read value <;> simp only [field, found, taken]

theorem foundVersion_toJson : foundVersion s.toJson = version := by
  simp [foundVersion, get?, toJson, List.lookup_cons, asUInt64?, asNat?, ofNat, version]

theorem foundSystem_toJson : foundSystem s.toJson = system := by
  simp [foundSystem, get?, toJson, List.lookup_cons, asString?]

theorem ofJson_toJson : ofJson s.toJson = fieldsOfJson s.toJson := by
  simp [ofJson, foundVersion_toJson, foundSystem_toJson]

private theorem get?_toJson :
    s.toJson.get? "timing" = some s.synth.region.toJson ∧
      s.toJson.get? "pulse1" = some (s.synth.pulse1.toJson s.pulse1) ∧
      s.toJson.get? "pulse2" = some (s.synth.pulse2.toJson s.pulse2) ∧
      s.toJson.get? "triangle" = some (s.synth.triangle.toJson s.triangle) ∧
      s.toJson.get? "noise" = some (s.synth.noise.toJson s.noise) ∧
      s.toJson.get? "dmc" = some (s.synth.dmc.toJson s.dmc) ∧
      s.toJson.get? "frame" = some s.synth.frame.toJson ∧
      s.toJson.get? "irq_line" = some (.bool s.synth.irqLine) := by
  simp [get?, toJson, List.lookup_cons]

variable {s}

theorem ofJson_of_writable (h : s.writable) : ofJson s.toJson = .ok s := by
  obtain ⟨timing, pulse1, pulse2, triangle, noise, dmc, frame, irqLine⟩ := s.get?_toJson
  obtain ⟨voice1, voice2, voice3, voice4, voice5⟩ := h
  rw [ofJson_toJson, fieldsOfJson]
  simp only [field_toJson s timing, field_toJson s pulse1, field_toJson s pulse2,
    field_toJson s triangle, field_toJson s noise, field_toJson s dmc, field_toJson s frame,
    field_toJson s irqLine, Region.ofJson?_toJson, Pulse.ofJson?_toJson, Triangle.ofJson?_toJson,
    Noise.ofJson?_toJson, Dmc.ofJson?_toJson, FrameSequencer.ofJson?_toJson, asBool?_bool,
    Voice.ofJson?_of_writable voice1, Voice.ofJson?_of_writable voice2,
    Voice.ofJson?_of_writable voice3, Voice.ofJson?_of_writable voice4,
    Voice.ofJson?_of_writable voice5, Option.map_some]
  rfl

/-- The first voice that cannot be read stops the reading. -/
theorem ofJson_of_not_writable (h : ¬ s.writable) : ofJson s.toJson = .error .malformed := by
  obtain ⟨timing, pulse1, pulse2, triangle, noise, dmc, -, -⟩ := s.get?_toJson
  have refused {α : Type} {a : α} {v : Voice} (h : ¬ v.writable) :
      (Voice.ofJson? v.toJson).map (fun w => (a, w)) = none := by
    rw [Voice.ofJson?_of_not_writable h]
    rfl
  have taken {α : Type} {a : α} {v : Voice} (h : v.writable) :
      (Voice.ofJson? v.toJson).map (fun w => (a, w)) = some (a, v) := by
    rw [Voice.ofJson?_of_writable h]
    rfl
  rw [ofJson_toJson, fieldsOfJson]
  simp only [field_toJson s timing, field_toJson s pulse1, field_toJson s pulse2,
    field_toJson s triangle, field_toJson s noise, field_toJson s dmc, Region.ofJson?_toJson,
    Pulse.ofJson?_toJson, Triangle.ofJson?_toJson, Noise.ofJson?_toJson, Dmc.ofJson?_toJson]
  by_cases voice1 : s.pulse1.writable
  · rw [taken voice1]
    by_cases voice2 : s.pulse2.writable
    · rw [taken voice2]
      by_cases voice3 : s.triangle.writable
      · rw [taken voice3]
        by_cases voice4 : s.noise.writable
        · have voice5 : ¬ s.dmc.writable := fun voice5 => h ⟨voice1, voice2, voice3, voice4, voice5⟩
          rw [taken voice4, refused voice5]
          rfl
        · rw [refused voice4]
          rfl
      · rw [refused voice3]
        rfl
    · rw [refused voice2]
      rfl
  · rw [refused voice1]
    rfl

end Snapshot

namespace Chip

/-- Loading a written snapshot takes over all of it or nothing. -/
theorem load_snapshot (c other : Chip) :
    (c.load other.snapshot.toJson).2.1 = (c.restore other.snapshot).1 ∨
      (c.load other.snapshot.toJson).2.1 = c := by
  by_cases h : other.snapshot.writable
  · rw [load, Snapshot.ofJson_of_writable h]
    exact .inl rfl
  · rw [load, Snapshot.ofJson_of_not_writable h]
    exact .inr rfl

end Chip

end ChipScribe
