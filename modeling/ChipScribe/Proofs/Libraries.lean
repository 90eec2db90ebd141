import Mathlib
import ChipScribe.Proofs.Numerals
import ChipScribe.Proofs.Records
import ChipScribe.Sample.LibraryFile

/-!
# What a library file says

A file is a list of records, each of a fingerprint and an instrument.  It makes a
library if none of its records is at fault; then the last record for a fingerprint
counts.  Otherwise the first record at fault is reported.
-/

namespace ChipScribe

open Json

namespace Library

namespace Record

/-! ## Records of instruments -/

def fieldNames : List String := "fnv64a" :: Instrument.fieldNames

theorem nodup_fieldNames : fieldNames.Nodup := by decide

/-- A pitch, with a fraction or without. -/
def Pitch (j : Json) (x : Float) : Prop :=
  j = .float x ∨ ∃ i, j = .int i ∧ x = floatOfInt i

/-- What the record says; all but the literal may be left out. -/
structure Written (j : Json) (r : Record) : Prop where
  record : IsRecord fieldNames j
  literal : Requires fieldNames j "fnv64a" (fun value text => value = .str text) r.literal
  channel : Allows fieldNames j "channel" IsByte 9 r.channel
  program : Allows fieldNames j "program" IsByte 0 r.program
  volume : Allows fieldNames j "volume" IsByte 0x60 r.volume
  velocity : Allows fieldNames j "velocity" IsByte 96 r.velocity
  pitches : Allows fieldNames j "notes"
    (fun value pitches => ∃ items, value = .arr items ∧ List.Forall₂ Pitch items pitches) []
    r.pitches

theorem asPitch?_eq_some_iff (j : Json) (x : Float) : j.asFloat? = some x ↔ Pitch j x := by
  cases j <;> simp [asFloat?, Pitch, eq_comm]

theorem asPitches?_eq_some_iff (j : Json) (pitches : List Float) :
    j.asListOf? asFloat? = some pitches ↔
      ∃ items, j = .arr items ∧ List.Forall₂ Pitch items pitches :=
  asListOf?_eq_some_iff asPitch?_eq_some_iff

/-- A record is read as what it says. -/
theorem ofJson?_eq_some_iff (j : Json) (r : Record) : ofJson? j = some r ↔ Written j r := by
  cases fields : j.fields? fieldNames with
  | none =>
      have unread : ofJson? j = none := by
        rw [ofJson?]
        exact congrArg (Option.bind · _) fields
      refine iff_of_false (by simp [unread]) fun written => ?_
      obtain ⟨found, read⟩ := isRecord_iff.mp written.record
      cases fields.symm.trans read
  | some found =>
      have literal : found.need "fnv64a" asString? = some r.literal ↔
          Requires fieldNames j "fnv64a" (fun value text => value = .str text) r.literal :=
        need_eq_some_iff nodup_fieldNames fields (by decide) asString?_eq_some_iff
      have byte {name : String} (known : name ∈ fieldNames) (fallback value : UInt8) :
          found.want name asUInt8? fallback = some value ↔
            Allows fieldNames j name IsByte fallback value :=
        want_eq_some_iff nodup_fieldNames fields known asUInt8?_eq_some_iff
      have pitches : found.want "notes" (asListOf? asFloat?) [] = some r.pitches ↔ _ :=
        want_eq_some_iff nodup_fieldNames fields (by decide) asPitches?_eq_some_iff
      constructor
      · intro read
        rw [ofJson?] at read
        simp only [Option.bind_eq_bind, Option.bind_eq_some_iff, Option.pure_def] at read
        obtain ⟨_, again, _, read_literal, _, channel, _, program, _, volume, _, velocity, _,
          read_pitches, same⟩ := read
        obtain rfl := Option.some.inj (fields.symm.trans again)
        obtain rfl := Option.some.inj same
        exact ⟨isRecord_iff.mpr ⟨_, fields⟩, literal.mp read_literal,
          (byte (by decide) _ _).mp channel, (byte (by decide) _ _).mp program,
          (byte (by decide) _ _).mp volume, (byte (by decide) _ _).mp velocity,
          pitches.mp read_pitches⟩
      · intro written
        rw [ofJson?]
        simp only [Option.bind_eq_bind, Option.bind_eq_some_iff, Option.pure_def]
        exact ⟨found, fields, _, literal.mpr written.literal,
          _, (byte (by decide) _ _).mpr written.channel,
          _, (byte (by decide) _ _).mpr written.program,
          _, (byte (by decide) _ _).mpr written.volume,
          _, (byte (by decide) _ _).mpr written.velocity,
          _, pitches.mpr written.pitches, rfl⟩

/-! ## What a record stands for -/

/-- The fingerprint that the literal is a numeral of. -/
def Denotes (r : Record) (hash : Fingerprint) : Prop :=
  Text.Literal marks r.literal hash.toNat

/-- The values cut to the width MIDI gives them; a pitch that is not listed is zero. -/
def instrument (r : Record) : Instrument where
  channel := r.channel % 16
  program := r.program % 128
  volume := r.volume % 128
  velocity := r.velocity % 128
  pitches := .ofFn fun rate => r.pitches.getD rate 0.0

/-- The literal is a numeral, and all pitches are listed or none. -/
structure Sound (r : Record) : Prop where
  literal : ∃ hash, r.Denotes hash
  pitches : r.pitches.length = 0 ∨ r.pitches.length = 16

/-- What is reported of a record: the literal goes before the pitches. -/
inductive Faulty (r : Record) : Error → Prop
  | literal (foreign : ∀ hash, ¬r.Denotes hash) : Faulty r (.invalidHash r.literal)
  | pitches {hash : Fingerprint} (denotes : r.Denotes hash) (some : r.pitches.length ≠ 0)
      (wrong : r.pitches.length ≠ 16) : Faulty r (.pitchCount hash r.pitches.length)

theorem Denotes.unique {r : Record} {hash other : Fingerprint} (denotes : r.Denotes hash)
    (again : r.Denotes other) : hash = other :=
  Option.some.inj
    ((parseHash?_eq_some_iff.mpr denotes).symm.trans (parseHash?_eq_some_iff.mpr again))

theorem sound_or_faulty (r : Record) : r.Sound ∨ ∃ e, r.Faulty e := by
  by_cases literal : ∃ hash, r.Denotes hash
  · by_cases pitches : r.pitches.length = 0 ∨ r.pitches.length = 16
    · exact .inl ⟨literal, pitches⟩
    · obtain ⟨hash, denotes⟩ := literal
      obtain ⟨some, wrong⟩ := not_or.mp pitches
      exact .inr ⟨_, .pitches denotes some wrong⟩
  · exact .inr ⟨_, .literal (not_exists.mp literal)⟩

theorem pitchTable?_of_length {pitches : List Float}
    (length : pitches.length = 0 ∨ pitches.length = 16) :
    pitchTable? pitches = some (.ofFn fun rate => pitches.getD rate 0.0) := by
  rw [pitchTable?]
  obtain none | all := length
  · obtain rfl := List.length_eq_zero_iff.mp none
    change some (Vector.replicate 16 0.0) = _
    refine congrArg some (Vector.ext fun rate bound => ?_)
    simp
  · have some : ¬pitches.isEmpty := by
      rw [List.isEmpty_iff_length_eq_zero, all]
      decide
    rw [if_neg some, dif_pos (by simpa using all)]
    refine congrArg Option.some (Vector.ext fun rate bound => ?_)
    simp [all]

theorem pitchTable?_of_wrong {pitches : List Float} (some : pitches.length ≠ 0)
    (wrong : pitches.length ≠ 16) : pitchTable? pitches = none := by
  rw [pitchTable?, if_neg (by rwa [List.isEmpty_iff_length_eq_zero]),
    dif_neg (by simpa using wrong)]

theorem resolve_of_sound {r : Record} {hash : Fingerprint} (denotes : r.Denotes hash)
    (pitches : r.pitches.length = 0 ∨ r.pitches.length = 16) :
    r.resolve = .ok (hash, r.instrument) := by
  have four (x : UInt8) : x &&& 0x0F = x % 16 := by
    rw [← UInt8.toNat_inj, UInt8.toNat_and, UInt8.toNat_mod]
    exact Nat.and_two_pow_sub_one_eq_mod _ 4
  have seven (x : UInt8) : x &&& 0x7F = x % 128 := by
    rw [← UInt8.toNat_inj, UInt8.toNat_and, UInt8.toNat_mod]
    exact Nat.and_two_pow_sub_one_eq_mod _ 7
  rw [resolve, parseHash?_eq_some_iff.mpr denotes]
  dsimp only
  rw [pitchTable?_of_length pitches, four, seven, seven, seven]
  rfl

theorem resolve_of_faulty {r : Record} {e : Error} (faulty : r.Faulty e) :
    r.resolve = .error e := by
  cases faulty with
  | literal foreign =>
      have none : parseHash? r.literal = none :=
        Option.eq_none_iff_forall_ne_some.mpr fun hash read =>
          foreign hash (parseHash?_eq_some_iff.mp read)
      rw [resolve, none]
  | pitches denotes some wrong =>
      rw [resolve, parseHash?_eq_some_iff.mpr denotes]
      dsimp only
      rw [pitchTable?_of_wrong some wrong]

theorem Faulty.unique {r : Record} {e e' : Error} (faulty : r.Faulty e) (again : r.Faulty e') :
    e = e' :=
  Except.error.inj ((resolve_of_faulty faulty).symm.trans (resolve_of_faulty again))

theorem Sound.not_faulty {r : Record} (sound : r.Sound) {e : Error} : ¬r.Faulty e := by
  intro faulty
  obtain ⟨⟨hash, denotes⟩, pitches⟩ := sound
  cases (resolve_of_sound denotes pitches).symm.trans (resolve_of_faulty faulty)

end Record

/-! ## Adding records -/

/-- The first record at fault. -/
def FirstFault (records : List Record) (e : Error) : Prop :=
  ∃ before r after, records = before ++ r :: after ∧ (∀ b ∈ before, b.Sound) ∧ r.Faulty e

/-- The instrument of the last record for a fingerprint. -/
def Last (records : List Record) (hash : Fingerprint) (i : Instrument) : Prop :=
  ∃ before r after, records = before ++ r :: after ∧ r.Denotes hash ∧
    (∀ a ∈ after, ¬a.Denotes hash) ∧ i = r.instrument

section Adding

variable {l l' : Library} {r : Record} {records : List Record} {hash : Fingerprint}

theorem addRecords_of_sound (denotes : r.Denotes hash)
    (pitches : r.pitches.length = 0 ∨ r.pitches.length = 16) (records : List Record) :
    l.addRecords (r :: records) = (l.insert hash r.instrument).addRecords records := by
  rw [addRecords, Record.resolve_of_sound denotes pitches]

theorem addRecords_of_faulty {e : Error} (faulty : r.Faulty e) (records : List Record) :
    l.addRecords (r :: records) = .error e := by
  rw [addRecords, Record.resolve_of_faulty faulty]

theorem firstFault_cons {e : Error} :
    FirstFault (r :: records) e ↔ r.Faulty e ∨ r.Sound ∧ FirstFault records e := by
  constructor
  · rintro ⟨_ | ⟨_, before⟩, found, after, same, sound, faulty⟩
    · cases same
      exact .inl faulty
    · cases same
      obtain ⟨first, rest⟩ := List.forall_mem_cons.mp sound
      exact .inr ⟨first, before, found, after, rfl, rest, faulty⟩
  · rintro (faulty | ⟨sound, before, found, after, rfl, rest, faulty⟩)
    · exact ⟨[], r, records, rfl, nofun, faulty⟩
    · exact ⟨r :: before, found, after, rfl, List.forall_mem_cons.mpr ⟨sound, rest⟩, faulty⟩

theorem last_cons {i : Instrument} :
    Last (r :: records) hash i ↔ Last records hash i ∨
      (r.Denotes hash ∧ (∀ a ∈ records, ¬a.Denotes hash) ∧ i = r.instrument) := by
  constructor
  · rintro ⟨_ | ⟨_, before⟩, found, after, same, denotes, last, rfl⟩
    · cases same
      exact .inr ⟨denotes, last, rfl⟩
    · cases same
      exact .inl ⟨before, found, after, rfl, denotes, last, rfl⟩
  · rintro (⟨before, found, after, rfl, denotes, last, rfl⟩ | ⟨denotes, last, rfl⟩)
    · exact ⟨r :: before, found, after, rfl, denotes, last, rfl⟩
    · exact ⟨[], r, records, rfl, denotes, last, rfl⟩

theorem exists_last_iff : (∃ i, Last records hash i) ↔ ∃ r ∈ records, r.Denotes hash := by
  constructor
  · rintro ⟨i, before, r, after, rfl, denotes, -⟩
    exact ⟨r, List.mem_append_right _ List.mem_cons_self, denotes⟩
  · intro known
    induction records with
    | nil =>
        obtain ⟨r, member, -⟩ := known
        cases member
    | cons r records ih =>
        by_cases later : ∃ a ∈ records, a.Denotes hash
        · obtain ⟨i, last⟩ := ih later
          exact ⟨i, last_cons.mpr (.inl last)⟩
        · have none : ∀ a ∈ records, ¬a.Denotes hash := fun a member denotes =>
            later ⟨a, member, denotes⟩
          obtain ⟨a, member, denotes⟩ := known
          obtain rfl | member := List.mem_cons.mp member
          · exact ⟨a.instrument, last_cons.mpr (.inr ⟨denotes, none, rfl⟩)⟩
          · exact (none a member denotes).elim

theorem addRecords_eq_error_iff {e : Error} :
    l.addRecords records = .error e ↔ FirstFault records e := by
  induction records generalizing l with
  | nil =>
      refine iff_of_false nofun ?_
      rintro ⟨before, r, after, same, -⟩
      cases before <;> cases same
  | cons r records ih =>
      rw [firstFault_cons]
      obtain sound | ⟨e', faulty⟩ := r.sound_or_faulty
      · obtain ⟨hash, denotes⟩ := sound.literal
        rw [addRecords_of_sound denotes sound.pitches, ih]
        exact ⟨fun first => .inr ⟨sound, first⟩,
          fun first => first.elim (fun faulty => (sound.not_faulty faulty).elim) And.right⟩
      · rw [addRecords_of_faulty faulty, Except.error.injEq]
        constructor
        · rintro rfl
          exact .inl faulty
        · rintro (here | ⟨sound, -⟩)
          · exact faulty.unique here
          · exact (sound.not_faulty faulty).elim

theorem addRecords_isOk_iff :
    (∃ l', l.addRecords records = .ok l') ↔ ∀ r ∈ records, r.Sound := by
  induction records generalizing l with
  | nil => exact iff_of_true ⟨l, rfl⟩ nofun
  | cons r records ih =>
      rw [List.forall_mem_cons]
      obtain sound | ⟨e, faulty⟩ := r.sound_or_faulty
      · obtain ⟨hash, denotes⟩ := sound.literal
        rw [addRecords_of_sound denotes sound.pitches, ih]
        exact (and_iff_right sound).symm
      · rw [addRecords_of_faulty faulty]
        exact iff_of_false nofun fun all => all.1.not_faulty faulty

/-- Later records cover earlier ones, and all cover what was there before. -/
theorem lookup?_addRecords (added : l.addRecords records = .ok l') {i : Instrument} :
    l'.lookup? hash = some i ↔ Last records hash i ∨
      (∀ r ∈ records, ¬r.Denotes hash) ∧ l.lookup? hash = some i := by
  induction records generalizing l with
  | nil =>
      cases added
      refine ⟨fun found => .inr ⟨nofun, found⟩, ?_⟩
      rintro (⟨before, r, after, same, -⟩ | ⟨-, found⟩)
      · cases before <;> cases same
      · exact found
  | cons r records ih =>
      obtain sound | ⟨e, faulty⟩ := r.sound_or_faulty
      · obtain ⟨own, denotes⟩ := sound.literal
        rw [addRecords_of_sound denotes sound.pitches] at added
        rw [ih added, last_cons, lookup?_insert, List.forall_mem_cons]
        by_cases same : own = hash
        · subst same
          simp [denotes, eq_comm]
        · have other : ¬r.Denotes hash := fun again => same (denotes.unique again)
          simp [same, other]
      · cases (addRecords_of_faulty faulty records).symm.trans added

end Adding

/-! ## Libraries -/

theorem size_eq_ncard (l : Library) : l.size = {hash | ∃ i, l.lookup? hash = some i}.ncard := by
  have distinct : l.instruments.keys.Nodup :=
    l.instruments.distinct_keys.imp fun h => by simpa using h
  have keys : {hash | ∃ i, l.lookup? hash = some i} = ↑l.instruments.keys.toFinset := by
    ext hash
    rw [Set.mem_ofPred_eq, Finset.mem_coe, List.mem_toFinset, Std.HashMap.mem_keys,
      Std.HashMap.mem_iff_isSome_getElem?, Option.isSome_iff_exists]
    rfl
  rw [keys, Set.ncard_coe_finset, List.toFinset_card_of_nodup distinct, Std.HashMap.length_keys]
  rfl

/--
A file whose records are well-formed makes a library if every literal is a numeral and
every list of pitches is empty or whole; otherwise the first record at fault is reported,
its literal before its pitches.  A fingerprint is known if a record denotes it, by the
last such record, and the library is as large as there are fingerprints denoted.  Every
fingerprint has a decimal literal, and hexadecimal ones in either case with any number of
zeros in front.
-/
theorem keeps_last_record {text : String} {items : List Json} {records : List Record}
    (list : Json.parse? text = some (.arr items))
    (written : List.Forall₂ Record.Written items records) :
    ((∃ l, parse text = .ok l) ↔ ∀ r ∈ records, (∃ hash, r.Denotes hash) ∧
        (r.pitches.length = 0 ∨ r.pitches.length = 16)) ∧
      (∀ e, parse text = .error e ↔ ∃ before r after, records = before ++ r :: after ∧
        (∀ b ∈ before, b.Sound) ∧ r.Faulty e) ∧
      (∀ l, parse text = .ok l →
        (∀ hash, l.lookup? hash = none ↔ ∀ r ∈ records, ¬r.Denotes hash) ∧
          (∀ hash i, l.lookup? hash = some i ↔
            ∃ before r after, records = before ++ r :: after ∧ r.Denotes hash ∧
              (∀ a ∈ after, ¬a.Denotes hash) ∧ i = r.instrument) ∧
          l.size = {hash | ∃ r ∈ records, r.Denotes hash}.ncard) ∧
      ∀ hash : Fingerprint, Text.Literal marks (toString hash.toNat) hash.toNat ∧
        ∀ mark ∈ marks, ∀ (zeros : Nat) (digits : List Char),
          digits.map Char.toLower = List.replicate zeros '0' ++ Nat.toDigits 16 hash.toNat →
            Text.Literal marks (mark ++ String.ofList digits) hash.toNat := by
  have whole : parse text = empty.addRecords records := by
    have read : items.mapM Record.ofJson? = some records :=
      (mapM_eq_some_iff Record.ofJson?_eq_some_iff).mpr written
    rw [parse, list]
    dsimp only
    rw [ofJson, asListOf?, asList?, Option.bind_some, read]
    rfl
  rw [whole]
  refine ⟨?sound, fun e => addRecords_eq_error_iff, fun l added => ?library, fun hash => ?literals⟩
  case sound =>
    refine addRecords_isOk_iff.trans (forall₂_congr fun r _ => ?_)
    exact ⟨fun sound => ⟨sound.literal, sound.pitches⟩, fun sound => ⟨sound.1, sound.2⟩⟩
  case library =>
    have known (hash : Fingerprint) (i : Instrument) :
        l.lookup? hash = some i ↔ Last records hash i := by
      rw [lookup?_addRecords added, lookup?_empty]
      simp
    refine ⟨fun hash => ?_, known, ?_⟩
    · simp only [Option.eq_none_iff_forall_ne_some, ne_eq, known]
      rw [← not_exists, exists_last_iff, not_exists]
      exact forall_congr' fun r => not_and
    · rw [size_eq_ncard]
      simp only [known, exists_last_iff]
  case literals =>
    exact ⟨Text.literal_decimal marks hash.toNat_lt,
      fun mark known zeros digits => Text.literal_hexadecimal known hash.toNat_lt⟩

/-- The same fingerprint in two notations, and the largest there is. -/
def twiceText : String :=
  "[\x7b\"fnv64a\": \"0x0082a9954CEA45D76A\", \"channel\": 57, \"velocity\": 1\x7d, " ++
    "[\" 9415220653575231338\\n\", 25, 200], \x7b\"fnv64a\": \"+18446744073709551615\"\x7d]"

theorem keeps_last_record_of_two :
    let items : List Json := [
      .obj [("fnv64a", .str "0x0082a9954CEA45D76A"), ("channel", .int 57), ("velocity", .int 1)],
      .arr [.str " 9415220653575231338\n", .int 25, .int 200],
      .obj [("fnv64a", .str "+18446744073709551615")]]
    let records : List Record := [
      { literal := "0x0082a9954CEA45D76A", channel := 57, velocity := 1 },
      { literal := " 9415220653575231338\n", channel := 25, program := 200 },
      { literal := "+18446744073709551615" }]
    Json.parse? twiceText = some (.arr items) ∧ List.Forall₂ Record.Written items records ∧
      ∃ l, parse twiceText = .ok l ∧ l.size = 2 ∧ l.lookup? 0x82A9954CEA45D76A = some {
        channel := 9, program := 72, volume := 96, velocity := 96
        pitches := .ofFn fun _ => 0.0 } := by
  intro items records
  have parsed : Json.parse? twiceText = some (.arr items) := by cbv
  have written : List.Forall₂ Record.Written items records :=
    (mapM_eq_some_iff Record.ofJson?_eq_some_iff).mp rfl
  have first : parseHash? "0x0082a9954CEA45D76A" = some 0x82A9954CEA45D76A := by rfl
  have second : parseHash? " 9415220653575231338\n" = some 0x82A9954CEA45D76A := by rfl
  have third : parseHash? "+18446744073709551615" = some 0xFFFFFFFFFFFFFFFF := by rfl
  have denoted (hash : Fingerprint) : (∃ r ∈ records, r.Denotes hash) ↔
      hash ∈ ({0x82A9954CEA45D76A, 0xFFFFFFFFFFFFFFFF} : Set Fingerprint) := by
    have listed : (∃ r ∈ records, r.Denotes hash) ↔
        some hash ∈ records.map (parseHash? ·.literal) := by
      rw [List.mem_map]
      exact exists_congr fun r => and_congr_right fun _ => parseHash?_eq_some_iff.symm
    rw [listed]
    simp [records, first, second, third]
  have sound : ∀ r ∈ records, (∃ hash, r.Denotes hash) ∧
      (r.pitches.length = 0 ∨ r.pitches.length = 16) := by
    have each (r : Record) (hash : Fingerprint) (read : parseHash? r.literal = some hash)
        (none : r.pitches = []) : (∃ hash, r.Denotes hash) ∧
          (r.pitches.length = 0 ∨ r.pitches.length = 16) :=
      ⟨⟨hash, parseHash?_eq_some_iff.mp read⟩, .inl (none ▸ rfl)⟩
    exact List.forall_mem_cons.mpr ⟨each _ _ first rfl, List.forall_mem_cons.mpr
      ⟨each _ _ second rfl, List.forall_mem_cons.mpr ⟨each _ _ third rfl, List.forall_mem_nil _⟩⟩⟩
  obtain ⟨readable, -, holds, -⟩ := keeps_last_record parsed written
  obtain ⟨l, read⟩ := readable.mpr sound
  obtain ⟨-, last, size⟩ := holds l read
  refine ⟨parsed, written, l, read, ?_, ?_⟩
  · rw [size, Set.ext denoted]
    exact Set.ncard_pair (by decide)
  · have other (r : Record) (literal : r.literal = "+18446744073709551615") :
        ¬r.Denotes 0x82A9954CEA45D76A := by
      rw [Record.Denotes, ← parseHash?_eq_some_iff, literal, third]
      decide
    refine (last _ _).mpr ⟨[_],
      { literal := " 9415220653575231338\n", channel := 25, program := 200 }, [_], rfl,
      parseHash?_eq_some_iff.mp second, List.forall_mem_singleton.mpr (other _ rfl), ?_⟩
    simp [Record.instrument]

end Library

end ChipScribe
