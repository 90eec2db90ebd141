import ChipScribe.Proofs.InStep
import ChipScribe.Proofs.Loading

/-!
# Snapshots and the receiver

A snapshot carries the tones its voices sent last, and a chip that loads it
goes on from them, though its own receiver may have heard others.  Where the
receiver holds what the snapshot remembers, each voice has it hold the wanted
note as soon as its cable is free.  A note that the snapshot does not remember
stays held, and one that it remembers in vain is not struck.
-/

namespace ChipScribe

open Midi

namespace Voice

variable {v : Voice}

/-! ## The tone after a burst -/

/-- The tone last sent is the wanted one if that is to be heard, and none otherwise. -/
structure InTune (v : Voice) : Prop where
  tone : v.audible = true →
    v.sent.note = v.want.note ∧ v.sent.chan = v.want.chan ∧ v.sent.vel = v.want.vel
  silent : v.audible = false → v.sent.note = 0

theorem audible_iff (v : Voice) : v.audible = true ↔ v.want.note ≠ 0 ∧ v.want.vel ≠ 0 := by
  simp [audible]

theorem UpToDate.inTune (h : v.UpToDate) : v.InTune where
  tone audible := ⟨(h.tone audible).1, (h.tone audible).2.1, (h.tone audible).2.2.1⟩
  silent := h.silent

theorem InTune.loud (h : v.InTune) (sounds : v.sent.note ≠ 0) : v.sent.vel ≠ 0 := by
  cases audible : v.audible with
  | true =>
      rw [(h.tone audible).2.2]
      exact ((audible_iff v).mp audible).2
  | false => exact absurd (h.silent audible) sounds

/-- Equal notes and loudnesses leave nothing to release if every sent note is a loud one. -/
theorem note_of_same (loud : v.sent.note ≠ 0 → v.sent.vel ≠ 0) (note : v.want.note = v.sent.note)
    (vel : v.want.vel = v.sent.vel) (silent : v.audible = false) : v.sent.note = 0 := by
  by_contra sounds
  have heard : v.audible = true := (audible_iff v).mpr ⟨note ▸ sounds, vel ▸ loud sounds⟩
  exact absurd heard (Bool.eq_false_iff.mp silent)

theorem note_noiseReleaseBurst (v : Voice) : v.noiseReleaseBurst.1.sent.note = 0 := by
  unfold noiseReleaseBurst
  split
  · rfl
  next silent => simpa using silent

theorem inTune_noiseStrikeBurst (silent : v.sent.note = 0) : v.noiseStrikeBurst.1.InTune := by
  unfold noiseStrikeBurst
  split
  next heard =>
    exact ⟨fun _ => ⟨rfl, rfl, rfl⟩, fun none => absurd heard (Bool.eq_false_iff.mp none)⟩
  next none => exact ⟨fun heard => absurd heard none, fun _ => silent⟩

theorem loud_noiseFadeBurst (loud : v.sent.note ≠ 0 → v.sent.vel ≠ 0) :
    v.noiseFadeBurst.1.sent.note ≠ 0 → v.noiseFadeBurst.1.sent.vel ≠ 0 := by
  unfold noiseFadeBurst
  split
  · exact fun sounds => absurd rfl sounds
  · exact loud

theorem inTune_noiseBurst (h : v.OnFirstLane) (loud : v.sent.note ≠ 0 → v.sent.vel ≠ 0) :
    v.noiseBurst.1.InTune := by
  have faded := h.noiseFadeBurst
  unfold noiseBurst Burst.andThen noiseChangeBurst
  dsimp only
  split
  · exact inTune_noiseStrikeBurst (note_noiseReleaseBurst _)
  next same =>
    -- Nothing was sent, so the last tone is the wanted one; its channel is the only one there is.
    simp only [Bool.or_eq_true, bne_iff_ne, not_or, not_not] at same
    obtain ⟨⟨note, vel⟩, -⟩ := same
    refine ⟨fun heard => ?_, note_of_same (loud_noiseFadeBurst loud) note vel⟩
    have wanted := ((audible_iff _).mp heard).1
    have here := faded.want (.inl wanted)
    exact ⟨note.symm, (faded.sent (note ▸ wanted)).trans here.symm, vel.symm⟩

theorem note_dmcReleaseBurst (v : Voice) : v.dmcReleaseBurst.1.sent.note = 0 := by
  unfold dmcReleaseBurst
  split
  · rfl
  next silent => simpa using silent

/-- A wanted delta note is struck anew, or on the channel it was sent on. -/
def KeepsChannel (v : Voice) : Prop :=
  v.want.note ≠ 0 → v.fresh = true ∨ v.sent.note = 0 ∨ v.want.chan = v.sent.chan

theorem inTune_dmcBurst (loud : v.sent.note ≠ 0 → v.sent.vel ≠ 0) (chan : v.KeepsChannel) :
    v.dmcBurst.1.InTune := by
  unfold dmcBurst Burst.andThen
  dsimp only
  split
  · have silent := v.note_dmcReleaseBurst
    unfold dmcStrikeBurst
    split
    next heard =>
      exact ⟨fun _ => ⟨rfl, rfl, rfl⟩, fun none => absurd heard (Bool.eq_false_iff.mp none)⟩
    next none => exact ⟨fun heard => absurd heard none, fun _ => silent⟩
  next same =>
    simp only [Bool.or_eq_true, bne_iff_ne, not_or, not_not] at same
    obtain ⟨⟨note, vel⟩, stale⟩ := same
    refine ⟨fun heard => ?_, note_of_same loud note vel⟩
    have wanted := ((audible_iff v).mp heard).1
    refine ⟨note.symm, ?_, vel.symm⟩
    exact (((chan wanted).resolve_left stale).resolve_left (note ▸ wanted)).symm

theorem note_triangleReleaseBurst (v : Voice) : v.triangleReleaseBurst.1.sent.note = 0 := by
  unfold triangleReleaseBurst
  split
  · rfl
  next silent => simpa using silent

/-- The triangle has no loudness to follow: any wanted note is struck. -/
theorem note_triangleChangeBurst (h : v.OnFirstLane) (t : Tuning) :
    (v.triangleChangeBurst t).1.sent.note = v.want.note ∧
      (v.want.note ≠ 0 → (v.triangleChangeBurst t).1.sent.chan = v.want.chan) := by
  unfold triangleChangeBurst
  split
  · have want := v.sent_triangleReleaseBurst.want
    unfold Burst.andThen triangleStrikeBurst
    dsimp only
    rw [want]
    split
    · exact ⟨rfl, fun _ => rfl⟩
    next none =>
      have none : v.want.note = 0 := by simpa using none
      exact ⟨v.note_triangleReleaseBurst.trans none.symm, fun wanted => absurd none wanted⟩
  next same =>
    have same : v.want.note = v.sent.note := by simpa using same
    exact ⟨same.symm, fun wanted => (h.sent (same ▸ wanted)).trans (h.want (.inl wanted)).symm⟩

theorem note_triangleBurst (h : v.OnFirstLane) (t : Tuning) :
    (v.triangleBurst t).1.sent.note = v.want.note ∧
      (v.want.note ≠ 0 → (v.triangleBurst t).1.sent.chan = v.want.chan) := by
  have changed := note_triangleChangeBurst h t
  unfold triangleBurst Burst.andThen triangleBendBurst
  dsimp only
  split <;> exact changed

end Voice

/-! ## The note that is to be heard -/

namespace Part

/-- The triangle is heard whatever its loudness; it is struck at a fixed one. -/
def heard : Part → Voice → Bool
  | .triangle, v => v.want.note != 0
  | .pulse _, v | .noise, v | .dmc, v => v.audible

/-- The note of a part that the receiver should hold, if any. -/
def desired (p : Part) (v : Voice) : Multiset Key :=
  if p.heard v then {.of v.want.chan v.want.note} else 0

theorem desired_congr {v w : Voice} (p : Part) (want : w.want = v.want) :
    p.desired w = p.desired v := by
  have same : p.heard w = p.heard v := by
    cases p <;> simp only [heard, Voice.audible, want]
  rw [desired, same, want]
  rfl

/-- What a voice can rely on in the tone it sent last. -/
structure Recorded (ok : UInt8 → Prop) (p : Part) (v : Voice) : Prop where
  placed : p.Placed ok v
  loud : p ≠ .triangle → v.sent.note ≠ 0 → v.sent.vel ≠ 0
  chan : p = .dmc → v.KeepsChannel

variable {ok : UInt8 → Prop} {p : Part} {v : Voice}

theorem Recorded.inTune_burst (h : p.Recorded ok v) (other : p ≠ .triangle) (t : Tuning) :
    (p.burst t v).1.InTune := by
  cases p with
  | pulse side => exact (Voice.upToDate_pulseBurst (h.loud other) t).inTune
  | triangle => exact absurd rfl other
  | noise => exact Voice.inTune_noiseBurst h.placed (h.loud other)
  | dmc => exact Voice.inTune_dmcBurst (h.loud other) (h.chan rfl)

/-- After a burst the note to be heard is the one remembered. -/
theorem Recorded.sounding_burst (h : p.Recorded ok v) (t : Tuning) :
    (p.burst t v).1.sounding = p.desired v := by
  have want := (p.sent_burst t v).want
  by_cases triangle : p = .triangle
  · subst triangle
    obtain ⟨note, chan⟩ := Voice.note_triangleBurst h.placed t
    change Voice.sounding (v.triangleBurst t).1 = if v.want.note != 0 then _ else 0
    by_cases wanted : v.want.note = 0
    · rw [Voice.sounding_of_zero (note.trans wanted), wanted]
      rfl
    · rw [Voice.sounding_of_ne (note ▸ wanted), note, chan wanted, if_pos (bne_iff_ne.mpr wanted)]
  · have tune := h.inTune_burst triangle t
    have same : p.heard v = (p.burst t v).1.audible := by
      rw [Voice.audible, want]
      cases p with
      | triangle => exact absurd rfl triangle
      | _ => rfl
    unfold desired
    rw [same]
    cases audible : (p.burst t v).1.audible with
    | true =>
        obtain ⟨note, chan, -⟩ := tune.tone audible
        have sounds : (p.burst t v).1.sent.note ≠ 0 :=
          note ▸ ((Voice.audible_iff _).mp audible).1
        rw [Voice.sounding_of_ne sounds, note, chan, want]
        rfl
    | false => exact Voice.sounding_of_zero (tune.silent audible)

end Part

/-! ## The tone last sent stays recorded -/

namespace Voice

theorem keepsChannel_lookUp (v : Voice) (t : Tuning) (m : Memory) (d : Dmc) (l : Library) :
    (v.lookUp t m d l).1.KeepsChannel := by
  dsimp only [lookUp]
  split
  · split
    · exact fun _ => .inl rfl
    · exact fun wanted => absurd rfl wanted
  · exact fun wanted => absurd rfl wanted

theorem KeepsChannel.endSample {v : Voice} (h : v.KeepsChannel) (d : Dmc) :
    (v.endSample d).KeepsChannel := by
  unfold Voice.endSample
  dsimp only
  split
  · exact fun wanted => absurd rfl wanted
  · exact h

theorem KeepsChannel.followDmc {v : Voice} (h : v.KeepsChannel) (t : Tuning) (m : Memory)
    (d : Dmc) (l : Library) : (v.followDmc t m d l).1.KeepsChannel := by
  unfold Voice.followDmc
  split
  · exact (v.keepsChannel_lookUp t m d l).endSample d
  · exact h.endSample d

end Voice

variable {ok : UInt8 → Prop}

theorem Part.recorded_of_silent {p : Part} {v : Voice} (placed : p.Placed ok v)
    (silent : v.sent.note = 0) : p.Recorded ok v :=
  ⟨placed, fun _ sounds => absurd silent sounds, fun _ _ => .inr (.inl silent)⟩

theorem recorded_invariant : VoiceInvariant (Part.Recorded ok) (ok ·.channel) where
  home p := p.placed_home |> Part.recorded_of_silent <| by
    rcases p with (_ | _) | _ | _ | _ <;> rfl
  alike alike h := by
    refine ⟨placed_invariant.alike alike h.placed, ?_, ?_⟩
    · rw [alike.sent]
      exact h.loud
    · rw [Voice.KeepsChannel, alike.sent, alike.want, alike.fresh]
      exact h.chan
  released h := Part.recorded_of_silent (placed_invariant.released h.placed) rfl
  follow {p v} t m s l all h := by
    have sent := (p.followed_follow t m s l v).sent
    refine ⟨placed_invariant.follow t m s l all h.placed, ?_, ?_⟩
    · rw [sent]
      exact h.loud
    · rintro rfl
      exact Voice.KeepsChannel.followDmc (h.chan rfl) t m s.dmc l
  burst {p v} t h := by
    refine ⟨placed_invariant.burst t h.placed, fun other => (h.inTune_burst other t).loud, ?_⟩
    rintro rfl -
    have tune := h.inTune_burst (by simp) t
    cases audible : (Part.dmc.burst t v).1.audible with
    | true => exact .inr (.inr (tune.tone audible).2.1.symm)
    | false => exact .inr (.inl (tune.silent audible))

theorem Part.Recorded.sounding_turn {p : Part} {c : Scribe} (h : p.Recorded ok (c.voice p))
    (free : (c.voice p).pacer.busy c.tuning.cyclesPerMessage = false) :
    (c.turn p).1.sounding = p.desired (c.turn p).1 := by
  obtain ⟨busy, -, -, -⟩ | ⟨-, -, pacer, moves⟩ := c.turn_cases p
  · exact absurd (free.symm.trans busy) Bool.false_ne_true
  · have want := (p.sent_burst c.tuning (c.voice p)).want
    have same : p.desired { (p.burst c.tuning (c.voice p)).1 with pacer := pacer } =
        p.desired (c.voice p) := p.desired_congr want
    rw [moves, same]
    exact h.sounding_burst c.tuning

namespace Chip

/-! ## What the receiver holds once the cable is free -/

section Runs

variable {c : Chip} {p : Part} {o : Operation} {ops : List Operation}

theorem silences_of_transmits (transmits : o.transmits = true) : o.silences = false := by
  cases o with
  | power | setUpReceiver | silence => cases transmits
  | _ => rfl

theorem brings_of_transmits {known : Instrument → Prop} (transmits : o.transmits = true) :
    o.Brings known := by
  cases o with
  | withLibrary => cases transmits
  | _ => trivial

/-- What a run needs of the voice of a part, and keeps. -/
structure Ready (ok : UInt8 → Prop) (p : Part) (c : Chip) : Prop where
  narrow : p = .dmc → ∀ chan, ok chan → chan < 16
  recorded : p.Recorded ok (c.scribe.voice p)
  library : c.scribe.library.All (ok ·.channel)

theorem Ready.operate (h : c.Ready ok p) (brings : o.Brings (ok ·.channel)) :
    (c.operate o).1.Ready ok p where
  narrow := h.narrow
  recorded := recorded_invariant.operate o h.library h.recorded
  library := library_operate h.library brings

theorem Ready.after (h : c.Ready ok p) (brings : ∀ o ∈ ops, o.Brings (ok ·.channel)) :
    (c.after ops).Ready ok p := by
  have step (c : Chip) (o : Operation) (brings : o.Brings (ok ·.channel)) (now : c.Ready ok p) :
      (c.operate o).1.Ready ok p := now.operate brings
  exact after_induction step c ops brings h

/-- A part whose cable is free leaves the receiver with the note to be heard. -/
theorem Ready.sounding_operate (h : c.Ready ok p) (transmits : o.transmits = true)
    (free : (c.scribe.voice p).pacer.busy c.scribe.tuning.cyclesPerMessage = false) :
    ((c.operate o).1.scribe.voice p).sounding = p.desired ((c.operate o).1.scribe.voice p) := by
  have following (m : Memory) (s : Synth) :
      ((c.scribe.follow m s).1.turn p).1.sounding =
        p.desired ((c.scribe.follow m s).1.turn p).1 := by
    apply (recorded_invariant.voice_follow h.library h.recorded m s).sounding_turn
    rw [(c.scribe.followed_voice m s p).pacer]
    exact free
  exact voice_of_transmits (motive := fun v => v.sounding = p.desired v) transmits following

theorem Ready.plays_desired (h : c.Ready ok p)
    (brings : ∀ o' ∈ ops ++ [o], o'.Brings (ok ·.channel)) (transmits : o.transmits = true)
    (free : ((c.after ops).scribe.voice p).pacer.busy
      (c.after ops).scribe.tuning.cyclesPerMessage = false) :
    play (c.scribe.voice p).sounding (c.partLog p (ops ++ [o])) =
      p.desired ((c.after (ops ++ [o])).scribe.voice p) := by
  rw [play_partLog_of_narrow h.narrow h.recorded.placed h.library brings, after_concat]
  exact (h.after fun o' member => brings o' (List.mem_append_left _ member)).sounding_operate
    transmits free

/-- Unless it is silenced, a part goes on in order from the note it remembers. -/
theorem Ready.orderly_partLog (h : c.Ready ok p) (brings : ∀ o' ∈ ops, o'.Brings (ok ·.channel))
    (speaks : ∀ o' ∈ ops, o'.silences = false) :
    Orderly (c.scribe.voice p).sounding (c.partLog p ops) := by
  induction ops generalizing c with
  | nil => trivial
  | cons o ops ih =>
      have first := orderly_partNotes_of_narrow h.narrow h.recorded.placed h.library
        (speaks o List.mem_cons_self)
      refine first.append ?_
      rw [play_partNotes h.narrow h.recorded.placed h.library o]
      exact ih (h.operate (brings o List.mem_cons_self))
        (fun o' member => brings o' (List.mem_cons_of_mem _ member))
        (fun o' member => speaks o' (List.mem_cons_of_mem _ member))

end Runs

/-! ## Loading -/

/--
A chip that a host can come by, and the notes of a part that a receiver holds if
it was silent at the start and has heard the chip ever since.  A load says nothing.
-/
inductive Heard (ok : UInt8 → Prop) (p : Part) : Chip → Multiset Key → Prop
  | new (s : Settings) : Heard ok p (.ofSettings s) 0
  | operate {c : Chip} {held : Multiset Key} (o : Operation) : Heard ok p c held →
      o.Brings (ok ·.channel) → Heard ok p (c.operate o).1 (play held (c.partNotes o p))
  | load {c other : Chip} {held beside : Multiset Key} : Heard ok p c held →
      Heard ok p other beside → Heard ok p (c.load other.snapshot.toJson).2.1 held

variable {ok : UInt8 → Prop} {p : Part} {a b c : Chip} {held beside : Multiset Key}

theorem Heard.after (h : Heard ok p c held) (ops : List Operation)
    (brings : ∀ o ∈ ops, o.Brings (ok ·.channel)) :
    Heard ok p (c.after ops) (play held (c.partLog p ops)) := by
  induction ops generalizing c held with
  | nil => exact h
  | cons o ops ih =>
      rw [after_cons, partLog, play_append]
      exact ih (h.operate o (brings o List.mem_cons_self))
        fun o' member => brings o' (List.mem_cons_of_mem _ member)

theorem voice_restore (c : Chip) (other : Chip) (p : Part) :
    (c.restore other.snapshot).1.scribe.voice p = other.scribe.voice p := by
  cases p with
  | pulse side => cases side <;> rfl
  | _ => rfl

theorem voice_load (c other : Chip) (p : Part) :
    (c.load other.snapshot.toJson).2.1.scribe.voice p = other.scribe.voice p ∨
      (c.load other.snapshot.toJson).2.1.scribe.voice p = c.scribe.voice p := by
  rcases c.load_snapshot other with taken | refused
  · rw [taken]
    exact .inl (c.voice_restore other p)
  · rw [refused]
    exact .inr rfl

theorem library_load (c other : Chip) :
    (c.load other.snapshot.toJson).2.1.scribe.library = c.scribe.library := by
  rcases c.load_snapshot other with taken | refused
  · rw [taken]
    rfl
  · rw [refused]

theorem load_of_writable (h : b.snapshot.writable) :
    c.load b.snapshot.toJson =
      (.ok (), (c.restore b.snapshot).1, { irq := some b.synth.irqLine }) :=
  load_of_ok (Snapshot.ofJson_of_writable h)

theorem voice_of_taken (taken : (c.load b.snapshot.toJson).1 = .ok ()) (p : Part) :
    (c.load b.snapshot.toJson).2.1.scribe.voice p = b.scribe.voice p := by
  by_cases h : b.snapshot.writable
  · rw [load_of_writable h]
    exact c.voice_restore b p
  · rw [load_of_error (Snapshot.ofJson_of_not_writable h)] at taken
    cases taken

theorem Heard.ready (h : Heard ok p c held)
    (narrow : p = .dmc → ∀ chan, ok chan → chan < 16) : c.Ready ok p := by
  induction h with
  | new s =>
      refine ⟨narrow, ?_, Library.all_empty.dumpingTo s.dumpDirectory⟩
      have fresh : (ofSettings s).scribe.voice p = {} := by
        rcases p with (_ | _) | _ | _ | _ <;> rfl
      rw [fresh]
      exact Part.recorded_of_silent p.placed_new rfl
  | operate o _ brings ih => exact ih.operate brings
  | @load c other held beside _ _ ih ih' =>
      refine ⟨narrow, ?_, ?_⟩
      · rcases c.voice_load other p with same | same
        · rw [same]
          exact ih'.recorded
        · rw [same]
          exact ih.recorded
      · rw [library_load]
        exact ih.library

/--
The notes of a part at a receiver that held `held` of them, from the moment its chip took
over a snapshot that remembers `remembered`, through `ops` and one more chance to speak.
-/
structure Resumes (loaded : Chip) (p : Part) (held remembered : Multiset Key)
    (ops : List Operation) (o : Operation) : Prop where
  /-- A receiver that held what the snapshot remembers holds the note to be heard and no other. -/
  matched : held = remembered →
    play held (loaded.partLog p (ops ++ [o])) =
      p.desired ((loaded.after (ops ++ [o])).scribe.voice p)
  /-- The voice says nothing only if the remembered note is the one to be heard. -/
  quiet : loaded.partLog p (ops ++ [o]) = [] →
    p.desired ((loaded.after (ops ++ [o])).scribe.voice p) = remembered
  /-- Once it has spoken, the note to be heard is held, beside all that was not remembered. -/
  spoken : (∀ o' ∈ ops, o'.silences = false) → loaded.partLog p (ops ++ [o]) ≠ [] →
    play held (loaded.partLog p (ops ++ [o])) =
      p.desired ((loaded.after (ops ++ [o])).scribe.voice p) + (held - remembered)

/-- After a load the notes go on from what the snapshot knows of the receiver. -/
theorem load_resumes (narrow : p = .dmc → ∀ chan, ok chan → chan < 16)
    (heard : Heard ok p a held) (saved : Heard ok p b beside)
    (taken : (a.load b.snapshot.toJson).1 = .ok ()) (ops : List Operation)
    (brings : ∀ o' ∈ ops, o'.Brings (ok ·.channel)) (o : Operation)
    (transmits : o.transmits = true)
    (free : (((a.load b.snapshot.toJson).2.1.after ops).scribe.voice p).pacer.busy
      ((a.load b.snapshot.toJson).2.1.after ops).scribe.tuning.cyclesPerMessage = false) :
    Resumes (a.load b.snapshot.toJson).2.1 p held (b.scribe.voice p).sounding ops o := by
  have ready : (a.load b.snapshot.toJson).2.1.Ready ok p := (heard.load saved).ready narrow
  have all := List.forall_mem_append.mpr
    ⟨brings, List.forall_mem_singleton.mpr (brings_of_transmits transmits)⟩
  have desired := ready.plays_desired all transmits free
  rw [voice_of_taken taken p] at desired
  refine ⟨fun matched => matched ▸ desired, ?quiet, ?spoken⟩
  case quiet =>
    intro silent
    rw [silent] at desired
    exact desired.symm
  case spoken =>
    intro speaks spoken
    have each := List.forall_mem_append.mpr
      ⟨speaks, List.forall_mem_singleton.mpr (silences_of_transmits transmits)⟩
    have orderly := ready.orderly_partLog all each
    rw [voice_of_taken taken p] at orderly
    rw [orderly.play_elsewhere spoken held, desired]

/-- A chip that has struck one drum goes on from the snapshot of one that has struck another. -/
theorem load_resumes_from_another_drum :
    let beat (period : UInt8) : List Operation :=
      [.power, .write 0x4015 0x08, .write 0x400C 0x3F, .write 0x400E period, .write 0x400F 0x08,
        .clock .zero]
    let a := (ofSettings {}).after (beat 0)
    let b := (ofSettings { region := .pal }).after (beat 12)
    let held := play 0 ((ofSettings {}).partLog .noise (beat 0))
    let beside := play 0 ((ofSettings { region := .pal }).partLog .noise (beat 12))
    let calls : List Operation := [.withTuning { cyclesPerMessage := 0 }, .write 0x4015 0x00]
    Heard (· < 16) .noise a held ∧ Heard (· < 16) .noise b beside ∧
      (a.load b.snapshot.toJson).1 = .ok () ∧
      (∀ o ∈ calls, o.Brings (·.channel < 16)) ∧
      Resumes (a.load b.snapshot.toJson).2.1 .noise held (b.scribe.voice .noise).sounding calls
        (.clock .zero) := by
  intro beat a b held beside calls
  have writable : b.snapshot.writable := by decide +kernel
  have heard : Heard (· < 16) .noise a held :=
    (Heard.new {}).after (beat 0) (by simp [beat, Operation.Brings])
  have saved : Heard (· < 16) .noise b beside :=
    (Heard.new { region := .pal }).after (beat 12) (by simp [beat, Operation.Brings])
  have taken : (a.load b.snapshot.toJson).1 = .ok () := by
    rw [load_of_writable writable]
  have brings : ∀ o ∈ calls, o.Brings (·.channel < 16) := by
    simp [calls, Operation.Brings]
  refine ⟨heard, saved, taken, brings, ?_⟩
  apply load_resumes (fun _ _ narrow => narrow) heard saved taken calls brings (.clock .zero) rfl
  rw [load_of_writable writable]
  decide +kernel

theorem sounding_silence (c : Chip) (p : Part) :
    ((c.operate .silence).1.scribe.voice p).sounding = 0 := by
  rw [c.voice_operate, c.voice_scribed .silence p]
  rfl

/-- A session that starts silent and was silenced before it was saved goes on without a loss. -/
theorem load_after_silence (narrow : p = .dmc → ∀ chan, ok chan → chan < 16)
    (heard : Heard ok p a 0) (saved : Heard ok p b beside) {ops : List Operation} {o : Operation}
    (taken : (a.load (b.operate .silence).1.snapshot.toJson).1 = .ok ())
    (brings : ∀ o' ∈ ops, o'.Brings (ok ·.channel)) (transmits : o.transmits = true) :
    let loaded := (a.load (b.operate .silence).1.snapshot.toJson).2.1
    ((loaded.after ops).scribe.voice p).pacer.busy
        (loaded.after ops).scribe.tuning.cyclesPerMessage = false →
      play 0 (loaded.partLog p (ops ++ [o])) =
        p.desired ((loaded.after (ops ++ [o])).scribe.voice p) := by
  intro loaded free
  have ready : loaded.Ready ok p := (heard.load (saved.operate .silence trivial)).ready narrow
  have all := List.forall_mem_append.mpr
    ⟨brings, List.forall_mem_singleton.mpr (brings_of_transmits transmits)⟩
  rw [← ready.plays_desired all transmits free, voice_of_taken taken p, sounding_silence]

/-- A note that the snapshot does not remember stays held, whatever is played later. -/
theorem load_leaves (narrow : p = .dmc → ∀ chan, ok chan → chan < 16)
    (heard : Heard ok p a held) (saved : Heard ok p b beside)
    (taken : (a.load b.snapshot.toJson).1 = .ok ()) {k : Key}
    (unknown : (b.scribe.voice p).sounding + {k} ≤ held) {ops : List Operation}
    (brings : ∀ o ∈ ops, o.Brings (ok ·.channel)) (speaks : ∀ o ∈ ops, o.silences = false) :
    k ∈ play held ((a.load b.snapshot.toJson).2.1.partLog p ops) := by
  obtain ⟨others, rfl⟩ := Multiset.le_iff_exists_add.mp unknown
  have orderly := ((heard.load saved).ready narrow).orderly_partLog brings speaks
  rw [voice_of_taken taken p] at orderly
  rw [add_assoc, orderly.play_beside]
  simp

/--
A drum sounds on when a quiet snapshot is loaded over it, and the drum of a snapshot
that is loaded into a quiet chip is not struck, though the cable is free.
-/
theorem load_loses_notes :
    let beat : List Operation :=
      [.power, .write 0x4015 0x08, .write 0x400C 0x3F, .write 0x400F 0x08, .clock .zero]
    let struck := (ofSettings {}).after beat
    let quiet := (ofSettings {}).after [.power]
    let hushed := (struck.load quiet.snapshot.toJson).2.1
    let beating := ((quiet.load struck.snapshot.toJson).2.1.operate
      (.withTuning { cyclesPerMessage := 0 })).1
    let drum : Key := ⟨9, 81⟩
    (play 0 ((ofSettings {}).partLog .noise beat) = {drum} ∧
      (hushed.scribe.voice .noise).pacer.busy hushed.scribe.tuning.cyclesPerMessage = false ∧
      Part.noise.desired ((hushed.after [.clock .zero]).scribe.voice .noise) = 0 ∧
      ∀ n, drum ∈ play {drum} (hushed.partLog .noise (.replicate n (.clock .zero)))) ∧
    ((beating.scribe.voice .noise).pacer.busy beating.scribe.tuning.cyclesPerMessage = false ∧
      Part.noise.desired ((beating.after [.clock .zero]).scribe.voice .noise) = {drum} ∧
      play 0 (beating.partLog .noise [.clock .zero]) = 0) := by
  intro beat struck quiet hushed beating drum
  have quietWritable : quiet.snapshot.writable := by decide +kernel
  have struckWritable : struck.snapshot.writable := by decide +kernel
  have hushedEq : hushed = (struck.restore quiet.snapshot).1 :=
    congrArg (·.2.1) (load_of_writable quietWritable)
  have beatingEq : beating = ((quiet.restore struck.snapshot).1.operate
      (.withTuning { cyclesPerMessage := 0 })).1 := by
    dsimp only [beating]
    rw [load_of_writable struckWritable]
  have held : play 0 ((ofSettings {}).partLog .noise beat) = {drum} := by decide +kernel
  have stays (n : Nat) :
      drum ∈ play {drum} (hushed.partLog .noise (.replicate n (.clock .zero))) := by
    have heard : Heard (fun _ => True) .noise struck {drum} :=
      held ▸ (Heard.new {}).after beat (by simp [beat, Operation.Brings])
    have saved : Heard (fun _ => True) .noise quiet 0 :=
      (Heard.new {}).operate .power trivial
    have narrow : Part.noise = .dmc → ∀ chan : UInt8, True → chan < 16 := by simp
    refine load_leaves narrow heard saved ?_ ?_ ?_ ?_
    · rw [load_of_writable quietWritable]
    · decide +kernel
    · intro o member
      rw [List.eq_of_mem_replicate member]
      trivial
    · intro o member
      rw [List.eq_of_mem_replicate member]
      rfl
  refine ⟨⟨held, ?_, ?_, stays⟩, ?_, ?_, ?_⟩
  · rw [hushedEq]
    decide +kernel
  · rw [hushedEq]
    decide +kernel
  · rw [beatingEq]
    decide +kernel
  · rw [beatingEq]
    decide +kernel
  · rw [beatingEq]
    decide +kernel

end Chip

end ChipScribe
