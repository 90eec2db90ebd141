import ChipScribe.Proofs.Pacing
import ChipScribe.Proofs.Restoring

/-!
# A voice that stands still falls silent

A burst takes the tone last sent as near to the wanted one as the voice ever
takes it, so a second burst from there asks for nothing.  It need not get all the
way: a note without loudness is not struck, and a pulse that holds a note without
loudness does not release it for being silent.  As long as the wanted tone stands
still, a voice therefore sends in one turn only, the first that its pacer allows.
-/

namespace ChipScribe

open Midi

namespace Voice

variable {v : Voice}

/-! ## One turn -/

section Transmit

variable {t : Tuning}

theorem transmit_of_busy (burst : Voice → Burst) (e : Emitter)
    (busy : v.pacer.busy t.cyclesPerMessage = true) :
    transmit burst t v e = ({ v with pacer := v.pacer.tick }, e, []) :=
  if_pos busy

theorem transmit_of_free (burst : Voice → Burst) (e : Emitter)
    (free : v.pacer.busy t.cyclesPerMessage = false) :
    transmit burst t v e =
      let delivered := e.deliver (burst v).2
      ({ (burst v).1 with pacer := .restart delivered.2.length.toUInt32 }, delivered) :=
  if_neg (Bool.eq_false_iff.mp free)

end Transmit

/-! ## Bursts do not look at the pacer -/

/-- The burst is the same whatever the pacer, and leaves the pacer alone. -/
def Blind (burst : Voice → Burst) : Prop :=
  ∀ (v : Voice) (q : Pacer),
    burst { v with pacer := q } = ({ (burst v).1 with pacer := q }, (burst v).2)

theorem Blind.andThen {first next : Voice → Burst} (h : Blind first) (h' : Blind next) :
    Blind fun v => (first v).andThen next := by
  intro v q
  simp only [Burst.andThen, h v q, h' (first v).1 q]

theorem Blind.optional {asked : Voice → Bool} {burst : Voice → Burst} (h : Blind burst)
    (same : ∀ v q, asked { v with pacer := q } = asked v) :
    Blind fun v => if asked v then burst v else (v, []) := by
  intro v q
  simp only [same v q]
  cases asked v with
  | true => exact h v q
  | false => rfl

theorem blind_fadeBurst : Blind fadeBurst :=
  .optional (fun _ _ => rfl) fun _ _ => rfl

theorem blind_changeBurst (t : Tuning) : Blind (changeBurst t) :=
  .optional (.andThen (.optional (fun _ _ => rfl) fun _ _ => rfl)
    (.optional (fun _ _ => rfl) fun _ _ => rfl)) fun _ _ => rfl

theorem blind_bendBurst (lastChan : UInt8) : Blind (bendBurst lastChan) :=
  .optional (fun _ _ => rfl) fun _ _ => rfl

theorem blind_volumeBurst (lastChan : UInt8) : Blind (volumeBurst lastChan) :=
  .optional (fun _ _ => rfl) fun _ _ => rfl

theorem blind_pulseBurst (t : Tuning) : Blind (pulseBurst t) := fun v q =>
  (((blind_fadeBurst.andThen (blind_changeBurst t)).andThen (blind_bendBurst v.sent.chan)).andThen
    (blind_volumeBurst v.sent.chan)) v q

theorem blind_triangleChangeBurst (t : Tuning) : Blind (triangleChangeBurst t) :=
  .optional (.andThen (.optional (fun _ _ => rfl) fun _ _ => rfl)
    (.optional (fun _ _ => rfl) fun _ _ => rfl)) fun _ _ => rfl

theorem blind_triangleBurst (t : Tuning) : Blind (triangleBurst t) :=
  (blind_triangleChangeBurst t).andThen (.optional (fun _ _ => rfl) fun _ _ => rfl)

theorem blind_noiseChangeBurst : Blind noiseChangeBurst :=
  .optional (.andThen (.optional (fun _ _ => rfl) fun _ _ => rfl)
    (.optional (fun _ _ => rfl) fun _ _ => rfl)) fun _ _ => rfl

theorem blind_noiseBurst : Blind noiseBurst :=
  .andThen (.optional (fun _ _ => rfl) fun _ _ => rfl) blind_noiseChangeBurst

theorem blind_dmcBurst : Blind dmcBurst := by
  have struck : Blind fun v => (dmcReleaseBurst v).andThen dmcStrikeBurst :=
    .andThen (.optional (fun _ _ => rfl) fun _ _ => rfl) (.optional (fun _ _ => rfl) fun _ _ => rfl)
  have settled : Blind fun v =>
      ({ ((dmcReleaseBurst v).andThen dmcStrikeBurst).1 with
          sent := { ((dmcReleaseBurst v).andThen dmcStrikeBurst).1.sent with
            vel := ((dmcReleaseBurst v).andThen dmcStrikeBurst).1.want.vel }
          fresh := false },
        ((dmcReleaseBurst v).andThen dmcStrikeBurst).2) := by
    intro v q
    simp only [struck v q]
  exact .optional settled fun _ _ => rfl

/-! ## A second burst -/

theorem releaseBurst_of_none (none : v.sent.note = 0) : v.releaseBurst = (v, []) := by
  simp [releaseBurst, none]

theorem fadeBurst_of_none (none : v.sent.note = 0) : v.fadeBurst = (v, []) := by
  simp [fadeBurst, none]

theorem pulseBurst_of_upToDate (h : v.UpToDate) (t : Tuning) : v.pulseBurst t = (v, []) := by
  cases audible : v.audible with
  | true =>
      obtain ⟨note, chan, vel, wheel⟩ := h.tone audible
      rw [pulseBurst_of_audible audible]
      simp [changeBurst, bendBurst, volumeBurst, Burst.andThen, note, chan, vel, wheel]
  | false =>
      have none := h.silent audible
      rw [pulseBurst_of_inaudible audible, fadeBurst_of_none none, Burst.andThen,
        changeBurst_of_inaudible audible, releaseBurst_of_none none]
      simp

/-- A tone that is not to be heard releases what still sounds, or finds nothing to do. -/
theorem pulseBurst_inaudible_cases (silent : v.audible = false) (t : Tuning) :
    v.pulseBurst t = (v, []) ∨ (v.pulseBurst t).1.sent.note = 0 := by
  have faded : v.fadeBurst.1.audible = false := (audible_of_sent v.sent_fadeBurst).trans silent
  have released (w : Voice) : w.releaseBurst.1.sent.note = 0 := by
    unfold releaseBurst
    split
    · rfl
    next none => simpa using none
  rw [pulseBurst_of_inaudible silent, Burst.andThen, changeBurst_of_inaudible faded]
  split
  · exact .inr (released _)
  · unfold fadeBurst
    split
    · exact .inr rfl
    · exact .inl rfl

theorem pulseBurst_pulseBurst (v : Voice) (t : Tuning) :
    (v.pulseBurst t).1.pulseBurst t = ((v.pulseBurst t).1, []) := by
  have sent := v.sent_pulseBurst t
  have same : (v.pulseBurst t).1.audible = v.audible := audible_of_sent sent
  cases audible : v.audible with
  | true =>
      have tone := sent_of_audible audible t
      rw [← sent.want] at tone
      refine pulseBurst_of_upToDate ⟨fun _ => tone, fun silent => ?_⟩ t
      exact absurd (same.trans audible) (Bool.eq_false_iff.mp silent)
  | false =>
      rcases pulseBurst_inaudible_cases audible t with nothing | none
      · rw [nothing, nothing]
      · refine pulseBurst_of_upToDate ⟨fun heard => ?_, fun _ => none⟩ t
        exact absurd heard (Bool.eq_false_iff.mp (same.trans audible))

/-- The triangle strikes any wanted note, so the note last sent is the wanted one, even if none. -/
theorem triangleChangeBurst_note (v : Voice) (t : Tuning) :
    (v.triangleChangeBurst t).1.sent.note = v.want.note := by
  unfold triangleChangeBurst
  split
  · have want := v.sent_triangleReleaseBurst.want
    unfold Burst.andThen triangleStrikeBurst
    dsimp only
    rw [want]
    split
    · rfl
    next none =>
      have none : v.want.note = 0 := by simpa using none
      exact v.note_triangleReleaseBurst.trans none.symm
  next same =>
    have same : v.want.note = v.sent.note := by simpa using same
    exact same.symm

theorem triangleBurst_of_same (note : v.sent.note = v.want.note)
    (wheel : v.want.note ≠ 0 → v.sent.wheel = v.want.wheel) (t : Tuning) :
    v.triangleBurst t = (v, []) := by
  have bend : v.triangleBendBurst = (v, []) := by
    unfold triangleBendBurst
    rw [if_neg]
    simpa using fun wanted => (wheel wanted).symm
  simp [triangleBurst, triangleChangeBurst, Burst.andThen, note, bend]

theorem triangleBurst_triangleBurst (v : Voice) (t : Tuning) :
    (v.triangleBurst t).1.triangleBurst t = ((v.triangleBurst t).1, []) := by
  have note := v.triangleChangeBurst_note t
  rw [← (v.sent_triangleChangeBurst t).want] at note
  generalize result : (v.triangleBurst t).1 = w
  unfold triangleBurst Burst.andThen at result
  generalize (v.triangleChangeBurst t).1 = x at note result
  unfold triangleBendBurst at result
  split at result
  · subst result
    refine triangleBurst_of_same ?_ (fun _ => rfl) t
    exact note
  next same =>
    subst result
    refine triangleBurst_of_same note (fun wanted => ?_) t
    simp only [Bool.and_eq_true, bne_iff_ne, not_and, not_not] at same
    exact (same wanted).symm

theorem noiseStrikeBurst_of_inaudible (silent : v.audible = false) :
    v.noiseStrikeBurst = (v, []) :=
  if_neg (Bool.eq_false_iff.mp silent)

/-- Nothing sounds and nothing is to be struck. -/
theorem noiseBurst_of_none (none : v.sent.note = 0) (silent : v.audible = false) :
    v.noiseBurst = (v, []) := by
  simp [noiseBurst, noiseFadeBurst, noiseChangeBurst, noiseReleaseBurst, Burst.andThen, none,
    noiseStrikeBurst_of_inaudible silent]

theorem noiseBurst_of_same (note : v.sent.note = v.want.note) (vel : v.sent.vel = v.want.vel)
    (stale : v.fresh = false) : v.noiseBurst = (v, []) := by
  have fade : v.noiseFadeBurst = (v, []) := by
    unfold noiseFadeBurst
    rw [if_neg]
    simp [vel]
  simp [noiseBurst, noiseChangeBurst, Burst.andThen, fade, note, vel, stale]

theorem noiseBurst_noiseBurst (v : Voice) :
    v.noiseBurst.1.noiseBurst = (v.noiseBurst.1, []) := by
  generalize result : v.noiseBurst.1 = w
  unfold noiseBurst Burst.andThen at result
  generalize v.noiseFadeBurst.1 = x at result
  unfold noiseChangeBurst Burst.andThen at result
  split at result
  · have silent := x.note_noiseReleaseBurst
    generalize x.noiseReleaseBurst.1 = y at silent result
    unfold noiseStrikeBurst at result
    split at result
    · subst result
      exact noiseBurst_of_same rfl rfl rfl
    next quiet =>
      subst result
      exact noiseBurst_of_none silent (Bool.eq_false_iff.mpr quiet)
  next same =>
    subst result
    simp only [Bool.or_eq_true, bne_iff_ne, not_or, not_not] at same
    obtain ⟨⟨note, vel⟩, stale⟩ := same
    exact noiseBurst_of_same note.symm vel.symm (Bool.eq_false_iff.mpr stale)

theorem dmcBurst_of_same (note : v.sent.note = v.want.note) (vel : v.sent.vel = v.want.vel)
    (stale : v.fresh = false) : v.dmcBurst = (v, []) := by
  simp [dmcBurst, note, vel, stale]

/-- A note without loudness is not struck, however often it is found missing. -/
theorem dmcBurst_of_none (none : v.sent.note = 0) (silent : v.audible = false)
    (vel : v.sent.vel = v.want.vel) (stale : v.fresh = false) : v.dmcBurst = (v, []) := by
  have release : v.dmcReleaseBurst = (v, []) := by
    simp [dmcReleaseBurst, none]
  have strike : v.dmcStrikeBurst = (v, []) := if_neg (Bool.eq_false_iff.mp silent)
  unfold dmcBurst
  split
  · simp [Burst.andThen, release, strike, ← vel, ← stale]
  · rfl

theorem dmcBurst_dmcBurst (v : Voice) : v.dmcBurst.1.dmcBurst = (v.dmcBurst.1, []) := by
  generalize result : v.dmcBurst.1 = w
  unfold dmcBurst Burst.andThen at result
  split at result
  · have silent := v.note_dmcReleaseBurst
    generalize v.dmcReleaseBurst.1 = x at silent result
    unfold dmcStrikeBurst at result
    split at result
    · subst result
      exact dmcBurst_of_same rfl rfl rfl
    next quiet =>
      subst result
      exact dmcBurst_of_none silent (Bool.eq_false_iff.mpr quiet) rfl rfl
  next same =>
    subst result
    simp only [Bool.or_eq_true, bne_iff_ne, not_or, not_not] at same
    obtain ⟨⟨note, vel⟩, stale⟩ := same
    exact dmcBurst_of_same note.symm vel.symm (Bool.eq_false_iff.mpr stale)

end Voice

/-! ## Turns in a row -/

namespace Part

variable {t : Tuning} {p : Part} {v : Voice}

theorem blind_burst (t : Tuning) (p : Part) : Voice.Blind (p.burst t) := by
  cases p with
  | pulse side => exact Voice.blind_pulseBurst t
  | triangle => exact Voice.blind_triangleBurst t
  | noise => exact Voice.blind_noiseBurst
  | dmc => exact Voice.blind_dmcBurst

/-- The part has nothing to send, and asking it changes nothing. -/
def AtRest (t : Tuning) (p : Part) (v : Voice) : Prop :=
  p.burst t v = (v, [])

theorem AtRest.pacer (h : p.AtRest t v) (q : Pacer) : p.AtRest t { v with pacer := q } := by
  rw [AtRest, p.blind_burst t v q, h]

theorem atRest_burst (t : Tuning) (p : Part) (v : Voice) : p.AtRest t (p.burst t v).1 := by
  cases p with
  | pulse side => exact v.pulseBurst_pulseBurst t
  | triangle => exact v.triangleBurst_triangleBurst t
  | noise => exact v.noiseBurst_noiseBurst
  | dmc => exact v.dmcBurst_dmcBurst

/-- One turn: whether the pacer held it back and what went out, and the voice after it. -/
def turn (t : Tuning) (p : Part) (v : Voice) (e : Emitter) : Slot × Voice :=
  let transmitted := Voice.transmit (p.burst t) t v e
  (⟨v.pacer.busy t.cyclesPerMessage, transmitted.2.2⟩, transmitted.1)

/-- The turn sends nothing and changes nothing but the pacer. -/
structure Idle (v : Voice) (turn : Slot × Voice) : Prop where
  sent : turn.1.sent = []
  voice : ∃ pacer, turn.2 = { v with pacer := pacer }

theorem idle_of_held (e : Emitter) (held : (p.turn t v e).1.held = true) :
    Idle v (p.turn t v e) := by
  rw [turn, Voice.transmit_of_busy _ e held]
  exact ⟨rfl, _, rfl⟩

theorem AtRest.idle (h : p.AtRest t v) (e : Emitter) : Idle v (p.turn t v e) := by
  cases held : (p.turn t v e).1.held with
  | true => exact idle_of_held e held
  | false =>
      rw [turn, Voice.transmit_of_free _ e held, h]
      exact ⟨rfl, _, rfl⟩

theorem AtRest.turn (h : p.AtRest t v) (e : Emitter) : p.AtRest t (p.turn t v e).2 := by
  obtain ⟨pacer, after⟩ := (h.idle e).voice
  rw [after]
  exact h.pacer pacer

theorem atRest_of_free (e : Emitter) (free : (p.turn t v e).1.held = false) :
    p.AtRest t (p.turn t v e).2 := by
  rw [Part.turn, Voice.transmit_of_free _ e free]
  exact (p.atRest_burst t v).pacer _

/-- What a voice that stands still makes of its turns. -/
structure FallsSilent (voices : Nat → Voice) (turns : Nat → Slot × Voice) : Prop where
  /-- A turn that is held back is idle. -/
  held {i : Nat} : (turns i).1.held = true → Idle (voices i) (turns i)
  /-- So is any turn after one that is not held back. -/
  later {i j : Nat} : i < j → (turns i).1.held = false → Idle (voices j) (turns j)
  /-- A turn that sends is the first that is not held back. -/
  first {i : Nat} : (turns i).1.emits →
    (turns i).1.held = false ∧ ∀ j < i, (turns j).1.held = true
  /-- At most one turn sends. -/
  once {i j : Nat} : (turns i).1.emits → (turns j).1.emits → i = j

/-- The emitters may be any, as the other parts use them between the turns. -/
theorem fallsSilent_of_turns (t : Tuning) (p : Part) {voices : Nat → Voice}
    {emitters : Nat → Emitter}
    (step : ∀ i, voices (i + 1) = (p.turn t (voices i) (emitters i)).2) :
    FallsSilent voices fun i => p.turn t (voices i) (emitters i) := by
  have held {i : Nat} := idle_of_held (p := p) (t := t) (v := voices i) (emitters i)
  have rest {i : Nat} (free : (p.turn t (voices i) (emitters i)).1.held = false) (n : Nat) :
      p.AtRest t (voices (i + 1 + n)) := by
    induction n with
    | zero => exact step i ▸ atRest_of_free (emitters i) free
    | succ n ih => exact step (i + 1 + n) ▸ ih.turn (emitters (i + 1 + n))
  have later {i j : Nat} (lt : i < j) (free : (p.turn t (voices i) (emitters i)).1.held = false) :
      Idle (voices j) (p.turn t (voices j) (emitters j)) := by
    obtain ⟨n, rfl⟩ := Nat.exists_eq_add_of_le lt
    exact (rest free n).idle _
  have first {i : Nat} (emits : (p.turn t (voices i) (emitters i)).1.emits) :
      (p.turn t (voices i) (emitters i)).1.held = false ∧
        ∀ j < i, (p.turn t (voices j) (emitters j)).1.held = true := by
    constructor
    · by_contra busy
      exact emits (held (Bool.eq_true_of_not_eq_false busy)).sent
    · intro j lt
      by_contra free
      exact emits (later lt (Bool.eq_false_of_not_eq_true free)).sent
  refine ⟨held, later, first, fun {i j} emits emits' => ?once⟩
  case once =>
    rcases Nat.lt_trichotomy i j with lt | same | gt
    · exact absurd ((first emits').2 i lt) (Bool.eq_false_iff.mp (first emits).1)
    · exact same
    · exact absurd ((first emits).2 j gt) (Bool.eq_false_iff.mp (first emits').1)

/-- The voice and the emitter after `n` turns in a row. -/
def after (t : Tuning) (p : Part) (v : Voice) (e : Emitter) : Nat → Voice × Emitter
  | 0 => (v, e)
  | n + 1 =>
      let transmitted := Voice.transmit (p.burst t) t (p.after t v e n).1 (p.after t v e n).2
      (transmitted.1, transmitted.2.1)

/-- Any voice, in whatever state, sends in one of its turns at most. -/
theorem falls_silent (t : Tuning) (p : Part) (v : Voice) (e : Emitter) :
    FallsSilent (fun n => (p.after t v e n).1) fun n =>
      p.turn t (p.after t v e n).1 (p.after t v e n).2 :=
  p.fallsSilent_of_turns t fun _ => rfl

end Part

/-- So does every part of a scribe that transmits over and over without looking at the chip. -/
theorem Scribe.parts_fall_silent (c : Scribe) (p : Part) :
    let scribes : Nat → Scribe := fun n => (fun s => s.transmit.1)^[n] c
    Part.FallsSilent (fun n => (scribes n).voice p) fun n =>
      ((scribes n).slot p, ((scribes n).turn p).1) := by
  intro scribes
  have next (n : Nat) : scribes (n + 1) = (scribes n).transmit.1 :=
    Function.iterate_succ_apply' _ n c
  have tuning (n : Nat) : (scribes n).tuning = c.tuning := by
    induction n with
    | zero => rfl
    | succ n ih => rw [next, ← ih]; rfl
  let emitters : Nat → Emitter := fun n =>
    (scribes n).emitterAfter (Part.turnOrder.takeWhile (· ≠ p))
  have turns (n : Nat) : ((scribes n).slot p, ((scribes n).turn p).1) =
      p.turn c.tuning ((scribes n).voice p) (emitters n) := by
    rw [← tuning n]
    rfl
  have step (n : Nat) : (scribes (n + 1)).voice p =
      (p.turn c.tuning ((scribes n).voice p) (emitters n)).2 := by
    rw [next, voice_transmit, ← turns]
  simp only [turns]
  exact p.fallsSilent_of_turns c.tuning step

end ChipScribe
