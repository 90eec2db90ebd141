import ChipScribe.Proofs.Channels

/-!
# Notes are well bracketed

A voice strikes a note only while none of its notes sounds, releases exactly
the note that does, and remembers it in the tone it sent last.  Silencing the
receiver releases whatever sounds; of a pulse voice on every lane, since nothing
then depends on the channel.
-/

namespace ChipScribe

open Midi

namespace Voice

def sounding (v : Voice) : Multiset Key :=
  if v.sent.note = 0 then 0 else {.of v.sent.chan v.sent.note}

theorem sounding_of_zero {v : Voice} (none : v.sent.note = 0) : v.sounding = 0 :=
  if_pos none

theorem sounding_of_ne {v : Voice} (some : v.sent.note ≠ 0) :
    v.sounding = {.of v.sent.chan v.sent.note} :=
  if_neg some

theorem card_sounding (v : Voice) : v.sounding.card ≤ 1 := by
  unfold sounding
  split <;> simp

theorem sounding_congr {v w : Voice} (note : w.sent.note = v.sent.note)
    (chan : w.sent.chan = v.sent.chan) : w.sounding = v.sounding := by
  simp only [sounding, note, chan]

/-- The notes of a burst fit what sounds, and what sounds after them is remembered. -/
structure Plays (v : Voice) (b : Burst) : Prop where
  orderly : Orderly v.sounding (notes b.2)
  remembered : play v.sounding (notes b.2) = b.1.sounding

theorem Plays.quiet {v : Voice} {b : Burst} (notes : notes b.2 = [])
    (same : b.1.sounding = v.sounding) : v.Plays b := by
  constructor
  · rw [notes]
    trivial
  · rw [notes, same]
    rfl

theorem Plays.off {v : Voice} {b : Burst} {chan : UInt8} (narrow : chan < 16)
    (sent : b.2 = [.off chan v.sent.note]) (was : v.sounding = {.of chan v.sent.note})
    (now : b.1.sounding = 0) : v.Plays b := by
  have event : notes b.2 = [.off (.of chan v.sent.note)] := by
    rw [sent, notes_off narrow]
  constructor
  · rw [event]
    exact ⟨was, trivial⟩
  · rw [event, now, was]
    simp [Midi.play, NoteEvent.apply]

theorem Plays.on {v : Voice} {b : Burst} {chan note : UInt8}
    (sent : notes b.2 = [.on (.of chan note)]) (was : v.sounding = 0)
    (now : b.1.sounding = {.of chan note}) : v.Plays b := by
  constructor
  · rw [sent]
    exact ⟨was, trivial⟩
  · rw [sent, now, was]
    rfl

theorem Plays.andThen {v : Voice} {b : Burst} {next : Voice → Burst} (first : v.Plays b)
    (second : b.1.Plays (next b.1)) : v.Plays (b.andThen next) := by
  constructor
  · rw [Burst.andThen, notes_append]
    apply first.orderly.append
    rw [first.remembered]
    exact second.orderly
  · rw [Burst.andThen, notes_append, Midi.play_append, first.remembered]
    exact second.remembered

variable {v : Voice}

/-! ## Pulse channels -/

theorem OnLanes.narrow_lanes (h : v.OnLanes) : ∀ chan ∈ v.lanes.toList, chan < 16 := by
  intro chan member
  obtain ⟨duty, rfl⟩ := onLane_of_mem member
  exact h.narrow duty

theorem OnLanes.sent_narrow (h : v.OnLanes) (sounds : v.sent.note ≠ 0) : v.sent.chan < 16 := by
  obtain ⟨duty, eq⟩ := h.sent sounds
  rw [eq]
  exact h.narrow duty

theorem OnLanes.want_narrow (h : v.OnLanes) (wanted : v.want.note ≠ 0) : v.want.chan < 16 := by
  obtain ⟨duty, eq⟩ := h.want wanted
  rw [eq]
  exact h.narrow duty

theorem OnLanes.plays_fadeBurst (h : v.OnLanes) : v.Plays v.fadeBurst := by
  unfold Voice.fadeBurst
  split
  next faded =>
    simp only [Bool.and_eq_true, bne_iff_ne] at faded
    have sounds : v.sent.note ≠ 0 := faded.1.1
    exact .off (h.sent_narrow sounds) rfl (sounding_of_ne sounds) rfl
  next => exact .quiet rfl rfl

theorem releaseBurst_silent (v : Voice) : v.releaseBurst.1.sounding = 0 := by
  unfold releaseBurst
  split
  · rfl
  next silent =>
    apply sounding_of_zero
    simpa using silent

theorem OnLanes.plays_releaseBurst (h : v.OnLanes) : v.Plays v.releaseBurst := by
  have silent := v.releaseBurst_silent
  unfold Voice.releaseBurst at silent ⊢
  split
  next sounds =>
    simp only [bne_iff_ne] at sounds
    exact .off (h.sent_narrow sounds) rfl (sounding_of_ne sounds) rfl
  next => exact .quiet rfl rfl

theorem OnLanes.plays_strikeBurst (h : v.OnLanes) (silent : v.sounding = 0) (t : Tuning) :
    v.Plays (v.strikeBurst t) := by
  unfold Voice.strikeBurst Voice.audible
  split
  next audible =>
    simp only [Bool.and_eq_true, bne_iff_ne] at audible
    have wanted : v.want.note ≠ 0 := audible.1
    exact .on (notes_on (h.want_narrow wanted) _ _) silent (sounding_of_ne wanted)
  next => exact .quiet rfl rfl

theorem OnLanes.plays_changeBurst (h : v.OnLanes) (t : Tuning) : v.Plays (v.changeBurst t) := by
  unfold Voice.changeBurst
  split
  · exact h.plays_releaseBurst.andThen (h.releaseBurst.plays_strikeBurst v.releaseBurst_silent t)
  · exact .quiet rfl rfl

theorem OnLanes.plays_bendBurst (h : v.OnLanes) (lastChan : UInt8) :
    v.Plays (v.bendBurst lastChan) := by
  unfold Voice.bendBurst Voice.audible
  split
  next audible =>
    simp only [Bool.and_eq_true, bne_iff_ne] at audible
    exact .quiet (notes_bend (h.want_narrow audible.1.1) _) rfl
  next => exact .quiet rfl rfl

theorem OnLanes.plays_volumeBurst (h : v.OnLanes) (lastChan : UInt8) :
    v.Plays (v.volumeBurst lastChan) := by
  unfold Voice.volumeBurst Voice.audible
  split
  next audible =>
    simp only [Bool.and_eq_true, bne_iff_ne] at audible
    exact .quiet (notes_volume (h.want_narrow audible.1.1) _) rfl
  next => exact .quiet rfl rfl

theorem OnLanes.plays_pulseBurst (h : v.OnLanes) (t : Tuning) : v.Plays (v.pulseBurst t) := by
  have changed := h.fadeBurst.changeBurst t
  unfold Voice.pulseBurst
  dsimp only
  apply Plays.andThen
  · apply Plays.andThen
    · exact h.plays_fadeBurst.andThen (h.fadeBurst.plays_changeBurst t)
    · rw [Burst.fst_andThen]
      exact changed.plays_bendBurst v.sent.chan
  · rw [Burst.fst_andThen, Burst.fst_andThen]
    exact (changed.bendBurst v.sent.chan).plays_volumeBurst v.sent.chan

/-! ## Triangle and noise -/

theorem OnFirstLane.sounding_eq (h : v.OnFirstLane) (sounds : v.sent.note ≠ 0) :
    v.sounding = {.of v.want.chan v.sent.note} := by
  rw [sounding_of_ne sounds, h.sent sounds, h.want (.inr sounds)]

theorem OnFirstLane.want_narrow (h : v.OnFirstLane) (some : v.want.note ≠ 0 ∨ v.sent.note ≠ 0) :
    v.want.chan < 16 := by
  rw [h.want some]
  exact h.narrow

theorem triangleReleaseBurst_silent (v : Voice) : v.triangleReleaseBurst.1.sounding = 0 := by
  unfold triangleReleaseBurst
  split
  · rfl
  next silent =>
    apply sounding_of_zero
    simpa using silent

theorem OnFirstLane.plays_triangleReleaseBurst (h : v.OnFirstLane) :
    v.Plays v.triangleReleaseBurst := by
  unfold Voice.triangleReleaseBurst
  split
  next sounds =>
    simp only [bne_iff_ne] at sounds
    exact .off (h.want_narrow (.inr sounds)) rfl (h.sounding_eq sounds) rfl
  next => exact .quiet rfl rfl

theorem OnFirstLane.plays_triangleStrikeBurst (h : v.OnFirstLane) (silent : v.sounding = 0)
    (t : Tuning) : v.Plays (v.triangleStrikeBurst t) := by
  unfold Voice.triangleStrikeBurst
  split
  next wanted =>
    simp only [bne_iff_ne] at wanted
    exact .on (notes_on (h.want_narrow (.inl wanted)) _ _) silent (sounding_of_ne wanted)
  next => exact .quiet rfl rfl

theorem OnFirstLane.plays_triangleChangeBurst (h : v.OnFirstLane) (t : Tuning) :
    v.Plays (v.triangleChangeBurst t) := by
  unfold Voice.triangleChangeBurst
  split
  · exact h.plays_triangleReleaseBurst.andThen
      (h.triangleReleaseBurst.plays_triangleStrikeBurst v.triangleReleaseBurst_silent t)
  · exact .quiet rfl rfl

theorem OnFirstLane.plays_triangleBendBurst (h : v.OnFirstLane) :
    v.Plays v.triangleBendBurst := by
  unfold Voice.triangleBendBurst
  split
  next bends =>
    simp only [Bool.and_eq_true, bne_iff_ne] at bends
    exact .quiet (notes_bend (h.want_narrow (.inl bends.1)) _) rfl
  next => exact .quiet rfl rfl

theorem OnFirstLane.plays_triangleBurst (h : v.OnFirstLane) (t : Tuning) :
    v.Plays (v.triangleBurst t) :=
  (h.plays_triangleChangeBurst t).andThen (h.triangleChangeBurst t).plays_triangleBendBurst

theorem OnFirstLane.plays_noiseFadeBurst (h : v.OnFirstLane) : v.Plays v.noiseFadeBurst := by
  unfold Voice.noiseFadeBurst
  split
  next faded =>
    simp only [Bool.and_eq_true, bne_iff_ne] at faded
    have sounds : v.sent.note ≠ 0 := faded.1.1
    have narrow : v.sent.chan < 16 := by
      rw [h.sent sounds]
      exact h.narrow
    exact .off narrow rfl (sounding_of_ne sounds) rfl
  next => exact .quiet rfl rfl

theorem noiseReleaseBurst_silent (v : Voice) : v.noiseReleaseBurst.1.sounding = 0 := by
  unfold noiseReleaseBurst
  split
  · rfl
  next silent =>
    apply sounding_of_zero
    simpa using silent

theorem OnFirstLane.plays_noiseReleaseBurst (h : v.OnFirstLane) :
    v.Plays v.noiseReleaseBurst := by
  unfold Voice.noiseReleaseBurst
  split
  next sounds =>
    simp only [bne_iff_ne] at sounds
    exact .off (h.want_narrow (.inr sounds)) rfl (h.sounding_eq sounds) rfl
  next => exact .quiet rfl rfl

theorem OnFirstLane.plays_noiseStrikeBurst (h : v.OnFirstLane) (silent : v.sounding = 0) :
    v.Plays v.noiseStrikeBurst := by
  unfold Voice.noiseStrikeBurst
  split
  next audible =>
    simp only [Bool.and_eq_true, bne_iff_ne] at audible
    have wanted : v.want.note ≠ 0 := audible.1
    exact .on (notes_on (h.want_narrow (.inl wanted)) _ _) silent (sounding_of_ne wanted)
  next => exact .quiet rfl rfl

theorem OnFirstLane.plays_noiseChangeBurst (h : v.OnFirstLane) : v.Plays v.noiseChangeBurst := by
  unfold Voice.noiseChangeBurst
  split
  · exact h.plays_noiseReleaseBurst.andThen
      (h.noiseReleaseBurst.plays_noiseStrikeBurst v.noiseReleaseBurst_silent)
  · exact .quiet rfl rfl

theorem OnFirstLane.plays_noiseBurst (h : v.OnFirstLane) : v.Plays v.noiseBurst :=
  h.plays_noiseFadeBurst.andThen h.noiseFadeBurst.plays_noiseChangeBurst

/-! ## The delta channel -/

theorem dmcReleaseBurst_silent (v : Voice) : v.dmcReleaseBurst.1.sounding = 0 := by
  unfold dmcReleaseBurst
  split
  · rfl
  next silent =>
    apply sounding_of_zero
    simpa using silent

theorem OnChannels.plays_dmcReleaseBurst (h : v.OnChannels (· < 16)) :
    v.Plays v.dmcReleaseBurst := by
  unfold Voice.dmcReleaseBurst
  split
  next sounds =>
    simp only [bne_iff_ne] at sounds
    exact .off (h.sent sounds) rfl (sounding_of_ne sounds) rfl
  next => exact .quiet rfl rfl

theorem OnChannels.plays_dmcStrikeBurst (h : v.OnChannels (· < 16)) (silent : v.sounding = 0) :
    v.Plays v.dmcStrikeBurst := by
  unfold Voice.dmcStrikeBurst
  split
  next audible =>
    simp only [Bool.and_eq_true, bne_iff_ne] at audible
    have wanted : v.want.note ≠ 0 := audible.1
    have struck : notes [.program v.want.chan v.program,
        .control v.want.chan Message.channelVolume v.volume,
        .on v.want.chan v.want.note v.want.vel] = [.on (.of v.want.chan v.want.note)] := by
      rw [notes_cons, notes_program, notes_cons, notes_control, notes_on (h.want wanted)]
      rfl
    exact .on struck silent (sounding_of_ne wanted)
  next => exact .quiet rfl rfl

theorem OnChannels.plays_dmcBurst (h : v.OnChannels (· < 16)) : v.Plays v.dmcBurst := by
  unfold Voice.dmcBurst
  split
  · have struck := h.plays_dmcReleaseBurst.andThen
      (h.dmcReleaseBurst.plays_dmcStrikeBurst v.dmcReleaseBurst_silent)
    exact ⟨struck.orderly, struck.remembered⟩
  · exact .quiet rfl rfl

end Voice

/-- The delta voice needs instruments on the sixteen channels; the others have theirs. -/
theorem Part.Placed.plays {ok : UInt8 → Prop} {p : Part} {v : Voice} (placed : p.Placed ok v)
    (narrow : p = .dmc → ∀ chan, ok chan → chan < 16) (t : Tuning) : v.Plays (p.burst t v) := by
  cases p with
  | pulse side => exact Voice.OnLanes.plays_pulseBurst placed t
  | triangle => exact Voice.OnFirstLane.plays_triangleBurst placed t
  | noise => exact Voice.OnFirstLane.plays_noiseBurst placed
  | dmc => exact (Voice.OnChannels.mono placed (narrow rfl)).plays_dmcBurst

/-! ## One call -/

theorem Scribe.plays_asked (c : Scribe) {ok : UInt8 → Prop} {p : Part}
    (placed : p.Placed ok (c.voice p)) (narrow : p = .dmc → ∀ chan, ok chan → chan < 16) :
    (c.voice p).Plays ((c.turn p).1, c.asked p) := by
  have plays := placed.plays narrow c.tuning
  obtain ⟨-, asked, pacer, waits⟩ | ⟨-, asked, pacer, moves⟩ := c.turn_cases p
  · rw [waits, asked]
    exact .quiet rfl rfl
  · rw [moves, asked]
    exact ⟨plays.orderly, plays.remembered⟩

theorem Scribe.notes_turn (c : Scribe) (p : Part) : notes (c.turn p).2.2 = notes (c.asked p) := by
  rw [turn, deliver_asked, notes_deliver]

namespace Part

/-- The keys a part releases when the receiver is silenced: of a sounding pulse, all lanes. -/
def releasedKeys (p : Part) (v : Voice) : List Key :=
  if v.sent.note = 0 then []
  else
    match p with
    | .pulse _ => v.lanes.toList.map (Key.of · v.sent.note)
    | .triangle | .noise | .dmc => [.of v.sent.chan v.sent.note]

variable {ok : UInt8 → Prop} {p : Part} {v : Voice}

theorem releasedKeys_of_zero (none : v.sent.note = 0) : p.releasedKeys v = [] :=
  if_pos none

theorem Placed.notes_release (placed : p.Placed ok v)
    (narrow : p = .dmc → ∀ chan, ok chan → chan < 16) :
    notes (p.release v) = (p.releasedKeys v).map .off := by
  by_cases sounds : v.sent.note = 0
  · rw [releasedKeys_of_zero sounds]
    cases p <;>
      simp [release, Scribe.pulseReleases, Scribe.wantedRelease, Scribe.sentRelease, sounds]
  · cases p with
    | pulse side =>
        have narrow := Voice.OnLanes.narrow_lanes placed
        simp only [release, Scribe.pulseReleases, releasedKeys, sounds, bne_iff_ne, ne_eq,
          not_false_eq_true, ↓reduceIte, List.map_map]
        generalize v.lanes.toList = lanes at narrow ⊢
        induction lanes with
        | nil => rfl
        | cons chan lanes ih =>
            have rest := ih fun chan member => narrow chan (List.mem_cons_of_mem _ member)
            rw [List.map_cons, notes_cons, notes_off (narrow chan List.mem_cons_self), rest]
            rfl
    | triangle | noise =>
        have eq := (Voice.OnFirstLane.sent placed sounds).trans
          (Voice.OnFirstLane.want placed (.inr sounds)).symm
        have narrow := Voice.OnFirstLane.want_narrow placed (.inr sounds)
        simp [release, Scribe.wantedRelease, releasedKeys, sounds, eq, notes_off narrow]
    | dmc =>
        have narrow := narrow rfl _ (Voice.OnChannels.sent placed sounds)
        simp [release, Scribe.sentRelease, releasedKeys, sounds, notes_off narrow]

theorem Placed.sounding_le (placed : p.Placed ok v) :
    v.sounding ≤ (p.releasedKeys v : Multiset Key) := by
  by_cases sounds : v.sent.note = 0
  · rw [Voice.sounding_of_zero sounds]
    exact Multiset.zero_le _
  · rw [Voice.sounding_of_ne sounds, Multiset.singleton_le, Multiset.mem_coe]
    cases p with
    | pulse side =>
        obtain ⟨duty, eq⟩ := Voice.OnLanes.sent placed sounds
        rw [releasedKeys, if_neg sounds]
        refine List.mem_map.mpr ⟨v.sent.chan, ?_, rfl⟩
        rw [eq, Voice.lane]
        exact Vector.mem_toList_iff.mpr (Vector.getElem_mem _)
    | _ =>
        rw [releasedKeys, if_neg sounds]
        exact List.mem_singleton_self _

end Part

def Operation.silences : Operation → Bool
  | .power | .setUpReceiver | .silence => true
  | _ => false

/-- The order in which the parts come in what an operation sends. -/
def Operation.partOrder (o : Operation) : List Part :=
  if o.silences then Part.releaseOrder else Part.turnOrder

namespace Chip

/-- The notes of one part in what an operation sends. -/
def partNotes (c : Chip) (o : Operation) (p : Part) : List NoteEvent :=
  match o with
  | .clock memory => notes ((c.scribe.follow memory c.synth.clock).1.turn p).2.2
  | .transcribe memory => notes ((c.scribe.follow memory c.synth).1.turn p).2.2
  | .power | .setUpReceiver | .silence => notes (p.release (c.scribe.voice p))
  | .write .. | .read .. | .supply _ | .withTuning _ | .withLibrary _ => []

/-- The notes of one part in what a run sends. -/
def partLog (c : Chip) (p : Part) : List Operation → List NoteEvent
  | [] => []
  | o :: rest => c.partNotes o p ++ (c.operate o).1.partLog p rest

theorem notes_flatMap (parts : List Part) (f : Part → List Message) :
    notes (parts.flatMap f) = parts.flatMap fun p => notes (f p) := by
  induction parts with
  | nil => rfl
  | cons p parts ih => simp [ih]

private theorem notes_hushSequence : notes Scribe.hushSequence = [] := by
  decide

private theorem notes_setupSequence : notes Scribe.setupSequence = [] := by
  decide

theorem notes_reset (c : Scribe) :
    notes c.reset.2 = Part.releaseOrder.flatMap fun p => notes (p.release (c.voice p)) := by
  rw [Scribe.reset, notes_announce, notes_hushSequence, List.append_nil, Scribe.releases_eq,
    notes_flatMap]

theorem notes_setUp (c : Scribe) : notes c.setUp.2 = notes c.reset.2 := by
  rw [Scribe.setUp, Scribe.setUpWith, notes_append, notes_announce, notes_setupSequence]
  simp

theorem notes_operate (c : Chip) (o : Operation) :
    notes (c.operate o).2.midi = o.partOrder.flatMap (c.partNotes o) := by
  rw [midi_operate]
  cases o with
  | power | setUpReceiver => exact (notes_setUp c.scribe).trans (notes_reset c.scribe)
  | silence => exact notes_reset c.scribe
  | clock memory | transcribe memory =>
      rw [scribed, Scribe.messages_transmit, notes_flatMap]
      rfl
  | write address data =>
      simp only [scribed]
      split <;> rfl
  | _ => rfl

/-! ## Runs -/

section Runs

variable {c : Chip} {p : Part} {ok : UInt8 → Prop}

private theorem placed_follow (placed : p.Placed ok (c.scribe.voice p))
    (all : c.scribe.library.All (ok ·.channel)) (m : Memory) (s : Synth) :
    p.Placed ok ((c.scribe.follow m s).1.voice p) ∧
      ((c.scribe.follow m s).1.voice p).sounding = (c.scribe.voice p).sounding := by
  refine ⟨placed_invariant.voice_follow all placed m s, ?_⟩
  have followed := c.scribe.followed_voice m s p
  exact Voice.sounding_congr (congrArg _ followed.sent) (congrArg _ followed.sent)

theorem orderly_partNotes_of_narrow (narrow : p = .dmc → ∀ chan, ok chan → chan < 16)
    (placed : p.Placed ok (c.scribe.voice p)) (all : c.scribe.library.All (ok ·.channel))
    {o : Operation} (speaks : o.silences = false) :
    Orderly (c.scribe.voice p).sounding (c.partNotes o p) := by
  cases o with
  | power | setUpReceiver | silence => cases speaks
  | clock memory =>
      obtain ⟨placed, same⟩ := placed_follow placed all memory c.synth.clock
      rw [← same, partNotes, Scribe.notes_turn]
      exact (Scribe.plays_asked _ placed narrow).orderly
  | transcribe memory =>
      obtain ⟨placed, same⟩ := placed_follow placed all memory c.synth
      rw [← same, partNotes, Scribe.notes_turn]
      exact (Scribe.plays_asked _ placed narrow).orderly
  | write | read | supply | withTuning | withLibrary => trivial

theorem orderly_partNotes (placed : p.Placed (· < 16) (c.scribe.voice p))
    (all : c.scribe.library.All (·.channel < 16)) {o : Operation} (speaks : o.silences = false) :
    Orderly (c.scribe.voice p).sounding (c.partNotes o p) :=
  orderly_partNotes_of_narrow (fun _ _ narrow => narrow) placed all speaks

theorem partNotes_silencing (placed : p.Placed (· < 16) (c.scribe.voice p)) {o : Operation}
    (silencing : o.silences = true) :
    c.partNotes o p = (p.releasedKeys (c.scribe.voice p)).map .off := by
  rw [← placed.notes_release fun _ _ narrow => narrow]
  cases o with
  | power | setUpReceiver | silence => rfl
  | _ => cases silencing

/-- After any call the receiver holds, of each part, the note that the voice remembers. -/
theorem play_partNotes (narrow : p = .dmc → ∀ chan, ok chan → chan < 16)
    (placed : p.Placed ok (c.scribe.voice p)) (all : c.scribe.library.All (ok ·.channel))
    (o : Operation) :
    play (c.scribe.voice p).sounding (c.partNotes o p) =
      ((c.operate o).1.scribe.voice p).sounding := by
  rw [c.voice_operate]
  have next := c.voice_scribed o p
  have released : play (c.scribe.voice p).sounding (notes (p.release (c.scribe.voice p))) = 0 := by
    rw [placed.notes_release narrow]
    exact play_releases placed.sounding_le
  cases o with
  | power | setUpReceiver =>
      rw [next]
      have silent : p.home.sounding = 0 := by
        rcases p with (_ | _) | _ | _ | _ <;> rfl
      exact released.trans silent.symm
  | silence =>
      rw [next]
      exact released
  | clock memory =>
      obtain ⟨placed, same⟩ := placed_follow placed all memory c.synth.clock
      rw [next, ← same, partNotes, Scribe.notes_turn]
      exact (Scribe.plays_asked _ placed narrow).remembered
  | transcribe memory =>
      obtain ⟨placed, same⟩ := placed_follow placed all memory c.synth
      rw [next, ← same, partNotes, Scribe.notes_turn]
      exact (Scribe.plays_asked _ placed narrow).remembered
  | write | read | supply | withTuning | withLibrary =>
      exact (Voice.sounding_congr (congrArg _ next.sent) (congrArg _ next.sent)).symm

theorem play_partLog_of_narrow {ops : List Operation}
    (narrow : p = .dmc → ∀ chan, ok chan → chan < 16)
    (placed : p.Placed ok (c.scribe.voice p)) (all : c.scribe.library.All (ok ·.channel))
    (brings : ∀ o ∈ ops, o.Brings (ok ·.channel)) :
    play (c.scribe.voice p).sounding (c.partLog p ops) =
      ((c.after ops).scribe.voice p).sounding := by
  induction ops generalizing c with
  | nil => rfl
  | cons o ops ih =>
      rw [partLog, play_append, play_partNotes narrow placed all o, after_cons]
      apply ih
      · exact placed_invariant.operate o all placed
      · exact library_operate all (brings o List.mem_cons_self)
      · exact fun o' member => brings o' (List.mem_cons_of_mem _ member)

theorem play_partLog {ops : List Operation} (placed : p.Placed (· < 16) (c.scribe.voice p))
    (all : c.scribe.library.All (·.channel < 16))
    (brings : ∀ o ∈ ops, o.Brings (·.channel < 16)) :
    play (c.scribe.voice p).sounding (c.partLog p ops) =
      ((c.after ops).scribe.voice p).sounding :=
  play_partLog_of_narrow (fun _ _ narrow => narrow) placed all brings

end Runs

/-- One part's notes in what one more operation sends after a run. -/
structure Bracketed (start : Chip) (ops : List Operation) (o : Operation) (p : Part) : Prop where
  /-- What is held is the note that the voice remembers, if it remembers one. -/
  remembered : play 0 (start.partLog p ops) = ((start.after ops).scribe.voice p).sounding
  /-- Every note that is sent is one part's. -/
  attributed :
    notes ((start.after ops).operate o).2.midi = o.partOrder.flatMap ((start.after ops).partNotes o)
  /-- At most one note is ever held. -/
  single {front back : List NoteEvent} :
    (start.after ops).partNotes o p = front ++ back →
      (play (play 0 (start.partLog p ops)) front).card ≤ 1
  /-- A note is struck only while none is held. -/
  struck {front back : List NoteEvent} {k : Key} :
    (start.after ops).partNotes o p = front ++ .on k :: back →
      play (play 0 (start.partLog p ops)) front = 0
  /-- Unless the receiver is being silenced, only the held note is released. -/
  released {front back : List NoteEvent} {k : Key} :
    o.silences = false → (start.after ops).partNotes o p = front ++ .off k :: back →
      play (play 0 (start.partLog p ops)) front = {k}
  /-- Silencing releases the remembered note, of a pulse on every lane, and nothing else. -/
  hushed :
    o.silences = true →
      (start.after ops).partNotes o p =
        (p.releasedKeys ((start.after ops).scribe.voice p)).map .off
  /-- After silencing nothing is held. -/
  silent :
    o.silences = true →
      play (play 0 (start.partLog p ops)) ((start.after ops).partNotes o p) = 0 ∧
        (((start.after ops).operate o).1.scribe.voice p).sent.note = 0

/-- Along every run from a new chip the notes of each part are well bracketed. -/
theorem notes_well_bracketed (s : Settings) (ops : List Operation) (o : Operation) (p : Part)
    (narrow : ∀ o' ∈ ops ++ [o], o'.Brings (·.channel < 16)) :
    Bracketed (ofSettings s) ops o p := by
  let start := ofSettings s
  let c := start.after ops
  let held := play 0 (start.partLog p ops)
  have brings : ∀ o' ∈ ops, o'.Brings (·.channel < 16) := fun o' member =>
    narrow o' (List.mem_append_left _ member)
  have empty : start.scribe.library.All (·.channel < 16) :=
    Library.all_empty.dumpingTo s.dumpDirectory
  have fresh (p : Part) : start.scribe.voice p = {} := by
    rcases p with (_ | _) | _ | _ | _ <;> rfl
  have placed (p : Part) : p.Placed (· < 16) (start.scribe.voice p) := by
    rw [fresh p]
    exact p.placed_new
  obtain ⟨all, now⟩ := placed_invariant.after brings empty placed
  have remembered : held = (c.scribe.voice p).sounding := by
    have log := play_partLog (placed p) empty brings
    rwa [fresh p] at log
  have atMostOne : held.card ≤ 1 := by
    rw [remembered]
    exact Voice.card_sounding _
  have orderly (speaks : o.silences = false) : Orderly held (c.partNotes o p) := by
    rw [remembered]
    exact orderly_partNotes (now p) all speaks
  have hushed (silencing : o.silences = true) :
      c.partNotes o p = (p.releasedKeys (c.scribe.voice p)).map .off :=
    partNotes_silencing (now p) silencing
  refine ⟨remembered, notes_operate c o, ?single, ?struck, ?released, hushed, ?silent⟩
  case single =>
    intro front back split
    cases silencing : o.silences with
    | false =>
        have fits := orderly silencing
        rw [split] at fits
        exact fits.card_le_one atMostOne
    | true =>
        rw [hushed silencing, List.map_eq_append_iff] at split
        obtain ⟨early, late, -, rfl, -⟩ := split
        exact (Multiset.card_le_card (play_releases_le held early)).trans atMostOne
  case struck =>
    intro front back k split
    cases silencing : o.silences with
    | false =>
        have fits := orderly silencing
        rw [split] at fits
        exact fits.fits
    | true =>
        have strike : NoteEvent.on k ∈ (p.releasedKeys (c.scribe.voice p)).map NoteEvent.off := by
          rw [← hushed silencing, split]
          simp
        obtain ⟨_, -, eq⟩ := List.mem_map.mp strike
        cases eq
  case released =>
    intro front back k speaks split
    have fits := orderly speaks
    rw [split] at fits
    exact fits.fits
  case silent =>
    intro silencing
    constructor
    · change play held _ = 0
      rw [hushed silencing, remembered]
      exact play_releases (now p).sounding_le
    · have next := c.voice_scribed o p
      rw [← c.voice_operate] at next
      cases o with
      | power | setUpReceiver =>
          rw [next]
          rcases p with (_ | _) | _ | _ | _ <;> rfl
      | silence =>
          rw [next]
          rfl
      | _ => cases silencing

/-- A run that plays all channels with a drum kit loaded, silenced at its end. -/
theorem notes_bracketed_with_kit :
    let kit : Library := Library.empty.insert 0x2A
      { channel := 9, program := 0, volume := 0x60, velocity := 96, pitches := .replicate 16 36.0 }
    let calls : List Operation :=
      [.power, .withLibrary kit, .write 0x4015 0x1F, .write 0x4000 0xBF, .write 0x4002 0xFD,
        .write 0x4003 0x08, .write 0x400C 0x3F, .write 0x400F 0x08, .clock .zero, .withTuning {},
        .transcribe .zero]
    (∀ o ∈ calls ++ [.silence], o.Brings (·.channel < 16)) ∧
      ∀ p, Bracketed (ofSettings { region := .pal }) calls .silence p := by
  intro kit calls
  have narrow : ∀ o ∈ calls ++ [.silence], o.Brings (·.channel < 16) := by
    have kitNarrow : kit.All (·.channel < 16) := Library.all_empty.insert (by decide) _
    simp [calls, Operation.Brings, kitNarrow]
  exact ⟨narrow, fun p => notes_well_bracketed _ calls .silence p narrow⟩

end Chip

end ChipScribe
