import Mathlib.Data.List.Chain
import ChipScribe.Proofs.Deck
import ChipScribe.Proofs.Quiescence

/-!
# Drums follow the noise channel

A drum is wanted when the period changes or the channel gets louder, and struck
when the cable next has time, which may be much later.  In between the channel may
fade, fall silent or rise again.  A drum that is struck answers every rise up to
then, so from one strike to the next, and before the first, there is a rise.
-/

namespace ChipScribe

open Midi

/-! ## Beats -/

/-- The volume that the channel is heard at. -/
def Noise.loudness (n : Noise) : UInt8 :=
  if n.length.active then n.envelope.volume else 0

namespace Midi

def NoteEvent.struck? : NoteEvent → Option Key
  | .on k => some k
  | .off _ => none

/-- The keys that are struck. -/
def strikes (es : List NoteEvent) : List Key :=
  es.filterMap NoteEvent.struck?

theorem strikes_append (es more : List NoteEvent) :
    strikes (es ++ more) = strikes es ++ strikes more :=
  List.filterMap_append

end Midi

/-- What a recalculation finds the noise channel at, the drum wanted then, and what is struck. -/
structure Beat where
  period : UInt8
  loudness : UInt8
  note : UInt8
  struck : List Key
  deriving DecidableEq, Repr

namespace Beat

/-- Another period, or louder than before. -/
def Rises (a b : Beat) : Prop :=
  b.period ≠ a.period ∨ a.loudness < b.loudness

/-- The drum that is wanted is one of the period; none while the channel is silent. -/
structure InKit (alternate : Bool) (b : Beat) : Prop where
  nibble : b.period < 16
  silent : b.note = 0 ↔ b.loudness = 0
  drum : b.loudness ≠ 0 → ∃ constant, b.note = (Drum.ofPeriod alternate constant b.period).key

end Beat

namespace Drum

theorem key_ne_zero (d : Drum) : d.key ≠ 0 := by
  cases d <;> decide

/-- The envelope has a part in the drum of the two fastest periods only. -/
theorem ofPeriod_congr {period : UInt8} (nibble : period < 16) (slow : 2 ≤ period)
    (alternate c c' : Bool) : ofPeriod alternate c period = ofPeriod alternate c' period := by
  have table : ∀ p : Fin 16, 2 ≤ p.val → ∀ alternate c c' : Bool,
      ofPeriod alternate c (UInt8.ofNat p) = ofPeriod alternate c' (UInt8.ofNat p) := by
    decide
  have here := table ⟨period.toNat, nibble⟩ slow alternate c c'
  rwa [UInt8.ofNat_toNat] at here

end Drum

/-! ## Following the channel -/

namespace Voice

/-- The channel is silent, or rises, or goes on no louder than before. -/
theorem followNoise_cases (v : Voice) (t : Tuning) (n : Noise) :
    (n.loudness = 0 ∧ v.followNoise t n = v.silenceNoise n.period) ∨
      (n.loudness ≠ 0 ∧ (n.period ≠ v.seen.period ∨ v.seen.volume < n.loudness) ∧
        v.followNoise t n = (v.sightNoise n.period n.loudness).strikeDrum t n) ∨
      (n.loudness ≠ 0 ∧ ¬ (n.period ≠ v.seen.period ∨ v.seen.volume < n.loudness) ∧
        v.followNoise t n = v.sightNoise n.period n.loudness) := by
  unfold followNoise Noise.loudness
  cases n.length.active with
  | false => exact .inl ⟨rfl, rfl⟩
  | true =>
      by_cases silent : n.envelope.volume = 0
      · simp [silent]
      · by_cases rise : n.period ≠ v.seen.period ∨ v.seen.volume < n.envelope.volume
        · simp [silent, rise]
        · simp [silent, rise]

/-- Whatever was wanted has been struck, if it is to be heard. -/
structure Served (v : Voice) : Prop where
  stale : v.fresh = false
  heard : v.audible = true → v.sent.note = v.want.note ∧ v.sent.vel = v.want.vel

theorem served_of_inaudible {v : Voice} (stale : v.fresh = false) (silent : v.audible = false) :
    v.Served :=
  ⟨stale, fun heard => absurd heard (Bool.eq_false_iff.mp silent)⟩

variable {v : Voice}

theorem Served.pacer (h : v.Served) (q : Pacer) : { v with pacer := q }.Served :=
  ⟨h.stale, h.heard⟩

/-- Without a rise nothing new is wanted. -/
theorem Served.followNoise (h : v.Served) {n : Noise}
    (still : ¬ (n.period ≠ v.seen.period ∨ v.seen.volume < n.loudness)) (t : Tuning) :
    (v.followNoise t n).Served := by
  obtain ⟨-, silent⟩ | ⟨-, rise, -⟩ | ⟨-, -, held⟩ := v.followNoise_cases t n
  · rw [silent]
    exact served_of_inaudible rfl rfl
  · exact absurd rise still
  · rw [held]
    exact ⟨h.stale, h.heard⟩

/-! ## What a burst strikes -/

/-- What a burst strikes, and whether a strike is still due after it. -/
inductive Strikes (v : Voice) (b : Burst) : Prop
  | nothing (none : strikes (notes b.2) = []) (fresh : b.1.fresh = v.fresh)
  | drum (audible : v.audible = true)
      (struck : strikes (notes b.2) = [.of v.want.chan v.want.note]) (served : b.1.Served)

theorem Strikes.andThen {b : Burst} {next : Voice → Burst} (quiet : strikes (notes b.2) = [])
    (want : b.1.want = v.want) (fresh : b.1.fresh = v.fresh) (second : b.1.Strikes (next b.1)) :
    v.Strikes (b.andThen next) := by
  have sent : strikes (notes (b.andThen next).2) = strikes (notes (next b.1).2) := by
    rw [Burst.snd_andThen, notes_append, strikes_append, quiet, List.nil_append]
  cases second with
  | nothing none same => exact .nothing (sent.trans none) (same.trans fresh)
  | drum audible struck served =>
      rw [Voice.audible, want] at audible
      rw [want] at struck
      exact .drum audible (sent.trans struck) served

theorem quiet_noiseFadeBurst (h : v.OnFirstLane) :
    strikes (notes v.noiseFadeBurst.2) = [] ∧ v.noiseFadeBurst.1.fresh = v.fresh := by
  unfold noiseFadeBurst
  split
  next faded =>
    simp only [Bool.and_eq_true, bne_iff_ne] at faded
    have narrow : v.sent.chan < 16 := by
      rw [h.sent faded.1.1]
      exact h.narrow
    rw [notes_off narrow]
    exact ⟨rfl, rfl⟩
  next => exact ⟨rfl, rfl⟩

theorem quiet_noiseReleaseBurst (h : v.OnFirstLane) :
    strikes (notes v.noiseReleaseBurst.2) = [] ∧ v.noiseReleaseBurst.1.fresh = v.fresh := by
  unfold noiseReleaseBurst
  split
  next sounds =>
    rw [notes_off (h.want_narrow (.inr (by simpa using sounds)))]
    exact ⟨rfl, rfl⟩
  next => exact ⟨rfl, rfl⟩

theorem strikes_noiseStrikeBurst (h : v.OnFirstLane) : v.Strikes v.noiseStrikeBurst := by
  unfold noiseStrikeBurst
  split
  next audible =>
    have wanted : v.want.note ≠ 0 := by
      simp only [Bool.and_eq_true, bne_iff_ne] at audible
      exact audible.1
    refine .drum audible ?_ ⟨rfl, fun _ => ⟨rfl, rfl⟩⟩
    rw [notes_on (h.want_narrow (.inl wanted))]
    rfl
  next => exact .nothing rfl rfl

theorem strikes_noiseBurst (h : v.OnFirstLane) : v.Strikes v.noiseBurst := by
  obtain ⟨quiet, fresh⟩ := quiet_noiseFadeBurst h
  refine .andThen quiet v.sent_noiseFadeBurst.want fresh ?_
  have here := h.noiseFadeBurst
  generalize v.noiseFadeBurst.1 = w at here ⊢
  unfold noiseChangeBurst
  split
  · obtain ⟨quiet, fresh⟩ := quiet_noiseReleaseBurst here
    exact .andThen quiet w.sent_noiseReleaseBurst.want fresh
      (strikes_noiseStrikeBurst here.noiseReleaseBurst)
  · exact .nothing rfl rfl

/-- There is nothing left to strike, and the burst leaves it at that. -/
theorem Served.noiseBurst (h : v.Served) (lane : v.OnFirstLane) :
    strikes (notes v.noiseBurst.2) = [] ∧ v.noiseBurst.1.Served := by
  cases audible : v.audible with
  | true =>
      obtain ⟨note, vel⟩ := h.heard audible
      rw [noiseBurst_of_same note vel h.stale]
      exact ⟨rfl, h⟩
  | false =>
      have silent : v.noiseBurst.1.audible = false :=
        (audible_of_sent v.sent_noiseBurst).trans audible
      cases strikes_noiseBurst lane with
      | nothing none fresh =>
          exact ⟨none, served_of_inaudible (fresh.trans h.stale) silent⟩
      | drum heard => exact absurd heard (Bool.eq_false_iff.mp audible)

/-! ## One turn -/

/-- The noise voice follows its channel, then has its turn. -/
def beat (t : Tuning) (n : Noise) (e : Emitter) (v : Voice) : Beat × Voice :=
  let followed := v.followNoise t n
  let turn := Part.noise.turn t followed e
  (⟨n.period, n.loudness, followed.want.note, strikes (notes turn.1.sent)⟩, turn.2)

/-- A beat, and the voice that it leaves. -/
structure Leaves (v : Voice) (alternate : Bool) (a : Beat) : Prop where
  lane : v.OnFirstLane
  period : v.seen.period = a.period
  volume : v.seen.volume = a.loudness
  note : v.want.note = a.note
  kit : a.InKit alternate
  struck : a.struck = [] ∨
    (v.Served ∧ a.loudness ≠ 0 ∧ ∃ chan, a.struck = [.of chan a.note])

/-- What a turn sends, and the voice after it, are those of the burst unless the cable is busy. -/
theorem turn_noise_cases (t : Tuning) (v : Voice) (e : Emitter) :
    (∃ q, (Part.noise.turn t v e).1.sent = [] ∧ (Part.noise.turn t v e).2 = { v with pacer := q }) ∨
      (∃ q, notes (Part.noise.turn t v e).1.sent = notes v.noiseBurst.2 ∧
        (Part.noise.turn t v e).2 = { v.noiseBurst.1 with pacer := q }) := by
  unfold Part.turn
  cases busy : v.pacer.busy t.cyclesPerMessage with
  | true =>
      rw [transmit_of_busy _ e busy]
      exact .inl ⟨_, rfl, rfl⟩
  | false =>
      rw [transmit_of_free _ e busy]
      exact .inr ⟨_, notes_deliver _ _, rfl⟩

theorem seen_noiseBurst (v : Voice) : v.noiseBurst.1.seen = v.seen := by
  unfold noiseBurst noiseFadeBurst noiseChangeBurst noiseReleaseBurst noiseStrikeBurst Burst.andThen
  dsimp only
  repeat' split
  all_goals rfl

variable {alternate : Bool} {a : Beat} {t : Tuning} {n : Noise}

/-- A voice that follows the channel has seen it, and wants a drum of its period. -/
theorem Leaves.follow (h : v.Leaves t.alternateDrums a) (nibble : n.period < 16)
    (struck : List Key) :
    (v.followNoise t n).seen.period = n.period ∧ (v.followNoise t n).seen.volume = n.loudness ∧
      Beat.InKit t.alternateDrums
        ⟨n.period, n.loudness, (v.followNoise t n).want.note, struck⟩ := by
  obtain ⟨none, silent⟩ | ⟨some, -, rise⟩ | ⟨some, still, held⟩ := v.followNoise_cases t n
  · rw [silent]
    exact ⟨rfl, none.symm, nibble, by simp [none, silenceNoise], fun some => absurd none some⟩
  · rw [rise]
    refine ⟨rfl, rfl, nibble, ?_, fun _ => ⟨_, rfl⟩⟩
    exact iff_of_false (Drum.key_ne_zero _) some
  · rw [held]
    simp only [h.period, h.volume, not_or, not_not, UInt8.not_lt] at still
    obtain ⟨same, lower⟩ := still
    -- Heard and no louder than before, the channel was heard before, at the same period.
    have loud : a.loudness ≠ 0 := by
      intro zero
      rw [zero] at lower
      exact some (UInt8.le_zero_iff.mp lower)
    obtain ⟨constant, drum⟩ := h.kit.drum loud
    have wanted : v.want.note ≠ 0 := by
      rw [h.note]
      exact fun none => loud (h.kit.silent.mp none)
    refine ⟨rfl, rfl, nibble, iff_of_false wanted some, fun _ => ⟨constant, ?_⟩⟩
    rw [← same] at drum
    exact h.note.trans drum

theorem Leaves.beat (h : v.Leaves t.alternateDrums a) (nibble : n.period < 16) (e : Emitter) :
    (v.beat t n e).2.Leaves t.alternateDrums (v.beat t n e).1 := by
  obtain ⟨period, volume, kit⟩ := h.follow nibble (v.beat t n e).1.struck
  have lane := h.lane.followNoise t n
  unfold Voice.beat at kit ⊢
  generalize v.followNoise t n = w at period volume kit lane ⊢
  dsimp only at kit ⊢
  obtain ⟨q, nothing, waits⟩ | ⟨q, same, moves⟩ := turn_noise_cases t w e
  · rw [nothing] at kit
    rw [waits, nothing]
    exact ⟨⟨lane.narrow, lane.want, lane.sent⟩, period, volume, rfl, kit, .inl rfl⟩
  · have sent := w.sent_noiseBurst
    have burst := lane.noiseBurst
    rw [same] at kit
    rw [moves, same]
    refine ⟨⟨burst.narrow, burst.want, burst.sent⟩, ?_, ?_, congrArg Tone.note sent.want, kit, ?_⟩
    · exact (congrArg Sighting.period w.seen_noiseBurst).trans period
    · exact (congrArg Sighting.volume w.seen_noiseBurst).trans volume
    · cases strikes_noiseBurst lane with
      | nothing none => exact .inl none
      | drum audible struck served =>
          have wanted : w.want.note ≠ 0 := ((audible_iff w).mp audible).1
          exact .inr ⟨served.pacer q, fun none => wanted (kit.silent.mpr none), _, struck⟩

/-- With nothing left to strike, only a rise brings a strike about. -/
theorem Leaves.quiet (h : v.Leaves t.alternateDrums a) (served : v.Served) {e : Emitter}
    (still : ¬ a.Rises (v.beat t n e).1) :
    (v.beat t n e).1.struck = [] ∧ (v.beat t n e).2.Served := by
  have still : ¬ (n.period ≠ v.seen.period ∨ v.seen.volume < n.loudness) := by
    rw [h.period, h.volume]
    exact still
  have served := served.followNoise still t
  have lane := h.lane.followNoise t n
  unfold Voice.beat
  obtain ⟨q, nothing, waits⟩ | ⟨q, same, moves⟩ := turn_noise_cases t (v.followNoise t n) e
  · simp only [nothing, waits]
    exact ⟨rfl, served.pacer q⟩
  · obtain ⟨none, served⟩ := served.noiseBurst lane
    simp only [same, moves]
    exact ⟨none, served.pacer q⟩

end Voice

/-! ## Many turns -/

/-- The beats that a noise voice makes, turn by turn, of what it finds the channel at. -/
inductive Drummed (t : Tuning) : Voice → List Beat → Prop
  | nil (v : Voice) : Drummed t v []
  | beat {v : Voice} {n : Noise} (nibble : n.period < 16) (e : Emitter) {rest : List Beat} :
      Drummed t (v.beat t n e).2 rest → Drummed t v ((v.beat t n e).1 :: rest)

namespace Drummed

variable {t : Tuning} {v : Voice} {a b : Beat} {beats : List Beat}

/-- Every beat leaves a voice that makes the beats after it. -/
theorem of_getElem? (h : Drummed t v beats) (leaves : v.Leaves t.alternateDrums a) {i : Nat}
    (here : (a :: beats)[i]? = some b) :
    ∃ w later, (a :: beats).drop i = b :: later ∧ w.Leaves t.alternateDrums b ∧
      Drummed t w later := by
  induction h generalizing a i with
  | nil v =>
      cases i with
      | zero =>
          cases here
          exact ⟨v, [], rfl, leaves, .nil v⟩
      | succ i => cases here
  | beat nibble e rest ih =>
      cases i with
      | zero =>
          cases here
          exact ⟨_, _, rfl, leaves, .beat nibble e rest⟩
      | succ i => exact ih (leaves.beat nibble e) here

/-- Before a voice with nothing left to strike strikes again, there is a rise. -/
theorem exists_rise (h : Drummed t v beats) (leaves : v.Leaves t.alternateDrums a)
    (served : v.Served) {j : Nat} (here : beats[j]? = some b) (strikes : b.struck ≠ []) :
    ∃ k x y, k ≤ j ∧ (a :: beats)[k]? = some x ∧ (a :: beats)[k + 1]? = some y ∧ x.Rises y := by
  -- Until the first rise the voice goes on having nothing to strike, however long it is held back.
  induction h generalizing a j with
  | nil v => cases here
  | @beat v n nibble e rest later ih =>
      by_cases rise : a.Rises (v.beat t n e).1
      · exact ⟨0, _, _, Nat.zero_le j, rfl, rfl, rise⟩
      · obtain ⟨none, served⟩ := leaves.quiet served rise
        cases j with
        | zero =>
            cases here
            exact absurd none strikes
        | succ j =>
            obtain ⟨k, x, y, le, first, second, rise⟩ := ih (leaves.beat nibble e) served here
            exact ⟨k + 1, x, y, Nat.succ_le_succ le, first, second, rise⟩

/-- From one strike to the next, and before the first, there is a rise. -/
theorem exists_rise_between (h : Drummed t v beats) (leaves : v.Leaves t.alternateDrums a)
    (served : v.Served) {i j : Nat} {x y : Beat} (lt : i < j) (first : (a :: beats)[i]? = some x)
    (reason : i = 0 ∨ x.struck ≠ []) (second : (a :: beats)[j]? = some y)
    (strikes : y.struck ≠ []) :
    ∃ k x y, i ≤ k ∧ k < j ∧ (a :: beats)[k]? = some x ∧ (a :: beats)[k + 1]? = some y ∧
      x.Rises y := by
  obtain ⟨n, rfl⟩ := Nat.exists_eq_add_of_lt lt
  obtain ⟨w, later, rest, leaves, drummed, served⟩ : ∃ w later,
      (a :: beats).drop i = x :: later ∧ w.Leaves t.alternateDrums x ∧ Drummed t w later ∧
        w.Served := by
    rcases reason with rfl | struck
    · cases first
      exact ⟨v, beats, rfl, leaves, h, served⟩
    · obtain ⟨w, later, rest, leaves, drummed⟩ := h.of_getElem? leaves first
      obtain none | ⟨served, -⟩ := leaves.struck
      · exact absurd none struck
      · exact ⟨w, later, rest, leaves, drummed, served⟩
  have shift (k : Nat) : (a :: beats)[i + k]? = (x :: later)[k]? := by
    rw [← rest, List.getElem?_drop]
  have here : later[n]? = some y := (shift (n + 1)).symm.trans second
  obtain ⟨k, x', y', le, before, after, rise⟩ := drummed.exists_rise leaves served here strikes
  exact ⟨i + k, x', y', Nat.le_add_right i k, by omega, (shift k).trans before,
    (shift (k + 1)).trans after, rise⟩

theorem of_append {front back : List Beat} (h : Drummed t v (front ++ back)) :
    Drummed t v front := by
  induction front generalizing v with
  | nil => exact .nil v
  | cons b front ih =>
      cases h with
      | beat nibble e rest => exact .beat nibble e (ih rest)

/-- Where nothing rises, a voice with nothing left to strike stays quiet. -/
theorem quiet_of_still (h : Drummed t v beats) (leaves : v.Leaves t.alternateDrums a)
    (served : v.Served) (still : (a :: beats).IsChain (¬ ·.Rises ·)) :
    beats.flatMap (·.struck) = [] := by
  induction h generalizing a with
  | nil v => rfl
  | beat nibble e rest ih =>
      obtain ⟨here, later⟩ := List.isChain_cons_cons.mp still
      obtain ⟨none, served⟩ := leaves.quiet served here
      rw [List.flatMap_cons, none, ih (leaves.beat nibble e) served later, List.nil_append]

/-- Where nothing rises, there is one strike at most. -/
theorem once_of_still (h : Drummed t v beats) (leaves : v.Leaves t.alternateDrums a)
    (still : (a :: beats).IsChain (¬ ·.Rises ·)) :
    ((a :: beats).flatMap (·.struck)).length ≤ 1 := by
  induction h generalizing a with
  | nil v =>
      obtain none | ⟨-, -, chan, struck⟩ := leaves.struck
      · simp [none]
      · simp [struck]
  | beat nibble e rest ih =>
      rw [List.flatMap_cons]
      obtain none | ⟨served, -, chan, struck⟩ := leaves.struck
      · rw [none, List.nil_append]
        exact ih (leaves.beat nibble e) (List.isChain_cons_cons.mp still).2
      · rw [struck, (Drummed.beat nibble e rest).quiet_of_still leaves served still]
        exact Nat.le_refl 1

theorem once_of_infix (h : Drummed t v beats) (leaves : v.Leaves t.alternateDrums a)
    {stretch : List Beat} (part : stretch <:+: a :: beats) (still : stretch.IsChain (¬ ·.Rises ·)) :
    (stretch.flatMap (·.struck)).length ≤ 1 := by
  obtain ⟨front, back, split⟩ := part
  cases stretch with
  | nil => exact Nat.zero_le 1
  | cons b stretch =>
      have here : (a :: beats)[front.length]? = some b := by
        rw [← split]
        simp
      obtain ⟨w, later, rest, leaves, drummed⟩ := h.of_getElem? leaves here
      have parts : later = stretch ++ back := by
        rw [← split] at rest
        simpa using rest.symm
      rw [parts] at drummed
      exact drummed.of_append.once_of_still leaves still

end Drummed

/-! ## Runs -/

namespace Chip

variable {c : Chip} {t : Tuning} {o : Operation}

/-- The beat of a call that transmits. -/
def beat (c : Chip) (o : Operation) : Beat where
  period := (c.operate o).1.synth.noise.period
  loudness := (c.operate o).1.synth.noise.loudness
  note := ((c.operate o).1.scribe.voice .noise).want.note
  struck := strikes (c.partNotes o .noise)

/-- The beats of a run, one for each call that transmits. -/
def beats (c : Chip) : List Operation → List Beat
  | [] => []
  | o :: rest =>
      let later := (c.operate o).1.beats rest
      if o.transmits then c.beat o :: later else later

/-- The chip as it stands; nothing is struck. -/
def standing (c : Chip) : Beat :=
  ⟨c.synth.noise.period, c.synth.noise.loudness, (c.scribe.voice .noise).want.note, []⟩

/-- A period is four bits wide. -/
theorem nibble_operate (nibble : c.synth.noise.period < 16) :
    (c.operate o).1.synth.noise.period < 16 := by
  have clocked : c.synth.clock.noise.period = c.synth.noise.period := by
    have advanced : (c.synth.noise.advance c.synth.region).period = c.synth.noise.period := by
      unfold Noise.advance
      repeat' split
      all_goals rfl
    refine Eq.trans ?_ advanced
    unfold Synth.clock
    cases c.synth.frame.signal <;> rfl
  rw [synth_operate]
  cases o with
  | power => exact (by decide : (0 : UInt8) < 16)
  | clock memory => rwa [Synth.operate, clocked]
  | write address data =>
      simp only [Synth.operate]
      cases Register.ofAddress? address with
      | none => exact nibble
      | some register =>
          cases register with
          | noisePeriod => exact UInt8.lt_of_le_of_lt UInt8.and_le_right (by decide)
          | pulseControl side | pulseSweep side | pulseTimerLow side | pulseTimerHigh side =>
              cases side <;> exact nibble
          | _ => exact nibble
  | read address openBus =>
      simp only [Synth.operate]
      split <;> exact nibble
  | supply | transcribe | setUpReceiver | silence | withTuning | withLibrary => exact nibble

/-- Between its turns the noise voice stands still. -/
theorem voice_noise_of_still (working : o.working = true) (still : o.transmits = false) :
    (c.operate o).1.scribe.voice .noise = c.scribe.voice .noise := by
  rw [c.voice_operate]
  cases o with
  | clock | transcribe => cases still
  | write address data =>
      simp only [scribed]
      cases Register.ofAddress? address with
      | none => rfl
      | some register =>
          cases register with
          | pulseTimerLow side | pulseTimerHigh side => cases side <;> rfl
          | _ => rfl
  | read | supply => rfl
  | _ => cases working

/-- A voice's turn is its scribe's, and leaves what was wanted. -/
theorem beat_of_turn (s : Scribe) (m : Memory) (synth : Synth) :
    let turned := (s.follow m synth).1.turn .noise
    ∃ e, (⟨synth.noise.period, synth.noise.loudness, turned.1.want.note,
        strikes (notes turned.2.2)⟩, turned.1) = (s.voice .noise).beat s.tuning synth.noise e := by
  intro turned
  let f := (s.follow m synth).1
  let e := f.emitterAfter (Part.turnOrder.takeWhile (· ≠ .noise))
  have want : turned.1.want = (f.voice .noise).want := by
    obtain ⟨q, -, waits⟩ | ⟨q, -, moves⟩ := Voice.turn_noise_cases s.tuning (f.voice .noise) e
    · exact (congrArg Voice.want waits :)
    · exact (congrArg Voice.want moves :).trans (f.voice .noise).sent_noiseBurst.want
  refine ⟨e, ?_⟩
  rw [want]
  rfl

/-- The beat of a call is that of the voice. -/
theorem beat_of_transmits (transmits : o.transmits = true) :
    ∃ e, (c.beat o, (c.operate o).1.scribe.voice .noise) =
      (c.scribe.voice .noise).beat c.scribe.tuning (c.operate o).1.synth.noise e := by
  have voice := c.voice_scribed o .noise
  rw [← c.voice_operate] at voice
  cases o with
  | clock memory =>
      rw [beat, voice]
      exact beat_of_turn c.scribe memory c.synth.clock
  | transcribe memory =>
      rw [beat, voice]
      exact beat_of_turn c.scribe memory c.synth
  | _ => cases transmits

theorem drummed_beats {ops : List Operation} (tuning : c.scribe.tuning = t)
    (nibble : c.synth.noise.period < 16) (working : ∀ o ∈ ops, o.working = true) :
    Drummed t (c.scribe.voice .noise) (c.beats ops) := by
  induction ops generalizing c with
  | nil => exact .nil _
  | cons o ops ih =>
      obtain ⟨here, later⟩ := List.forall_mem_cons.mp working
      have next := nibble_operate (o := o) nibble
      have rest := ih ((c.tuning_of_working here).trans tuning) next later
      rw [beats]
      cases transmits : o.transmits with
      | true =>
          obtain ⟨e, turn⟩ := beat_of_transmits (c := c) transmits
          rw [tuning] at turn
          obtain ⟨beat, voice⟩ := Prod.mk.inj turn
          rw [if_pos rfl, beat]
          rw [voice] at rest
          exact .beat next e rest
      | false =>
          rw [voice_noise_of_still here transmits] at rest
          exact rest

/-- The beats have every strike of the noise channel. -/
theorem strikes_partLog {ops : List Operation} (working : ∀ o ∈ ops, o.working = true) :
    strikes (c.partLog .noise ops) = (c.beats ops).flatMap (·.struck) := by
  induction ops generalizing c with
  | nil => rfl
  | cons o ops ih =>
      obtain ⟨here, later⟩ := List.forall_mem_cons.mp working
      rw [partLog, strikes_append, ih later, beats]
      cases o with
      | clock | transcribe | write | read | supply => rfl
      | _ => cases here

/-- Power leaves nothing to be heard, and nothing to be struck. -/
theorem leaves_power (c : Chip) (alternate : Bool) :
    (c.power.1.scribe.voice .noise).Leaves alternate c.power.1.standing where
  lane := (Part.placed_home .noise : Part.Placed (fun _ => True) .noise _)
  period := rfl
  volume := rfl
  note := rfl
  kit := ⟨(by decide : (0 : UInt8) < 16), iff_of_true rfl rfl, fun loud => absurd rfl loud⟩
  struck := .inl rfl

/-- How the drums that a run strikes follow the noise channel, beat by beat. -/
structure FollowsNoise (alternate : Bool) (struck : List Key) (beats : List Beat) : Prop where
  /-- Every strike is in its beat. -/
  whole : struck = beats.flatMap (·.struck)
  /-- No drum is wanted exactly while the channel is silent. -/
  silent {b : Beat} : b ∈ beats → (b.note = 0 ↔ b.loudness = 0)
  /-- Otherwise it is the drum of the period; only the two fastest have a choice. -/
  drum {b : Beat} : b ∈ beats → b.loudness ≠ 0 → 2 ≤ b.period →
    ∀ constant, b.note = (Drum.ofPeriod alternate constant b.period).key
  /-- What is struck is the wanted drum, while the channel is heard. -/
  audible {b : Beat} {k : Key} : b ∈ beats → k ∈ b.struck →
    b.loudness ≠ 0 ∧ ∃ chan, k = .of chan b.note
  /-- From one strike to the next, and before the first, there is a rise. -/
  cause {i j : Nat} {a b : Beat} : i < j → beats[i]? = some a → i = 0 ∨ a.struck ≠ [] →
    beats[j]? = some b → b.struck ≠ [] →
      ∃ k x y, i ≤ k ∧ k < j ∧ beats[k]? = some x ∧ beats[k + 1]? = some y ∧ x.Rises y
  /-- A stretch in which nothing rises has one strike at most. -/
  once {stretch : List Beat} : stretch <:+: beats → stretch.IsChain (¬ ·.Rises ·) →
    (stretch.flatMap (·.struck)).length ≤ 1

/-- From power on, drums are struck for what the channel does, and for nothing twice. -/
theorem drums_follow_noise (c : Chip) {ops : List Operation}
    (working : ∀ o ∈ ops, o.working = true) :
    FollowsNoise c.scribe.tuning.alternateDrums (strikes (c.power.1.partLog .noise ops))
      (c.power.1.standing :: c.power.1.beats ops) := by
  have whole : strikes (c.power.1.partLog .noise ops) =
      (c.power.1.standing :: c.power.1.beats ops).flatMap (·.struck) := strikes_partLog working
  have start := c.leaves_power c.scribe.tuning.alternateDrums
  have drummed : Drummed c.scribe.tuning (c.power.1.scribe.voice .noise) (c.power.1.beats ops) :=
    drummed_beats rfl (by decide : (0 : UInt8) < 16) working
  have served : (c.power.1.scribe.voice .noise).Served :=
    Voice.served_of_inaudible rfl rfl
  generalize c.power.1.scribe.voice .noise = v at start drummed served
  generalize c.power.1.standing = a at start whole ⊢
  generalize c.power.1.beats ops = beats at drummed whole ⊢
  generalize c.scribe.tuning = t at start drummed ⊢
  have left {b : Beat} (member : b ∈ a :: beats) : ∃ w : Voice, w.Leaves t.alternateDrums b := by
    obtain ⟨i, here⟩ := List.mem_iff_getElem?.mp member
    obtain ⟨w, later, -, leaves, -⟩ := drummed.of_getElem? start here
    exact ⟨w, leaves⟩
  refine ⟨whole, ?silent, ?drum, ?audible, drummed.exists_rise_between start served,
    drummed.once_of_infix start⟩
  case silent =>
    intro b member
    obtain ⟨w, leaves⟩ := left member
    exact leaves.kit.silent
  case drum =>
    intro b member loud slow constant
    obtain ⟨w, leaves⟩ := left member
    obtain ⟨constant', drum⟩ := leaves.kit.drum loud
    rw [drum, Drum.ofPeriod_congr leaves.kit.nibble slow _ constant' constant]
  case audible =>
    intro b k member struck
    obtain ⟨w, leaves⟩ := left member
    obtain none | ⟨-, loud, chan, drum⟩ := leaves.struck
    · rw [none] at struck
      cases struck
    · rw [drum, List.mem_singleton] at struck
      exact ⟨loud, chan, struck⟩

/-- A snare, then a quieter bass drum that waits for the cable. -/
theorem drums_follow_noise_held_back :
    let c : Chip := ofSettings { tuning := { cyclesPerMessage := 2 } }
    let ops : List Operation :=
      [.write 0x4015 0x08, .write 0x400C 0x1F, .write 0x400E 0x08, .write 0x400F 0x08,
        .clock .zero, .write 0x400C 0x18, .write 0x400E 0x0C, .clock .zero, .transcribe .zero,
        .read 0x4015 0, .clock .zero, .supply 0, .clock .zero]
    (∀ o ∈ ops, o.working = true) ∧
      FollowsNoise c.scribe.tuning.alternateDrums (strikes (c.power.1.partLog .noise ops))
        (c.power.1.standing :: c.power.1.beats ops) ∧
      (c.power.1.beats ops).map (·.struck) = [[⟨9, 38⟩], [], [], [⟨9, 35⟩], []] := by
  intro c ops
  have working : ∀ o ∈ ops, o.working = true := by
    simp [ops, Operation.working]
  exact ⟨working, c.drums_follow_noise working, by decide +kernel⟩

end Chip

end ChipScribe
