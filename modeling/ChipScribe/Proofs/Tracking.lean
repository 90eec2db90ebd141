import ChipScribe.Proofs.Addressing
import ChipScribe.Proofs.Bracketing

/-!
# A receiver behind the chip

Four of the voices share the lower channels: the instruments of the library are
kept off them.  A receiver that has heard a chip from the start holds there
exactly what these voices remember, and the emitter's beliefs are right.
-/

namespace ChipScribe

open Midi

/-- A channel, as a status byte carries it, in the upper half. -/
def Upper (chan : UInt8) : Prop :=
  8 ≤ chan &&& 0x0F

def Lower (k : Key) : Prop :=
  k.chan < 8

instance : DecidablePred Lower := fun k => inferInstanceAs (Decidable (k.chan < 8))

/-! ## What the scribe sends, over the link -/

namespace Scribe

/-- The emitter of the scribe, and a receiver behind it. -/
def link (c : Scribe) (r : Receiver) : Link :=
  ⟨c.emitter, r⟩

/-- To transmit is to send what the parts ask for, in their order. -/
theorem link_transmit (c : Scribe) (r : Receiver) :
    c.transmit.1.link (r.hear c.transmit.2) =
      (c.link r).send (Part.turnOrder.flatMap c.asked) := by
  let dmc := c.perform .dmc c.emitter
  let noise := c.perform .noise dmc.2.1
  let triangle := c.perform .triangle noise.2.1
  let pulse1 := c.perform (.pulse .first) triangle.2.1
  let pulse2 := c.perform (.pulse .second) pulse1.2.1
  have emitter : c.transmit.1.emitter = pulse2.2.1 := rfl
  have messages : c.transmit.2 =
      dmc.2.2 ++ noise.2.2 ++ triangle.2.2 ++ pulse1.2.2 ++ pulse2.2.2 := rfl
  have asked : Part.turnOrder.flatMap c.asked = c.asked .dmc ++ c.asked .noise ++
      c.asked .triangle ++ c.asked (.pulse .first) ++ c.asked (.pulse .second) := by
    simp [Part.turnOrder]
  have step (k : Link) (p : Part) :
      k.send (c.asked p) =
        ⟨(c.perform p k.emitter).2.1, k.receiver.hear (c.perform p k.emitter).2.2⟩ := by
    rw [c.deliver_asked p k.emitter]
    rfl
  rw [link, emitter, messages, asked]
  simp only [Link.send_append, Receiver.hear_append, step, link]
  rfl

theorem link_reset (c : Scribe) (r : Receiver) :
    c.reset.1.link (r.hear c.reset.2) = (c.link r).announce c.releases hushSequence := by
  simp only [reset, link, Link.announce_eq]

theorem link_setUp (c : Scribe) (r : Receiver) :
    c.setUp.1.link (r.hear c.setUp.2) =
      ((c.link r).announce c.releases hushSequence).announce [] setupSequence := by
  rw [← link_reset, Link.announce_eq]
  simp only [setUp, setUpWith, link, Receiver.hear_append]

end Scribe

/-! ## Held keys of the lower channels -/

private theorem not_lower {e : NoteEvent} (upper : 8 ≤ e.key.chan) : ¬ Lower e.key :=
  UInt8.not_lt.mpr upper

theorem Voice.OnChannels.confined_release {v : Voice} (h : v.OnChannels Upper) :
    Confined (8 ≤ ·) (Scribe.sentRelease v) :=
  (Part.Placed.addressed_release (p := .dmc) h).confined fun _ upper => upper

namespace Scribe

theorem confined_asked_dmc (c : Scribe) (placed : Part.dmc.Placed Upper (c.voice .dmc)) :
    Confined (8 ≤ ·) (c.asked .dmc) :=
  (c.addressed_asked placed).confined fun _ upper => upper

def sounding (c : Scribe) : Multiset Key :=
  c.pulse1.sounding + c.pulse2.sounding + c.triangle.sounding + c.noise.sounding

/-- The receiver holds on the lower channels what the voices remember. -/
def Tracked (c : Scribe) (r : Receiver) : Prop :=
  r.held.filter Lower = c.sounding.filter Lower

variable {c : Scribe} {r : Receiver}

private theorem filter_play_burst {v : Voice} {b : Voice.Burst} (plays : v.Plays b)
    {held beside : Multiset Key}
    (split : held.filter Lower = beside + v.sounding.filter Lower) :
    (play held (notes b.2)).filter Lower = beside + b.1.sounding.filter Lower := by
  rw [plays.orderly.filter_play Lower split, plays.remembered]

private theorem rotate (a b c d : Multiset Key) : a + b + c + d = b + c + d + a := by
  rw [add_assoc, add_assoc, add_comm, ← add_assoc]

theorem Tracked.transmit (h : c.Tracked r) (placed : ∀ p : Part, p.Placed Upper (c.voice p)) :
    c.transmit.1.Tracked (r.hear c.transmit.2) := by
  have plays (p : Part) (lower : p ≠ .dmc) := c.plays_asked (placed p) fun eq => absurd eq lower
  have noise := plays .noise (by decide)
  have triangle := plays .triangle (by decide)
  have pulse1 := plays (.pulse .first) (by decide)
  have pulse2 := plays (.pulse .second) (by decide)
  have upper : ∀ e ∈ notes (c.asked .dmc), ¬ Lower e.key := fun e member =>
    not_lower ((c.confined_asked_dmc (placed .dmc)).note_chan e member)
  have events : notes c.transmit.2 = notes (c.asked .dmc) ++ (notes (c.asked .noise) ++
      (notes (c.asked .triangle) ++ (notes (c.asked (.pulse .first)) ++
        notes (c.asked (.pulse .second))))) := by
    rw [messages_transmit, Chip.notes_flatMap]
    simp [Part.turnOrder, notes_turn]
  unfold Tracked sounding at h ⊢
  simp only [Multiset.filter_add] at h ⊢
  rw [Receiver.held_hear, events]
  simp only [play_append]
  -- one voice after the other plays beside what the rest remembers
  have untouched : (play r.held (notes (c.asked .dmc))).filter Lower = r.held.filter Lower :=
    filter_play_of_not Lower upper
  have dmcDone := untouched.trans h
  have noiseDone := filter_play_burst noise dmcDone
  have triangleDone := filter_play_burst triangle (noiseDone.trans (add_right_comm _ _ _))
  have pulse1Done := filter_play_burst pulse1 (triangleDone.trans (rotate _ _ _ _))
  have pulse2Done := filter_play_burst pulse2 (pulse1Done.trans (rotate _ _ _ _))
  have noiseVoice : c.transmit.1.noise = (c.turn .noise).1 := c.voice_transmit .noise
  have triangleVoice : c.transmit.1.triangle = (c.turn .triangle).1 := c.voice_transmit .triangle
  have pulse1Voice : c.transmit.1.pulse1 = (c.turn (.pulse .first)).1 :=
    c.voice_transmit (.pulse .first)
  have pulse2Voice : c.transmit.1.pulse2 = (c.turn (.pulse .second)).1 :=
    c.voice_transmit (.pulse .second)
  rw [noiseVoice, triangleVoice, pulse1Voice, pulse2Voice]
  have all := (pulse2Done.trans (rotate _ _ _ _)).trans (rotate _ _ _ _)
  rwa [add_right_comm] at all

theorem Tracked.reset (h : c.Tracked r) (placed : ∀ p : Part, p.Placed Upper (c.voice p)) :
    c.reset.1.Tracked (r.hear c.reset.2) := by
  have release (p : Part) (lower : p ≠ .dmc) :=
    (placed p).notes_release fun eq => absurd eq lower
  have upper : ∀ e ∈ notes (Part.dmc.release (c.voice .dmc)), ¬ Lower e.key := fun e member =>
    not_lower ((Voice.OnChannels.confined_release (placed .dmc)).note_chan e member)
  let keysOf (p : Part) : List Key := p.releasedKeys (c.voice p)
  let keys : List Key :=
    keysOf (.pulse .first) ++ keysOf (.pulse .second) ++ keysOf .triangle ++ keysOf .noise
  have events : notes c.reset.2 = keys.map .off ++ notes (Part.dmc.release (c.voice .dmc)) := by
    have pulse1 := release (.pulse .first) (by decide)
    have pulse2 := release (.pulse .second) (by decide)
    have triangle := release .triangle (by decide)
    have noise := release .noise (by decide)
    rw [Chip.notes_reset]
    simp [Part.releaseOrder, keys, keysOf, pulse1, pulse2, triangle, noise]
  have all : c.sounding ≤ (keys : Multiset Key) := by
    have pulse1 := (placed (.pulse .first)).sounding_le
    have pulse2 := (placed (.pulse .second)).sounding_le
    have triangle := (placed .triangle).sounding_le
    have noise := (placed .noise).sounding_le
    simp only [keys, ← Multiset.coe_add]
    exact add_le_add (add_le_add (add_le_add pulse1 pulse2) triangle) noise
  have lower : r.held.filter Lower ≤ (keys : Multiset Key) := by
    rw [(h : r.held.filter Lower = _)]
    exact (Multiset.filter_le _ _).trans all
  have released : c.reset.1.sounding = 0 := by
    simp [sounding, Scribe.reset, Voice.sounding, Voice.released]
  unfold Tracked
  rw [Receiver.held_hear, events, play_append, filter_play_of_not Lower upper,
    filter_play_releases Lower lower, released]
  rfl

theorem sounding_congr {c' : Scribe} (same : ∀ p, (c'.voice p).sounding = (c.voice p).sounding) :
    c'.sounding = c.sounding := by
  have pulse1 : c'.pulse1.sounding = c.pulse1.sounding := same (.pulse .first)
  have pulse2 : c'.pulse2.sounding = c.pulse2.sounding := same (.pulse .second)
  have triangle : c'.triangle.sounding = c.triangle.sounding := same .triangle
  have noise : c'.noise.sounding = c.noise.sounding := same .noise
  simp only [sounding, pulse1, pulse2, triangle, noise]

theorem Tracked.congr {c' : Scribe} (h : c.Tracked r)
    (same : ∀ p, (c'.voice p).sounding = (c.voice p).sounding) : c'.Tracked r := by
  rw [Tracked, sounding_congr same]
  exact h

theorem Tracked.follow (h : c.Tracked r) (m : Memory) (s : Synth) :
    (c.follow m s).1.Tracked r := by
  refine h.congr fun p => ?_
  have followed := c.followed_voice m s p
  exact Voice.sounding_congr (congrArg _ followed.sent) (congrArg _ followed.sent)

theorem Tracked.setUp (h : c.Tracked r) (placed : ∀ p : Part, p.Placed Upper (c.voice p)) :
    c.setUp.1.Tracked (r.hear c.setUp.2) := by
  have silent : c.setUp.1.sounding = 0 := rfl
  have released : c.reset.1.sounding = 0 := by
    simp [sounding, Scribe.reset, Voice.sounding, Voice.released]
  have reset := h.reset placed
  unfold Tracked at reset ⊢
  rw [Receiver.held_hear, Chip.notes_setUp, ← Receiver.held_hear, reset, released, silent]

end Scribe

/-! ## Along a run -/

namespace Chip

/-- The receiver has heard the chip from the start; all instruments are on upper channels. -/
structure Tracks (c : Chip) (r : Receiver) : Prop where
  library : c.scribe.library.All (Upper ·.channel)
  placed (p : Part) : p.Placed Upper (c.scribe.voice p)
  held : c.scribe.Tracked r
  coherent : (c.scribe.link r).Coherent

theorem tracks_new (s : Settings) {r : Receiver} (none : r.held = 0) : (ofSettings s).Tracks r where
  library := Library.all_empty.dumpingTo s.dumpDirectory
  placed p := by
    have fresh : (ofSettings s).scribe.voice p = {} := by
      rcases p with (_ | _) | _ | _ | _ <;> rfl
    rw [fresh]
    exact p.placed_new
  held := by
    rw [Scribe.Tracked, none]
    rfl
  coherent := by
    intro status level believed
    simp [Scribe.link, ofSettings, Emitter.initial] at believed

variable {c : Chip} {r : Receiver}

private theorem Tracks.placed_follow (h : c.Tracks r) (m : Memory) (s : Synth) (p : Part) :
    p.Placed Upper ((c.scribe.follow m s).1.voice p) :=
  placed_invariant.voice_follow h.library (h.placed p) m s

theorem Tracks.held_scribed (h : c.Tracks r) (o : Operation) :
    (c.scribed o).1.Tracked (r.hear (c.scribed o).2) := by
  have voice (p : Part) := c.voice_scribed o p
  cases o with
  | power | setUpReceiver => exact h.held.setUp h.placed
  | silence => exact h.held.reset h.placed
  | clock memory => exact (h.held.follow memory _).transmit (h.placed_follow memory _)
  | transcribe memory => exact (h.held.follow memory _).transmit (h.placed_follow memory _)
  | write address data =>
      have quiet : (c.scribed (.write address data)).2 = [] := by
        simp only [scribed]
        split <;> rfl
      rw [quiet]
      exact h.held.congr fun p =>
        Voice.sounding_congr (congrArg _ (voice p).sent) (congrArg _ (voice p).sent)
  | read | supply | withTuning | withLibrary => exact h.held

theorem Tracks.coherent_scribed (h : c.Tracks r) (o : Operation) :
    ((c.scribed o).1.link (r.hear (c.scribed o).2)).Coherent := by
  cases o with
  | power | setUpReceiver =>
      rw [scribed, Scribe.link_setUp]
      exact Link.coherent_announce _ _ _
  | silence =>
      rw [scribed, Scribe.link_reset]
      exact Link.coherent_announce _ _ _
  | clock memory | transcribe memory =>
      rw [scribed, Scribe.link_transmit]
      exact Link.Coherent.send h.coherent _
  | write address data =>
      simp only [scribed]
      split
      next register _ =>
        have same : (c.scribe.watchWrite c.synth register data).emitter = c.scribe.emitter := by
          cases register with
          | pulseTimerLow side | pulseTimerHigh side => cases side <;> rfl
          | _ => rfl
        exact h.coherent.congr (congrArg _ same) rfl
      next => exact h.coherent
  | read | supply | withTuning | withLibrary => exact h.coherent

theorem Tracks.operate (h : c.Tracks r) {o : Operation} (brings : o.Brings (Upper ·.channel)) :
    (c.operate o).1.Tracks (r.hear (c.operate o).2.midi) where
  library := library_operate h.library brings
  placed p := placed_invariant.operate o h.library (h.placed p)
  held := by
    rw [midi_operate]
    exact (h.held_scribed o).congr fun p => congrArg Voice.sounding (c.voice_operate o p)
  coherent := by
    rw [midi_operate]
    exact (h.coherent_scribed o).congr (c.controllers_operate o) rfl

theorem Tracks.after (h : c.Tracks r) {ops : List Operation}
    (high : ∀ o ∈ ops, o.Brings (Upper ·.channel)) :
    (c.after ops).Tracks (r.hear (c.sent ops)) := by
  induction ops generalizing c r with
  | nil => exact h
  | cons o ops ih =>
      have here := h.operate (high o List.mem_cons_self)
      have rest := ih here fun o' member => high o' (List.mem_cons_of_mem o member)
      rw [after_cons, sent_cons, Receiver.hear_append]
      exact rest

end Chip

end ChipScribe
