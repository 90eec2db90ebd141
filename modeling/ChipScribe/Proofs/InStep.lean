import ChipScribe.Proofs.Regions

/-!
# Pulse voices keep the receiver in step

A pulse voice sends only what has changed since its last burst, and the tone it
compares with describes whichever of its four channels it used last.  What
carries the proof is `Voice.Agrees`: on that channel the receiver holds the
volume and the bend of the tone last sent.
-/

namespace ChipScribe

open Midi

namespace Voice

variable {v : Voice}

/-! ## The tone after a burst -/

theorem fadeBurst_of_vel (loud : v.want.vel ≠ 0) : v.fadeBurst = (v, []) := by
  unfold fadeBurst
  rw [if_neg]
  simp [loud]

/-- A change moves note and channel to the wanted ones, and leaves loudness and bend behind. -/
theorem changeBurst_of_audible (audible : v.audible = true) (t : Tuning) :
    (v.changeBurst t).1.want = v.want ∧
      (v.changeBurst t).1.sent.note = v.want.note ∧ (v.changeBurst t).1.sent.chan = v.want.chan ∧
      (v.changeBurst t).1.sent.vel = v.sent.vel ∧
      (v.changeBurst t).1.sent.wheel = v.sent.wheel := by
  unfold changeBurst
  split
  · have want : v.releaseBurst.1.want = v.want := v.sent_releaseBurst.want
    have released : v.releaseBurst.1.sent.vel = v.sent.vel ∧
        v.releaseBurst.1.sent.wheel = v.sent.wheel := by
      unfold releaseBurst
      split <;> exact ⟨rfl, rfl⟩
    have strikes : v.releaseBurst.1.audible = true := by
      rw [Voice.audible, want]
      exact audible
    simp only [Burst.andThen, strikeBurst, strikes, ↓reduceIte]
    exact ⟨want, congrArg _ want, congrArg _ want, released⟩
  next same =>
    simp only [Bool.or_eq_true, bne_iff_ne, not_or, not_not] at same
    exact ⟨rfl, same.1.symm, same.2.symm, rfl, rfl⟩

theorem bendBurst_of_audible (audible : v.audible = true) (lastChan : UInt8) :
    (v.bendBurst lastChan).1.sent.note = v.sent.note ∧
      (v.bendBurst lastChan).1.sent.chan = v.sent.chan ∧
      (v.bendBurst lastChan).1.sent.vel = v.sent.vel ∧
      (v.bendBurst lastChan).1.sent.wheel = v.want.wheel := by
  unfold bendBurst
  split
  · exact ⟨rfl, rfl, rfl, rfl⟩
  next same =>
    simp only [audible, Bool.true_and, Bool.or_eq_true, bne_iff_ne, not_or, not_not] at same
    exact ⟨rfl, rfl, rfl, same.1.symm⟩

theorem volumeBurst_of_audible (audible : v.audible = true) (lastChan : UInt8) :
    (v.volumeBurst lastChan).1.sent.note = v.sent.note ∧
      (v.volumeBurst lastChan).1.sent.chan = v.sent.chan ∧
      (v.volumeBurst lastChan).1.sent.vel = v.want.vel ∧
      (v.volumeBurst lastChan).1.sent.wheel = v.sent.wheel := by
  unfold volumeBurst
  split
  · exact ⟨rfl, rfl, rfl, rfl⟩
  next same =>
    simp only [audible, Bool.true_and, Bool.or_eq_true, bne_iff_ne, not_or, not_not] at same
    exact ⟨rfl, rfl, same.1.symm, rfl⟩

theorem audible_of_sent {w : Voice} (sent : v.Sent w) : w.audible = v.audible := by
  rw [audible, sent.want]
  rfl

theorem pulseBurst_of_audible (audible : v.audible = true) (t : Tuning) :
    v.pulseBurst t =
      ((v.changeBurst t).andThen (bendBurst v.sent.chan)).andThen (volumeBurst v.sent.chan) := by
  have loud : v.want.vel ≠ 0 := by
    simp only [Voice.audible, Bool.and_eq_true, bne_iff_ne] at audible
    exact audible.2
  rw [pulseBurst, fadeBurst_of_vel loud]
  rfl

theorem sent_of_audible (audible : v.audible = true) (t : Tuning) :
    (v.pulseBurst t).1.sent.note = v.want.note ∧ (v.pulseBurst t).1.sent.chan = v.want.chan ∧
      (v.pulseBurst t).1.sent.vel = v.want.vel ∧ (v.pulseBurst t).1.sent.wheel = v.want.wheel := by
  rw [pulseBurst_of_audible audible, Burst.andThen, Burst.andThen]
  dsimp only
  obtain ⟨want, note, chan, vel, wheel⟩ := changeBurst_of_audible audible t
  let w := (v.changeBurst t).1
  have bends : w.audible = true := (audible_of_sent (v.sent_changeBurst t)).trans audible
  obtain ⟨note', chan', vel', wheel'⟩ := bendBurst_of_audible bends v.sent.chan
  let x := (w.bendBurst v.sent.chan).1
  have sent := w.sent_bendBurst v.sent.chan
  obtain ⟨note'', chan'', vel'', wheel''⟩ :=
    volumeBurst_of_audible ((audible_of_sent sent).trans bends) v.sent.chan
  refine ⟨note''.trans (note'.trans note), chan''.trans (chan'.trans chan), ?_, ?_⟩
  · rw [sent.want, want] at vel''
    exact vel''
  · rw [wheel', want] at wheel''
    exact wheel''

theorem pulseBurst_of_inaudible (silent : v.audible = false) (t : Tuning) :
    v.pulseBurst t = v.fadeBurst.andThen (changeBurst t) := by
  have faded : v.fadeBurst.1.audible = false := (audible_of_sent v.sent_fadeBurst).trans silent
  have changed : (v.fadeBurst.1.changeBurst t).1.audible = false :=
    (audible_of_sent (v.fadeBurst.1.sent_changeBurst t)).trans faded
  simp only [pulseBurst, Burst.andThen, bendBurst, volumeBurst, changed, Bool.false_and,
    Bool.false_eq_true, ↓reduceIte, List.append_nil]

theorem changeBurst_of_inaudible (silent : v.audible = false) (t : Tuning) :
    v.changeBurst t =
      if v.want.note != v.sent.note || v.want.chan != v.sent.chan then v.releaseBurst
      else (v, []) := by
  have released : v.releaseBurst.1.audible = false :=
    (audible_of_sent v.sent_releaseBurst).trans silent
  simp only [changeBurst, Burst.andThen, strikeBurst, released, Bool.false_eq_true, ↓reduceIte,
    List.append_nil]

/-- A tone that is not to be heard releases the note, which still has its loudness. -/
theorem sent_of_inaudible (silent : v.audible = false) (loud : v.sent.note ≠ 0 → v.sent.vel ≠ 0)
    (t : Tuning) :
    (v.pulseBurst t).1.sent.note = 0 ∧ (v.pulseBurst t).1.sent.chan = v.sent.chan ∧
      ((v.pulseBurst t).1.sent.vel = v.sent.vel ∨ (v.pulseBurst t).1.sent.vel = 0) ∧
      (v.pulseBurst t).1.sent.wheel = v.sent.wheel := by
  have faded : v.fadeBurst.1.audible = false := (audible_of_sent v.sent_fadeBurst).trans silent
  rw [pulseBurst_of_inaudible silent, Burst.andThen, changeBurst_of_inaudible faded]
  dsimp only
  unfold fadeBurst releaseBurst
  split
  · split
    · exact ⟨rfl, rfl, .inr rfl, rfl⟩
    · exact ⟨rfl, rfl, .inr rfl, rfl⟩
  next held =>
    split
    · split
      · exact ⟨rfl, rfl, .inl rfl, rfl⟩
      next none =>
        refine ⟨?_, rfl, .inl rfl, rfl⟩
        simpa using none
    next same =>
      refine ⟨?_, rfl, .inl rfl, rfl⟩
      -- the wanted note is sounding, so it faded out, unless it is none
      by_contra sounds
      have vel := loud sounds
      simp only [Bool.or_eq_true, bne_iff_ne, not_or, not_not] at same
      have wanted : v.want.note ≠ 0 := by
        rw [same.1]
        exact sounds
      have soft : v.want.vel = 0 := by
        simpa [audible, wanted] using silent
      simp [sounds, soft, vel] at held

/-- The tone last sent is the wanted one, or there is none to be heard. -/
structure UpToDate (v : Voice) : Prop where
  tone : v.audible = true →
    v.sent.note = v.want.note ∧ v.sent.chan = v.want.chan ∧ v.sent.vel = v.want.vel ∧
      v.sent.wheel = v.want.wheel
  silent : v.audible = false → v.sent.note = 0

theorem UpToDate.congr {w : Voice} (h : v.UpToDate) (want : w.want = v.want)
    (sent : w.sent = v.sent) : w.UpToDate := by
  constructor
  · rw [Voice.audible, want, sent]
    exact h.tone
  · rw [Voice.audible, want, sent]
    exact h.silent

theorem upToDate_pulseBurst (loud : v.sent.note ≠ 0 → v.sent.vel ≠ 0) (t : Tuning) :
    (v.pulseBurst t).1.UpToDate := by
  have sent := v.sent_pulseBurst t
  constructor
  · intro audible
    rw [audible_of_sent sent] at audible
    rw [sent.want]
    exact sent_of_audible audible t
  · intro silent
    rw [audible_of_sent sent] at silent
    exact (sent_of_inaudible silent loud t).1

/-! ## What the receiver holds of it -/

/-- The receiver holds the loudness and the bend of the tone last sent, on its channel. -/
structure Agrees (v : Voice) (r : Receiver) : Prop where
  loud : v.sent.note ≠ 0 → v.sent.vel ≠ 0
  placed : v.sent.vel ≠ 0 ∨ v.sent.wheel ≠ 0 → ∃ duty, v.sent.chan = v.lane duty
  volume : v.sent.vel ≠ 0 → r.volume v.sent.chan = some (v.sent.vel &&& 0x7F)
  bend : v.sent.wheel ≠ 0 → r.bend v.sent.chan = some v.sent.wheel

theorem agrees_of_fresh (fresh : v.sent = {}) (r : Receiver) : v.Agrees r := by
  constructor
  · intro sounds
    rw [fresh] at sounds
    exact absurd rfl sounds
  · intro set
    rw [fresh] at set
    exact absurd rfl (set.resolve_left (absurd rfl))
  · intro loud
    rw [fresh] at loud
    exact absurd rfl loud
  · intro bent
    rw [fresh] at bent
    exact absurd rfl bent

theorem Agrees.congr {w : Voice} {r : Receiver} (h : v.Agrees r) (sent : w.sent = v.sent)
    (lanes : w.lanes = v.lanes) : w.Agrees r := by
  constructor
  · rw [sent]
    exact h.loud
  · rw [sent]
    simpa only [lane_of_lanes lanes] using h.placed
  · rw [sent]
    exact h.volume
  · rw [sent]
    exact h.bend

theorem Agrees.released {r : Receiver} (h : v.Agrees r) : v.released.Agrees r where
  loud sounds := absurd rfl sounds
  placed := h.placed
  volume := h.volume
  bend := h.bend

theorem Agrees.heard {r r' : Receiver} (h : v.Agrees r)
    (volume : ∀ duty, r'.volume (v.lane duty) = r.volume (v.lane duty))
    (bend : ∀ duty, r'.bend (v.lane duty) = r.bend (v.lane duty)) : v.Agrees r' where
  loud := h.loud
  placed := h.placed
  volume loud := by
    obtain ⟨duty, eq⟩ := h.placed (.inl loud)
    rw [eq, volume, ← eq]
    exact h.volume loud
  bend bent := by
    obtain ⟨duty, eq⟩ := h.placed (.inr bent)
    rw [eq, bend, ← eq]
    exact h.bend bent

/-! ## A burst keeps the agreement -/

theorem OnLanes.plain_fadeBurst (h : v.OnLanes) : Plain v.fadeBurst.2 := by
  unfold Voice.fadeBurst
  split
  next faded =>
    simp only [Bool.and_eq_true, bne_iff_ne] at faded
    exact .off (h.sent_narrow faded.1.1) _
  next => exact .nil

theorem OnLanes.plain_releaseBurst (h : v.OnLanes) : Plain v.releaseBurst.2 := by
  unfold Voice.releaseBurst
  split
  next sounds =>
    simp only [bne_iff_ne] at sounds
    exact .off (h.sent_narrow sounds) _
  next => exact .nil

theorem OnLanes.plain_strikeBurst (h : v.OnLanes) (t : Tuning) : Plain (v.strikeBurst t).2 := by
  unfold Voice.strikeBurst Voice.audible
  split
  next audible =>
    simp only [Bool.and_eq_true, bne_iff_ne] at audible
    exact .on (h.want_narrow audible.1) _ _
  next => exact .nil

theorem OnLanes.plain_changeBurst (h : v.OnLanes) (t : Tuning) : Plain (v.changeBurst t).2 := by
  unfold Voice.changeBurst
  split
  · exact h.plain_releaseBurst.append (h.releaseBurst.plain_strikeBurst t)
  · exact .nil

variable {k : Link}

/-- Where no bend is sent, the last one is the wanted one and on the wanted channel. -/
theorem OnLanes.bend_bendBurst (h : v.OnLanes) (audible : v.audible = true)
    (range : v.want.wheel ≤ 0x3FFF) {lastChan : UInt8}
    (before : v.sent.wheel ≠ 0 → k.receiver.bend lastChan = some v.sent.wheel)
    (bent : v.want.wheel ≠ 0) :
    (k.send (v.bendBurst lastChan).2).receiver.bend v.want.chan = some v.want.wheel := by
  have wanted : v.want.note ≠ 0 := by
    simp only [Voice.audible, Bool.and_eq_true, bne_iff_ne] at audible
    exact audible.1
  unfold Voice.bendBurst
  split
  · exact k.bend_send (h.want_narrow wanted) range
  next same =>
    simp only [audible, Bool.true_and, Bool.or_eq_true, bne_iff_ne, not_or, not_not] at same
    rw [same.1] at bent ⊢
    rw [same.2]
    exact before bent

theorem OnLanes.volume_bendBurst (h : v.OnLanes) (lastChan chan : UInt8) :
    (k.send (v.bendBurst lastChan).2).receiver.volume chan = k.receiver.volume chan := by
  unfold Voice.bendBurst Voice.audible
  split
  next sends =>
    simp only [Bool.and_eq_true, bne_iff_ne] at sends
    apply k.volume_send_of_ne
    intro m member level
    rw [List.mem_singleton.mp member, Message.volume?_bend (h.want_narrow sends.1.1)]
    simp
  next => rfl

/-- Where no volume is sent, the last one is the wanted one and on the wanted channel. -/
theorem OnLanes.volume_volumeBurst (h : v.OnLanes) (coherent : k.Coherent)
    (audible : v.audible = true) {lastChan : UInt8}
    (before : v.sent.vel ≠ 0 → k.receiver.volume lastChan = some (v.sent.vel &&& 0x7F)) :
    (k.send (v.volumeBurst lastChan).2).receiver.volume v.want.chan =
      some (v.want.vel &&& 0x7F) := by
  have wanted : v.want.note ≠ 0 ∧ v.want.vel ≠ 0 := by
    simpa only [Voice.audible, Bool.and_eq_true, bne_iff_ne] using audible
  unfold Voice.volumeBurst
  split
  · exact coherent.volume_send (h.want_narrow wanted.1) _
  next same =>
    simp only [audible, Bool.true_and, Bool.or_eq_true, bne_iff_ne, not_or, not_not] at same
    rw [same.1, same.2]
    apply before
    rw [← same.1]
    exact wanted.2

theorem OnLanes.bend_volumeBurst (h : v.OnLanes) (lastChan chan : UInt8) :
    (k.send (v.volumeBurst lastChan).2).receiver.bend chan = k.receiver.bend chan := by
  unfold Voice.volumeBurst Voice.audible
  split
  next sends =>
    simp only [Bool.and_eq_true, bne_iff_ne] at sends
    apply k.bend_send_of_ne
    intro m member wheel
    rw [List.mem_singleton.mp member, Message.bend?_volume (h.want_narrow sends.1.1)]
    simp
  next => rfl

theorem lane_pulseBurst (v : Voice) (t : Tuning) (duty : UInt8) :
    (v.pulseBurst t).1.lane duty = v.lane duty :=
  lane_of_lanes (v.sent_pulseBurst t).lanes duty

private theorem Agrees.pulseBurst_audible (h : v.Agrees k.receiver) (lanes : v.OnLanes)
    (coherent : k.Coherent) (range : v.want.wheel ≤ 0x3FFF) (audible : v.audible = true)
    (t : Tuning) : (v.pulseBurst t).1.Agrees (k.send (v.pulseBurst t).2).receiver := by
  obtain ⟨note, chan, vel, wheel⟩ := sent_of_audible audible t
  have wanted : v.want.note ≠ 0 ∧ v.want.vel ≠ 0 := by
    simpa only [Voice.audible, Bool.and_eq_true, bne_iff_ne] using audible
  obtain ⟨want, -, -, oldVel, oldWheel⟩ := changeBurst_of_audible audible t
  let w := (v.changeBurst t).1
  let changed := k.send (v.changeBurst t).2
  have wLanes : w.OnLanes := lanes.changeBurst t
  have wAudible : w.audible = true := (audible_of_sent (v.sent_changeBurst t)).trans audible
  have plain := lanes.plain_changeBurst t
  let x := (w.bendBurst v.sent.chan).1
  let bent := changed.send (w.bendBurst v.sent.chan).2
  have xWant : x.want = v.want := (w.sent_bendBurst v.sent.chan).want.trans want
  have xLanes : x.OnLanes := wLanes.bendBurst v.sent.chan
  have xAudible : x.audible = true :=
    (audible_of_sent (w.sent_bendBurst v.sent.chan)).trans wAudible
  have xVel : x.sent.vel = v.sent.vel :=
    (bendBurst_of_audible wAudible v.sent.chan).2.2.1.trans oldVel
  have sends : k.send (v.pulseBurst t).2 = bent.send (x.volumeBurst v.sent.chan).2 := by
    rw [pulseBurst_of_audible audible, Burst.andThen, Burst.andThen, Link.send_append,
      Link.send_append]
  constructor
  · rw [vel]
    exact fun _ => wanted.2
  · rw [chan]
    intro _
    obtain ⟨duty, eq⟩ := lanes.want wanted.1
    exact ⟨duty, eq.trans (v.lane_pulseBurst t duty).symm⟩
  · rw [chan, vel, sends]
    intro _
    have held : (bent.send (x.volumeBurst v.sent.chan).2).receiver.volume x.want.chan =
        some (x.want.vel &&& 0x7F) := by
      apply xLanes.volume_volumeBurst ((coherent.send _).send _) xAudible
      rw [xVel, wLanes.volume_bendBurst, k.volume_send_of_ne (plain.volume?_ne _)]
      exact h.volume
    rwa [xWant] at held
  · rw [chan, wheel, sends]
    intro bends
    rw [xLanes.bend_volumeBurst]
    have held : bent.receiver.bend w.want.chan = some w.want.wheel := by
      apply wLanes.bend_bendBurst wAudible
      · rw [want]
        exact range
      · rw [oldWheel, k.bend_send_of_ne (plain.bend?_ne _)]
        exact h.bend
      · rw [want]
        exact bends
    rwa [want] at held

private theorem Agrees.pulseBurst_inaudible (h : v.Agrees k.receiver) (lanes : v.OnLanes)
    (silent : v.audible = false) (t : Tuning) :
    (v.pulseBurst t).1.Agrees (k.send (v.pulseBurst t).2).receiver := by
  obtain ⟨note, chan, vel, wheel⟩ := sent_of_inaudible silent h.loud t
  have plain : Plain (v.pulseBurst t).2 := by
    rw [pulseBurst_of_inaudible silent]
    exact lanes.plain_fadeBurst.append (lanes.fadeBurst.plain_changeBurst t)
  have loud : (v.pulseBurst t).1.sent.vel ≠ 0 → (v.pulseBurst t).1.sent.vel = v.sent.vel :=
    fun set => vel.resolve_right set
  constructor
  · exact fun sounds => absurd note sounds
  · intro set
    rw [chan]
    have before : v.sent.vel ≠ 0 ∨ v.sent.wheel ≠ 0 := by
      rcases set with set | set
      · rw [loud set] at set
        exact .inl set
      · rw [wheel] at set
        exact .inr set
    obtain ⟨duty, eq⟩ := h.placed before
    exact ⟨duty, eq.trans (v.lane_pulseBurst t duty).symm⟩
  · intro set
    have same := loud set
    rw [same] at set
    rw [chan, same, k.volume_send_of_ne (plain.volume?_ne _)]
    exact h.volume set
  · rw [chan, wheel, k.bend_send_of_ne (plain.bend?_ne _)]
    exact h.bend

theorem Agrees.pulseBurst (h : v.Agrees k.receiver) (lanes : v.OnLanes) (coherent : k.Coherent)
    (range : v.want.wheel ≤ 0x3FFF) (t : Tuning) :
    (v.pulseBurst t).1.Agrees (k.send (v.pulseBurst t).2).receiver := by
  cases audible : v.audible with
  | true => exact h.pulseBurst_audible lanes coherent range audible t
  | false => exact h.pulseBurst_inaudible lanes audible t

end Voice

/-! ## The other parts leave it alone -/

section Turns

variable {side : PulseSide} {v : Voice} {k : Link} {c : Scribe} {r : Receiver}

private theorem agrees_send_elsewhere (settled : (Part.pulse side).Settled v)
    (h : v.Agrees k.receiver) {ms : List Message}
    (elsewhere : Confined (fun chan => ¬ (Part.pulse side).region chan) ms) :
    v.Agrees (k.send ms).receiver := by
  apply h.heard
  · intro duty
    exact k.volume_send_of_ne (elsewhere.volume?_ne (not_not_intro (settled.inside duty)))
  · intro duty
    exact k.bend_send_of_ne (elsewhere.bend?_ne (not_not_intro (settled.inside duty)))

theorem Scribe.confined_asked {p : Part} (settled : p.Settled (c.voice p)) :
    Confined p.region (c.asked p) := by
  unfold asked
  split
  · exact .nil
  · exact settled.confined_burst c.tuning

private theorem asked_elsewhere {q : Part} (settled : q.Settled (c.voice q))
    (other : q ≠ .pulse side) :
    Confined (fun chan => ¬ (Part.pulse side).region chan) (c.asked q) :=
  (c.confined_asked settled).mono fun _ there here => Part.region_disjoint other here there

private theorem agrees_asked (settled : (Part.pulse side).Settled (c.voice (.pulse side)))
    (coherent : k.Coherent) (h : (c.voice (.pulse side)).Agrees k.receiver) :
    (c.turn (.pulse side)).1.Agrees (k.send (c.asked (.pulse side))).receiver := by
  obtain ⟨-, asked, pacer, waits⟩ | ⟨-, asked, pacer, moves⟩ := c.turn_cases (.pulse side)
  · rw [waits, asked]
    exact h.congr rfl rfl
  · have sent := h.pulseBurst settled.placed coherent (settled.fits side rfl).wheel c.tuning
    have alike := ((c.voice (.pulse side)).pulseBurst c.tuning).1.alike_pacer pacer
    rw [moves, asked]
    exact sent.congr alike.sent alike.lanes

theorem Scribe.agrees_transmit (settled : ∀ p : Part, p.Settled (c.voice p))
    (coherent : (c.link r).Coherent) (h : (c.voice (.pulse side)).Agrees r) :
    (c.transmit.1.voice (.pulse side)).Agrees (r.hear c.transmit.2) := by
  have heard : r.hear c.transmit.2 =
      ((c.link r).send (Part.turnOrder.flatMap c.asked)).receiver :=
    congrArg Link.receiver (c.link_transmit r)
  rw [voice_transmit, heard]
  have elsewhere (q : Part) (other : q ≠ .pulse side) := asked_elsewhere (settled q) other
  let rest := c.asked .dmc ++ (c.asked .noise ++ c.asked .triangle)
  have order : Part.turnOrder.flatMap c.asked =
      rest ++ (c.asked (.pulse .first) ++ c.asked (.pulse .second)) := by
    simp [Part.turnOrder, rest]
  have restElsewhere : Confined (fun chan => ¬ (Part.pulse side).region chan) rest :=
    (elsewhere .dmc (by simp)).append
      ((elsewhere .noise (by simp)).append (elsewhere .triangle (by simp)))
  have before := agrees_send_elsewhere (k := c.link r) (settled _) h restElsewhere
  have now := coherent.send rest
  rw [order, Link.send_append, Link.send_append]
  cases side with
  | first =>
      have own := agrees_asked (settled _) now before
      have ownSettled := settled_invariant.turn (settled (.pulse .first))
      exact agrees_send_elsewhere ownSettled own (elsewhere (.pulse .second) (by simp))
  | second =>
      have first := agrees_send_elsewhere (settled _) before (elsewhere (.pulse .first) (by simp))
      exact agrees_asked (settled _) (now.send _) first

/-! ## Silencing -/

private theorem plain_hushSequence : Plain Scribe.hushSequence := by
  decide +kernel

/-- What is released is not heard as a volume or a bend on the channels of a pulse voice. -/
private theorem release_elsewhere {q : Part} (settled : q.Settled v) {chan : UInt8}
    (here : (Part.pulse side).region chan) :
    ∀ m ∈ q.release v, (∀ level, m.volume? ≠ some (chan, level)) ∧
      ∀ wheel, m.bend? ≠ some (chan, wheel) := by
  intro m member
  have off {chan' : UInt8} (narrow : chan' < 16) (note : UInt8) (eq : m = .off chan' note) :
      (∀ level, m.volume? ≠ some (chan, level)) ∧ ∀ wheel, m.bend? ≠ some (chan, wheel) := by
    rw [eq, Message.volume?_off narrow, Message.bend?_off narrow]
    simp
  by_cases sounds : v.sent.note = 0
  · cases q <;> simp [Part.release, Scribe.pulseReleases, Scribe.wantedRelease,
      Scribe.sentRelease, sounds] at member
  · cases q with
    | pulse side' =>
        simp only [Part.release, Scribe.pulseReleases, bne_iff_ne, ne_eq, sounds,
          not_false_eq_true, ↓reduceIte, List.mem_map] at member
        obtain ⟨lane, inLanes, eq⟩ := member
        exact off (Voice.OnLanes.narrow_lanes settled.placed lane inLanes) _ eq.symm
    | triangle | noise =>
        simp only [Part.release, Scribe.wantedRelease, bne_iff_ne, ne_eq, sounds,
          not_false_eq_true, ↓reduceIte, List.mem_singleton] at member
        exact off (Voice.OnFirstLane.want_narrow settled.placed (.inr sounds)) _ member
    | dmc =>
        have upper := Voice.OnChannels.confined_release settled.placed
        have outside := Part.region_disjoint (q := .dmc) (by simp) here
        exact ⟨upper.volume?_ne outside m member, upper.bend?_ne outside m member⟩

theorem Scribe.agrees_reset (settled : ∀ p : Part, p.Settled (c.voice p))
    (h : (c.voice (.pulse side)).Agrees r) :
    (c.reset.1.voice (.pulse side)).Agrees (r.hear c.reset.2) := by
  have heard : r.hear c.reset.2 = ((c.link r).announce c.releases hushSequence).receiver :=
    congrArg Link.receiver (c.link_reset r)
  rw [voice_reset, heard]
  have elsewhere (duty : UInt8) : ∀ m ∈ c.releases ++ hushSequence,
      (∀ level, m.volume? ≠ some ((c.voice (.pulse side)).lane duty, level)) ∧
        ∀ wheel, m.bend? ≠ some ((c.voice (.pulse side)).lane duty, wheel) := by
    intro m member
    rcases List.mem_append.mp member with released | hushed
    · rw [c.releases_eq, List.mem_flatMap] at released
      obtain ⟨q, -, asked⟩ := released
      exact release_elsewhere (settled q) ((settled (.pulse side)).inside duty) m asked
    · exact ⟨plain_hushSequence.volume?_ne _ m hushed, plain_hushSequence.bend?_ne _ m hushed⟩
  apply h.released.heard
  · intro duty
    exact (c.link r).volume_announce_of_ne fun m member => (elsewhere duty m member).1
  · intro duty
    exact (c.link r).bend_announce_of_ne fun m member => (elsewhere duty m member).2

/-- On the channels of a pulse voice the receiver holds the note of that voice alone. -/
theorem Scribe.held_region (settled : ∀ p : Part, p.Settled (c.voice p)) (h : c.Tracked r)
    (side : PulseSide) :
    (r.held.filter fun key => (Part.pulse side).region key.chan) =
      (c.voice (.pulse side)).sounding := by
  have own : ((c.voice (.pulse side)).sounding.filter fun key =>
      (Part.pulse side).region key.chan) = (c.voice (.pulse side)).sounding :=
    Multiset.filter_eq_self.mpr ((settled _).sounding_region (by simp))
  have other (q : Part) (lower : q ≠ .dmc) (ne : q ≠ .pulse side) :
      ((c.voice q).sounding.filter fun key => (Part.pulse side).region key.chan) = 0 :=
    Multiset.filter_eq_nil.mpr fun key member here =>
      Part.region_disjoint ne here ((settled q).sounding_region lower key member)
  have within (key : Key) (here : (Part.pulse side).region key.chan) : Lower key := by
    cases side with
    | first =>
        have below : key.chan < 4 := here
        exact UInt8.lt_trans below (by decide)
    | second => exact here.2
  have both : (r.held.filter fun key => (Part.pulse side).region key.chan) =
      c.sounding.filter fun key => (Part.pulse side).region key.chan := by
    have filtered := congrArg (Multiset.filter fun key => (Part.pulse side).region key.chan) h
    rw [Multiset.filter_filter, Multiset.filter_filter] at filtered
    have same : (fun key : Key => (Part.pulse side).region key.chan ∧ Lower key) =
        fun key => (Part.pulse side).region key.chan :=
      funext fun key => propext (and_iff_left_of_imp (within key))
    simpa only [same] using filtered
  have triangle := other .triangle (by simp) (by simp)
  have noise := other .noise (by simp) (by simp)
  rw [both, sounding, Multiset.filter_add, Multiset.filter_add, Multiset.filter_add]
  cases side with
  | first =>
      have second := other (.pulse .second) (by simp) (by simp)
      simp only [voice] at own second triangle noise ⊢
      rw [own, second, triangle, noise, add_zero, add_zero, add_zero]
  | second =>
      have first := other (.pulse .first) (by simp) (by simp)
      simp only [voice] at own first triangle noise ⊢
      rw [own, first, triangle, noise, add_zero, add_zero, zero_add]

end Turns

/-! ## Along a run -/

namespace Chip

/-- A chip that was powered on, and a receiver that has heard it from the start. -/
structure InStep (c : Chip) (r : Receiver) : Prop extends c.Tracks r where
  settled (p : Part) : p.Settled (c.scribe.voice p)
  agrees (side : PulseSide) : (c.scribe.voice (.pulse side)).Agrees r

variable {c : Chip} {r : Receiver}

theorem Tracks.power (h : c.Tracks r) :
    (c.operate .power).1.InStep (r.hear (c.operate .power).2.midi) where
  toTracks := h.operate trivial
  settled p := by
    rw [voice_operate, c.voice_scribed .power p]
    exact p.settled_home
  agrees side := by
    rw [voice_operate, c.voice_scribed .power (.pulse side)]
    cases side <;> exact Voice.agrees_of_fresh rfl _

theorem InStep.agrees_scribed (h : c.InStep r) (o : Operation) (side : PulseSide) :
    ((c.scribed o).1.voice (.pulse side)).Agrees (r.hear (c.scribed o).2) := by
  have voice := c.voice_scribed o (.pulse side)
  have following (m : Memory) (s : Synth) :
      ((c.scribe.follow m s).1.voice (.pulse side)).Agrees r := by
    have followed := c.scribe.followed_voice m s (.pulse side)
    exact (h.agrees side).congr followed.sent followed.lanes
  have settled (m : Memory) (s : Synth) (p : Part) :
      p.Settled ((c.scribe.follow m s).1.voice p) :=
    settled_invariant.voice_follow h.library (h.settled p) m s
  cases o with
  | power | setUpReceiver =>
      rw [voice]
      cases side <;> exact Voice.agrees_of_fresh rfl _
  | silence => exact Scribe.agrees_reset h.settled (h.agrees side)
  | clock memory =>
      exact Scribe.agrees_transmit (settled memory _) h.coherent (following memory _)
  | transcribe memory =>
      exact Scribe.agrees_transmit (settled memory _) h.coherent (following memory _)
  | write address data =>
      have quiet : (c.scribed (.write address data)).2 = [] := by
        simp only [scribed]
        split <;> rfl
      rw [quiet]
      exact (h.agrees side).congr voice.sent voice.lanes
  | read | supply | withTuning | withLibrary =>
      exact (h.agrees side).congr voice.sent voice.lanes

theorem InStep.operate (h : c.InStep r) {o : Operation} (brings : o.Brings (Upper ·.channel)) :
    (c.operate o).1.InStep (r.hear (c.operate o).2.midi) where
  toTracks := h.toTracks.operate brings
  settled p := settled_invariant.operate o h.library (h.settled p)
  agrees side := by
    rw [midi_operate, voice_operate]
    exact h.agrees_scribed o side

theorem InStep.after (h : c.InStep r) {ops : List Operation}
    (high : ∀ o ∈ ops, o.Brings (Upper ·.channel)) :
    (c.after ops).InStep (r.hear (c.sent ops)) := by
  induction ops generalizing c r with
  | nil => exact h
  | cons o ops ih =>
      have here := h.operate (high o List.mem_cons_self)
      have rest := ih here fun o' member => high o' (List.mem_cons_of_mem o member)
      rw [after_cons, sent_cons, Receiver.hear_append]
      exact rest

/-! ## The tone a receiver is left with -/

/-- The receiver holds the tone that a pulse voice wants, on the channels of its side. -/
structure Holds (r : Receiver) (side : PulseSide) (v : Voice) : Prop where
  key : v.want.note ≠ 0 → v.want.vel ≠ 0 →
    (r.held.filter fun k => (Part.pulse side).region k.chan) = {⟨v.want.chan, v.want.note⟩}
  volume : v.want.note ≠ 0 → v.want.vel ≠ 0 → r.volume v.want.chan = some (v.want.vel &&& 0x7F)
  bend : v.want.note ≠ 0 → v.want.vel ≠ 0 → v.want.wheel ≠ 0 →
    r.bend v.want.chan = some v.want.wheel
  silent : v.want.note = 0 ∨ v.want.vel = 0 →
    (r.held.filter fun k => (Part.pulse side).region k.chan) = 0

theorem InStep.holds (h : c.InStep r) {side : PulseSide}
    (upToDate : (c.scribe.voice (.pulse side)).UpToDate) :
    Holds r side (c.scribe.voice (.pulse side)) := by
  have held := Scribe.held_region h.settled h.held side
  have agrees := h.agrees side
  have settled := h.settled (.pulse side)
  generalize c.scribe.voice (.pulse side) = v at *
  have tone (note : v.want.note ≠ 0) (vel : v.want.vel ≠ 0) := upToDate.tone (by
    simp [Voice.audible, note, vel])
  constructor
  case key =>
    intro note vel
    obtain ⟨sameNote, sameChan, -, -⟩ := tone note vel
    have sounds : v.sent.note ≠ 0 := sameNote ▸ note
    have seven : v.want.note &&& 0x7F = v.want.note := by
      rw [← UInt8.toNat_inj, UInt8.toNat_and]
      have bound : v.want.note.toNat ≤ 127 := (settled.fits side rfl).note
      have cut : v.want.note.toNat &&& 127 = v.want.note.toNat % 128 :=
        Nat.and_two_pow_sub_one_eq_mod _ 7
      exact cut.trans (Nat.mod_eq_of_lt (by omega))
    rw [held, Voice.sounding_of_ne sounds, sameNote, sameChan, Key.of, seven]
  case volume =>
    intro note vel
    obtain ⟨-, sameChan, sameVel, -⟩ := tone note vel
    rw [← sameVel] at vel ⊢
    rw [← sameChan]
    exact agrees.volume vel
  case bend =>
    intro note vel wheel
    obtain ⟨-, sameChan, -, sameWheel⟩ := tone note vel
    rw [← sameWheel] at wheel ⊢
    rw [← sameChan]
    exact agrees.bend wheel
  case silent =>
    intro none
    have silent : v.audible = false := by
      rcases none with none | none <;> simp [Voice.audible, none]
    rw [held, Voice.sounding_of_zero (upToDate.silent silent)]

theorem upToDate_turn {c : Scribe} {side : PulseSide}
    (free : (c.voice (.pulse side)).pacer.busy c.tuning.cyclesPerMessage = false)
    (loud : (c.voice (.pulse side)).sent.note ≠ 0 → (c.voice (.pulse side)).sent.vel ≠ 0) :
    (c.turn (.pulse side)).1.UpToDate := by
  obtain ⟨busy, -, -, -⟩ | ⟨-, -, pacer, moves⟩ := c.turn_cases (.pulse side)
  · exact absurd (free.symm.trans busy) Bool.false_ne_true
  · have alike := ((c.voice (.pulse side)).pulseBurst c.tuning).1.alike_pacer pacer
    rw [moves]
    exact (Voice.upToDate_pulseBurst loud c.tuning).congr alike.want alike.sent

end Chip

def Operation.transmits : Operation → Bool
  | .clock _ | .transcribe _ => true
  | _ => false

namespace Chip

variable {c : Chip} {r : Receiver}

/-- What holds of a voice after its turn, whatever it followed, holds after a transmission. -/
theorem voice_of_transmits {o : Operation} {p : Part} {motive : Voice → Prop}
    (transmits : o.transmits = true)
    (turned : ∀ (m : Memory) (s : Synth), motive ((c.scribe.follow m s).1.turn p).1) :
    motive ((c.operate o).1.scribe.voice p) := by
  rw [c.voice_operate]
  have scribed := c.voice_scribed o p
  cases o with
  | clock memory =>
      rw [scribed]
      exact turned memory _
  | transcribe memory =>
      rw [scribed]
      exact turned memory _
  | _ => cases transmits

theorem InStep.upToDate_operate (h : c.InStep r) {o : Operation} (transmits : o.transmits = true)
    {side : PulseSide}
    (free : (c.scribe.voice (.pulse side)).pacer.busy c.scribe.tuning.cyclesPerMessage = false) :
    ((c.operate o).1.scribe.voice (.pulse side)).UpToDate := by
  refine voice_of_transmits transmits fun m s => ?_
  have followed := c.scribe.followed_voice m s (.pulse side)
  apply upToDate_turn
  · rw [followed.pacer]
    exact free
  · rw [followed.sent]
    exact (h.agrees side).loud

/--
Whenever a pulse voice of a powered chip has had its say, a receiver that has
heard everything holds the tone the voice wants, and no other note of that voice.
-/
theorem pulse_in_step (s : Settings) (before after : List Operation) (o : Operation)
    (side : PulseSide) (r : Receiver) (silent : r.held = 0)
    (high : ∀ o' ∈ before ++ .power :: after, o'.Brings (Upper ·.channel))
    (transmits : o.transmits = true)
    (free : (((ofSettings s).after (before ++ .power :: after)).scribe.voice
        (.pulse side)).pacer.busy
      ((ofSettings s).after (before ++ .power :: after)).scribe.tuning.cyclesPerMessage = false) :
    Holds (r.hear ((ofSettings s).sent (before ++ .power :: after ++ [o]))) side
      (((ofSettings s).after (before ++ .power :: after ++ [o])).scribe.voice (.pulse side)) := by
  have early : ∀ o' ∈ before, o'.Brings (Upper ·.channel) := fun o' member =>
    high o' (List.mem_append_left _ member)
  have late : ∀ o' ∈ after, o'.Brings (Upper ·.channel) := fun o' member =>
    high o' (List.mem_append_right _ (List.mem_cons_of_mem _ member))
  have started := (((tracks_new s silent).after early).power).after late
  have powered : ((ofSettings s).after (before ++ .power :: after)).InStep
      (r.hear ((ofSettings s).sent (before ++ .power :: after))) := by
    rw [after_append, sent_append, after_cons, sent_cons, Receiver.hear_append,
      Receiver.hear_append]
    exact started
  have brings : o.Brings (Upper ·.channel) := by
    cases o with
    | withLibrary => cases transmits
    | _ => trivial
  have next := powered.operate brings
  rw [after_concat, sent_concat, Receiver.hear_append]
  exact next.holds (powered.upToDate_operate transmits free)

/-- A receiver that has been bent before; the chip is powered on in the middle of a run. -/
theorem pulse_in_step_with_kit :
    let kit : Library := Library.empty.insert 0x2A
      { channel := 9, program := 0, volume := 0x60, velocity := 96, pitches := .replicate 16 36.0 }
    let early : List Operation := [.write 0x4000 0xBF, .clock .zero, .withLibrary kit]
    let late : List Operation :=
      [.withTuning { periodSettle := 0 }, .write 0x4015 0x01, .write 0x4000 0xBF,
        .write 0x4002 0xFD, .write 0x4003 0x08]
    let idle : Receiver := { held := 0, volume := fun _ => none, bend := fun _ => some 0 }
    (∀ o ∈ early ++ .power :: late, o.Brings (Upper ·.channel)) ∧
      Holds (idle.hear ((ofSettings {}).sent (early ++ .power :: late ++ [.transcribe .zero])))
        .first (((ofSettings {}).after (early ++ .power :: late ++ [.transcribe .zero])).scribe.voice
          (.pulse .first)) := by
  intro kit early late idle
  have high : ∀ o ∈ early ++ .power :: late, o.Brings (Upper ·.channel) := by
    have kitUpper : kit.All (Upper ·.channel) :=
      Library.all_empty.insert (by decide : (8 : UInt8) ≤ 9 &&& 0x0F) _
    simp [early, late, Operation.Brings, kitUpper]
  refine ⟨high, pulse_in_step {} early late (.transcribe .zero) .first idle rfl high rfl ?_⟩
  rfl

end Chip

end ChipScribe
