import ChipScribe.Proofs.Parts

/-!
# The channels a voice may use

Following a channel never touches the tone that was sent nor the lanes; sending
never touches the tone that is wanted.  A pulse voice keeps to its four lanes,
triangle and noise keep to the first, and the delta voice to the channels of
the instruments it knows.
-/

namespace ChipScribe

namespace Voice

variable (v : Voice) (t : Tuning)

/-! ## Following -/

/-- What following leaves alone. -/
structure Followed (v w : Voice) : Prop where
  sent : w.sent = v.sent
  lanes : w.lanes = v.lanes
  pacer : w.pacer = v.pacer

theorem Followed.trans {u v w : Voice} (first : u.Followed v) (second : v.Followed w) :
    u.Followed w :=
  ⟨second.sent.trans first.sent, second.lanes.trans first.lanes, second.pacer.trans first.pacer⟩

theorem followed_beginNote (duty held : UInt8) : v.Followed (v.beginNote duty held) := by
  unfold beginNote
  split <;> exact ⟨rfl, rfl, rfl⟩

theorem followed_chooseLane (duty : UInt8) : v.Followed (v.chooseLane t duty) := by
  unfold chooseLane
  split <;> exact ⟨rfl, rfl, rfl⟩

theorem followed_soundPulse (p : Pulse) (pitch : Float) : v.Followed (v.soundPulse t p pitch) := by
  have steered : v.Followed { v.steer t pitch with want :=
      { (v.steer t pitch).want with vel := t.pulseVelocity p.envelope.volume } } :=
    ⟨rfl, rfl, rfl⟩
  exact (steered.trans (followed_beginNote _ _ _)).trans (followed_chooseLane _ _ _)

theorem followed_followPulse (p : Pulse) : v.Followed (v.followPulse t p) := by
  unfold followPulse
  split
  · exact ⟨rfl, rfl, rfl⟩
  · split
    · exact ⟨rfl, rfl, rfl⟩
    · dsimp only
      split
      · exact ⟨rfl, rfl, rfl⟩
      · exact v.followed_soundPulse t p _

theorem followed_followTriangle (c : Triangle) : v.Followed (v.followTriangle t c) := by
  unfold followTriangle
  split
  · exact ⟨rfl, rfl, rfl⟩
  · dsimp only
    split
    · exact ⟨rfl, rfl, rfl⟩
    · split <;> exact ⟨rfl, rfl, rfl⟩

theorem followed_followNoise (n : Noise) : v.Followed (v.followNoise t n) := by
  unfold followNoise
  dsimp only
  split
  · exact ⟨rfl, rfl, rfl⟩
  · split <;> exact ⟨rfl, rfl, rfl⟩

theorem followed_endSample (d : Dmc) : v.Followed (v.endSample d) := by
  unfold endSample
  dsimp only
  split <;> exact ⟨rfl, rfl, rfl⟩

theorem followed_lookUp (m : Memory) (d : Dmc) (l : Library) :
    v.Followed (v.lookUp t m d l).1 := by
  dsimp only [lookUp]
  split
  · split <;> exact ⟨rfl, rfl, rfl⟩
  · exact ⟨rfl, rfl, rfl⟩

theorem followed_followDmc (m : Memory) (d : Dmc) (l : Library) :
    v.Followed (v.followDmc t m d l).1 := by
  unfold followDmc
  split
  · have looked := v.followed_lookUp t m d l
    have ended := (v.lookUp t m d l).1.followed_endSample d
    exact looked.trans ended
  · exact v.followed_endSample d

end Voice

theorem Part.followed_follow (t : Tuning) (m : Memory) (s : Synth) (l : Library) (p : Part)
    (v : Voice) : v.Followed (p.follow t m s l v) := by
  cases p with
  | pulse side => cases side <;> exact v.followed_followPulse t _
  | triangle => exact v.followed_followTriangle t _
  | noise => exact v.followed_followNoise t _
  | dmc => exact v.followed_followDmc t m _ l

theorem Scribe.followed_voice (c : Scribe) (m : Memory) (s : Synth) (p : Part) :
    (c.voice p).Followed ((c.follow m s).1.voice p) := by
  rw [voice_follow]
  exact p.followed_follow c.tuning m s c.library (c.voice p)

namespace Voice

/-! ## Sending -/

/-- What sending leaves alone. -/
structure Sent (v w : Voice) : Prop where
  want : w.want = v.want
  duty : w.duty = v.duty
  lanes : w.lanes = v.lanes

theorem Burst.fst_andThen (first : Burst) (next : Voice → Burst) :
    (first.andThen next).1 = (next first.1).1 :=
  rfl

theorem Burst.snd_andThen (first : Burst) (next : Voice → Burst) :
    (first.andThen next).2 = first.2 ++ (next first.1).2 :=
  rfl

theorem Sent.andThen {v : Voice} {b : Burst} {next : Voice → Burst} (first : v.Sent b.1)
    (second : b.1.Sent (next b.1).1) : v.Sent (b.andThen next).1 where
  want := second.want.trans first.want
  duty := second.duty.trans first.duty
  lanes := second.lanes.trans first.lanes

variable (v : Voice) (t : Tuning)

theorem sent_fadeBurst : v.Sent v.fadeBurst.1 := by
  unfold fadeBurst
  split <;> exact ⟨rfl, rfl, rfl⟩

theorem sent_releaseBurst : v.Sent v.releaseBurst.1 := by
  unfold releaseBurst
  split <;> exact ⟨rfl, rfl, rfl⟩

theorem sent_strikeBurst : v.Sent (v.strikeBurst t).1 := by
  unfold strikeBurst
  split <;> exact ⟨rfl, rfl, rfl⟩

theorem sent_changeBurst : v.Sent (v.changeBurst t).1 := by
  unfold changeBurst
  split
  · exact v.sent_releaseBurst.andThen (sent_strikeBurst _ t)
  · exact ⟨rfl, rfl, rfl⟩

theorem sent_bendBurst (lastChan : UInt8) : v.Sent (v.bendBurst lastChan).1 := by
  unfold bendBurst
  split <;> exact ⟨rfl, rfl, rfl⟩

theorem sent_volumeBurst (lastChan : UInt8) : v.Sent (v.volumeBurst lastChan).1 := by
  unfold volumeBurst
  split <;> exact ⟨rfl, rfl, rfl⟩

theorem sent_pulseBurst : v.Sent (v.pulseBurst t).1 :=
  ((v.sent_fadeBurst.andThen (sent_changeBurst _ t)).andThen (sent_bendBurst _ _)).andThen
    (sent_volumeBurst _ _)

theorem sent_triangleReleaseBurst : v.Sent v.triangleReleaseBurst.1 := by
  unfold triangleReleaseBurst
  split <;> exact ⟨rfl, rfl, rfl⟩

theorem sent_triangleStrikeBurst : v.Sent (v.triangleStrikeBurst t).1 := by
  unfold triangleStrikeBurst
  split <;> exact ⟨rfl, rfl, rfl⟩

theorem sent_triangleChangeBurst : v.Sent (v.triangleChangeBurst t).1 := by
  unfold triangleChangeBurst
  split
  · exact v.sent_triangleReleaseBurst.andThen (sent_triangleStrikeBurst _ t)
  · exact ⟨rfl, rfl, rfl⟩

theorem sent_triangleBendBurst : v.Sent v.triangleBendBurst.1 := by
  unfold triangleBendBurst
  split <;> exact ⟨rfl, rfl, rfl⟩

theorem sent_triangleBurst : v.Sent (v.triangleBurst t).1 :=
  (v.sent_triangleChangeBurst t).andThen (sent_triangleBendBurst _)

theorem sent_noiseFadeBurst : v.Sent v.noiseFadeBurst.1 := by
  unfold noiseFadeBurst
  split <;> exact ⟨rfl, rfl, rfl⟩

theorem sent_noiseReleaseBurst : v.Sent v.noiseReleaseBurst.1 := by
  unfold noiseReleaseBurst
  split <;> exact ⟨rfl, rfl, rfl⟩

theorem sent_noiseStrikeBurst : v.Sent v.noiseStrikeBurst.1 := by
  unfold noiseStrikeBurst
  split <;> exact ⟨rfl, rfl, rfl⟩

theorem sent_noiseChangeBurst : v.Sent v.noiseChangeBurst.1 := by
  unfold noiseChangeBurst
  split
  · exact v.sent_noiseReleaseBurst.andThen (sent_noiseStrikeBurst _)
  · exact ⟨rfl, rfl, rfl⟩

theorem sent_noiseBurst : v.Sent v.noiseBurst.1 :=
  v.sent_noiseFadeBurst.andThen (sent_noiseChangeBurst _)

theorem sent_dmcReleaseBurst : v.Sent v.dmcReleaseBurst.1 := by
  unfold dmcReleaseBurst
  split <;> exact ⟨rfl, rfl, rfl⟩

theorem sent_dmcStrikeBurst : v.Sent v.dmcStrikeBurst.1 := by
  unfold dmcStrikeBurst
  split <;> exact ⟨rfl, rfl, rfl⟩

theorem sent_dmcBurst : v.Sent v.dmcBurst.1 := by
  unfold dmcBurst
  split
  · have both := v.sent_dmcReleaseBurst.andThen (sent_dmcStrikeBurst _)
    exact ⟨both.want, both.duty, both.lanes⟩
  · exact ⟨rfl, rfl, rfl⟩

end Voice

theorem Part.sent_burst (t : Tuning) (p : Part) (v : Voice) : v.Sent (p.burst t v).1 := by
  cases p with
  | pulse side => exact v.sent_pulseBurst t
  | triangle => exact v.sent_triangleBurst t
  | noise => exact v.sent_noiseBurst
  | dmc => exact v.sent_dmcBurst

namespace Voice

/-! ## Keeping to the lanes -/

/-- A pulse voice: all four lanes are channels, and its notes are on them. -/
structure OnLanes (v : Voice) : Prop where
  narrow (duty : UInt8) : v.lane duty < 16
  want : v.want.note ≠ 0 → ∃ duty, v.want.chan = v.lane duty
  sent : v.sent.note ≠ 0 → ∃ duty, v.sent.chan = v.lane duty

/-- Triangle and noise: while a note sounds, the wanted channel is still the one it is on. -/
structure OnFirstLane (v : Voice) : Prop where
  narrow : v.lane 0 < 16
  want : v.want.note ≠ 0 ∨ v.sent.note ≠ 0 → v.want.chan = v.lane 0
  sent : v.sent.note ≠ 0 → v.sent.chan = v.lane 0

/-- The delta voice plays on the channels of its instruments. -/
structure OnChannels (ok : UInt8 → Prop) (v : Voice) : Prop where
  want : v.want.note ≠ 0 → ok v.want.chan
  sent : v.sent.note ≠ 0 → ok v.sent.chan

variable {v w : Voice}

theorem lane_of_lanes (same : w.lanes = v.lanes) (duty : UInt8) : w.lane duty = v.lane duty := by
  simp only [lane, same]

/-- A channel of one of the four lanes. -/
def OnLane (v : Voice) (chan : UInt8) : Prop :=
  ∃ duty, chan = v.lane duty

theorem OnLane.of_lanes (same : w.lanes = v.lanes) {chan : UInt8} (h : w.OnLane chan) :
    v.OnLane chan := by
  obtain ⟨duty, eq⟩ := h
  exact ⟨duty, eq.trans (lane_of_lanes same duty)⟩

theorem onLane_of_mem {chan : UInt8} (member : chan ∈ v.lanes.toList) : v.OnLane chan := by
  obtain ⟨i, bound, rfl⟩ := Vector.mem_iff_getElem.mp (Vector.mem_toList_iff.mp member)
  have index : (UInt8.ofNat i).toNat % 4 = i := by
    rw [UInt8.toNat_ofNat']
    omega
  exact ⟨UInt8.ofNat i, by simp only [lane, index]⟩

theorem OnLanes.of_want (h : v.OnLanes) (followed : v.Followed w)
    (chan : w.want.note ≠ 0 → ∃ duty, w.want.chan = v.lane duty) : w.OnLanes where
  narrow duty := by
    rw [lane_of_lanes followed.lanes]
    exact h.narrow duty
  want sounding := by
    obtain ⟨duty, eq⟩ := chan sounding
    exact ⟨duty, eq.trans (lane_of_lanes followed.lanes duty).symm⟩
  sent sounding := by
    rw [followed.sent] at sounding ⊢
    obtain ⟨duty, eq⟩ := h.sent sounding
    exact ⟨duty, eq.trans (lane_of_lanes followed.lanes duty).symm⟩

/-- A begun note is on the lane of its duty; a held one stays where it is. -/
theorem chan_soundPulse (h : v.OnLanes) (t : Tuning) (p : Pulse) (pitch : Float) :
    ∃ duty, (v.soundPulse t p pitch).want.chan = v.lane duty := by
  unfold soundPulse chooseLane
  have begun : ∃ duty, (({ v.steer t pitch with want :=
      { (v.steer t pitch).want with vel := t.pulseVelocity p.envelope.volume } } : Voice).beginNote
        p.duty v.want.note).want.chan = v.lane duty := by
    unfold beginNote
    split
    · exact ⟨p.duty &&& 3, rfl⟩
    next same =>
      have held : v.want.note ≠ 0 := by
        intro none
        simp [none] at same
      exact h.want held
  dsimp only
  split
  · exact begun
  · refine ⟨_, lane_of_lanes ?_ _⟩
    exact (followed_beginNote _ _ _).lanes

theorem OnLanes.followPulse (h : v.OnLanes) (t : Tuning) (p : Pulse) :
    (v.followPulse t p).OnLanes := by
  apply h.of_want (v.followed_followPulse t p)
  unfold Voice.followPulse
  split
  · exact h.want
  · split
    · exact fun sounding => absurd rfl sounding
    · dsimp only
      split
      · exact fun sounding => absurd rfl sounding
      · exact fun _ => chan_soundPulse h t p _

theorem OnFirstLane.of_want (h : v.OnFirstLane) (followed : v.Followed w)
    (chan : w.want.note ≠ 0 ∨ v.sent.note ≠ 0 → w.want.chan = v.lane 0) : w.OnFirstLane where
  narrow := by
    rw [lane_of_lanes followed.lanes]
    exact h.narrow
  want sounding := by
    rw [lane_of_lanes followed.lanes]
    rw [followed.sent] at sounding
    exact chan sounding
  sent sounding := by
    rw [followed.sent] at sounding ⊢
    rw [lane_of_lanes followed.lanes]
    exact h.sent sounding

theorem OnFirstLane.followTriangle (h : v.OnFirstLane) (t : Tuning) (c : Triangle) :
    (v.followTriangle t c).OnFirstLane := by
  apply h.of_want (v.followed_followTriangle t c)
  unfold Voice.followTriangle
  split
  · exact h.want
  · dsimp only
    split
    · exact fun _ => rfl
    · split <;> exact fun _ => rfl

theorem OnFirstLane.followNoise (h : v.OnFirstLane) (t : Tuning) (n : Noise) :
    (v.followNoise t n).OnFirstLane := by
  apply h.of_want (v.followed_followNoise t n)
  unfold Voice.followNoise
  dsimp only
  split
  · intro sounding
    rcases sounding with new | old
    · exact absurd rfl new
    · exact h.want (.inr old)
  · split
    · exact fun _ => rfl
    · exact h.want

section Delta

variable {ok : UInt8 → Prop} {l : Library}

theorem OnChannels.mono {good : UInt8 → Prop} (h : v.OnChannels ok)
    (weaker : ∀ chan, ok chan → good chan) : v.OnChannels good :=
  ⟨fun wanted => weaker _ (h.want wanted), fun sounding => weaker _ (h.sent sounding)⟩

theorem want_lookUp (v : Voice) (all : l.All (ok ·.channel)) (t : Tuning) (m : Memory)
    (d : Dmc) : (v.lookUp t m d l).1.want.note ≠ 0 → ok (v.lookUp t m d l).1.want.chan := by
  dsimp only [lookUp]
  split
  next i found =>
    split
    · exact fun _ => all _ i found
    · exact fun wanted => absurd rfl wanted
  next => exact fun wanted => absurd rfl wanted

theorem want_endSample (v : Voice) (d : Dmc) (h : v.want.note ≠ 0 → ok v.want.chan) :
    (v.endSample d).want.note ≠ 0 → ok (v.endSample d).want.chan := by
  unfold endSample
  dsimp only
  split
  · exact fun wanted => absurd rfl wanted
  · exact h

theorem OnChannels.followDmc (h : v.OnChannels ok) (all : l.All (ok ·.channel)) (t : Tuning)
    (m : Memory) (d : Dmc) : (v.followDmc t m d l).1.OnChannels ok where
  want := by
    unfold Voice.followDmc
    split
    · exact want_endSample _ d (want_lookUp v all t m d)
    · exact want_endSample v d h.want
  sent := by
    rw [(v.followed_followDmc t m d l).sent]
    exact h.sent

end Delta

/-! ### Sending keeps to them as well -/

theorem OnLanes.fadeBurst (h : v.OnLanes) : v.fadeBurst.1.OnLanes := by
  unfold Voice.fadeBurst
  split
  · exact ⟨h.narrow, h.want, fun sounding => absurd rfl sounding⟩
  · exact h

theorem OnLanes.releaseBurst (h : v.OnLanes) : v.releaseBurst.1.OnLanes := by
  unfold Voice.releaseBurst
  split
  · exact ⟨h.narrow, h.want, fun sounding => absurd rfl sounding⟩
  · exact h

theorem OnLanes.strikeBurst (h : v.OnLanes) (t : Tuning) : (v.strikeBurst t).1.OnLanes := by
  unfold Voice.strikeBurst
  split
  · exact ⟨h.narrow, h.want, h.want⟩
  · exact h

theorem OnLanes.changeBurst (h : v.OnLanes) (t : Tuning) : (v.changeBurst t).1.OnLanes := by
  unfold Voice.changeBurst
  split
  · exact h.releaseBurst.strikeBurst t
  · exact h

theorem OnLanes.bendBurst (h : v.OnLanes) (lastChan : UInt8) :
    (v.bendBurst lastChan).1.OnLanes := by
  unfold Voice.bendBurst
  split
  · exact ⟨h.narrow, h.want, h.sent⟩
  · exact h

theorem OnLanes.volumeBurst (h : v.OnLanes) (lastChan : UInt8) :
    (v.volumeBurst lastChan).1.OnLanes := by
  unfold Voice.volumeBurst
  split
  · exact ⟨h.narrow, h.want, h.sent⟩
  · exact h

theorem OnLanes.pulseBurst (h : v.OnLanes) (t : Tuning) : (v.pulseBurst t).1.OnLanes := by
  have changed := h.fadeBurst.changeBurst t
  unfold Voice.pulseBurst Burst.andThen
  exact (changed.bendBurst v.sent.chan).volumeBurst v.sent.chan

theorem OnFirstLane.triangleReleaseBurst (h : v.OnFirstLane) :
    v.triangleReleaseBurst.1.OnFirstLane := by
  unfold Voice.triangleReleaseBurst
  split
  next sounding =>
    refine ⟨h.narrow, fun _ => h.want (.inr ?_), fun sounding => absurd rfl sounding⟩
    simpa using sounding
  next => exact h

theorem OnFirstLane.triangleStrikeBurst (h : v.OnFirstLane) (t : Tuning) :
    (v.triangleStrikeBurst t).1.OnFirstLane := by
  unfold Voice.triangleStrikeBurst
  split
  next wanted =>
    have here := h.want (.inl (by simpa using wanted))
    exact ⟨h.narrow, fun _ => here, fun _ => here⟩
  next => exact h

theorem OnFirstLane.triangleChangeBurst (h : v.OnFirstLane) (t : Tuning) :
    (v.triangleChangeBurst t).1.OnFirstLane := by
  unfold Voice.triangleChangeBurst
  split
  · exact h.triangleReleaseBurst.triangleStrikeBurst t
  · exact h

theorem OnFirstLane.triangleBurst (h : v.OnFirstLane) (t : Tuning) :
    (v.triangleBurst t).1.OnFirstLane := by
  have changed := h.triangleChangeBurst t
  unfold Voice.triangleBurst Burst.andThen Voice.triangleBendBurst
  dsimp only
  split
  · exact ⟨changed.narrow, changed.want, changed.sent⟩
  · exact changed

theorem OnFirstLane.noiseFadeBurst (h : v.OnFirstLane) : v.noiseFadeBurst.1.OnFirstLane := by
  unfold Voice.noiseFadeBurst
  split
  next faded =>
    refine ⟨h.narrow, fun _ => h.want (.inr ?_), fun sounding => absurd rfl sounding⟩
    simp only [Bool.and_eq_true, bne_iff_ne] at faded
    exact faded.1.1
  next => exact h

theorem OnFirstLane.noiseReleaseBurst (h : v.OnFirstLane) :
    v.noiseReleaseBurst.1.OnFirstLane := by
  unfold Voice.noiseReleaseBurst
  split
  next sounding =>
    refine ⟨h.narrow, fun _ => h.want (.inr ?_), fun sounding => absurd rfl sounding⟩
    simpa using sounding
  next => exact h

theorem OnFirstLane.noiseStrikeBurst (h : v.OnFirstLane) : v.noiseStrikeBurst.1.OnFirstLane := by
  unfold Voice.noiseStrikeBurst
  split
  next wanted =>
    simp only [Bool.and_eq_true, bne_iff_ne] at wanted
    have here := h.want (.inl wanted.1)
    exact ⟨h.narrow, fun _ => here, fun _ => here⟩
  next => exact h

theorem OnFirstLane.noiseBurst (h : v.OnFirstLane) : v.noiseBurst.1.OnFirstLane := by
  have faded := h.noiseFadeBurst
  unfold Voice.noiseBurst Burst.andThen Voice.noiseChangeBurst
  dsimp only
  split
  · exact faded.noiseReleaseBurst.noiseStrikeBurst
  · exact faded

variable {ok : UInt8 → Prop}

theorem OnChannels.dmcReleaseBurst (h : v.OnChannels ok) :
    v.dmcReleaseBurst.1.OnChannels ok := by
  unfold Voice.dmcReleaseBurst
  split
  · exact ⟨h.want, fun sounding => absurd rfl sounding⟩
  · exact h

theorem OnChannels.dmcStrikeBurst (h : v.OnChannels ok) : v.dmcStrikeBurst.1.OnChannels ok := by
  unfold Voice.dmcStrikeBurst
  split
  · exact ⟨h.want, h.want⟩
  · exact h

theorem OnChannels.dmcBurst (h : v.OnChannels ok) : v.dmcBurst.1.OnChannels ok := by
  unfold Voice.dmcBurst
  split
  · have struck := h.dmcReleaseBurst.dmcStrikeBurst
    exact ⟨struck.want, struck.sent⟩
  · exact h

end Voice

/-- Where the voice of a part may be, with instruments on some of the channels. -/
def Part.Placed (ok : UInt8 → Prop) : Part → Voice → Prop
  | .pulse _, v => v.OnLanes
  | .triangle, v | .noise, v => v.OnFirstLane
  | .dmc, v => v.OnChannels ok

variable {ok : UInt8 → Prop}

theorem Scribe.lane_freshVoice {lanes : Vector UInt8 4} (region : UInt8 → Prop)
    (all : ∀ i : Fin 4, region lanes[i]) (duty : UInt8) : region ((freshVoice lanes).lane duty) :=
  all ⟨duty.toNat % 4, Voice.laneIndex_lt duty⟩

theorem Part.placed_home (p : Part) : p.Placed ok p.home := by
  rcases p with (_ | _) | _ | _ | _
  case dmc => exact ⟨fun wanted => absurd rfl wanted, fun sounding => absurd rfl sounding⟩
  case triangle | noise =>
    exact ⟨by decide, fun sounding => absurd rfl (sounding.elim id id), fun sounding =>
      absurd rfl sounding⟩
  all_goals
    exact ⟨Scribe.lane_freshVoice (· < 16) (by decide), fun sounding => absurd rfl sounding,
      fun sounding => absurd rfl sounding⟩

theorem Part.placed_new (p : Part) : p.Placed ok {} := by
  cases p with
  | dmc => exact ⟨fun wanted => absurd rfl wanted, fun sounding => absurd rfl sounding⟩
  | triangle | noise =>
      exact ⟨by decide, fun sounding => absurd rfl (sounding.elim id id), fun sounding =>
        absurd rfl sounding⟩
  | pulse side =>
      exact ⟨Scribe.lane_freshVoice (· < 16) (by decide), fun sounding => absurd rfl sounding,
        fun sounding => absurd rfl sounding⟩

theorem placed_invariant : VoiceInvariant (Part.Placed ok) (ok ·.channel) where
  home := Part.placed_home
  alike {p v w} alike placed := by
    have lane := Voice.lane_of_lanes alike.lanes
    cases p with
    | pulse side =>
        refine ⟨?_, ?_, ?_⟩
        · simpa only [lane] using placed.narrow
        · simpa only [lane, alike.want] using placed.want
        · simpa only [lane, alike.sent] using placed.sent
    | triangle | noise =>
        refine ⟨?_, ?_, ?_⟩
        · simpa only [lane] using placed.narrow
        · simpa only [lane, alike.want, alike.sent] using placed.want
        · simpa only [lane, alike.sent] using placed.sent
    | dmc =>
        refine ⟨?_, ?_⟩
        · simpa only [alike.want] using placed.want
        · simpa only [alike.sent] using placed.sent
  released {p v} placed := by
    cases p with
    | pulse side => exact ⟨placed.narrow, placed.want, fun sounding => absurd rfl sounding⟩
    | triangle | noise =>
        refine ⟨placed.narrow, fun sounding => ?_, fun sounding => absurd rfl sounding⟩
        exact placed.want (.inl (sounding.resolve_right fun none => none rfl))
    | dmc => exact ⟨placed.want, fun sounding => absurd rfl sounding⟩
  follow {p v} t m s l all placed := by
    cases p with
    | pulse side => cases side <;> exact placed.followPulse t _
    | triangle => exact placed.followTriangle t _
    | noise => exact placed.followNoise t _
    | dmc => exact placed.followDmc all t m _
  burst {p v} t placed := by
    cases p with
    | pulse side => exact placed.pulseBurst t
    | triangle => exact placed.triangleBurst t
    | noise => exact placed.noiseBurst
    | dmc => exact placed.dmcBurst

end ChipScribe
