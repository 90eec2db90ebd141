import ChipScribe.Proofs.Channels
import ChipScribe.Proofs.Link

/-!
# The channels that messages are for

A voice puts its messages together for the channel it wants or for the one it
last sent on.  Both are among its lanes, so every message of a burst is for one
of these; the delta voice has the channels of its instruments instead.
-/

namespace ChipScribe

namespace Midi

/-- A message that was put together for a channel. -/
inductive Message.For (chan : UInt8) : Message → Prop
  | off (note : UInt8) : For chan (.off chan note)
  | on (note velocity : UInt8) : For chan (.on chan note velocity)
  | bend (wheel : UInt16) : For chan (.bend chan wheel)
  | volume (level : UInt8) : For chan (.volume chan level)
  | control (controller value : UInt8) : For chan (.control chan controller value)
  | program (number : UInt8) : For chan (.program chan number)

theorem Message.For.channel? {chan : UInt8} {m : Message} (h : m.For chan) :
    m.channel? = some (chan &&& 0x0F) := by
  cases h with
  | off note => exact channel?_off chan note
  | on note velocity => exact channel?_on chan note velocity
  | bend wheel => exact channel?_bend chan wheel
  | volume level => exact channel?_volume chan level
  | control controller value => exact channel?_control chan controller value
  | program number => exact channel?_program chan number

/-- Every message was put together for a channel of a kind. -/
def Addressed (ok : UInt8 → Prop) (ms : List Message) : Prop :=
  ∀ m ∈ ms, ∃ chan, ok chan ∧ m.For chan

namespace Addressed

variable {ok : UInt8 → Prop} {ms more : List Message}

theorem nil : Addressed ok [] :=
  fun _ member => nomatch member

theorem cons {m : Message} {chan : UInt8} (good : ok chan) (here : m.For chan)
    (rest : Addressed ok ms) : Addressed ok (m :: ms) :=
  List.forall_mem_cons.mpr ⟨⟨chan, good, here⟩, rest⟩

theorem one {m : Message} {chan : UInt8} (good : ok chan) (here : m.For chan) :
    Addressed ok [m] :=
  .cons good here .nil

theorem append (h : Addressed ok ms) (h' : Addressed ok more) : Addressed ok (ms ++ more) :=
  List.forall_mem_append.mpr ⟨h, h'⟩

theorem mono {wider : UInt8 → Prop} (h : Addressed ok ms)
    (within : ∀ chan, ok chan → wider chan) : Addressed wider ms := by
  intro m member
  obtain ⟨chan, good, here⟩ := h m member
  exact ⟨chan, within chan good, here⟩

theorem confined {region : UInt8 → Prop} (h : Addressed ok ms)
    (within : ∀ chan, ok chan → region (chan &&& 0x0F)) : Confined region ms := by
  intro m member chan channel
  obtain ⟨chan', good, here⟩ := h m member
  rw [here.channel?, Option.some_inj] at channel
  exact channel ▸ within chan' good

end Addressed

end Midi

open Midi

namespace Voice

variable {v w : Voice}

/-! ## Pulse voices -/

theorem addressed_of_lanes (same : w.lanes = v.lanes) {ms : List Message}
    (h : Addressed w.OnLane ms) : Addressed v.OnLane ms :=
  h.mono fun _ => .of_lanes same

theorem OnLanes.addressed_fadeBurst (h : v.OnLanes) : Addressed v.OnLane v.fadeBurst.2 := by
  unfold Voice.fadeBurst
  split
  next faded =>
    simp only [Bool.and_eq_true, bne_iff_ne] at faded
    exact .one (h.sent faded.1.1) (.off _)
  next => exact .nil

theorem OnLanes.addressed_releaseBurst (h : v.OnLanes) :
    Addressed v.OnLane v.releaseBurst.2 := by
  unfold Voice.releaseBurst
  split
  next sounds =>
    simp only [bne_iff_ne] at sounds
    exact .one (h.sent sounds) (.off _)
  next => exact .nil

theorem OnLanes.onLane_of_audible (h : v.OnLanes) (audible : v.audible = true) :
    v.OnLane v.want.chan := by
  simp only [Voice.audible, Bool.and_eq_true, bne_iff_ne] at audible
  exact h.want audible.1

theorem OnLanes.addressed_strikeBurst (h : v.OnLanes) (t : Tuning) :
    Addressed v.OnLane (v.strikeBurst t).2 := by
  unfold Voice.strikeBurst
  split
  next audible => exact .one (h.onLane_of_audible audible) (.on _ _)
  next => exact .nil

theorem OnLanes.addressed_changeBurst (h : v.OnLanes) (t : Tuning) :
    Addressed v.OnLane (v.changeBurst t).2 := by
  unfold Voice.changeBurst
  split
  · have struck := h.releaseBurst.addressed_strikeBurst t
    exact h.addressed_releaseBurst.append
      (addressed_of_lanes v.sent_releaseBurst.lanes struck)
  · exact .nil

theorem OnLanes.addressed_bendBurst (h : v.OnLanes) (lastChan : UInt8) :
    Addressed v.OnLane (v.bendBurst lastChan).2 := by
  unfold Voice.bendBurst
  split
  next sends =>
    simp only [Bool.and_eq_true] at sends
    exact .one (h.onLane_of_audible sends.1) (.bend _)
  next => exact .nil

theorem OnLanes.addressed_volumeBurst (h : v.OnLanes) (lastChan : UInt8) :
    Addressed v.OnLane (v.volumeBurst lastChan).2 := by
  unfold Voice.volumeBurst
  split
  next sends =>
    simp only [Bool.and_eq_true] at sends
    exact .one (h.onLane_of_audible sends.1) (.volume _)
  next => exact .nil

theorem OnLanes.addressed_pulseBurst (h : v.OnLanes) (t : Tuning) :
    Addressed v.OnLane (v.pulseBurst t).2 := by
  have faded := v.sent_fadeBurst
  have changed := faded.andThen (v.fadeBurst.1.sent_changeBurst t)
  have bent := changed.andThen (sent_bendBurst _ v.sent.chan)
  have lanes := h.fadeBurst.changeBurst t
  have change := addressed_of_lanes faded.lanes (h.fadeBurst.addressed_changeBurst t)
  have bend := addressed_of_lanes changed.lanes (lanes.addressed_bendBurst v.sent.chan)
  have volume := addressed_of_lanes bent.lanes
    ((lanes.bendBurst v.sent.chan).addressed_volumeBurst v.sent.chan)
  unfold Voice.pulseBurst
  simp only [Burst.snd_andThen, Burst.fst_andThen]
  exact ((h.addressed_fadeBurst.append change).append bend).append volume

/-! ## Triangle and noise -/

theorem OnFirstLane.addressed_triangleReleaseBurst (h : v.OnFirstLane) :
    Addressed (· = v.lane 0) v.triangleReleaseBurst.2 := by
  unfold Voice.triangleReleaseBurst
  split
  next sounds =>
    simp only [bne_iff_ne] at sounds
    exact .one (h.want (.inr sounds)) (.off _)
  next => exact .nil

theorem OnFirstLane.addressed_triangleStrikeBurst (h : v.OnFirstLane) (t : Tuning) :
    Addressed (· = v.lane 0) (v.triangleStrikeBurst t).2 := by
  unfold Voice.triangleStrikeBurst
  split
  next wanted =>
    simp only [bne_iff_ne] at wanted
    exact .one (h.want (.inl wanted)) (.on _ _)
  next => exact .nil

theorem OnFirstLane.addressed_triangleBurst (h : v.OnFirstLane) (t : Tuning) :
    Addressed (· = v.lane 0) (v.triangleBurst t).2 := by
  have released : v.triangleReleaseBurst.1.lane 0 = v.lane 0 :=
    lane_of_lanes v.sent_triangleReleaseBurst.lanes 0
  have changed : (v.triangleChangeBurst t).1.lane 0 = v.lane 0 :=
    lane_of_lanes (v.sent_triangleChangeBurst t).lanes 0
  have change : Addressed (· = v.lane 0) (v.triangleChangeBurst t).2 := by
    unfold Voice.triangleChangeBurst
    split
    · have struck := h.triangleReleaseBurst.addressed_triangleStrikeBurst t
      rw [released] at struck
      exact h.addressed_triangleReleaseBurst.append struck
    · exact .nil
  have bend : Addressed (· = v.lane 0) (v.triangleChangeBurst t).1.triangleBendBurst.2 := by
    unfold Voice.triangleBendBurst
    split
    next bends =>
      simp only [Bool.and_eq_true, bne_iff_ne] at bends
      exact .one (((h.triangleChangeBurst t).want (.inl bends.1)).trans changed) (.bend _)
    next => exact .nil
  exact change.append bend

theorem OnFirstLane.addressed_noiseReleaseBurst (h : v.OnFirstLane) :
    Addressed (· = v.lane 0) v.noiseReleaseBurst.2 := by
  unfold Voice.noiseReleaseBurst
  split
  next sounds =>
    simp only [bne_iff_ne] at sounds
    exact .one (h.want (.inr sounds)) (.off _)
  next => exact .nil

theorem OnFirstLane.addressed_noiseStrikeBurst (h : v.OnFirstLane) :
    Addressed (· = v.lane 0) v.noiseStrikeBurst.2 := by
  unfold Voice.noiseStrikeBurst
  split
  next audible =>
    simp only [Bool.and_eq_true, bne_iff_ne] at audible
    exact .one (h.want (.inl audible.1)) (.on _ _)
  next => exact .nil

theorem OnFirstLane.addressed_noiseChangeBurst (h : v.OnFirstLane) :
    Addressed (· = v.lane 0) v.noiseChangeBurst.2 := by
  unfold Voice.noiseChangeBurst
  split
  · have struck := h.noiseReleaseBurst.addressed_noiseStrikeBurst
    rw [lane_of_lanes v.sent_noiseReleaseBurst.lanes] at struck
    exact h.addressed_noiseReleaseBurst.append struck
  · exact .nil

theorem OnFirstLane.addressed_noiseBurst (h : v.OnFirstLane) :
    Addressed (· = v.lane 0) v.noiseBurst.2 := by
  have fade : Addressed (· = v.lane 0) v.noiseFadeBurst.2 := by
    unfold Voice.noiseFadeBurst
    split
    next fades =>
      simp only [Bool.and_eq_true, bne_iff_ne] at fades
      exact .one (h.sent fades.1.1) (.off _)
    next => exact .nil
  have change := h.noiseFadeBurst.addressed_noiseChangeBurst
  rw [lane_of_lanes v.sent_noiseFadeBurst.lanes] at change
  exact fade.append change

/-! ## The delta voice -/

section Delta

variable {ok : UInt8 → Prop}

theorem OnChannels.addressed_dmcReleaseBurst (h : v.OnChannels ok) :
    Addressed ok v.dmcReleaseBurst.2 := by
  unfold Voice.dmcReleaseBurst
  split
  next sounds =>
    simp only [bne_iff_ne] at sounds
    exact .one (h.sent sounds) (.off _)
  next => exact .nil

theorem OnChannels.addressed_dmcStrikeBurst (h : v.OnChannels ok) :
    Addressed ok v.dmcStrikeBurst.2 := by
  unfold Voice.dmcStrikeBurst
  split
  next audible =>
    simp only [Bool.and_eq_true, bne_iff_ne] at audible
    have good := h.want audible.1
    exact .cons good (.program _) (.cons good (.control _ _) (.one good (.on _ _)))
  next => exact .nil

theorem OnChannels.addressed_dmcBurst (h : v.OnChannels ok) : Addressed ok v.dmcBurst.2 := by
  unfold Voice.dmcBurst
  split
  · exact h.addressed_dmcReleaseBurst.append h.dmcReleaseBurst.addressed_dmcStrikeBurst
  · exact .nil

end Delta

end Voice

/-! ## Every part -/

namespace Part

/-- The channels that the voice of a part may send on. -/
def Mine (ok : UInt8 → Prop) (v : Voice) : Part → UInt8 → Prop
  | .pulse _, chan => v.OnLane chan
  | .triangle, chan | .noise, chan => chan = v.lane 0
  | .dmc, chan => ok chan

variable {ok : UInt8 → Prop} {p : Part} {v : Voice}

theorem Placed.addressed_burst (placed : p.Placed ok v) (t : Tuning) :
    Addressed (p.Mine ok v) (p.burst t v).2 := by
  cases p with
  | pulse side => exact Voice.OnLanes.addressed_pulseBurst placed t
  | triangle => exact Voice.OnFirstLane.addressed_triangleBurst placed t
  | noise => exact Voice.OnFirstLane.addressed_noiseBurst placed
  | dmc => exact Voice.OnChannels.addressed_dmcBurst placed

/-- A silenced part releases its notes where it may send. -/
theorem Placed.addressed_release (placed : p.Placed ok v) :
    Addressed (p.Mine ok v) (p.release v) := by
  cases p with
  | pulse side =>
      simp only [release, Scribe.pulseReleases]
      split
      · intro m member
        obtain ⟨chan, lane, rfl⟩ := List.mem_map.mp member
        exact ⟨chan, Voice.onLane_of_mem lane, .off _⟩
      · exact .nil
  | triangle | noise =>
      simp only [release, Scribe.wantedRelease]
      split
      next sounds =>
        exact .one (Voice.OnFirstLane.want placed (.inr (bne_iff_ne.mp sounds))) (.off _)
      next => exact .nil
  | dmc =>
      simp only [release, Scribe.sentRelease]
      split
      next sounds =>
        exact .one (Voice.OnChannels.sent placed (bne_iff_ne.mp sounds)) (.off _)
      next => exact .nil

end Part

theorem Scribe.addressed_asked {ok : UInt8 → Prop} (c : Scribe) {p : Part}
    (placed : p.Placed ok (c.voice p)) : Addressed (p.Mine ok (c.voice p)) (c.asked p) := by
  unfold asked
  split
  · exact .nil
  · exact placed.addressed_burst c.tuning

end ChipScribe
