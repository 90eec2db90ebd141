import ChipScribe.Proofs.Tracking
import ChipScribe.Proofs.Clamp

/-!
# The regions of the parts

Once the receiver is set up, each pulse channel has four channels of its own
and everything else goes to the upper half.  What one part sends is therefore
never heard on the channels of a pulse voice of another.
-/

namespace ChipScribe

open Midi

/-! ## Notes and bends fit their bytes -/

/-- Note and bend reach the receiver whole. -/
structure Tone.Fits (tone : Tone) : Prop where
  note : tone.note ≤ 127
  wheel : tone.wheel ≤ 0x3FFF

namespace Voice

variable {v : Voice}

theorem fits_hush (h : v.want.Fits) : v.hush.want.Fits where
  note := UInt8.zero_le
  wheel := h.wheel

theorem fits_steer (v : Voice) (t : Tuning) (pitch : Float) : (v.steer t pitch).want.Fits where
  note := toUInt8_clampFloat _
  wheel := UInt16.and_le_right

theorem fits_beginNote (h : v.want.Fits) (duty held : UInt8) :
    (v.beginNote duty held).want.Fits := by
  unfold beginNote
  split <;> exact ⟨h.note, h.wheel⟩

theorem fits_chooseLane (h : v.want.Fits) (t : Tuning) (duty : UInt8) :
    (v.chooseLane t duty).want.Fits := by
  unfold chooseLane
  split <;> exact ⟨h.note, h.wheel⟩

theorem fits_soundPulse (v : Voice) (t : Tuning) (p : Pulse) (pitch : Float) :
    (v.soundPulse t p pitch).want.Fits := by
  apply fits_chooseLane
  apply fits_beginNote
  have steered := v.fits_steer t pitch
  exact ⟨steered.note, steered.wheel⟩

theorem fits_followPulse (h : v.want.Fits) (t : Tuning) (p : Pulse) :
    (v.followPulse t p).want.Fits := by
  unfold followPulse
  split
  · exact h
  · split
    · exact fits_hush h
    · dsimp only
      split
      · exact fits_hush h
      · exact v.fits_soundPulse t p _

end Voice

/-! ## Every part in its region -/

namespace Part

/-- The channels of a part once the receiver is set up. -/
def region : Part → UInt8 → Prop
  | .pulse .first, chan => chan < 4
  | .pulse .second, chan => 4 ≤ chan ∧ chan < 8
  | .triangle, chan | .noise, chan | .dmc, chan => 8 ≤ chan

instance (p : Part) : DecidablePred p.region := fun chan =>
  match p with
  | .pulse .first => inferInstanceAs (Decidable (chan < 4))
  | .pulse .second => inferInstanceAs (Decidable (4 ≤ chan ∧ chan < 8))
  | .triangle | .noise | .dmc => inferInstanceAs (Decidable (8 ≤ chan))

/-- A voice as it is once the receiver has been set up. -/
structure Settled (p : Part) (v : Voice) : Prop where
  placed : p.Placed Upper v
  lanes : v.lanes = p.home.lanes
  fits (side : PulseSide) : p = .pulse side → v.want.Fits

variable {p : Part} {v : Voice}

theorem Settled.inside {side : PulseSide} (h : (pulse side).Settled v) (duty : UInt8) :
    (pulse side).region (v.lane duty) := by
  rw [Voice.lane_of_lanes h.lanes]
  cases side with
  | first => exact Scribe.lane_freshVoice _ (by decide) duty
  | second => exact Scribe.lane_freshVoice _ (by decide) duty

theorem Settled.triangle_inside (h : triangle.Settled v) : triangle.region (v.lane 0) := by
  rw [Voice.lane_of_lanes h.lanes]
  decide

theorem Settled.noise_inside (h : noise.Settled v) : noise.region (v.lane 0) := by
  rw [Voice.lane_of_lanes h.lanes]
  decide

theorem Settled.confined_burst (h : p.Settled v) (t : Tuning) :
    Confined p.region (p.burst t v).2 := by
  refine (h.placed.addressed_burst t).confined fun chan mine => ?_
  cases p with
  | pulse side =>
      obtain ⟨duty, rfl⟩ := mine
      rw [low_of_lt (Voice.OnLanes.narrow h.placed duty)]
      exact h.inside duty
  | triangle =>
      obtain rfl := mine
      rw [low_of_lt (Voice.OnFirstLane.narrow h.placed)]
      exact h.triangle_inside
  | noise =>
      obtain rfl := mine
      rw [low_of_lt (Voice.OnFirstLane.narrow h.placed)]
      exact h.noise_inside
  | dmc => exact mine

/-- A pulse voice shares no channel with another part. -/
theorem region_disjoint {q : Part} {side : PulseSide} (other : q ≠ pulse side) {chan : UInt8}
    (here : (pulse side).region chan) : ¬ q.region chan := by
  intro there
  cases side with
  | first =>
      have below : chan < 4 := here
      rcases q with (_ | _) | _ | _ | _
      case pulse.first => exact other rfl
      case pulse.second =>
        have above : 4 ≤ chan := there.1
        grind
      all_goals
        have above : 8 ≤ chan := there
        grind
  | second =>
      have within : 4 ≤ chan ∧ chan < 8 := here
      rcases q with (_ | _) | _ | _ | _
      case pulse.second => exact other rfl
      case pulse.first =>
        have below : chan < 4 := there
        grind
      all_goals
        have above : 8 ≤ chan := there
        grind

theorem settled_home (p : Part) : p.Settled p.home where
  placed := p.placed_home
  lanes := rfl
  fits := by
    rintro (_ | _) rfl
    · exact ⟨by decide, by decide⟩
    · exact ⟨by decide, by decide⟩

/-- The note of a part other than the delta channel's is in its region. -/
theorem Settled.sounding_region (h : p.Settled v) (lower : p ≠ .dmc) :
    ∀ k ∈ v.sounding, p.region k.chan := by
  intro k member
  by_cases sounds : v.sent.note = 0
  · rw [Voice.sounding_of_zero sounds] at member
    exact absurd member (Multiset.notMem_zero k)
  · rw [Voice.sounding_of_ne sounds, Multiset.mem_singleton] at member
    subst member
    cases p with
    | pulse side =>
        obtain ⟨duty, eq⟩ := Voice.OnLanes.sent h.placed sounds
        rw [Key.of, eq]
        exact h.inside duty
    | triangle =>
        rw [Key.of, Voice.OnFirstLane.sent h.placed sounds]
        exact h.triangle_inside
    | noise =>
        rw [Key.of, Voice.OnFirstLane.sent h.placed sounds]
        exact h.noise_inside
    | dmc => exact absurd rfl lower

end Part

theorem settled_invariant : VoiceInvariant Part.Settled (Upper ·.channel) where
  home := Part.settled_home
  alike alike h :=
    { placed := placed_invariant.alike alike h.placed
      lanes := alike.lanes.trans h.lanes
      fits side eq := by
        rw [alike.want]
        exact h.fits side eq }
  released h :=
    { placed := placed_invariant.released h.placed
      lanes := h.lanes
      fits := h.fits }
  follow {p v} t m s l all h :=
    { placed := placed_invariant.follow t m s l all h.placed
      lanes := (p.followed_follow t m s l v).lanes.trans h.lanes
      fits := by
        rintro (_ | _) rfl
        · exact Voice.fits_followPulse (h.fits _ rfl) t _
        · exact Voice.fits_followPulse (h.fits _ rfl) t _ }
  burst {p v} t h :=
    { placed := placed_invariant.burst t h.placed
      lanes := (p.sent_burst t v).lanes.trans h.lanes
      fits side eq := by
        rw [(p.sent_burst t v).want]
        exact h.fits side eq }

end ChipScribe
