import Mathlib.Algebra.Order.BigOperators.Group.List
import ChipScribe.Proofs.FileReader

/-!
# A recording read back

The writer keeps a running tick and counts pauses as it goes.  Here each message
is due at a tick that depends on its own clock and on the pauses before it, and
its time in the file is what is left to that tick after the latest message
before it.
-/

namespace ChipScribe.Midi.File

variable {hz : Float} {events : List Event}

/-- A pause is due never, and a message a tick later for each pause before it. -/
def dueAt (hz : Float) (events : List Event) : Event × Nat → Option (Nat × Message)
  | (e, i) =>
      if e.message = .delay then none
      else some (tickOf hz e.cycle + (events.take i).countP (·.message = .delay), e.message)

/-- The messages with the ticks they are due at. -/
def due (hz : Float) (events : List Event) : List (Nat × Message) :=
  events.zipIdx.filterMap (dueAt hz events)

theorem messages_due (hz : Float) (events : List Event) :
    (due hz events).map Prod.snd = (events.map (·.message)).filter (· ≠ .delay) := by
  have each (entries : List (Event × Nat)) :
      (entries.filterMap (dueAt hz events)).map Prod.snd =
        (entries.map (·.1.message)).filter (· ≠ .delay) := by
    induction entries with
    | nil => rfl
    | cons entry entries ih =>
        by_cases pause : entry.1.message = .delay
        · simpa [dueAt, pause] using ih
        · simpa [dueAt, pause] using ih
  have order : events.zipIdx.map (·.1.message) = events.map (·.message) :=
    calc
      _ = (events.zipIdx.map Prod.fst).map (·.message) := List.map_map.symm
      _ = _ := by rw [List.zipIdx_map_fst]
  rw [due, each, order]

def latest (ticks : List Nat) : Nat :=
  ticks.foldl max 0

/-- What is left to a tick after the latest one before it. -/
def gap (ticks : List Nat) (k : Nat) : Nat :=
  ticks.getD k 0 - latest (ticks.take k)

/-! ## Times are gaps -/

/-- The times of messages after the tick `last`. -/
def spaced (last : Nat) : List (Nat × Message) → List (Nat × Message)
  | [] => []
  | (tick, m) :: rest => (min (tick - last) maxDelta, m) :: spaced (max last tick) rest

/-- The writer in the middle of the events counts the pauses before. -/
theorem deltasFrom_eq_spaced (hz : Float) (before events : List Event) (last : Nat) :
    deltasFrom hz (before.countP (·.message = .delay)) last events =
      spaced last ((events.zipIdx before.length).filterMap (dueAt hz (before ++ events))) := by
  induction events generalizing before last with
  | nil => rfl
  | cons e rest ih =>
      have later := ih (before ++ [e])
      simp only [List.countP_append, List.countP_singleton, List.length_append,
        List.length_singleton, List.append_assoc, List.singleton_append] at later
      by_cases pause : e.message = .delay
      · have here : dueAt hz (before ++ e :: rest) (e, before.length) = none := by
          simp [dueAt, pause]
        simp only [pause, decide_true, if_true] at later
        rw [List.zipIdx_cons, List.filterMap_cons_none here, deltasFrom, if_pos pause, later]
      · have here : dueAt hz (before ++ e :: rest) (e, before.length) =
            some (tickOf hz e.cycle + before.countP (·.message = .delay), e.message) := by
          simp [dueAt, pause]
        simp only [pause, decide_false, Bool.false_eq_true, if_false, Nat.add_zero] at later
        rw [List.zipIdx_cons, List.filterMap_cons_some here, deltasFrom, if_neg pause]
        dsimp only
        rw [later, spaced]

theorem spaced_eq_mapIdx (last : Nat) (messages : List (Nat × Message)) :
    spaced last messages = messages.mapIdx fun k (tick, m) =>
      (min (tick - ((messages.map Prod.fst).take k).foldl max last) maxDelta, m) := by
  induction messages generalizing last with
  | nil => rfl
  | cons entry rest ih => simp [spaced, ih, List.mapIdx_cons]

theorem deltas_eq (hz : Float) (events : List Event) :
    deltas hz events = (due hz events).mapIdx fun k (_, m) =>
      (min (gap ((due hz events).map Prod.fst) k) maxDelta, m) := by
  have from_start : deltas hz events = spaced 0 (due hz events) :=
    deltasFrom_eq_spaced hz [] events 0
  rw [from_start, spaced_eq_mapIdx]
  refine List.ext_getElem (by simp) fun k _ bound => ?_
  rw [List.length_mapIdx] at bound
  simp [gap, latest, bound]

/-! ## Sums of times -/

theorem latest_take_succ {ticks : List Nat} {k : Nat} (h : k < ticks.length) :
    latest (ticks.take (k + 1)) = latest (ticks.take k) + gap ticks k := by
  have next : ticks.getD k 0 = ticks[k] := by simp [h]
  have step : latest (ticks.take (k + 1)) = max (latest (ticks.take k)) ticks[k] := by
    rw [latest, List.take_succ_eq_append_getElem h, List.foldl_append]
    rfl
  rw [step, gap, next]
  omega

/-- Times that are not cut off add up to the latest tick. -/
theorem sum_gaps {ticks : List Nat} {k : Nat} (h : k ≤ ticks.length)
    (whole : ∀ j < k, gap ticks j ≤ maxDelta) :
    ((List.range k).map fun j => min (gap ticks j) maxDelta).sum = latest (ticks.take k) := by
  induction k with
  | zero => rfl
  | succ k ih =>
      rw [List.range_succ, List.map_append, List.sum_append,
        ih (Nat.le_of_succ_le h) fun j hj => whole j (Nat.lt_succ_of_lt hj), latest_take_succ h,
        List.map_singleton, List.sum_singleton, Nat.min_eq_left (whole k (Nat.lt_succ_self k))]

/-! ## The file -/

theorem timed_deltas (playable : ∀ e ∈ events, e.message.Playable) :
    ∀ entry ∈ deltas hz events, Reader.Timed entry := by
  have stored : ∀ m ∈ (due hz events).map Prod.snd, m ≠ .delay ∧ m.Playable := by
    rw [messages_due]
    intro m stays
    obtain ⟨held, audible⟩ := List.mem_filter.mp stays
    obtain ⟨e, present, rfl⟩ := List.mem_map.mp held
    exact ⟨of_decide_eq_true audible, playable e present⟩
  intro entry present
  rw [deltas_eq, List.mem_mapIdx] at present
  obtain ⟨k, bound, rfl⟩ := present
  obtain ⟨audible, playable⟩ := stored _ (List.mem_map_of_mem (List.getElem_mem bound))
  exact ⟨Nat.min_le_right _ _, audible, playable⟩

theorem length_timed_le {delta : Nat} (fits : delta ≤ maxDelta) (bytes : List UInt8) :
    (timed delta bytes).length ≤ 4 + bytes.length := by
  have few := Quantity.length_encode (Reader.toNat_toUInt32 fits ▸ fits)
  rw [timed, List.length_append]
  omega

theorem length_bytes_le (m : Message) : m.bytes.length ≤ 3 := by
  cases m with
  | delay => exact Nat.zero_le 3
  | short status data1 data2 =>
      rw [Message.bytes]
      split
      · exact Nat.le_succ 2
      · exact Nat.le_refl 3

/-- The most that a track of some events can take. -/
theorem length_track_le (hz : Float) (events : List Event) :
    (track hz events).length ≤ 7 * events.length + 17 := by
  have fewer : (deltas hz events).length ≤ events.length := by
    rw [deltas_eq, List.length_mapIdx, ← List.length_map Prod.snd, messages_due]
    exact (List.length_filter_le _ _).trans_eq (List.length_map _)
  have each (entry) (present : entry ∈ deltas hz events) :
      (timed entry.1 entry.2.bytes).length ≤ 7 := by
    rw [deltas_eq, List.mem_mapIdx] at present
    obtain ⟨k, bound, rfl⟩ := present
    have bytes := length_bytes_le ((due hz events)[k]).2
    exact (length_timed_le (Nat.min_le_right _ _) _).trans (Nat.add_le_add_left bytes 4)
  have messages : ((deltas hz events).flatMap fun entry => timed entry.1 entry.2.bytes).length ≤
      (deltas hz events).length * 7 := by
    rw [List.length_flatMap]
    refine (List.sum_le_card_nsmul _ 7 (List.forall_mem_map.mpr each)).trans_eq ?_
    rw [List.length_map]
    rfl
  have front : (timed 0 metaTempo).length ≤ 4 + 6 := length_timed_le (Nat.zero_le _) metaTempo
  have back : (timed 0 endOfTrack).length ≤ 4 + 3 := length_timed_le (Nat.zero_le _) endOfTrack
  calc (track hz events).length
    _ = (timed 0 metaTempo).length +
          ((deltas hz events).flatMap fun entry => timed entry.1 entry.2.bytes).length +
          (timed 0 endOfTrack).length := by
        rw [track, List.length_append, List.length_append]
    _ ≤ 7 * events.length + 17 := by omega

/-- The track begins after two chunk headers and the body of the first. -/
theorem drop_encode (hz : Float) (events : List Event) :
    (encode hz events).drop 22 = track hz events := by
  let front := header ++ ("MTrk".toList.map (fun c => c.toNat.toUInt8) ++
    bigEndian 4 (track hz events).length)
  have shape : encode hz events = front ++ track hz events := by
    simp [encode, chunk, front, List.append_assoc]
  have length : front.length = 22 := by
    rw [List.length_append, List.length_append, Reader.length_bigEndian]
    rfl
  rw [shape, List.drop_left' length]

/-- The messages as a reader finds them, each after its gap or the longest time there is. -/
def heard (hz : Float) (events : List Event) : List (Nat × Reader.TrackEvent) :=
  (due hz events).mapIdx fun k (_, m) =>
    (min (gap ((due hz events).map Prod.fst) k) 0x0FFFFFFF, .channel m)

theorem map_deltas (hz : Float) (events : List Event) :
    (deltas hz events).map (fun (delta, m) => (delta, .channel m)) = heard hz events := by
  rw [deltas_eq]
  refine List.ext_getElem (by simp [heard]) fun k _ _ => ?_
  simp only [List.getElem_map, List.getElem_mapIdx, heard]
  rfl

theorem times_heard (hz : Float) (events : List Event) :
    (heard hz events).map Prod.fst = (List.range (due hz events).length).map fun k =>
      min (gap ((due hz events).map Prod.fst) k) maxDelta := by
  refine List.ext_getElem (by simp [heard]) fun k _ _ => ?_
  simp only [List.getElem_map, List.getElem_mapIdx, List.getElem_range, heard]
  rfl

/--
A reader of format 0 reads a recording whole.  Its messages stand in order
between the tempo and the end of the track, each after the gap to the latest
tick before it, cut off at four groups.  Where no gap so far was cut off, a
message is heard at the latest tick of those up to its own.
-/
theorem reads_back (hz : Float) (events : List Event)
    (playable : ∀ e ∈ events, e.message.Playable) (fits : (track hz events).length < 2 ^ 32) :
    let ticks := (due hz events).map Prod.fst
    ∃ recording, Reader.file? (encode hz events) = some recording ∧
      recording.format = 0 ∧ recording.tracks = 1 ∧ recording.division = 480 ∧
      recording.trackLength = ((encode hz events).drop 22).length ∧
      recording.events =
        (0, .about 0x51 [0x07, 0xA1, 0x20]) :: heard hz events ++ [(0, .about 0x2F [])] ∧
      (due hz events).map Prod.snd = (events.map (·.message)).filter (· ≠ .delay) ∧
      ∀ k < ticks.length, (∀ j ≤ k, gap ticks j ≤ 0x0FFFFFFF) →
        recording.time (k + 1) = latest (ticks.take (k + 1)) := by
  intro ticks
  refine ⟨_, Reader.file?_encode (timed_deltas playable) fits, rfl, rfl, rfl, ?length, ?events,
    messages_due hz events, ?time⟩
  case length => rw [drop_encode]
  case events =>
    rw [map_deltas]
    rfl
  case time =>
    intro k bound whole
    have within : k + 1 ≤ (due hz events).length := by
      rwa [List.length_map] at bound
    have stored : k + 1 ≤ (heard hz events).length := by
      rwa [heard, List.length_mapIdx]
    have unclipped (j : Nat) (before : j < k + 1) : gap ticks j ≤ maxDelta :=
      whole j (Nat.le_of_lt_succ before)
    have front : (heard hz events).take (k + 1) =
        ((heard hz events) ++ [(0, Reader.TrackEvent.endOfTrack)]).take (k + 1) :=
      (List.take_append_of_le_length stored).symm
    rw [Reader.Recording.time, map_deltas, List.take_succ_cons, ← front, List.map_cons,
      List.sum_cons, Nat.zero_add, List.map_take, times_heard, ← List.map_take, List.take_range,
      Nat.min_eq_left within]
    exact sum_gaps bound unclipped

/-- Two pauses and a note, the end of which is stamped before its start. -/
theorem reads_back_note :
    let events : List Event :=
      [⟨9000, .delay⟩, ⟨9000, .short 0x90 69 96⟩, ⟨9000, .delay⟩, ⟨0, .short 0x80 69 0⟩]
    ∃ recording, Reader.file? (encode 1789773.0 events) = some recording ∧
      recording.trackLength = ((encode 1789773.0 events).drop 22).length ∧
      recording.events.map Prod.snd =
        [.about 0x51 [0x07, 0xA1, 0x20], .channel (.short 0x90 69 96), .channel (.short 0x80 69 0),
          .about 0x2F []] := by
  intro events
  have playable : ∀ e ∈ events, e.message.Playable := by decide
  have fits : (track 1789773.0 events).length < 2 ^ 32 :=
    (length_track_le _ events).trans_lt (by decide)
  obtain ⟨recording, read, -, -, -, length, stored, -⟩ :=
    reads_back 1789773.0 events playable fits
  refine ⟨recording, read, length, ?_⟩
  rw [stored]
  simp [heard, due, dueAt, events]

end ChipScribe.Midi.File
