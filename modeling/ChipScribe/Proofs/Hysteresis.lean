import Mathlib.Data.List.SplitBy
import ChipScribe.Proofs.Quiescence

/-!
# A note moves to another channel once

The duty of a pulse channel chooses the receiver channel of its notes.  A note
begins on the channel of the duty it began with.  While its age is below the
hysteresis the duty is followed but the note stays; from then on the note is on
the channel of the last duty that was followed.  So what a stretch of one note
does is known from the duties its recalculations saw, in closed form.
-/

namespace ChipScribe

open Midi

/-! ## Calls of a pulse voice -/

/-- What happens to a pulse voice, one call at a time. -/
inductive PulseCall where
  | recalculate (p : Pulse)
  | holdOff (settle : UInt32)
  | transmit (e : Emitter)
  | release
  | setUp

/-- A voice as a listener to its notes sees it, with the duty if the call before recomputed it. -/
structure Row where
  note : UInt8
  chan : UInt8
  duty : Option UInt8
  deriving DecidableEq, Repr

/-- The duties that the recalculations of a stretch saw. -/
def Row.duties (rows : List Row) : List UInt8 :=
  rows.filterMap (·.duty)

namespace Voice

def obey (t : Tuning) (v : Voice) : PulseCall → Voice
  | .recalculate p => v.followPulse t p
  | .holdOff settle => v.holdOff settle
  | .transmit e => (transmit (pulseBurst t) t v e).1
  | .release => v.released
  | .setUp => Scribe.freshVoice v.lanes

/-- The duty that a call recomputes the note with, unless a period write holds it off. -/
def heeds (v : Voice) : PulseCall → Option UInt8
  | .recalculate p => if v.settle = 0 then some (p.duty &&& 3) else none
  | _ => none

def row (v : Voice) (duty : Option UInt8) : Row :=
  ⟨v.want.note, v.want.chan, duty⟩

/-- The rows that a run of calls leaves behind. -/
def rows (t : Tuning) (v : Voice) : List PulseCall → List Row
  | [] => []
  | call :: calls => (v.obey t call).row (v.heeds call) :: (v.obey t call).rows t calls

def afterCalls (t : Tuning) (v : Voice) (calls : List PulseCall) : Voice :=
  calls.foldl (obey t) v

/--
The stretches of one note that begin in a run.  The first of all is left out, as it began before
the run.
-/
def stretches (t : Tuning) (v : Voice) (calls : List PulseCall) : List (List Row) :=
  ((v.row none :: v.rows t calls).splitBy fun a b => a.note == b.note).tail.filter
    (·.all (·.note != 0))

end Voice

/-- Which recalculation of a note chooses its channel, when there have been `m`. -/
def choosing (hysteresis m : Nat) : Nat :=
  if m < hysteresis then 1 else max 1 (hysteresis - 1)

/-- The channels of a stretch of one note are those its duties choose. -/
structure Chosen (hysteresis : Nat) (lane : UInt8 → UInt8) (stretch : List Row) : Prop where
  /-- At any time the duty of one recalculation so far chooses the channel. -/
  chan {early : List Row} {r : Row} : early ++ [r] <+: stretch →
    let duties := Row.duties (early ++ [r])
    duties[choosing hysteresis duties.length - 1]?.map lane = some r.chan
  /-- The channel changes at most once. -/
  once : ∃ i j a b, stretch.map (·.chan) = List.replicate i a ++ List.replicate j b

namespace Voice

variable {t : Tuning} {v : Voice} {call : PulseCall}

/-! ## What one call does -/

theorem age_releaseBurst (v : Voice) : v.releaseBurst.1.age = v.age := by
  unfold releaseBurst
  split <;> rfl

theorem age_strikeBurst (v : Voice) (t : Tuning) : (v.strikeBurst t).1.age = v.age := by
  unfold strikeBurst
  split <;> rfl

theorem age_changeBurst (v : Voice) (t : Tuning) : (v.changeBurst t).1.age = v.age := by
  unfold changeBurst
  split
  · exact (age_strikeBurst _ t).trans v.age_releaseBurst
  · rfl

theorem age_pulseBurst (v : Voice) (t : Tuning) : (v.pulseBurst t).1.age = v.age := by
  have faded (v : Voice) : v.fadeBurst.1.age = v.age := by
    unfold fadeBurst
    split <;> rfl
  have bent (w : Voice) : (w.bendBurst v.sent.chan).1.age = w.age := by
    unfold bendBurst
    split <;> rfl
  have louder (w : Voice) : (w.volumeBurst v.sent.chan).1.age = w.age := by
    unfold volumeBurst
    split <;> rfl
  simp only [pulseBurst, Burst.fst_andThen, louder, bent, age_changeBurst, faded]

/-- The voices agree on all that chooses the channel. -/
structure SameChoice (v w : Voice) : Prop where
  want : w.want = v.want
  duty : w.duty = v.duty
  age : w.age = v.age
  lanes : w.lanes = v.lanes

theorem sameChoice_transmit (v : Voice) (t : Tuning) (e : Emitter) :
    v.SameChoice (transmit (pulseBurst t) t v e).1 := by
  have sent := v.sent_pulseBurst t
  have age := v.age_pulseBurst t
  cases busy : v.pacer.busy t.cyclesPerMessage with
  | true =>
      rw [transmit_of_busy _ e busy]
      exact ⟨rfl, rfl, rfl, rfl⟩
  | false =>
      rw [transmit_of_free _ e busy]
      generalize v.pulseBurst t = burst at sent age ⊢
      exact ⟨sent.want, sent.duty, age, sent.lanes⟩

theorem lanes_obey (t : Tuning) (v : Voice) (call : PulseCall) :
    (v.obey t call).lanes = v.lanes := by
  cases call with
  | recalculate p => exact (v.followed_followPulse t p).lanes
  | transmit e => exact (v.sameChoice_transmit t e).lanes
  | holdOff | release | setUp => rfl

/-- A call that does not recompute the note leaves it as it is, or ends it with everything else. -/
theorem obey_of_heedless (none : v.heeds call = none) :
    (v.obey t call).want.note = 0 ∨ v.SameChoice (v.obey t call) := by
  cases call with
  | recalculate p =>
      have settling : v.settle > 0 := by
        by_contra settled
        have zero : v.settle = 0 := by simpa using settled
        simp [heeds, zero] at none
      refine .inr ?_
      rw [obey, followPulse, if_pos settling]
      exact ⟨rfl, rfl, rfl, rfl⟩
  | transmit e => exact .inr (v.sameChoice_transmit t e)
  | holdOff | release => exact .inr ⟨rfl, rfl, rfl, rfl⟩
  | setUp => exact .inl rfl

/-- What a recalculation that gives a note makes of the voice. -/
inductive Choice (hysteresis : Nat) (v : Voice) (duty : UInt8) (w : Voice) : Prop
  | begun : v.want.note = 0 ∨ w.want.note ≠ v.want.note → w.age = 1 → w.duty = duty →
      w.want.chan = v.lane duty → Choice hysteresis v duty w
  | followed : w.want.note = v.want.note → w.age = ageTick v.age → w.age.toNat < hysteresis →
      w.duty = duty → w.want.chan = v.want.chan → Choice hysteresis v duty w
  | settled : w.want.note = v.want.note → w.age = ageTick v.age → hysteresis ≤ w.age.toNat →
      w.duty = v.duty → w.want.chan = v.lane v.duty → Choice hysteresis v duty w

theorem choice_soundPulse (t : Tuning) (v : Voice) (p : Pulse) (pitch : Float) :
    Choice t.dutyHysteresis.toNat v (p.duty &&& 3) (v.soundPulse t p pitch) := by
  let u : Voice := { v.steer t pitch with
    want := { (v.steer t pitch).want with vel := t.pulseVelocity p.envelope.volume } }
  have sound : v.soundPulse t p pitch = (u.beginNote p.duty v.want.note).chooseLane t p.duty := rfl
  by_cases new : v.want.note = 0 ∨ u.want.note ≠ v.want.note
  · have begun : u.beginNote p.duty v.want.note =
        { u with duty := p.duty &&& 3, want := { u.want with chan := v.lane (p.duty &&& 3) }
                 age := 1 } := by
      unfold beginNote
      rw [if_pos (by simpa using new)]
      rfl
    rw [sound, begun]
    unfold chooseLane
    split
    · exact .begun new rfl rfl rfl
    · exact .begun new rfl rfl rfl
  · have held : u.beginNote p.duty v.want.note = { u with age := ageTick v.age } := by
      unfold beginNote
      rw [if_neg (by simpa using new)]
      rfl
    have same : u.want.note = v.want.note := by
      simpa using (not_or.mp new).2
    rw [sound, held]
    unfold chooseLane
    split
    next young => exact .followed same rfl (UInt32.lt_iff_toNat_lt.mp young) rfl rfl
    next old => exact .settled same rfl (UInt32.not_lt.mp old) rfl rfl

theorem choice_followPulse {p : Pulse} (settled : v.settle = 0)
    (sounds : (v.followPulse t p).want.note ≠ 0) :
    Choice t.dutyHysteresis.toNat v (p.duty &&& 3) (v.followPulse t p) := by
  have free : ¬ v.settle > 0 := by simp [settled]
  unfold followPulse at sounds ⊢
  rw [if_neg free] at sounds ⊢
  split at sounds
  · exact absurd rfl sounds
  next sounding =>
    rw [if_neg sounding]
    dsimp only at sounds ⊢
    split at sounds
    · exact absurd rfl sounds
    next low =>
      rw [if_neg low]
      exact choice_soundPulse t v p _

theorem choice_obey {duty : UInt8} (heeds : v.heeds call = some duty)
    (sounds : (v.obey t call).want.note ≠ 0) :
    Choice t.dutyHysteresis.toNat v duty (v.obey t call) := by
  cases call with
  | recalculate p =>
      simp only [Voice.heeds] at heeds
      split at heeds
      next settled =>
        cases heeds
        exact choice_followPulse settled sounds
      next => cases heeds
  | _ => cases heeds

theorem toNat_ageTick {age : UInt32} {m : Nat} (some : 0 < m)
    (counted : age.toNat = min m 0xFFFFFFFF) : (ageTick age).toNat = min (m + 1) 0xFFFFFFFF := by
  have zero : age ≠ 0 := by
    rintro rfl
    rw [UInt32.toNat_zero] at counted
    omega
  by_cases last : age = 0xFFFFFFFF
  · rw [ageTick, if_pos (by simp [last]), counted]
    have full : age.toNat = 0xFFFFFFFF := congrArg UInt32.toNat last
    omega
  · have room : age.toNat ≠ 0xFFFFFFFF := fun full => last (UInt32.toNat_inj.mp full)
    rw [ageTick, if_neg (by simp [zero, last]), UInt32.toNat_add]
    change (age.toNat + 1) % 4294967296 = _
    omega

end Voice

/-! ## A stretch of one note -/

theorem Row.duties_concat (rows : List Row) (r : Row) :
    duties (rows ++ [r]) = duties rows ++ r.duty.toList := by
  rw [duties, List.filterMap_append]
  cases duty : r.duty <;> simp [duties, duty]

/-- The voice at the end of a stretch that began with a new note. -/
structure Holding (hysteresis : Nat) (lane : UInt8 → UInt8) (stretch : List Row) (v : Voice) :
    Prop where
  heard : 0 < (Row.duties stretch).length
  /-- No hysteresis is longer than the count can go. -/
  age : v.age.toNat = min (Row.duties stretch).length 0xFFFFFFFF
  lanes : v.lane = lane
  /-- The duty that was last followed. -/
  duty : (Row.duties stretch)[min (Row.duties stretch).length (max 1 (hysteresis - 1)) - 1]? =
    some v.duty
  chan : (Row.duties stretch)[choosing hysteresis (Row.duties stretch).length - 1]?.map lane =
    some v.want.chan
  /-- Before the hysteresis is over the note has not moved. -/
  moved : ∃ i j a, stretch.map (·.chan) = List.replicate i a ++ List.replicate j v.want.chan ∧
    ((Row.duties stretch).length < hysteresis → i = 0)

namespace Holding

variable {hysteresis : Nat} {v w : Voice} {lane : UInt8 → UInt8} {stretch : List Row}

/-- A note that has outlived the hysteresis is on the channel of the duty last followed. -/
theorem chan_of_late (h : Holding hysteresis lane stretch v)
    (late : hysteresis ≤ (Row.duties stretch).length) : v.want.chan = v.lane v.duty := by
  have chosen := h.chan
  have index : choosing hysteresis (Row.duties stretch).length =
      min (Row.duties stretch).length (max 1 (hysteresis - 1)) := by
    have heard := h.heard
    unfold choosing
    split <;> omega
  rw [index, h.duty, ← h.lanes] at chosen
  exact (Option.some.inj chosen).symm

theorem keep (h : Holding hysteresis lane stretch v) (same : v.SameChoice w) :
    Holding hysteresis lane (stretch ++ [w.row none]) w := by
  have duties : Row.duties (stretch ++ [w.row none]) = Row.duties stretch := by
    simp [Row.duties_concat, Voice.row]
  obtain ⟨i, j, a, chans, early⟩ := h.moved
  constructor
  · exact duties ▸ h.heard
  · rw [duties, same.age]
    exact h.age
  · rw [← h.lanes]
    exact funext (Voice.lane_of_lanes same.lanes)
  · rw [duties, same.duty]
    exact h.duty
  · rw [duties, same.want]
    exact h.chan
  · refine ⟨i, j + 1, a, ?_, duties ▸ early⟩
    rw [List.map_append, chans, same.want, List.replicate_succ', List.append_assoc]
    simp [Voice.row, same.want]

/-- One more recalculation of the note: its duty counts only while the note is young. -/
theorem recompute (h : Holding hysteresis lane stretch v) (bound : hysteresis ≤ 0xFFFFFFFF)
    {duty : UInt8} (choice : Voice.Choice hysteresis v duty w) (sounds : v.want.note ≠ 0)
    (same : w.want.note = v.want.note) (lanes : w.lanes = v.lanes) :
    Holding hysteresis lane (stretch ++ [w.row (some duty)]) w := by
  have duties : Row.duties (stretch ++ [w.row (some duty)]) = Row.duties stretch ++ [duty] := by
    simp [Row.duties_concat, Voice.row]
  have late := h.chan_of_late
  obtain ⟨heard, age, lane_eq, last, chan, i, j, a, chans, early⟩ := h
  have aged (ticks : w.age = Voice.ageTick v.age) :
      w.age.toNat = min ((Row.duties stretch).length + 1) 0xFFFFFFFF := by
    rw [ticks]
    exact Voice.toNat_ageTick heard age
  have chans' : (stretch ++ [w.row (some duty)]).map (·.chan) =
      List.replicate i a ++ List.replicate j v.want.chan ++ [w.want.chan] := by
    rw [List.map_append, chans]
    rfl
  have stays (here : w.want.chan = v.want.chan) : (stretch ++ [w.row (some duty)]).map (·.chan) =
      List.replicate i a ++ List.replicate (j + 1) w.want.chan := by
    rw [chans', here, List.replicate_succ', List.append_assoc]
  have lane_eq' : w.lane = lane := lane_eq ▸ funext (Voice.lane_of_lanes lanes)
  generalize Row.duties stretch = ds at *
  have before {k : Nat} (lt : k < ds.length) : (ds ++ [duty])[k]? = ds[k]? :=
    List.getElem?_append_left lt
  have length : (ds ++ [duty]).length = ds.length + 1 := by simp
  cases choice with
  | begun new => exact absurd same (new.resolve_left sounds)
  | followed _ ticks young seen here =>
      have now := aged ticks
      have young : ds.length + 1 < hysteresis := by omega
      constructor
      · rw [duties, length]
        exact Nat.succ_pos _
      · rw [duties, length, now]
      · exact lane_eq'
      · have index : min (ds.length + 1) (max 1 (hysteresis - 1)) - 1 = ds.length := by omega
        rw [duties, length, index, seen]
        exact List.getElem?_concat_length
      · rw [choosing, if_pos (by omega), Nat.sub_self] at chan
        rw [duties, length, choosing, if_pos young, Nat.sub_self, before heard, here]
        exact chan
      · exact ⟨i, j + 1, a, stays here, fun _ => early (by omega)⟩
  | settled _ ticks old kept here =>
      have now := aged ticks
      have old : hysteresis ≤ ds.length + 1 := by omega
      have last' : (ds ++ [duty])[max 1 (hysteresis - 1) - 1]? = some v.duty := by
        have index : min ds.length (max 1 (hysteresis - 1)) = max 1 (hysteresis - 1) := by omega
        rw [before (by omega), ← index]
        exact last
      constructor
      · rw [duties, length]
        exact Nat.succ_pos _
      · rw [duties, length, now]
      · exact lane_eq'
      · have index : min (ds.length + 1) (max 1 (hysteresis - 1)) = max 1 (hysteresis - 1) := by
          omega
        rw [duties, length, index, last', kept]
      · rw [duties, length, choosing, if_neg (by omega), last', here, lane_eq]
        rfl
      · -- the note moves now if the hysteresis was not over before
        by_cases was : hysteresis ≤ ds.length
        · refine ⟨i, j + 1, a, stays (here.trans (late was).symm), fun young => ?_⟩
          rw [duties, length] at young
          omega
        · refine ⟨j, 1, v.want.chan, ?_, fun young => ?_⟩
          · rw [chans', early (by omega)]
            rfl
          · rw [duties, length] at young
            omega

/-- The recalculation that begins the note. -/
theorem ofNew {duty : UInt8} (choice : Voice.Choice hysteresis v duty w)
    (new : w.want.note ≠ v.want.note) (lanes : w.lanes = v.lanes) :
    Holding hysteresis v.lane [w.row (some duty)] w := by
  have duties : Row.duties [w.row (some duty)] = [duty] := rfl
  cases choice with
  | begun _ age seen here =>
      constructor
      · exact Nat.one_pos
      · rw [duties, age]
        rfl
      · exact funext (Voice.lane_of_lanes lanes)
      · have index : min [duty].length (max 1 (hysteresis - 1)) - 1 = 0 := by simp
        rw [duties, index, seen]
        rfl
      · have index : choosing hysteresis [duty].length - 1 = 0 := by
          rw [choosing, List.length_singleton]
          split <;> omega
        rw [duties, index, here]
        rfl
      · exact ⟨0, 1, 0, rfl, fun _ => rfl⟩
  | followed same => exact absurd same new
  | settled same => exact absurd same new

end Holding

section Stretches

variable {t : Tuning} {v w : Voice} {lane : UInt8 → UInt8} {stretch : List Row}
  {calls : List PulseCall}

theorem Chosen.concat {hysteresis : Nat} {duty : Option UInt8}
    (h : Chosen hysteresis lane stretch)
    (holding : Holding hysteresis lane (stretch ++ [w.row duty]) w) :
    Chosen hysteresis lane (stretch ++ [w.row duty]) := by
  constructor
  · intro early r upTo
    rcases List.prefix_concat_iff.mp upTo with last | before
    · obtain rfl : r = w.row duty := by
        simpa using congrArg List.getLast? last
      rw [last]
      exact holding.chan
    · exact h.chan before
  · obtain ⟨i, j, a, chans, -⟩ := holding.moved
    exact ⟨i, j, a, w.want.chan, chans⟩

/-- As long as the note is kept, each call keeps the account of its channel. -/
theorem Holding.obey (h : Holding t.dutyHysteresis.toNat lane stretch v) (call : PulseCall)
    (sounds : v.want.note ≠ 0) (same : (v.obey t call).want.note = v.want.note) :
    Holding t.dutyHysteresis.toNat lane (stretch ++ [(v.obey t call).row (v.heeds call)])
      (v.obey t call) := by
  have sounds' : (v.obey t call).want.note ≠ 0 := same ▸ sounds
  cases heeds : v.heeds call with
  | none => exact h.keep ((Voice.obey_of_heedless heeds).resolve_left sounds')
  | some duty =>
      have bound : t.dutyHysteresis.toNat ≤ 0xFFFFFFFF :=
        Nat.le_of_lt_succ t.dutyHysteresis.toNat_lt
      exact h.recompute bound (Voice.choice_obey heeds sounds') sounds same (v.lanes_obey t call)

theorem Chosen.rows (chosen : Chosen t.dutyHysteresis.toNat lane stretch)
    (h : Holding t.dutyHysteresis.toNat lane stretch v) (sounds : v.want.note ≠ 0)
    (same : ∀ r ∈ v.rows t calls, r.note = v.want.note) :
    Chosen t.dutyHysteresis.toNat lane (stretch ++ v.rows t calls) := by
  induction calls generalizing v stretch with
  | nil =>
      rw [Voice.rows, List.append_nil]
      exact chosen
  | cons call calls ih =>
      obtain ⟨here, later⟩ := List.forall_mem_cons.mp same
      have here : (v.obey t call).want.note = v.want.note := here
      have next := h.obey call sounds here
      rw [Voice.rows, ← List.singleton_append, ← List.append_assoc]
      exact ih (chosen.concat next) next (here ▸ sounds) fun r member =>
        (later r member).trans here.symm

/-- A stretch of one note that begins with the first call. -/
theorem chosen_of_new {n : UInt8} (sounds : n ≠ 0) (new : v.want.note ≠ n)
    (same : ∀ r ∈ v.rows t calls, r.note = n) :
    Chosen t.dutyHysteresis.toNat v.lane (v.rows t calls) := by
  have empty : Chosen t.dutyHysteresis.toNat v.lane [] :=
    ⟨fun upTo => by simp at upTo, 0, 0, 0, 0, rfl⟩
  cases calls with
  | nil => exact empty
  | cons call calls =>
      obtain ⟨here, later⟩ := List.forall_mem_cons.mp same
      have here : (v.obey t call).want.note = n := here
      have changed : (v.obey t call).want.note ≠ v.want.note := here ▸ new.symm
      rw [Voice.rows]
      cases heeds : v.heeds call with
      | none =>
          rcases Voice.obey_of_heedless heeds with silent | kept
          · exact absurd (here.symm.trans silent) sounds
          · exact absurd (congrArg Tone.note kept.want) changed
      | some duty =>
          have choice := Voice.choice_obey heeds (here ▸ sounds)
          have begun := Holding.ofNew choice changed (v.lanes_obey t call)
          have first := empty.concat begun
          exact first.rows begun (here ▸ sounds) fun r member => (later r member).trans here.symm

end Stretches

/-! ## The stretches of a run -/

/-- Between two maximal runs of a list the relation breaks. -/
theorem exists_of_mem_tail_splitBy {α : Type} {r : α → α → Bool} {l run : List α}
    (member : run ∈ (l.splitBy r).tail) :
    ∃ front last first rest back, l = front ++ last :: (run ++ back) ∧ run = first :: rest ∧
      r last first = false ∧ run.IsChain (r · ·) := by
  obtain ⟨init, before, after, split⟩ :
      ∃ init before after, l.splitBy r = init ++ before :: run :: after := by
    obtain ⟨head, tail, split⟩ := List.exists_cons_of_ne_nil (l := l.splitBy r) fun none => by
      simp [none] at member
    rw [split, List.tail_cons] at member
    obtain ⟨between, after, rfl⟩ := List.append_of_mem member
    refine ⟨(head :: between).dropLast, (head :: between).getLast (List.cons_ne_nil _ _), after, ?_⟩
    rw [split, List.append_cons _ (List.getLast ..), List.dropLast_append_getLast]
    rfl
  have chain := List.isChain_getLast_head_splitBy r l
  rw [split] at chain
  obtain ⟨some, some', breaks⟩ := (List.isChain_append_cons_cons.mp chain).2.1
  refine ⟨init.flatten ++ before.dropLast, before.getLast some, run.head some', run.tail,
    after.flatten, ?_, (List.cons_head_tail some').symm, breaks,
    List.isChain_of_mem_splitBy (l := l) (by simp [split])⟩
  calc l = (l.splitBy r).flatten := (List.flatten_splitBy r l).symm
    _ = init.flatten ++ (before ++ (run ++ after.flatten)) := by simp [split]
    _ = init.flatten ++ ((before.dropLast ++ [before.getLast some]) ++ (run ++ after.flatten)) := by
        rw [List.dropLast_append_getLast]
    _ = _ := by simp

namespace Voice

variable {t : Tuning} {v : Voice} {calls : List PulseCall}

theorem lanes_afterCalls (v : Voice) (t : Tuning) (calls : List PulseCall) :
    (v.afterCalls t calls).lanes = v.lanes := by
  induction calls generalizing v with
  | nil => rfl
  | cons call calls ih => exact (ih (v.obey t call)).trans (v.lanes_obey t call)

theorem rows_take (n : Nat) : (v.rows t calls).take n = v.rows t (calls.take n) := by
  induction calls generalizing v n with
  | nil => simp [rows]
  | cons call calls ih =>
      cases n with
      | zero => rfl
      | succ n => exact congrArg _ (ih n)

/-- Where a run is cut between two rows, it goes on from the voice of the row before. -/
theorem exists_of_rows {duty : Option UInt8} {front back : List Row} {last : Row}
    (cut : v.row duty :: v.rows t calls = front ++ last :: back) :
    ∃ (w : Voice) (later : List PulseCall),
      w.lane = v.lane ∧ last.note = w.want.note ∧ back = w.rows t later := by
  induction front generalizing v calls duty with
  | nil =>
      obtain ⟨here, rest⟩ := List.cons.inj cut
      exact ⟨v, calls, rfl, (congrArg Row.note here).symm, rest.symm⟩
  | cons r front ih =>
      obtain ⟨-, rest⟩ := List.cons.inj cut
      cases calls with
      | nil => simp [rows] at rest
      | cons call calls =>
          obtain ⟨w, later, lane, note, back⟩ := ih rest
          exact ⟨w, later, lane.trans (funext (lane_of_lanes (v.lanes_obey t call))), note, back⟩

/--
A note stays on the channel of the duty it began with until it is as old as the hysteresis, and is
on the channel of the last duty before that from then on.
-/
theorem duty_moves_note_once (t : Tuning) (v : Voice) (calls : List PulseCall) :
    (v.stretches t calls).Forall (Chosen t.dutyHysteresis.toNat v.lane) := by
  rw [List.forall_iff_forall_mem]
  intro stretch member
  obtain ⟨member, notes⟩ := List.mem_filter.mp member
  obtain ⟨front, last, first, rest, back, cut, stretch_eq, breaks, chain⟩ :=
    exists_of_mem_tail_splitBy member
  obtain ⟨w, later, lane, note, rows⟩ := exists_of_rows cut
  have cut' : stretch = w.rows t (later.take stretch.length) := by
    rw [← rows_take, ← rows, List.take_left]
  have one : ∀ r ∈ stretch, r.note = first.note := by
    have chain : (first :: rest).IsChain fun a b => a.note = b.note := by
      simpa [stretch_eq] using chain
    have later := (List.pairwise_cons.mp (List.isChain_iff_pairwise.mp chain)).1
    rw [stretch_eq]
    exact List.forall_mem_cons.mpr ⟨rfl, fun r member => (later r member).symm⟩
  have sounds : first.note ≠ 0 := by
    have all := List.all_eq_true.mp notes first (by simp [stretch_eq])
    simpa using all
  have new : w.want.note ≠ first.note := by
    rw [← note]
    simpa using breaks
  rw [cut'] at one ⊢
  exact lane ▸ chosen_of_new sounds new one

/--
A note whose duty is followed to another channel moves there with the third recalculation, and the
next note begins on a channel of its own.  Logarithms are not computed here, so the pitch of the
period is given.
-/
example (pitch : Pitch.ofPeriod Pitch.pulseDivider 253 = 69.01560946339869) :
    let t : Tuning := { dutyHysteresis := 3 }
    let v : Voice := { lanes := #v[0, 1, 2, 3] }
    let seen (count duty : UInt8) : PulseCall :=
      .recalculate { sweep := { timer := 253 }, length := { count }, duty }
    v.stretches t [seen 1 2, seen 1 1, seen 1 3, seen 0 3, seen 1 0] =
      [[⟨69, 2, some 2⟩, ⟨69, 2, some 1⟩, ⟨69, 1, some 3⟩], [⟨69, 0, some 0⟩]] := by
  simp only [stretches, rows, obey, followPulse, pitch]
  decide +kernel

end Voice

/-! ## The calls of a chip -/

def Synth.pulse (s : Synth) : PulseSide → Pulse
  | .first => s.pulse1
  | .second => s.pulse2

theorem Scribe.pulse_watchWrite (c : Scribe) (s : Synth) (register : Register) (data : UInt8)
    (side : PulseSide) :
    (c.watchWrite s register data).voice (.pulse side) = c.voice (.pulse side) ∨
      (c.watchWrite s register data).voice (.pulse side) =
        (c.voice (.pulse side)).holdOff c.tuning.periodSettle := by
  cases register with
  | pulseTimerLow side' | pulseTimerHigh side' =>
      cases side <;> cases side' <;>
        first
        | exact .inl rfl
        | exact .inr rfl
  | _ => cases side <;> exact .inl rfl

theorem Scribe.pulse_turn (c : Scribe) (m : Memory) (s : Synth) (side : PulseSide) :
    ∃ e, ((c.follow m s).1.turn (.pulse side)).1 =
      (c.voice (.pulse side)).afterCalls c.tuning [.recalculate (s.pulse side), .transmit e] := by
  have voice : (c.follow m s).1.voice (.pulse side) =
      (c.voice (.pulse side)).followPulse c.tuning (s.pulse side) := by
    rw [voice_follow]
    cases side <;> rfl
  refine ⟨(c.follow m s).1.emitterAfter (Part.turnOrder.takeWhile (· ≠ .pulse side)), ?_⟩
  rw [turn, perform, voice]
  rfl

namespace Chip

/-- To a pulse voice on its home lanes, what a host asks of the chip is a few calls of its own. -/
theorem pulse_operate (c : Chip) (side : PulseSide) {o : Operation}
    (keeps : ∀ t, o ≠ .withTuning t)
    (home : (c.scribe.voice (.pulse side)).lanes = (Part.pulse side).home.lanes) :
    ∃ calls, (c.operate o).1.scribe.voice (.pulse side) =
      (c.scribe.voice (.pulse side)).afterCalls c.scribe.tuning calls := by
  have next := c.voice_scribed o (.pulse side)
  rw [← c.voice_operate] at next
  cases o with
  | power | setUpReceiver =>
      refine ⟨[.setUp], next.trans ?_⟩
      change _ = Scribe.freshVoice (c.scribe.voice (.pulse side)).lanes
      rw [home]
      cases side <;> rfl
  | silence => exact ⟨[.release], next⟩
  | clock memory | transcribe memory =>
      obtain ⟨e, turned⟩ := c.scribe.pulse_turn memory _ side
      exact ⟨_, next.trans turned⟩
  | write address data =>
      rw [c.voice_operate, scribed]
      cases Register.ofAddress? address with
      | none => exact ⟨[], rfl⟩
      | some register =>
          rcases c.scribe.pulse_watchWrite c.synth register data side with same | held
          · exact ⟨[], same⟩
          · exact ⟨[.holdOff c.scribe.tuning.periodSettle], held⟩
  | withTuning t => exact absurd rfl (keeps t)
  | read | supply | withLibrary =>
      refine ⟨[], ?_⟩
      rw [c.voice_operate]
      cases side <;> rfl

/-- So is a whole run, as long as the tuning stands. -/
theorem pulse_after (c : Chip) (side : PulseSide) {ops : List Operation}
    (keeps : ∀ o ∈ ops, ∀ t, o ≠ .withTuning t)
    (home : (c.scribe.voice (.pulse side)).lanes = (Part.pulse side).home.lanes) :
    ∃ calls, (c.after ops).scribe.voice (.pulse side) =
      (c.scribe.voice (.pulse side)).afterCalls c.scribe.tuning calls := by
  induction ops generalizing c with
  | nil => exact ⟨[], rfl⟩
  | cons o ops ih =>
      obtain ⟨here, later⟩ := List.forall_mem_cons.mp keeps
      obtain ⟨calls, voice⟩ := c.pulse_operate side here home
      have lanes := (c.scribe.voice (.pulse side)).lanes_afterCalls c.scribe.tuning calls
      obtain ⟨more, last⟩ := ih (c.operate o).1 later (by rw [voice, lanes, home])
      refine ⟨calls ++ more, last.trans ?_⟩
      rw [c.tuning_operate here, voice, Voice.afterCalls, Voice.afterCalls, Voice.afterCalls,
        List.foldl_append]

end Chip

end ChipScribe
