import ChipScribe.Proofs.Bench
import ChipScribe.Proofs.Range

/-!
# Notes of samples

A sample's note ends with the sample as long as two things hold: no write makes
the sample loop after it has run out, and the host answers promptly enough that
no sample runs out before its lookup.  A write that comes too late leaves the
note sounding, however long the chip is clocked.
-/

namespace ChipScribe

/-! ## What the advance of the channel changes -/

namespace Region

theorem dmcPeriod_ge (r : Region) (index : UInt8) : 50 ≤ (r.dmcPeriod index).toNat := by
  have table : ∀ i : Fin 16, 50 ≤ r.dmcPeriods[i].toNat := by
    cases r <;> decide
  exact table ⟨index.toNat % 16, lowBits_lt index⟩

end Region

namespace Dmc

/-- What a clock does to the sample and its timers. -/
structure Advanced (r : Region) (d e : Dmc) : Prop where
  remaining : e.remaining = d.remaining
  loop : e.loop = d.loop
  age : e.age = ageTick d.age
  startDelay : e.startDelay = if d.startDelay > 0 then d.startDelay - 1 else d.startDelay
  countdown : e.countdown = if d.stepping then r.dmcPeriod d.rate else d.countdown - 1

private theorem timer_keeps (r : Region) (d : Dmc) :
    (d.runTimer r).remaining = d.remaining ∧ (d.runTimer r).loop = d.loop ∧
      (d.runTimer r).age = d.age ∧ (d.runTimer r).startDelay = d.startDelay := by
  unfold runTimer stepBit
  dsimp only
  repeat' split
  all_goals exact ⟨rfl, rfl, rfl, rfl⟩

private theorem countdown_runTimer (r : Region) (d : Dmc) : (d.runTimer r).countdown =
    if d.stepping then r.dmcPeriod d.rate else d.countdown - 1 := by
  unfold runTimer stepBit
  dsimp only
  split
  · repeat' split
    all_goals rfl
  · rfl

theorem advanced (r : Region) (d : Dmc) : d.Advanced r (d.advance r) := by
  obtain ⟨remaining, loop, age, startDelay⟩ := timer_keeps r d.tickAge
  have countdown := countdown_runTimer r d.tickAge
  unfold advance runDelay
  rw [startDelay]
  split
  next waits => exact ⟨remaining, loop, age, (if_pos waits).symm, countdown⟩
  next idle => exact ⟨remaining, loop, age, startDelay.trans (if_neg idle).symm, countdown⟩

/-- The delay asks once, on the clock that ends it. -/
theorem delay_le (delay : UInt8) :
    (if delay == 1 then 1 else 0) +
      (if (if delay > 0 then delay - 1 else delay) = 0 then 0 else 1) ≤
        if delay = 0 then 0 else 1 := by
  by_cases last : delay = 1
  · rw [last]
    decide
  · rw [if_neg (mt beq_iff_eq.mp last), Nat.zero_add]
    by_cases none : delay = 0
    · rw [none]
      decide
    · have capped {p : Prop} [Decidable p] : (if p then 0 else 1) ≤ 1 := by
        split <;> decide
      rw [if_neg none]
      exact capped

theorem sampleLength_ne_zero (d : Dmc) : d.sampleLength ≠ 0 := by
  intro none
  have bytes := d.sampleLength_toNat
  rw [none] at bytes
  exact Nat.succ_ne_zero _ bytes.symm

theorem remaining_start (d : Dmc) : d.start.remaining ≠ 0 := by
  unfold start
  split
  next left => exact bne_iff_ne.mp left
  next => exact d.sampleLength_ne_zero

/-- A sample that starts afresh is young and has all its bytes. -/
theorem start_of_spent (d : Dmc) (spent : d.remaining = 0) (long : d.sampleLength > 1) :
    d.start.age = 1 ∧ d.start.remaining = d.sampleLength := by
  unfold start
  rw [spent]
  exact ⟨if_pos long, rfl⟩

/-- A byte that is not the last just goes into the buffer. -/
theorem supply_of_more (d : Dmc) (data : UInt8) (more : 1 < d.remaining.toNat) :
    d.supply data = { d with
      buffer := data
      buffered := true
      remaining := d.remaining - 1
      cursor := (d.cursor + 1) &&& 0x7FFF } := by
  have fewer : (d.remaining - 1).toNat = d.remaining.toNat - 1 :=
    UInt16.toNat_sub_of_le _ _ (UInt16.le_iff_toNat_le.mpr (by change 1 ≤ _; omega))
  have playing : (d.remaining == 0) = false := by
    apply beq_eq_false_iff_ne.mpr
    intro spent
    rw [spent] at more
    exact absurd more (by decide)
  have left : (d.remaining - 1 != 0) = true := by
    apply bne_iff_ne.mpr
    intro spent
    rw [spent] at fewer
    change 0 = _ at fewer
    omega
  unfold supply finishByte
  dsimp only
  rw [playing, if_neg Bool.false_ne_true, if_pos left]

/-- Only a sample that does not loop is left without bytes. -/
theorem remaining_finishByte (d : Dmc) :
    d.finishByte.remaining ≠ 0 ∨ d.finishByte.loop = false := by
  unfold finishByte
  split
  next left => exact .inl (bne_iff_ne.mp left)
  next =>
    split
    next => exact .inl d.sampleLength_ne_zero
    next once =>
      split
      · exact .inr (Bool.eq_false_iff.mpr once)
      · exact .inr (Bool.eq_false_iff.mpr once)

end Dmc

/-! ## A wanted note is watched -/

namespace Deck

variable {k : Deck} {opened : Nat}

/-- A wanted note has bytes left, or the next recalculation will see that it has none. -/
def Watched (k : Deck) : Prop :=
  k.wanted = true →
    k.seen ≠ 0 ∧ (k.dmc.remaining ≠ 0 ∨ k.stopped = true ∨ k.dmc.loop = false)

theorem Watched.recalculate (h : k.Watched) (live : k.due = true → k.dmc.remaining ≠ 0)
    (found : Bool) (wanted : (k.recalculate found).wanted = true) : k.dmc.remaining ≠ 0 := by
  obtain ⟨asked, going⟩ := Bool.and_eq_true_iff.mp wanted
  rw [Bool.not_eq_true'] at going
  obtain ⟨unfinished, unstopped⟩ := Bool.or_eq_false_iff.mp going
  by_cases due : k.due = true
  · exact live due
  · rw [if_neg due] at asked
    obtain ⟨seen, left | stopped | once⟩ := h asked
    · exact left
    · rw [stopped] at unstopped
      cases unstopped
    · intro spent
      simp [spent, once, seen] at unfinished

theorem watched_recalculate {found : Bool}
    (left : (k.recalculate found).wanted = true → k.dmc.remaining ≠ 0) :
    (k.recalculate found).Watched :=
  fun wanted => ⟨left wanted, .inl (left wanted)⟩

theorem Watched.advance (h : k.Watched) (r : Region) :
    Watched { k with dmc := k.dmc.advance r } := by
  have advanced := k.dmc.advanced r
  unfold Watched
  rw [advanced.remaining, advanced.loop]
  exact h

theorem Watched.supply (h : k.Watched) (data : UInt8) : (k.supply data).Watched := by
  intro wanted
  obtain ⟨seen, state⟩ := h wanted
  refine ⟨seen, ?_⟩
  change (k.dmc.supply data).remaining ≠ 0 ∨ k.stopped = true ∨ (k.dmc.supply data).loop = false
  unfold Dmc.supply
  dsimp only
  split
  · exact state
  · exact (Dmc.remaining_finishByte _).imp_right .inr

/-- A write that makes the sample loop comes in time if the sample has not run out unseen. -/
theorem Watched.write (h : k.Watched) (register : Register) (data : UInt8)
    (inTime : register = .dmcControl → data &&& 0x40 ≠ 0 → k.dmc.remaining = 0 →
      k.seen ≠ 0 → k.stopped = true) : (k.write register data).Watched := by
  cases register with
  | dmcControl =>
      intro wanted
      obtain ⟨seen, -⟩ := h wanted
      refine ⟨seen, ?_⟩
      by_cases spent : k.dmc.remaining = 0
      · by_cases loops : data &&& 0x40 = 0
        · refine .inr (.inr ?_)
          change (data &&& 0x40 != 0) = false
          rw [loops]
          rfl
        · exact .inr (.inl (inTime rfl loops spent seen))
      · exact .inl spent
  | status =>
      change (k.writeStatus data).Watched
      unfold writeStatus
      split
      · exact fun wanted => ⟨(h wanted).1, .inl k.dmc.remaining_start⟩
      · intro wanted
        obtain ⟨seen, left | stopped | once⟩ := h wanted
        · exact ⟨seen, .inr (.inl (by simp [left]))⟩
        · exact ⟨seen, .inr (.inl (by simp [stopped]))⟩
        · exact ⟨seen, .inr (.inr once)⟩
  | _ => exact h

/-! ## No sample runs out before its lookup -/

/-- The requests that may yet come before the pending lookup. -/
def coming (k : Deck) : Nat :=
  (if k.dmc.startDelay = 0 then 0 else 1) +
    (if k.dmc.countdown.toNat + k.dmc.age.toNat ≤ 17 then 1 else 0)

theorem coming_le (k : Deck) : k.coming ≤ 2 := by
  unfold coming
  split <;> split <;> decide

/-- While a lookup is pending, more bytes are left than the host can be asked for. -/
def Ample (opened : Nat) (k : Deck) : Prop :=
  k.triggered = true → 1 ≤ k.dmc.age.toNat ∧ k.dmc.age.toNat ≤ 16 ∧
    opened + k.coming < k.dmc.remaining.toNat

theorem Ample.live (h : k.Ample opened) (pending : k.triggered = true) :
    k.dmc.remaining ≠ 0 := by
  intro spent
  have bytes := (h pending).2.2
  rw [spent] at bytes
  exact Nat.not_lt_zero _ bytes

/-- The bit timer fires at most once before the lookup. -/
private theorem timer_le (countdown : UInt16) {period : UInt16} {age : Nat} (asks : Bool)
    (young : age ≤ 16) (long : 50 ≤ period.toNat) :
    (if (countdown - 1 == 0 && asks) = true then 1 else 0) +
      (if (if countdown - 1 == 0 then period else countdown - 1).toNat + (age + 1) ≤ 17 then 1
        else 0) ≤ if countdown.toNat + age ≤ 17 then 1 else 0 := by
  by_cases fires : countdown - 1 = 0
  · have one : countdown.toNat = 1 := by
      have same : countdown = 1 := by
        have back := congrArg (· + 1) fires
        simpa using back
      rw [same]
      rfl
    rw [if_pos (beq_iff_eq.mpr fires), if_neg (by omega : ¬ period.toNat + (age + 1) ≤ 17),
      if_pos (by omega : countdown.toNat + age ≤ 17)]
    split
    · exact Nat.le_refl 1
    · exact Nat.zero_le 1
  · have idle : (countdown - 1 == 0) = false := beq_eq_false_iff_ne.mpr fires
    have later : (countdown - 1).toNat + (age + 1) ≤ 17 → countdown.toNat + age ≤ 17 := by
      have bound := countdown.toNat_lt
      have counted : (countdown - 1).toNat = (65535 + countdown.toNat) % 65536 := by
        rw [UInt16.toNat_sub]
        rfl
      omega
    rw [idle, Bool.false_and, if_neg Bool.false_ne_true, if_neg Bool.false_ne_true, Nat.zero_add]
    split
    next soon => rw [if_pos (later soon)]
    · exact Nat.zero_le _

private theorem toNat_ageTick {age : UInt32} (pending : 1 ≤ age.toNat ∧ age.toNat ≤ 16) :
    (Dmc.ageTick age).toNat = age.toNat + 1 := by
  rw [Dmc.ageTick_of_lt pending.1 (by omega), UInt32.toNat_add]
  exact Nat.mod_eq_of_lt (by change age.toNat + 1 < 4294967296; omega)

/-- Each request of the clock was still to come before it. -/
theorem coming_advance (k : Deck) (r : Region)
    (pending : 1 ≤ k.dmc.age.toNat ∧ k.dmc.age.toNat ≤ 16) :
    k.dmc.requests + coming { k with dmc := k.dmc.advance r } ≤ k.coming := by
  have advanced := k.dmc.advanced r
  have delay := Dmc.delay_le k.dmc.startDelay
  have timer := timer_le k.dmc.countdown
    (((k.dmc.bit + 1) &&& 7 == 0) && k.dmc.buffered && decide (k.dmc.remaining > 0))
    pending.2 (r.dmcPeriod_ge k.dmc.rate)
  have fires : (k.dmc.emptying && k.dmc.buffered && decide (k.dmc.remaining > 0)) =
      (k.dmc.countdown - 1 == 0 &&
        (((k.dmc.bit + 1) &&& 7 == 0) && k.dmc.buffered && decide (k.dmc.remaining > 0))) := by
    simp only [Dmc.emptying, Dmc.stepping, Bool.and_assoc]
  unfold coming Dmc.requests
  rw [advanced.startDelay, advanced.countdown, advanced.age, toNat_ageTick pending, fires]
  unfold Dmc.stepping
  omega

theorem Ample.clock (h : k.Ample opened) (r : Region) (found : Bool) :
    (k.clock r found).Ample (opened + k.dmc.requests) := by
  have advanced := k.dmc.advanced r
  intro pending
  obtain ⟨triggered, early⟩ := Bool.and_eq_true_iff.mp pending
  obtain ⟨born, young, bytes⟩ := h triggered
  have requests := k.coming_advance r ⟨born, young⟩
  have aged : (k.dmc.advance r).age.toNat = k.dmc.age.toNat + 1 := by
    rw [advanced.age, toNat_ageTick ⟨born, young⟩]
  have early : (k.dmc.advance r).age.toNat ≤ 16 := by
    rw [due, triggered, Bool.true_and, Bool.not_eq_true', decide_eq_false_iff_not] at early
    exact UInt32.not_lt.mp early
  change 1 ≤ (k.dmc.advance r).age.toNat ∧ (k.dmc.advance r).age.toNat ≤ 16 ∧
    opened + k.dmc.requests + coming { k with dmc := k.dmc.advance r } <
      (k.dmc.advance r).remaining.toNat
  rw [advanced.remaining]
  exact ⟨by omega, early, by omega⟩

theorem Ample.recalculate (h : k.Ample opened) (found : Bool) :
    (k.recalculate found).Ample opened :=
  fun pending => h (Bool.and_eq_true_iff.mp pending).1

/-- A recalculation leaves no note wanted for a sample that is over. -/
theorem Ample.ends (h : k.Ample opened) (watched : k.Watched) {found : Bool}
    (wanted : (k.recalculate found).wanted = true) : k.dmc.remaining ≠ 0 :=
  watched.recalculate (fun due => h.live (Bool.and_eq_true_iff.mp due).1) found wanted

theorem Ample.ends_clock (h : k.Ample opened) (watched : k.Watched) {r : Region} {found : Bool}
    (wanted : (k.clock r found).wanted = true) : (k.clock r found).dmc.remaining ≠ 0 := by
  refine (watched.advance r).recalculate (fun due => ?_) found wanted
  rw [(k.dmc.advanced r).remaining]
  exact h.live (Bool.and_eq_true_iff.mp due).1

theorem Ample.supply (h : k.Ample (opened + 1)) (data : UInt8) :
    (k.supply data).Ample opened := by
  intro pending
  obtain ⟨born, young, bytes⟩ := h pending
  have taken := k.dmc.supply_of_more data (by omega)
  have fewer : (k.dmc.remaining - 1).toNat = k.dmc.remaining.toNat - 1 :=
    UInt16.toNat_sub_of_le _ _ (UInt16.le_iff_toNat_le.mpr (by change 1 ≤ _; omega))
  have same : (k.supply data).coming = k.coming := by
    change coming { k with dmc := k.dmc.supply data } = _
    rw [taken]
    rfl
  rw [same]
  change 1 ≤ (k.dmc.supply data).age.toNat ∧ (k.dmc.supply data).age.toNat ≤ 16 ∧
    opened + k.coming < (k.dmc.supply data).remaining.toNat
  rw [taken]
  exact ⟨born, young, by dsimp only; omega⟩

/-- The most requests a prompt host leaves open. -/
def maxOpen : Nat := 14

theorem Ample.write (h : k.Ample opened) (prompt : opened ≤ maxOpen) (register : Register)
    (data : UInt8) : (k.write register data).Ample opened := by
  cases register with
  | status =>
      change (k.writeStatus data).Ample opened
      unfold writeStatus
      split
      · intro pending
        rcases Bool.or_eq_true_iff.mp pending with triggered | begun
        · have same : k.dmc.start = k.dmc := if_pos (bne_iff_ne.mpr (h.live triggered))
          rw [same]
          exact h triggered
        · obtain ⟨spent, long⟩ := Bool.and_eq_true_iff.mp begun
          have started := k.dmc.start_of_spent (beq_iff_eq.mp spent) (of_decide_eq_true long)
          have bytes := k.dmc.sampleLength_toNat
          have several : 1 < k.dmc.sampleLength.toNat :=
            UInt16.lt_iff_toNat_lt.mp (of_decide_eq_true long)
          have few := coming_le { k with dmc := k.dmc.start.clearIrq }
          change 1 ≤ k.dmc.start.age.toNat ∧ k.dmc.start.age.toNat ≤ 16 ∧
            opened + coming { k with dmc := k.dmc.start.clearIrq } < k.dmc.start.remaining.toNat
          rw [started.1, started.2]
          unfold maxOpen at prompt
          exact ⟨by decide, by decide, by omega⟩
      · intro pending
        obtain ⟨triggered, spent⟩ := Bool.and_eq_true_iff.mp pending
        exact absurd (beq_iff_eq.mp spent) (h.live triggered)
  | _ => exact h

end Deck

/-! ## What a careful host keeps -/

/-- What holds of a chip with a careful host. -/
structure Chip.Tended (opened : Nat) (c : Chip) : Prop where
  tuned : c.scribe.tuning = {}
  watched : c.deck.Watched
  ample : c.deck.Ample opened

namespace Chip

variable {c : Chip} {opened left : Nat} {o : Operation}

theorem Tended.deck_operate (h : c.Tended opened) (working : o.working = true) :
    (c.operate o).1.deck = c.deck.operate c.synth.region (c.finds o) o :=
  Chip.deck_operate (settled_of_tuned h.tuned) working

theorem Tended.watched_operate (h : c.Tended opened) (working : o.working = true)
    (inTime : c.deck.loopsLate o = false) : (c.operate o).1.deck.Watched := by
  rw [h.deck_operate working]
  cases o with
  | clock m => exact Deck.watched_recalculate (h.ample.ends_clock h.watched)
  | transcribe m => exact Deck.watched_recalculate (h.ample.ends h.watched)
  | write address data =>
      dsimp only [Deck.operate]
      cases named : Register.ofAddress? address with
      | none => exact h.watched
      | some register =>
          refine h.watched.write register data fun control loops spent seen => ?_
          rw [control] at named
          by_contra running
          have late : c.deck.loopsLate (.write address data) = true := by
            simp [Deck.loopsLate, named, loops, spent, seen, Bool.eq_false_iff.mpr running]
          exact absurd late (Bool.eq_false_iff.mp inTime)
  | supply data => exact h.watched.supply data
  | _ => exact h.watched

theorem Tended.ample_operate (h : c.Tended opened) (prompt : opened ≤ Deck.maxOpen)
    (leaves : o.leaves? (c.operate o).2 opened = some left) :
    (c.operate o).1.deck.Ample left := by
  rw [h.deck_operate (working_of_leaves leaves)]
  cases o with
  | clock m =>
      cases leaves
      exact h.ample.clock _ _
  | transcribe m =>
      cases leaves
      exact h.ample.recalculate _
  | write address data =>
      cases leaves
      dsimp only [Deck.operate]
      cases Register.ofAddress? address with
      | none => exact h.ample
      | some register => exact h.ample.write prompt register data
  | supply data =>
      cases opened with
      | zero => cases leaves
      | succ fewer =>
          cases leaves
          exact h.ample.supply data
  | read address openBus =>
      cases leaves
      exact h.ample
  | _ => cases leaves

theorem Tended.operate (h : c.Tended opened) (careful : c.Careful Deck.maxOpen opened o)
    (leaves : o.leaves? (c.operate o).2 opened = some left) : (c.operate o).1.Tended left where
  tuned := (c.tuning_of_working (working_of_leaves leaves)).trans h.tuned
  watched := h.watched_operate (working_of_leaves leaves) careful.2
  ample := h.ample_operate careful.1 leaves

end Chip

theorem Hosted.tended {c : Chip} {opened : Nat}
    (h : Hosted (Chip.Careful Deck.maxOpen) c opened) : c.Tended opened := by
  induction h with
  | power tuned parsed =>
      exact ⟨tuned, fun wanted => absurd wanted Bool.false_ne_true,
        fun pending => absurd pending Bool.false_ne_true⟩
  | operate h careful leaves ih => exact ih.operate careful leaves

/-- A wanted note is that of a sample with bytes left to play. -/
def Chip.NoteWithinSample (c : Chip) : Prop :=
  c.scribe.dmc.want.note ≠ 0 → c.scribe.dmc.want.vel ≠ 0 → 0 < c.synth.dmc.remaining

theorem Chip.noteWithinSample_of_deck {c : Chip}
    (h : c.deck.wanted = true → c.deck.dmc.remaining ≠ 0) : c.NoteWithinSample := by
  intro note vel
  have wanted : c.deck.wanted = true :=
    Bool.and_eq_true_iff.mpr ⟨bne_iff_ne.mpr note, bne_iff_ne.mpr vel⟩
  exact UInt16.pos_iff_ne_zero.mpr (h wanted)

/-- A recalculation, which every clock ends with, leaves no note that outlives its sample. -/
theorem Hosted.note_within_sample {c : Chip} {opened : Nat}
    (h : Hosted (Chip.Careful Deck.maxOpen) c opened) (m : Memory) :
    (c.clock m).1.NoteWithinSample ∧ (c.transcribe m).1.NoteWithinSample := by
  have tended := h.tended
  have clocked : (c.clock m).1.deck = c.deck.clock c.synth.region (c.finds (.clock m)) :=
    tended.deck_operate (o := .clock m) rfl
  have transcribed : (c.transcribe m).1.deck = c.deck.recalculate (c.finds (.transcribe m)) :=
    tended.deck_operate (o := .transcribe m) rfl
  constructor
  · apply Chip.noteWithinSample_of_deck
    rw [clocked]
    exact tended.ample.ends_clock tended.watched
  · apply Chip.noteWithinSample_of_deck
    rw [transcribed]
    exact tended.ample.ends tended.watched

/-- A sample of seventeen bytes is started and played until its note is wanted. -/
def Bench.soundingRun : List Move :=
  [.write 0x4010 0x0F, .write 0x4013 1, .write 0x4015 0x10, .clock, .clock, .clock, .supply] ++
    List.replicate 13 .clock

theorem Hosted.note_within_sample_while_sounding :
    let c := Chip.drummer.after (Bench.soundingRun.flatMap Move.operations)
    c.deck.wanted = true ∧ Hosted (Chip.Careful Deck.maxOpen) c 0 ∧
      (c.clock .zero).1.NoteWithinSample ∧ (c.transcribe .zero).1.NoteWithinSample := by
  intro c
  obtain ⟨b, shows, ends⟩ := Bench.exists_shows Deck.maxOpen Bench.soundingRun
    (fun b => b.deck.wanted && b.opened == 0) (by decide +kernel)
  obtain ⟨wanted, answered⟩ := Bool.and_eq_true_iff.mp ends
  have hosted : Hosted (Chip.Careful Deck.maxOpen) c 0 := beq_iff_eq.mp answered ▸ shows.hosted
  exact ⟨shows.deck ▸ wanted, hosted, Hosted.note_within_sample hosted .zero⟩

/-! ## What a careless host brings about -/

namespace Deck

variable {k : Deck}

/-- A note is wanted for a sample that is over, and no recalculation will see its end. -/
structure Stuck (k : Deck) : Prop where
  wanted : k.wanted = true
  spent : k.dmc.remaining = 0
  settled : k.triggered = false
  unstopped : k.stopped = false
  unseen : k.dmc.loop = true ∨ k.seen = 0

theorem Stuck.recalculate (h : k.Stuck) (found : Bool) : (k.recalculate found).Stuck := by
  have going : k.ended = false := by
    rw [ended, h.unstopped, Bool.or_false]
    rcases h.unseen with loops | seen
    · rw [loops]
      rfl
    · rw [seen]
      exact Bool.and_false _
  rw [recalculate_of_settled h.settled, going]
  exact {
    wanted := (Bool.and_true _).trans h.wanted
    spent := h.spent
    settled := h.settled
    unstopped := rfl
    unseen := .inr h.spent }

theorem Stuck.clock (h : k.Stuck) (r : Region) (found : Bool) : (k.clock r found).Stuck := by
  have advanced := k.dmc.advanced r
  have waiting : Stuck { k with dmc := k.dmc.advance r } := {
    wanted := h.wanted
    spent := advanced.remaining.trans h.spent
    settled := h.settled
    unstopped := h.unstopped
    unseen := h.unseen.imp_left advanced.loop.trans }
  exact waiting.recalculate found

theorem stuck_of_loopsLate (wanted : k.wanted = true) (settled : k.triggered = false)
    {o : Operation} (late : k.loopsLate o = true) (r : Region) (found : Bool) :
    (k.operate r found o).Stuck := by
  cases o with
  | write address data =>
      simp only [loopsLate, Bool.and_eq_true, beq_iff_eq, bne_iff_ne, Bool.not_eq_true'] at late
      obtain ⟨⟨⟨⟨control, loops⟩, spent⟩, -⟩, unstopped⟩ := late
      simp only [Deck.operate, control]
      exact ⟨wanted, spent, settled, unstopped, .inl (bne_iff_ne.mpr loops)⟩
  | _ => cases late

end Deck

namespace Chip

variable {c : Chip}

theorem stuck_clock (tuned : c.scribe.tuning = {}) (stuck : c.deck.Stuck) (m : Memory) :
    (c.clock m).1.deck.Stuck := by
  have clocked : (c.clock m).1.deck = c.deck.clock c.synth.region (c.finds (.clock m)) :=
    Chip.deck_operate (o := .clock m) (settled_of_tuned tuned) rfl
  rw [clocked]
  exact stuck.clock _ _

theorem not_noteWithinSample (stuck : c.deck.Stuck) : ¬ c.NoteWithinSample := by
  intro within
  obtain ⟨note, vel⟩ := Bool.and_eq_true_iff.mp stuck.wanted
  have left := within (bne_iff_ne.mp note) (bne_iff_ne.mp vel)
  exact UInt16.pos_iff_ne_zero.mp left stuck.spent

/-- After a late loop the note is wanted on, however long the chip is clocked. -/
theorem note_sounds_on (tuned : c.scribe.tuning = {}) (wanted : c.deck.wanted = true)
    (settled : c.deck.triggered = false) {o : Operation} (late : c.deck.loopsLate o = true)
    (ms : List Memory) : ((c.operate o).1.after (ms.map .clock)).deck.Stuck := by
  have working : o.working = true := by
    cases o with
    | write => rfl
    | _ => cases late
  let kept (c : Chip) := c.scribe.tuning = {} ∧ c.deck.Stuck
  have start : kept (c.operate o).1 := by
    refine ⟨(c.tuning_of_working working).trans tuned, ?_⟩
    rw [Chip.deck_operate (settled_of_tuned tuned) working]
    exact Deck.stuck_of_loopsLate wanted settled late _ _
  have step (c : Chip) (o : Operation) (clocks : ∃ m, o = .clock m) (now : kept c) :
      kept (c.operate o).1 := by
    obtain ⟨m, rfl⟩ := clocks
    exact ⟨(c.tuning_of_working rfl).trans now.1, stuck_clock now.1 now.2 m⟩
  have clocks : ∀ o ∈ ms.map Operation.clock, ∃ m, o = .clock m := by
    intro o member
    obtain ⟨m, -, rfl⟩ := List.mem_map.mp member
    exact ⟨m, rfl⟩
  exact (after_induction step _ _ clocks start).2

theorem outlives_of_loopsLate (tuned : c.scribe.tuning = {}) (wanted : c.deck.wanted = true)
    (settled : c.deck.triggered = false) {o : Operation} (late : c.deck.loopsLate o = true)
    (m : Memory) : ¬ ((c.operate o).1.clock m).1.NoteWithinSample :=
  not_noteWithinSample (note_sounds_on tuned wanted settled late [m])

end Chip

namespace Bench

/-- From one byte of the sample to the next, the first clocks of the timer apart. -/
def byteRun (first : Nat) : List Move :=
  [.clock, .rest first, .clock] ++ (List.replicate 7 [Move.rest 53, .clock]).flatten ++ [.supply]

/-- The sample is played to its last byte, each request being answered at once. -/
def wholeRun : List Move :=
  soundingRun ++ byteRun 410 ++ (List.replicate 15 (byteRun 52)).flatten

/--
Requests are left open by stopping the sample again and again; all of them are
answered before the lookup of the last start.
-/
def slowRun : List Move :=
  [.write 0x4010 0x0F, .write 0x4013 1] ++
    (List.replicate 15
      [Move.write 0x4015 0x10, .clock, .clock, .clock, .write 0x4015 0]).flatten ++
    [.clock, .rest 381] ++ (List.replicate 7 [Move.clock, .rest 53]).flatten ++
    [.write 0x4015 0x10, .supply, .clock, .supply, .clock] ++ List.replicate 15 .supply ++
    List.replicate 14 .clock

end Bench

/-- A loop set right after the last byte lets the note outlive the sample. -/
theorem Hosted.late_loop_outlives_sample :
    let c := Chip.drummer.after (Bench.wholeRun.flatMap Move.operations)
    Hosted (fun _ _ _ => True) (c.operate (.write 0x4010 0x4F)).1 0 ∧
      ¬ ((c.operate (.write 0x4010 0x4F)).1.clock .zero).1.NoteWithinSample := by
  intro c
  obtain ⟨b, shows, ends⟩ := Bench.exists_shows Deck.maxOpen Bench.wholeRun
    (fun b => b.opened == 0 && b.deck.wanted && !b.deck.triggered &&
      b.deck.loopsLate (.write 0x4010 0x4F)) (by decide +kernel)
  simp only [Bool.and_eq_true, beq_iff_eq, Bool.not_eq_true', ← shows.deck] at ends
  obtain ⟨⟨⟨answered, wanted⟩, settled⟩, late⟩ := ends
  have hosted : Hosted (fun _ _ _ => True) c 0 :=
    Hosted.mono (fun _ _ _ _ => trivial) (answered ▸ shows.hosted)
  exact ⟨hosted.operate trivial rfl,
    Chip.outlives_of_loopsLate shows.drums.tuned wanted settled late .zero⟩

/-- With one more request open, a sample can run out before its lookup. -/
theorem Hosted.slow_host_outlives_sample :
    let c := Chip.drummer.after (Bench.slowRun.flatMap Move.operations)
    Hosted (Chip.Careful (Deck.maxOpen + 1)) c 0 ∧ ¬ (c.clock .zero).1.NoteWithinSample := by
  intro c
  obtain ⟨b, shows, ends⟩ := Bench.exists_shows (Deck.maxOpen + 1) Bench.slowRun
    (fun b => b.opened == 0 && b.deck.wanted && b.deck.dmc.remaining == 0 &&
      !b.deck.triggered && !b.deck.stopped && b.deck.seen == 0) (by decide +kernel)
  simp only [Bool.and_eq_true, beq_iff_eq, Bool.not_eq_true'] at ends
  obtain ⟨⟨⟨⟨⟨answered, wanted⟩, spent⟩, settled⟩, unstopped⟩, seen⟩ := ends
  have stuck : b.deck.Stuck := ⟨wanted, spent, settled, unstopped, .inr seen⟩
  rw [← shows.deck] at stuck
  exact ⟨answered ▸ shows.hosted,
    Chip.not_noteWithinSample (Chip.stuck_clock shows.drums.tuned stuck .zero)⟩

end ChipScribe
