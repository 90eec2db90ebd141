import ChipScribe.Proofs.Fetching

/-!
# Playing a sample

A started sample that does not loop and whose host is prompt is played without a
gap: the level moves once a period, by the bits of the fetched bytes from the
lowest up, until they are used up.  The levels are those of the decoder that
dumps a sample as sound.
-/

namespace ChipScribe

namespace Dmc

variable {r : Region} {m : Memory} {d : Dmc} {n : Nat}

/-! ## The bits that are left -/

theorem shiftRight_mod (x : UInt8) (k : UInt8) : x >>> (k.toNat % 8).toUInt8 = x >>> k := by
  have small : (k.toNat % 8).toUInt8.toNat = k.toNat % 8 := by
    change k.toNat % 8 % 256 = _
    omega
  apply UInt8.toNat_inj.mp
  rw [UInt8.toNat_shiftRight, UInt8.toNat_shiftRight, small, Nat.mod_mod]

/-- The bits of the shifter that have not moved the level yet. -/
def unshifted (d : Dmc) : List Bool :=
  if d.shifting then (Waveform.bits d.shift).drop (d.bit.toNat % 8) else []

theorem getElem_bits (byte : UInt8) (i : Nat) (inside : i < (Waveform.bits byte).length) :
    (Waveform.bits byte)[i] = ((byte >>> i.toUInt8) &&& 1 != 0) := by
  simp [Waveform.bits]

theorem length_bits (byte : UInt8) : (Waveform.bits byte).length = 8 := by
  simp [Waveform.bits]

theorem drop_bits (d : Dmc) : (Waveform.bits d.shift).drop (d.bit.toNat % 8) =
    d.currentBit :: (Waveform.bits d.shift).drop (d.bit.toNat % 8 + 1) := by
  have inside : d.bit.toNat % 8 < (Waveform.bits d.shift).length :=
    Nat.mod_lt _ (by decide)
  rw [List.drop_eq_getElem_cons inside, getElem_bits, shiftRight_mod]
  rfl

/-- A clock uses up one bit if it moves the level, and adds those of a byte it takes. -/
theorem unshifted_advance (r : Region) (d : Dmc) :
    d.unshifted ++ d.taken.flatMap Waveform.bits =
      (if d.plays then [d.currentBit] else []) ++ (d.advance r).unshifted := by
  have moved := d.moved r
  unfold unshifted plays taken
  rw [moved.shifting, moved.shift, moved.bit]
  cases fires : d.stepping with
  | false =>
      have busy := emptying_of_still fires
      simp [busy]
  | true =>
      have next := toNat_nextBit d.bit
      by_cases last : d.bit.toNat % 8 = 7
      · have empties : d.emptying = true := d.emptying_iff.mpr ⟨d.stepping_iff.mp fires, last⟩
        have first : ((d.bit + 1) &&& 7).toNat % 8 = 0 := by omega
        have lastBit : (Waveform.bits d.shift).drop (d.bit.toNat % 8) = [d.currentBit] := by
          rw [drop_bits, last, List.drop_of_length_le (length_bits _).le]
        simp only [lastBit, empties, Bool.true_and, if_true, first, List.drop_zero]
        cases d.buffered <;> simp
      · have busy : d.emptying = false := by
          apply Bool.eq_false_iff.mpr
          rw [Ne, emptying_iff]
          exact fun ends => last ends.2
        have later : ((d.bit + 1) &&& 7).toNat % 8 = d.bit.toNat % 8 + 1 := by omega
        simp only [drop_bits, busy, Bool.true_and, Bool.false_and, Bool.false_eq_true, if_true,
          if_false, later]
        cases d.shifting <;> simp

/-! ## The clocks until the level moves -/

/-- The start delay runs while nothing is held. -/
structure Flowing (d : Dmc) : Prop extends Fetching d where
  primed : d.startDelay ≠ 0 →
    d.buffered = false ∧ d.shifting = false ∧ d.startDelay.toNat ≤ 3

/-- The bits that are yet to move the level. -/
def pending (m : Memory) (d : Dmc) : List Bool :=
  d.unshifted ++ (d.held ++ d.toFetch.map m.read).flatMap Waveform.bits

def period (r : Region) (d : Dmc) : Nat :=
  (r.dmcPeriod d.rate).toNat

theorem period_ge (r : Region) (d : Dmc) : 50 ≤ d.period r :=
  r.dmcPeriod_ge d.rate

/--
The clocks up to and including the next one that moves the level.  A byte that
the start delay asks for too late for one boundary waits for the next.
-/
def due (r : Region) (d : Dmc) : Nat :=
  if d.shifting then d.ticks
  else
    (if d.startDelay.toNat < d.wait (d.period r) then 0 else 8 * d.period r) +
      d.wait (d.period r) + d.period r

theorem due_pos (r : Region) (d : Dmc) : 0 < d.due r := by
  have period := period_ge r d
  unfold due
  split
  · exact Nat.succ_pos _
  · omega

namespace Flowing

/-- At most one request is made at a time, and it fills an empty buffer. -/
theorem requests_cases (f : d.Flowing) (r : Region) (m : Memory) :
    (d.requests = 0 ∧ d.attend r m = d.advance r) ∨
      (d.requests = 1 ∧ (d.advance r).buffered = false ∧ d.remaining ≠ 0 ∧
        d.attend r m = (d.advance r).supply (m.read d.address)) := by
  have moved := d.moved r
  have requests := d.requests_eq
  have single (one : d.requests = 1) :
      d.attend r m = (d.advance r).supply (m.read d.address) := by
    rw [Dmc.attend, one, address, ← moved.cursor]
    rfl
  by_cases last : d.startDelay = 1
  · obtain ⟨empty, -, -⟩ := f.primed (by rw [last]; decide)
    obtain ⟨more, -⟩ := f.lasting (by rw [last]; decide)
    have none : d.leaving = 0 := by
      rcases d.leaving_cases with none | ⟨-, -, held, -⟩
      · exact none
      · rw [empty] at held
        cases held
    rw [none, if_pos last] at requests
    exact .inr ⟨requests, by rw [moved.buffered, empty, Bool.false_and], more, single requests⟩
  · rw [if_neg last, Nat.add_zero] at requests
    rcases d.leaving_cases with none | ⟨one, empties, -, more⟩
    · rw [none] at requests
      exact .inl ⟨requests, by rw [Dmc.attend, requests]; rfl⟩
    · rw [one] at requests
      exact .inr ⟨requests, by rw [moved.buffered, empties]; simp, more, single requests⟩

theorem attend (f : d.Flowing) (r : Region) (m : Memory) : (d.attend r m).Flowing where
  toFetching := f.toFetching.attend r m
  primed waits := by
    have moved := d.moved r
    obtain ⟨-, startDelay, buffered⟩ := f.counts r m
    have later := f.later_of_waits r m waits
    obtain ⟨empty, still, brief⟩ := f.primed later.1
    have none : d.requests = 0 := by
      rw [requests_eq, if_neg later.2]
      rcases d.leaving_cases with none | ⟨-, -, held, -⟩
      · rw [none]
      · rw [empty] at held
        cases held
    refine ⟨?_, ?_, by omega⟩
    · rw [buffered, empty, none]
      rfl
    · rw [(f.answered r m).shifting, moved.shifting, empty, still, ite_self]

theorem unshifted_attend (f : d.Flowing) (r : Region) (m : Memory) :
    (d.attend r m).unshifted = (d.advance r).unshifted := by
  have answered := f.answered r m
  rw [unshifted, answered.shifting, answered.shift, answered.timer.2, ← unshifted]

/-- The bytes pass from memory to the shifter in their order. -/
theorem held_attend (f : d.Flowing) (r : Region) (m : Memory) :
    d.held ++ d.toFetch.map m.read =
      d.taken ++ ((d.attend r m).held ++ (d.attend r m).toFetch.map m.read) := by
  rw [d.held_advance r, List.append_assoc]
  congr 1
  obtain ⟨-, same⟩ | ⟨-, empty, more, supplied⟩ := f.requests_cases r m
  · rw [same, toFetch_advance]
  · have moved := d.moved r
    have once := moved.loop.trans f.once
    have left : (d.advance r).remaining ≠ 0 := moved.remaining ▸ more
    have filled := (d.advance r).supplied (m.read d.address)
    rw [supplied, ← toFetch_advance r d, toFetch_supply once left (m.read d.address), held, held,
      empty, filled.buffered, filled.buffer, address, moved.cursor, ← address]
    rfl

/-- The bits pass from memory to the level in their order. -/
theorem pending_attend (f : d.Flowing) (r : Region) (m : Memory) :
    d.pending m =
      (if d.plays then [d.currentBit] else []) ++ (d.attend r m).pending m := by
  unfold pending
  rw [f.held_attend r m, List.flatMap_append, ← List.append_assoc, unshifted_advance r d,
    f.unshifted_attend r m, List.append_assoc]

theorem level_attend (f : d.Flowing) (r : Region) (m : Memory) : (d.attend r m).level =
    if d.plays then stepLevel d.level d.currentBit else d.level :=
  (f.answered r m).level.trans (d.moved r).level

theorem period_attend (f : d.Flowing) (r : Region) (m : Memory) :
    (d.attend r m).period r = d.period r := by
  rw [period, (f.answered r m).rate, (d.moved r).latches.2.2, ← period]

/-! ## When the level moves -/

theorem ticks_attend (f : d.Flowing) (r : Region) (m : Memory) :
    (d.attend r m).ticks = if d.stepping then d.period r else d.ticks - 1 := by
  rw [ticks, (f.answered r m).timer.1, ← ticks, ticks_advance, ← period]

theorem shifting_attend (f : d.Flowing) (r : Region) (m : Memory) : (d.attend r m).shifting =
    if d.emptying then d.buffered else d.shifting :=
  (f.answered r m).shifting.trans (d.moved r).shifting

theorem wait_attend (f : d.Flowing) (r : Region) (m : Memory) (busy : d.emptying = false) :
    (d.attend r m).wait (d.period r) + 1 = d.wait (d.period r) := by
  have timer := (f.answered r m).timer
  have closer := wait_advance r (Nat.le_refl _) busy
  rw [Nat.sub_self, ite_self, ← period] at closer
  rw [Dmc.wait, ticks, timer.1, timer.2, ← ticks, ← Dmc.wait]
  exact closer

theorem wait_attend_of_emptying (f : d.Flowing) (r : Region) (m : Memory)
    (empties : d.emptying = true) :
    d.wait (d.period r) = 1 ∧ (d.attend r m).wait (d.period r) = 8 * d.period r := by
  obtain ⟨now, last⟩ := d.emptying_iff.mp empties
  have fires := d.stepping_iff.mpr now
  have next := toNat_nextBit d.bit
  have first : (d.attend r m).bit.toNat % 8 = 0 := by
    rw [(f.answered r m).timer.2, (d.moved r).bit, if_pos fires]
    omega
  rw [Dmc.wait, Dmc.wait, f.ticks_attend r m, if_pos fires, first, now, last]
  omega

theorem spent (f : d.Flowing) (settled : d.startDelay = 0) (empty : d.buffered = false) :
    d.held ++ d.toFetch.map m.read = [] := by
  have none : d.remaining = 0 := by
    by_contra more
    rw [f.fed settled more] at empty
    cases empty
  rw [held, empty, toFetch, none]
  rfl

theorem settled_of_shifting (f : d.Flowing) (shifts : d.shifting = true) : d.startDelay = 0 := by
  by_contra primed
  rw [(f.primed primed).2.1] at shifts
  cases shifts

theorem pending_of_silent (f : d.Flowing) (settled : d.startDelay = 0)
    (empty : d.buffered = false) (silent : d.shifting = false) : d.pending m = [] := by
  rw [pending, f.spent settled empty, unshifted, silent]
  rfl

/-- After a move the next bit, if there is one, has its turn a period later. -/
theorem due_attend_of_plays (f : d.Flowing) (r : Region) (m : Memory) (plays : d.plays = true)
    (more : (d.attend r m).pending m ≠ []) : (d.attend r m).due r = d.period r := by
  obtain ⟨fires, shifts⟩ := Bool.and_eq_true_iff.mp plays
  cases silent : (d.attend r m).shifting with
  | true => rw [due, silent, if_pos rfl, f.ticks_attend r m, if_pos fires]
  | false =>
      have settled := f.settled_of_shifting shifts
      have empty : d.buffered = false := by
        rw [f.shifting_attend r m, shifts] at silent
        cases empties : d.emptying with
        | true => simpa [empties] using silent
        | false => simp [empties] at silent
      obtain ⟨-, startDelay, buffered⟩ := f.counts r m
      have later : (d.attend r m).startDelay = 0 := by
        rw [settled] at startDelay
        exact UInt8.toNat_inj.mp startDelay
      have none : (d.attend r m).buffered = false := by
        obtain ⟨none, -⟩ | ⟨-, -, more, -⟩ := f.requests_cases r m
        · rw [buffered, empty, none]
          rfl
        · rw [f.fed settled more] at empty
          cases empty
      exact absurd ((f.attend r m).pending_of_silent later none silent) more

/-- A clock that does not move the level comes one closer to the one that does. -/
theorem due_attend (f : d.Flowing) (r : Region) (m : Memory) (still : d.plays = false)
    (more : d.pending m ≠ []) : (d.attend r m).due r + 1 = d.due r := by
  have shifting := f.shifting_attend r m
  have ticks := f.ticks_attend r m
  obtain ⟨-, startDelay, -⟩ := f.counts r m
  have period := period_ge r d
  unfold due
  rw [f.period_attend r m]
  cases shifts : d.shifting with
  | true =>
      have runs : d.stepping = false := by simpa [plays, shifts] using still
      have busy := emptying_of_still runs
      have later : d.ticks ≠ 1 := by
        rw [Ne, ← stepping_iff, runs]
        exact Bool.false_ne_true
      rw [busy, if_neg Bool.false_ne_true, shifts] at shifting
      rw [shifting, if_pos rfl, if_pos rfl, ticks, runs, if_neg Bool.false_ne_true]
      unfold Dmc.ticks at later ⊢
      omega
  | false =>
      rw [if_neg Bool.false_ne_true]
      cases empties : d.emptying with
      | false =>
          have wait := f.wait_attend r m empties
          have some : 0 < (d.attend r m).wait (d.period r) := by
            unfold Dmc.wait Dmc.ticks
            omega
          rw [empties, if_neg Bool.false_ne_true, shifts] at shifting
          rw [shifting, if_neg Bool.false_ne_true, startDelay]
          split <;> split <;> omega
      | true =>
          obtain ⟨wait, again⟩ := f.wait_attend_of_emptying r m empties
          rw [empties, if_pos rfl] at shifting
          rw [stepping_of_emptying empties, if_pos rfl] at ticks
          rw [shifting, ticks, wait, again, startDelay]
          -- A byte that the delay is still to ask for misses this boundary.
          by_cases settled : d.startDelay = 0
          · have held : d.buffered = true := by
              by_contra empty
              exact more (f.pending_of_silent settled (Bool.eq_false_iff.mpr empty) shifts)
            rw [held, if_pos rfl, settled]
            simp
            omega
          · obtain ⟨empty, -, brief⟩ := f.primed settled
            have waits : d.startDelay.toNat ≠ 0 := fun none => settled (UInt8.toNat_inj.mp none)
            rw [empty, if_neg Bool.false_ne_true, if_pos (by omega), if_neg (by omega)]
            omega

theorem plays_iff (f : d.Flowing) (r : Region) (m : Memory) :
    d.plays = true ↔ d.due r = 1 ∧ d.pending m ≠ [] := by
  constructor
  · intro plays
    obtain ⟨fires, shifts⟩ := Bool.and_eq_true_iff.mp plays
    refine ⟨?_, ?_⟩
    · rw [due, shifts, if_pos rfl]
      exact d.stepping_iff.mp fires
    · rw [f.pending_attend r m, plays, if_pos rfl]
      exact List.cons_ne_nil _ _
  · rintro ⟨now, -⟩
    unfold due at now
    have period := period_ge r d
    cases shifts : d.shifting with
    | true =>
        rw [shifts, if_pos rfl] at now
        rw [plays, shifts, Bool.and_true]
        exact d.stepping_iff.mpr now
    | false =>
        rw [shifts, if_neg Bool.false_ne_true] at now
        omega

theorem plays_eq_false (f : d.Flowing) (r : Region) (m : Memory) (plays : d.plays = false) :
    d.pending m = (d.attend r m).pending m ∧ (d.attend r m).level = d.level := by
  refine ⟨?_, ?_⟩
  · rw [f.pending_attend r m, plays]
    rfl
  · rw [f.level_attend r m, plays]
    rfl

/-- The level moves once a period for as long as bits are left. -/
theorem plays_attendFor (f : d.Flowing) (r : Region) (m : Memory) (i : Nat) :
    (d.attendFor r m i).plays = true ↔
      ∃ k < (d.pending m).length, i + 1 = d.due r + k * d.period r := by
  induction i generalizing d with
  | zero =>
      have positive := due_pos r d
      change d.plays = true ↔ _
      rw [f.plays_iff r m, List.ne_nil_iff_length_pos]
      constructor
      · rintro ⟨now, some⟩
        exact ⟨0, some, by omega⟩
      · rintro ⟨k, inside, now⟩
        exact ⟨by omega, Nat.zero_lt_of_lt inside⟩
  | succ i ih =>
      refine (ih (f.attend r m)).trans ?_
      rw [f.period_attend r m]
      have period := period_ge r d
      -- A move takes the first bit off the list, and the others' indices go down by one.
      cases plays : d.plays with
      | true =>
          have now := ((f.plays_iff r m).mp plays).1
          rw [f.pending_attend r m, plays, if_pos rfl, now]
          constructor
          · rintro ⟨k, inside, here⟩
            have more : (d.attend r m).pending m ≠ [] :=
              List.ne_nil_of_length_pos (Nat.zero_lt_of_lt inside)
            rw [f.due_attend_of_plays r m plays more] at here
            refine ⟨k + 1, Nat.succ_lt_succ inside, ?_⟩
            rw [Nat.succ_mul]
            omega
          · rintro ⟨k, inside, here⟩
            cases k with
            | zero => omega
            | succ k =>
                have inside : k < ((d.attend r m).pending m).length := Nat.lt_of_succ_lt_succ inside
                have more : (d.attend r m).pending m ≠ [] :=
                  List.ne_nil_of_length_pos (Nat.zero_lt_of_lt inside)
                rw [f.due_attend_of_plays r m plays more]
                refine ⟨k, inside, ?_⟩
                rw [Nat.succ_mul] at here
                omega
      | false =>
          obtain ⟨same, -⟩ := f.plays_eq_false r m plays
          rw [← same]
          constructor
          · rintro ⟨k, inside, here⟩
            have more := List.ne_nil_of_length_pos (Nat.zero_lt_of_lt inside)
            have closer := f.due_attend r m plays more
            exact ⟨k, inside, by omega⟩
          · rintro ⟨k, inside, here⟩
            have more := List.ne_nil_of_length_pos (Nat.zero_lt_of_lt inside)
            have closer := f.due_attend r m plays more
            exact ⟨k, inside, by omega⟩

/-- The level at any time is that after the bits of the periods gone by. -/
theorem level_attendFor (f : d.Flowing) (r : Region) (m : Memory) (n : Nat) :
    (d.attendFor r m n).level =
      ((d.pending m).take ((n + d.period r - d.due r) / d.period r)).foldl stepLevel d.level := by
  induction n generalizing d with
  | zero =>
      have positive := due_pos r d
      have period := period_ge r d
      rw [Nat.div_eq_of_lt (by omega)]
      rfl
  | succ n ih =>
      refine (ih (f.attend r m)).trans ?_
      rw [f.period_attend r m, f.level_attend r m]
      have period := period_ge r d
      cases plays : d.plays with
      | true =>
          have now := ((f.plays_iff r m).mp plays).1
          have gone : (n + 1 + d.period r - 1) / d.period r = n / d.period r + 1 := by
            rw [Nat.add_right_comm, Nat.add_sub_cancel]
            exact Nat.add_div_right n (by omega)
          rw [f.pending_attend r m, plays, if_pos rfl, if_pos rfl, now, gone]
          change _ = (((d.attend r m).pending m).take _).foldl stepLevel _
          by_cases more : (d.attend r m).pending m = []
          · rw [more, List.take_nil, List.take_nil]
          · rw [f.due_attend_of_plays r m plays more, Nat.add_sub_cancel]
      | false =>
          obtain ⟨same, -⟩ := f.plays_eq_false r m plays
          rw [← same, if_neg Bool.false_ne_true]
          by_cases more : d.pending m = []
          · rw [more, List.take_nil, List.take_nil]
          · rw [← f.due_attend r m plays more, Nat.add_right_comm, Nat.add_sub_add_right]

/-- The interrupt becomes pending with the last byte, if it is enabled. -/
theorem irq_attendFor (f : d.Flowing) (r : Region) (m : Memory) (n : Nat)
    (before : d.irqPending = (d.irqEnable && d.remaining == 0)) :
    (d.attendFor r m n).irqPending = (d.irqEnable && (d.attendFor r m n).remaining == 0) := by
  induction n generalizing d with
  | zero => exact before
  | succ n ih =>
      have moved := d.moved r
      have answered := f.answered r m
      have enabled := answered.irqEnable.trans moved.irq.1
      rw [← enabled]
      refine ih (f.attend r m) (answered.irqPending ?_)
      rw [moved.irq.1, moved.irq.2, moved.remaining]
      exact before

end Flowing

/-! ## A drained channel plays out its sample -/

/-- Nothing of a sample is left in the channel; its timer may stand anywhere. -/
structure Drained (d : Dmc) : Prop where
  remaining : d.remaining = 0
  buffered : d.buffered = false
  shifting : d.shifting = false
  startDelay : d.startDelay = 0
  irqPending : d.irqPending = false

/-- The bits of the latched sample as memory holds it. -/
def sampleBits (m : Memory) (d : Dmc) : List Bool :=
  (d.sampleAddresses.map m.read).flatMap Waveform.bits

theorem length_sampleBits (m : Memory) (d : Dmc) :
    (d.sampleBits m).length = 8 * (16 * d.lengthLatch.toNat + 1) := by
  have lengths (bytes : List UInt8) :
      (bytes.flatMap Waveform.bits).length = 8 * bytes.length := by
    induction bytes with
    | nil => rfl
    | cons byte rest ih =>
        rw [List.flatMap_cons, List.length_append, length_bits, ih, List.length_cons]
        omega
  rw [sampleBits, lengths, List.length_map, sampleAddresses, List.length_map, List.length_range]

/-- What a start does, clock by clock: when it fetches, when the level moves and where to. -/
structure PlaysOut (r : Region) (m : Memory) (d : Dmc) : Prop where
  fetches : ∀ n, fetched r m n d.start <+: d.sampleAddresses
  fetchesAll : ∀ n, d.start.bound ≤ n → fetched r m n d.start = d.sampleAddresses
  plays : ∀ i, (d.start.attendFor r m i).plays = true ↔
    ∃ k < 8 * (16 * d.lengthLatch.toNat + 1), i + 1 = d.start.due r + k * d.period r
  level : ∀ k n, (k = 0 ∨ d.start.due r + k * d.period r ≤ n + d.period r) →
    (n < d.start.due r + k * d.period r ∨ k = 8 * (16 * d.lengthLatch.toNat + 1)) →
      (d.start.attendFor r m n).level = ((d.sampleBits m).take k).foldl stepLevel d.level
  decodes : d.level = 0 → ∀ ladder : UInt8 → UInt16,
    ((List.range (8 * (16 * d.lengthLatch.toNat + 1))).map fun k =>
      ladder (d.start.attendFor r m (d.start.due r + k * d.period r)).level) =
        Waveform.decode ladder (d.sampleAddresses.map m.read)
  irq : ∀ n, (d.start.attendFor r m n).irqPending =
    (d.irqEnable && (fetched r m n d.start).length == 16 * d.lengthLatch.toNat + 1)

theorem levelsFrom_eq_map (level : UInt8) (bits : List Bool) :
    Waveform.levelsFrom level bits =
      (List.range bits.length).map fun k => (bits.take (k + 1)).foldl stepLevel level := by
  induction bits generalizing level with
  | nil => rfl
  | cons bit rest ih =>
      rw [Waveform.levelsFrom, ih, List.length_cons, List.range_succ_eq_map, List.map_cons,
        List.map_map]
      rfl

namespace Drained

theorem flowing_start (h : d.Drained) (once : d.loop = false) : d.start.Flowing where
  toFetching := by
    refine fetching_start h.remaining once ?_ fun _ => .inl h.startDelay
    rw [h.startDelay]
    decide
  primed _ := by
    obtain ⟨empty, delay⟩ := primed_start h.buffered h.remaining
    refine ⟨empty, d.started.shifting.trans h.shifting, ?_⟩
    rcases delay with delay | delay <;> rw [delay] <;> decide

theorem pending_start (h : d.Drained) (m : Memory) : d.start.pending m = d.sampleBits m := by
  rw [pending, unshifted, held, d.started.shifting, d.started.buffered, h.shifting, h.buffered,
    d.toFetch_start h.remaining]
  rfl

theorem period_start (d : Dmc) (r : Region) : d.start.period r = d.period r := by
  rw [period, d.started.rate, ← period]

theorem level_start (h : d.Drained) (once : d.loop = false) (r : Region) (m : Memory) (n : Nat) :
    (d.start.attendFor r m n).level =
      ((d.sampleBits m).take ((n + d.period r - d.start.due r) / d.period r)).foldl
        stepLevel d.level := by
  rw [(h.flowing_start once).level_attendFor r m n, h.pending_start, period_start,
    d.started.level]

theorem level_between (h : d.Drained) (once : d.loop = false) (r : Region) (m : Memory)
    {k n : Nat} (since : k = 0 ∨ d.start.due r + k * d.period r ≤ n + d.period r)
    (till : n < d.start.due r + k * d.period r ∨ k = 8 * (16 * d.lengthLatch.toNat + 1)) :
    (d.start.attendFor r m n).level = ((d.sampleBits m).take k).foldl stepLevel d.level := by
  have period := period_ge r d
  have positive : 0 < d.period r := by omega
  have least : k ≤ (n + d.period r - d.start.due r) / d.period r := by
    rcases since with rfl | since
    · exact Nat.zero_le _
    · exact (Nat.le_div_iff_mul_le positive).mpr (by omega)
  rw [h.level_start once r m n]
  congr 1
  rcases till with till | rfl
  · have most : (n + d.period r - d.start.due r) / d.period r < k + 1 := by
      rw [Nat.div_lt_iff_lt_mul positive, Nat.succ_mul]
      omega
    rw [Nat.le_antisymm (Nat.le_of_lt_succ most) least]
  · rw [← d.length_sampleBits m] at least ⊢
    rw [List.take_of_length_le least, List.take_length]

/-- A drained channel that is started plays its sample without a gap, as the decoder has it. -/
theorem plays_out (h : d.Drained) (once : d.loop = false) (r : Region) (m : Memory) :
    d.PlaysOut r m := by
  have flowing := h.flowing_start once
  have period := period_ge r d
  have level {k : Nat} (inside : k < 8 * (16 * d.lengthLatch.toNat + 1)) :
      (d.start.attendFor r m (d.start.due r + k * d.period r)).level =
        ((d.sampleBits m).take (k + 1)).foldl stepLevel d.level := by
    refine h.level_between once r m (.inr ?_) (.inl ?_) <;> rw [Nat.succ_mul] <;> omega
  exact {
    fetches := fun n => by
      rw [← d.toFetch_start h.remaining, ← flowing.fetched_append r m n]
      exact List.prefix_append _ _
    fetchesAll := fun n enough => by
      rw [flowing.fetched_of_bound r m enough, d.toFetch_start h.remaining]
    plays := fun i => by
      rw [flowing.plays_attendFor r m i, h.pending_start, length_sampleBits, period_start]
    level := fun k n since till => h.level_between once r m since till
    decodes := fun silent ladder => by
      rw [Waveform.decode, Waveform.levels, ← sampleBits, levelsFrom_eq_map, length_sampleBits,
        List.map_map]
      apply List.map_congr_left
      intro k inside
      rw [level (List.mem_range.mp inside), silent]
      rfl
    irq := fun n => by
      have before : d.start.irqPending = (d.start.irqEnable && d.start.remaining == 0) := by
        rw [d.started.irq.2, h.irqPending, beq_eq_false_iff_ne.mpr d.remaining_start,
          Bool.and_false]
      have parts := congrArg List.length (flowing.fetched_append r m n)
      rw [d.toFetch_start h.remaining, List.length_append, toFetch, length_onward,
        sampleAddresses, List.length_map, List.length_range] at parts
      rw [flowing.irq_attendFor r m n before, d.started.irq.1]
      congr 1
      rw [Bool.eq_iff_iff, beq_iff_eq, beq_iff_eq, ← UInt16.toNat_inj]
      change _ = 0 ↔ _
      omega }

/-- Seventeen bytes at the top of memory, played from the middle of the range. -/
theorem plays_out_halfway :
    let d := { initial .ntsc with
      addressLatch := 0xFF, lengthLatch := 1, level := 64, rate := 0x0F, countdown := 7, bit := 5
      irqEnable := true }
    d.Drained ∧ d.PlaysOut .ntsc .zero := by
  intro d
  have drained : d.Drained := ⟨rfl, rfl, rfl, rfl, rfl⟩
  exact ⟨drained, drained.plays_out rfl .ntsc .zero⟩

end Drained

end Dmc

end ChipScribe
