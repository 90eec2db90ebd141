import ChipScribe.Proofs.Overflow
import ChipScribe.Proofs.SampleNotes

/-!
# The handshake with the host

The delta channel asks for a byte at one of two places and gets it whenever the
host is ready.  Between the request, the buffer and the shifter there is room
for one byte only, and no more than one is ever on its way as long as nobody
starts an idle channel while a request is open.  A start at that moment asks a
second time, and one of the two bytes is lost.
-/

namespace ChipScribe

theorem Region.toNat_dmcPeriod_le (r : Region) (rate : UInt8) : (r.dmcPeriod rate).toNat ≤ 428 :=
  UInt16.le_iff_toNat_le.mp (r.dmcPeriod_le rate).2

/-! ## What a clock moves -/

namespace Dmc

/-- The clock that is about to run moves the level, if the level is not at its end. -/
def plays (d : Dmc) : Bool :=
  d.stepping && d.shifting

/-- The byte that goes from the buffer to the shifter on the clock that is about to run. -/
def taken (d : Dmc) : List UInt8 :=
  if d.emptying && d.buffered then [d.buffer] else []

/-- What a clock does to the bytes between the host and the level. -/
structure Moved (r : Region) (d e : Dmc) : Prop extends Advanced r d e where
  latches : e.addressLatch = d.addressLatch ∧ e.lengthLatch = d.lengthLatch ∧ e.rate = d.rate
  cursor : e.cursor = d.cursor
  irq : e.irqEnable = d.irqEnable ∧ e.irqPending = d.irqPending
  level : e.level = if d.plays then stepLevel d.level d.currentBit else d.level
  bit : e.bit = if d.stepping then (d.bit + 1) &&& 7 else d.bit
  buffer : e.buffer = d.buffer
  buffered : e.buffered = (d.buffered && !d.emptying)
  shifting : e.shifting = if d.emptying then d.buffered else d.shifting
  shift : e.shift = if d.emptying && d.buffered then d.buffer else d.shift

private theorem moved_runTimer (r : Region) (d : Dmc) :
    let e := d.runTimer r
    (e.addressLatch = d.addressLatch ∧ e.lengthLatch = d.lengthLatch ∧ e.rate = d.rate) ∧
      e.cursor = d.cursor ∧ (e.irqEnable = d.irqEnable ∧ e.irqPending = d.irqPending) ∧
      e.level = (if d.plays then stepLevel d.level d.currentBit else d.level) ∧
      e.bit = (if d.stepping then (d.bit + 1) &&& 7 else d.bit) ∧
      e.buffer = d.buffer ∧ e.buffered = (d.buffered && !d.emptying) ∧
      e.shifting = (if d.emptying then d.buffered else d.shifting) ∧
      e.shift = if d.emptying && d.buffered then d.buffer else d.shift := by
  unfold runTimer plays emptying
  cases fires : d.stepping with
  | false => simp
  | true =>
      unfold stepBit
      cases last : (d.bit + 1) &&& 7 == 0 with
      | false => simp [last]
      | true => cases d.buffered <;> simp [last]

theorem moved (r : Region) (d : Dmc) : d.Moved r (d.advance r) := by
  obtain ⟨latches, cursor, irq, level, bit, buffer, buffered, shifting, shift⟩ :=
    moved_runTimer r d.tickAge
  have advanced := d.advanced r
  unfold advance runDelay at advanced ⊢
  split
  next waits =>
    rw [if_pos waits] at advanced
    exact ⟨advanced, latches, cursor, irq, level, bit, buffer, buffered, shifting, shift⟩
  next idle =>
    rw [if_neg idle] at advanced
    exact ⟨advanced, latches, cursor, irq, level, bit, buffer, buffered, shifting, shift⟩

/-! ## How long the shifter is busy -/

/-- The clocks up to and including the next one that fires the bit timer. -/
def ticks (d : Dmc) : Nat :=
  (d.countdown - 1).toNat + 1

/-- The clocks up to and including the one that empties the shifter, if none is slower. -/
def wait (period : Nat) (d : Dmc) : Nat :=
  d.ticks + (7 - d.bit.toNat % 8) * period

theorem stepping_of_emptying {d : Dmc} (empties : d.emptying = true) : d.stepping = true :=
  (Bool.and_eq_true_iff.mp empties).1

theorem emptying_of_still {d : Dmc} (still : d.stepping = false) : d.emptying = false := by
  rw [emptying, still, Bool.false_and]

theorem stepping_iff (d : Dmc) : d.stepping = true ↔ d.ticks = 1 := by
  unfold stepping ticks
  rw [beq_iff_eq, ← UInt16.toNat_inj]
  change _ = 0 ↔ _
  omega

theorem toNat_nextBit (bit : UInt8) : ((bit + 1) &&& 7).toNat = (bit.toNat + 1) % 8 := by
  rw [(low_toNat _).2.1, UInt8.toNat_add]
  change (bit.toNat + 1) % 256 % 8 = _
  omega

theorem emptying_iff (d : Dmc) :
    d.emptying = true ↔ d.ticks = 1 ∧ d.bit.toNat % 8 = 7 := by
  unfold emptying
  rw [Bool.and_eq_true, stepping_iff, beq_iff_eq, ← UInt8.toNat_inj, toNat_nextBit]
  change _ ∧ _ = 0 ↔ _
  omega

theorem ticks_advance (r : Region) (d : Dmc) :
    (d.advance r).ticks =
      if d.stepping then (r.dmcPeriod d.rate).toNat else d.ticks - 1 := by
  have long := r.dmcPeriod_ge d.rate
  unfold ticks
  rw [(d.moved r).countdown]
  split
  · rw [UInt16.toNat_sub_of_le _ _ (UInt16.le_iff_toNat_le.mpr (by change 1 ≤ _; omega))]
    change _ - 1 + 1 = _
    omega
  next runs =>
    have left : (d.countdown - 1).toNat ≠ 0 := by
      intro none
      exact runs (d.stepping_iff.mpr (by rw [ticks, none]))
    rw [UInt16.toNat_sub_of_le (d.countdown - 1) 1
      (UInt16.le_iff_toNat_le.mpr (by change 1 ≤ _; omega))]
    change _ - 1 + 1 = _
    omega

/--
A clock that does not empty the shifter comes at least one closer to the one
that does; it comes closer still where the timer restarts with a shorter period.
-/
theorem wait_advance (r : Region) {d : Dmc} {period : Nat}
    (slow : (r.dmcPeriod d.rate).toNat ≤ period) (busy : d.emptying = false) :
    (d.advance r).wait period + 1 +
      (if d.stepping then period - (r.dmcPeriod d.rate).toNat else 0) = d.wait period := by
  have before : ¬ (d.ticks = 1 ∧ d.bit.toNat % 8 = 7) := by
    rw [← emptying_iff, busy]
    exact Bool.false_ne_true
  unfold wait
  rw [ticks_advance, (d.moved r).bit]
  cases fires : d.stepping with
  | true =>
      have now := d.stepping_iff.mp fires
      have later : 7 - d.bit.toNat % 8 = (7 - (d.bit.toNat + 1) % 8 % 8) + 1 := by omega
      simp only [if_true]
      rw [toNat_nextBit, now, later, Nat.succ_mul]
      omega
  | false =>
      have some : d.ticks ≠ 1 := by
        rw [Ne, ← stepping_iff, fires]
        exact Bool.false_ne_true
      simp only [Bool.false_eq_true, if_false]
      unfold ticks at some ⊢
      omega

/-- No byte takes longer than eight times the longest period. -/
theorem wait_advance_of_emptying (r : Region) {d : Dmc} (empties : d.emptying = true) :
    (d.advance r).wait 428 ≤ 3424 := by
  have period := r.toNat_dmcPeriod_le d.rate
  unfold wait
  rw [ticks_advance, if_pos (stepping_of_emptying empties)]
  omega

end Dmc

/-! ## A host that answers when it likes -/

namespace Dmc

/-- What may happen to the channel; the status register starts or stops it. -/
inductive Event
  | clock
  | control (data : UInt8)
  | level (data : UInt8)
  | address (data : UInt8)
  | length (data : UInt8)
  | start
  | stop
  | supply (data : UInt8)
  deriving DecidableEq

/-- The byte that waits for the shifter. -/
def held (d : Dmc) : List UInt8 :=
  if d.buffered then [d.buffer] else []

/-- A request that the start delay has yet to make. -/
def owed (d : Dmc) : Nat :=
  if d.startDelay = 0 then 0 else 1

/-- A request is made when the start delay ends or when a byte leaves the buffer. -/
theorem owed_advance (r : Region) (d : Dmc) :
    d.requests + (d.advance r).owed + (d.advance r).buffered.toNat ≤
      d.owed + d.buffered.toNat := by
  have delay := delay_le d.startDelay
  have leaves : (if d.emptying && d.buffered && d.remaining > 0 then 1 else 0) +
      (d.buffered && !d.emptying).toNat ≤ d.buffered.toNat := by
    cases d.emptying <;> cases d.buffered <;> cases decide (d.remaining > 0) <;> decide
  unfold requests owed
  rw [(d.moved r).startDelay, (d.moved r).buffered]
  omega

theorem owed_advance_le (r : Region) (d : Dmc) : (d.advance r).owed ≤ d.owed := by
  have delay := delay_le d.startDelay
  unfold owed
  rw [(d.moved r).startDelay]
  omega

theorem held_advance (r : Region) (d : Dmc) : d.held = d.taken ++ (d.advance r).held := by
  unfold held taken
  rw [(d.moved r).buffered, (d.moved r).buffer]
  cases d.emptying <;> cases d.buffered <;> rfl

structure Started (d e : Dmc) : Prop where
  buffer : e.buffer = d.buffer
  buffered : e.buffered = d.buffered
  shifting : e.shifting = d.shifting
  shift : e.shift = d.shift
  timer : e.countdown = d.countdown ∧ e.bit = d.bit
  level : e.level = d.level
  rate : e.rate = d.rate
  loop : e.loop = d.loop
  irq : e.irqEnable = d.irqEnable ∧ e.irqPending = d.irqPending

theorem started (d : Dmc) : d.Started d.start := by
  unfold start
  split <;> exact ⟨rfl, rfl, rfl, rfl, ⟨rfl, rfl⟩, rfl, rfl, rfl, rfl, rfl⟩

theorem owed_le (d : Dmc) : d.owed ≤ 1 := by
  unfold owed
  split <;> decide

/-- Only an idle channel with an empty buffer is primed. -/
theorem startDelay_start_of_busy (d : Dmc) (busy : d.remaining ≠ 0 ∨ d.buffered = true) :
    d.start.startDelay = d.startDelay := by
  unfold start
  split
  · rfl
  next idle =>
    exact if_pos (busy.resolve_left fun left => idle (bne_iff_ne.mpr left))

theorem owed_start_of_busy (d : Dmc) (busy : d.remaining ≠ 0 ∨ d.buffered = true) :
    d.start.owed = d.owed := by
  rw [owed, startDelay_start_of_busy d busy, ← owed]

theorem primed_start {d : Dmc} (empty : d.buffered = false) (idle : d.remaining = 0) :
    d.start.buffered = false ∧ (d.start.startDelay = 2 ∨ d.start.startDelay = 3) := by
  refine ⟨d.started.buffered.trans empty, ?_⟩
  unfold start primeDelay
  simp only [idle, empty, bne_self_eq_false, Bool.false_eq_true, if_false]
  split
  · exact .inl rfl
  · exact .inr rfl

/-- Where the host's byte goes, whether or not it is still wanted. -/
structure Supplied (data : UInt8) (d e : Dmc) : Prop where
  buffer : e.buffer = data
  buffered : e.buffered = true
  shifting : e.shifting = d.shifting
  shift : e.shift = d.shift
  startDelay : e.startDelay = d.startDelay
  timer : e.countdown = d.countdown ∧ e.bit = d.bit
  level : e.level = d.level
  rate : e.rate = d.rate
  irqEnable : e.irqEnable = d.irqEnable
  loop : e.loop = d.loop

theorem supplied (d : Dmc) (data : UInt8) : d.Supplied data (d.supply data) := by
  unfold supply finishByte
  dsimp only
  repeat' split
  all_goals exact ⟨rfl, rfl, rfl, rfl, rfl, ⟨rfl, rfl⟩, rfl, rfl, rfl, rfl⟩

end Dmc

/-- The channel with its open requests, and the bytes it has been given and has shifted out of
the buffer so far. -/
structure Handshake where
  dmc : Dmc
  opened : Nat := 0
  delivered : List UInt8 := []
  shifted : List UInt8 := []

namespace Handshake

open Dmc (Event)

variable {r : Region} {h : Handshake} {e : Event}

def power (r : Region) : Handshake :=
  { dmc := .initial r }

def step (r : Region) (h : Handshake) : Event → Handshake
  | .clock =>
      { h with
        dmc := h.dmc.advance r
        opened := h.opened + h.dmc.requests
        shifted := h.shifted ++ h.dmc.taken }
  | .control data => { h with dmc := h.dmc.writeControl data }
  | .level data => { h with dmc := h.dmc.writeLevel data }
  | .address data => { h with dmc := h.dmc.writeAddress data }
  | .length data => { h with dmc := h.dmc.writeLength data }
  | .start => { h with dmc := h.dmc.start.clearIrq }
  | .stop => { h with dmc := h.dmc.stop.clearIrq }
  | .supply data =>
      { h with
        dmc := h.dmc.supply data
        opened := h.opened - 1
        delivered := h.delivered ++ [data] }

def run (r : Region) (h : Handshake) (events : List Event) : Handshake :=
  events.foldl (step r) h

/-- A completion answers an open request. -/
def Answers (h : Handshake) : Event → Prop
  | .supply _ => 0 < h.opened
  | _ => True

instance (h : Handshake) : ∀ e, Decidable (h.Answers e)
  | .supply _ => inferInstanceAs (Decidable (0 < h.opened))
  | .clock | .control _ | .level _ | .address _ | .length _ | .start | .stop => isTrue trivial

/-- Completions answer open requests, and every event obeys the rule. -/
def Fair (r : Region) (rule : Handshake → Event → Prop) : Handshake → List Event → Prop
  | _, [] => True
  | h, e :: rest => (h.Answers e ∧ rule h e) ∧ Fair r rule (h.step r e) rest

instance decidableFair (r : Region) (rule : Handshake → Event → Prop)
    [∀ h e, Decidable (rule h e)] : ∀ h events, Decidable (Fair r rule h events)
  | _, [] => isTrue trivial
  | h, e :: rest =>
      have := decidableFair r rule (h.step r e) rest
      inferInstanceAs (Decidable ((h.Answers e ∧ rule h e) ∧ Fair r rule (h.step r e) rest))

/-- An idle channel is not started while a request is open. -/
def Patient (h : Handshake) (e : Event) : Prop :=
  e = .start → h.dmc.remaining = 0 → h.opened = 0

instance (h : Handshake) (e : Event) : Decidable (h.Patient e) :=
  inferInstanceAs (Decidable (e = .start → h.dmc.remaining = 0 → h.opened = 0))

/-! ## One byte at a time -/

/-- What holds between two events of a patient run. -/
structure Tidy (h : Handshake) : Prop where
  single : h.opened + h.dmc.owed + h.dmc.buffered.toNat ≤ 1
  order : h.delivered = h.shifted ++ h.dmc.held
  shifting : h.dmc.shifting = true → h.shifted.getLast? = some h.dmc.shift
  range : h.dmc.InRange

namespace Tidy

theorem power (r : Region) : (power r).Tidy where
  single := Nat.zero_le 1
  order := rfl
  shifting shifts := absurd shifts Bool.false_ne_true
  range := .initial r

theorem clock (t : h.Tidy) : (h.step r .clock).Tidy where
  single := by
    have requests := h.dmc.owed_advance r
    have single := t.single
    change h.opened + h.dmc.requests + (h.dmc.advance r).owed +
      (h.dmc.advance r).buffered.toNat ≤ 1
    omega
  order := by
    change h.delivered = h.shifted ++ h.dmc.taken ++ (h.dmc.advance r).held
    rw [List.append_assoc, ← h.dmc.held_advance r]
    exact t.order
  shifting := by
    have moved := h.dmc.moved r
    change (h.dmc.advance r).shifting = true →
      (h.shifted ++ h.dmc.taken).getLast? = some (h.dmc.advance r).shift
    rw [moved.shifting, moved.shift]
    unfold Dmc.taken
    cases h.dmc.emptying with
    | false => simpa using t.shifting
    | true => cases h.dmc.buffered <;> simp
  range := t.range.advance r

theorem start (t : h.Tidy) (patient : h.Patient .start) : (h.step r .start).Tidy := by
  have started := h.dmc.started
  have single := t.single
  have owed : h.opened + h.dmc.start.owed + h.dmc.buffered.toNat ≤ 1 := by
    by_cases idle : h.dmc.remaining = 0
    · have answered := patient rfl idle
      have most := h.dmc.start.owed_le
      cases held : h.dmc.buffered with
      | true =>
          rw [h.dmc.owed_start_of_busy (.inr held), ← held]
          exact single
      | false =>
          change h.opened + h.dmc.start.owed + 0 ≤ 1
          omega
    · rw [h.dmc.owed_start_of_busy (.inl idle)]
      exact single
  exact {
    single := by
      change h.opened + h.dmc.start.owed + h.dmc.start.buffered.toNat ≤ 1
      rw [started.buffered]
      exact owed
    order := by
      change h.delivered = h.shifted ++ h.dmc.start.held
      rw [Dmc.held, started.buffered, started.buffer]
      exact t.order
    shifting := by
      change h.dmc.start.shifting = true → h.shifted.getLast? = some h.dmc.start.shift
      rw [started.shifting, started.shift]
      exact t.shifting
    range := t.range.start.clearIrq }

theorem vacant (t : h.Tidy) (asked : 0 < h.opened) : h.dmc.buffered = false := by
  have single := t.single
  cases held : h.dmc.buffered with
  | false => rfl
  | true =>
      rw [held] at single
      change h.opened + h.dmc.owed + 1 ≤ 1 at single
      omega

theorem supply (t : h.Tidy) {data : UInt8} (asked : 0 < h.opened) :
    (h.step r (.supply data)).Tidy := by
  have supplied := h.dmc.supplied data
  have single := t.single
  have order := t.order
  rw [Dmc.held, t.vacant asked] at order
  exact {
    single := by
      change h.opened - 1 + (h.dmc.supply data).owed + (h.dmc.supply data).buffered.toNat ≤ 1
      rw [Dmc.owed, supplied.startDelay, ← Dmc.owed, supplied.buffered]
      change h.opened - 1 + h.dmc.owed + 1 ≤ 1
      omega
    order := by
      change h.delivered ++ [data] = h.shifted ++ (h.dmc.supply data).held
      rw [order, Dmc.held, supplied.buffered, supplied.buffer]
      simp
    shifting := by
      change (h.dmc.supply data).shifting = true →
        h.shifted.getLast? = some (h.dmc.supply data).shift
      rw [supplied.shifting, supplied.shift]
      exact t.shifting
    range := t.range.supply data }

theorem step (t : h.Tidy) (answers : h.Answers e) (patient : h.Patient e) :
    (h.step r e).Tidy := by
  cases e with
  | clock => exact t.clock
  | start => exact t.start patient
  | supply data => exact t.supply answers
  | control data => exact { t with range := t.range.writeControl data }
  | level data => exact { t with range := t.range.writeLevel data }
  | address data => exact { t with range := t.range.writeAddress data }
  | length data => exact { t with range := t.range.writeLength data }
  | stop => exact { t with range := t.range.stop.clearIrq }

theorem run (t : h.Tidy) {events : List Event} (fair : Fair r Patient h events) :
    (h.run r events).Tidy := by
  induction events generalizing h with
  | nil => exact t
  | cons e rest ih => exact ih (t.step fair.1.1 fair.1.2) fair.2

end Tidy

/-! ## No byte waits for long -/

theorem prefix_run (r : Region) (h : Handshake) (events : List Event) :
    h.shifted <+: (h.run r events).shifted := by
  induction events generalizing h with
  | nil => exact List.prefix_rfl
  | cons e rest ih =>
      refine List.IsPrefix.trans ?_ (ih (h.step r e))
      cases e with
      | clock => exact List.prefix_append _ _
      | _ => exact List.prefix_rfl

theorem wait_step (period : Nat) (other : e ≠ .clock) :
    (h.step r e).dmc.wait period = h.dmc.wait period := by
  unfold Dmc.wait Dmc.ticks
  cases e with
  | clock => exact absurd rfl other
  | start =>
      change (h.dmc.start.countdown - 1).toNat + 1 + (7 - h.dmc.start.bit.toNat % 8) * period = _
      rw [h.dmc.started.timer.1, h.dmc.started.timer.2]
  | supply data =>
      change ((h.dmc.supply data).countdown - 1).toNat + 1 +
        (7 - (h.dmc.supply data).bit.toNat % 8) * period = _
      rw [(h.dmc.supplied data).timer.1, (h.dmc.supplied data).timer.2]
  | _ => rfl

/-- The byte in the buffer is shifted by the time the shifter has used up its own. -/
theorem Tidy.taken (t : h.Tidy) {later : List Event} (fair : Fair r Patient h later)
    (long : h.dmc.wait 428 ≤ later.count .clock) : h.delivered <+: (h.run r later).shifted := by
  -- Every clock that leaves the byte in the buffer shortens the wait; other events do not touch it.
  induction later generalizing h with
  | nil => exact absurd long (by unfold Dmc.wait Dmc.ticks; simp)
  | cons e rest ih =>
      have next := ih (t.step fair.1.1 fair.1.2) fair.2
      by_cases clocks : e = .clock
      · subst clocks
        by_cases busy : h.dmc.emptying = false
        · have closer := Dmc.wait_advance r (r.toNat_dmcPeriod_le h.dmc.rate) busy
          rw [List.count_cons_self] at long
          refine next ?_
          change (h.dmc.advance r).wait 428 ≤ _
          omega
        · have empties : h.dmc.emptying = true := Bool.of_not_eq_false busy
          have all : h.delivered = (h.step r .clock).shifted := by
            rw [t.order]
            change _ = h.shifted ++ h.dmc.taken
            rw [Dmc.taken, empties, Bool.true_and, Dmc.held]
          rw [all]
          exact prefix_run r _ rest
      · rw [List.count_cons_of_ne clocks, ← wait_step 428 clocks] at long
        cases e with
        | supply data =>
            have none : h.delivered = h.shifted := by
              rw [t.order, Dmc.held, t.vacant fair.1.1]
              exact List.append_nil _
            rw [none]
            exact prefix_run r h (.supply data :: rest)
        | _ => exact next long

theorem Tidy.wait_le (t : h.Tidy) : h.dmc.wait 428 ≤ 3424 := by
  have least := UInt16.le_iff_toNat_le.mp t.range.countdown.1
  have most := UInt16.le_iff_toNat_le.mp t.range.countdown.2
  have ticks : h.dmc.ticks ≤ 428 := by
    change 1 ≤ h.dmc.countdown.toNat at least
    change h.dmc.countdown.toNat ≤ 428 at most
    unfold Dmc.ticks
    rw [UInt16.toNat_sub_of_le _ _ t.range.countdown.1]
    change _ - 1 + 1 ≤ _
    omega
  unfold Dmc.wait
  omega

/-! ## The handshake -/

/-- The bytes go one by one from the host through the buffer to the shifter. -/
structure InTurn (r : Region) (h : Handshake) : Prop where
  alone : h.opened ≤ 1
  vacant : 0 < h.opened → h.dmc.buffered = false
  order : h.delivered = h.shifted ++ h.dmc.held
  shifting : h.dmc.shifting = true → h.shifted.getLast? = some h.dmc.shift
  taken : ∀ later, Fair r Patient h later → 3424 ≤ later.count .clock →
    h.delivered <+: (h.run r later).shifted

/-- However late the host answers, a patient run has its bytes go in turn. -/
theorem inTurn_of_patient (r : Region) (events : List Event)
    (fair : Fair r Patient (power r) events) : ((power r).run r events).InTurn r := by
  have tidy := (Tidy.power r).run fair
  have single := tidy.single
  exact {
    alone := by omega
    vacant := tidy.vacant
    order := tidy.order
    shifting := tidy.shifting
    taken := fun later fair long => tidy.taken fair (tidy.wait_le.trans long) }

/-- A byte is asked for, given late, and another asked for when the first is shifted. -/
theorem inTurn_of_patient_late :
    let events : List Event :=
      [.length 1, .start] ++ List.replicate 5 .clock ++ [.control 0x0F, .supply 7, .clock]
    Fair .ntsc Patient (power .ntsc) events ∧ ((power .ntsc).run .ntsc events).InTurn .ntsc := by
  intro events
  have fair : Fair .ntsc Patient (power .ntsc) events := by decide
  exact ⟨fair, inTurn_of_patient .ntsc events fair⟩

/-! ## An impatient start -/

private theorem requests_of_empty (r : Region) {d : Dmc} (empty : d.buffered = false) :
    d.requests = (if d.startDelay == 1 then 1 else 0) ∧ (d.advance r).buffered = false ∧
      (d.advance r).startDelay = if d.startDelay > 0 then d.startDelay - 1 else d.startDelay := by
  refine ⟨?_, ?_, (d.moved r).startDelay⟩
  · simp [Dmc.requests, empty]
  · rw [(d.moved r).buffered, empty, Bool.false_and]

/-- A start that comes while a request is open asks once more. -/
theorem Tidy.asks_again (t : h.Tidy) (asked : 0 < h.opened) (idle : h.dmc.remaining = 0) :
    (h.run r [.start, .clock, .clock, .clock]).opened = h.opened + 1 := by
  obtain ⟨empty, delay⟩ := Dmc.primed_start (t.vacant asked) idle
  change h.dmc.start.clearIrq.buffered = false at empty
  change h.dmc.start.clearIrq.startDelay = 2 ∨ h.dmc.start.clearIrq.startDelay = 3 at delay
  obtain ⟨first, empty₁, delay₁⟩ := requests_of_empty r empty
  obtain ⟨second, empty₂, delay₂⟩ := requests_of_empty r empty₁
  obtain ⟨third, -, -⟩ := requests_of_empty r empty₂
  simp only [Handshake.run, List.foldl_cons, List.foldl_nil, Handshake.step]
  rw [first, second, third, delay₂, delay₁]
  rcases delay with delay | delay <;> rw [delay] <;> rfl

/-- A stop and a start between a request and its answer: two requests are open, and the second
answer falls on the first. -/
theorem start_asks_twice :
    let events : List Event :=
      [.start, .clock, .clock, .clock, .stop, .start, .clock, .clock, .clock]
    let h := (power .ntsc).run .ntsc events
    let k := h.run .ntsc [.supply 1, .supply 2]
    Fair .ntsc (fun _ _ => True) (power .ntsc) (events ++ [.supply 1, .supply 2]) ∧
      h.opened = 2 ∧ (h.step .ntsc (.supply 1)).dmc.buffered = true ∧
      k.delivered = [1, 2] ∧ k.shifted = [] ∧ k.dmc.held = [2] := by
  decide

end Handshake

end ChipScribe
