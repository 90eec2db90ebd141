import ChipScribe.Host.Counting
import ChipScribe.Proofs.Handshake

/-!
# The bytes of a sample

The cursor of the delta channel and the reader that hashes a sample wrap around
in different ways, but they visit the same addresses.  A started sample that
does not loop therefore fetches the bytes that are hashed, in the same order and
each of them once, whether the host answers at once or late.
-/

namespace ChipScribe

/-! ## Addresses -/

namespace Dmc

/-- The addresses a cursor passes. -/
def onward : UInt16 → Nat → List UInt16
  | _, 0 => []
  | cursor, count + 1 => (0x8000 ||| cursor) :: onward ((cursor + 1) &&& 0x7FFF) count

/-- The addresses of the latched sample, which stay in the upper half of memory. -/
def sampleAddresses (d : Dmc) : List UInt16 :=
  (List.range (16 * d.lengthLatch.toNat + 1)).map fun i =>
    0x8000 ||| ((0x4000 + 64 * d.addressLatch.toNat + i) % 0x8000).toUInt16

/-- The addresses of the bytes that are left. -/
def toFetch (d : Dmc) : List UInt16 :=
  onward d.cursor d.remaining.toNat

theorem toNat_and_mask (x : UInt16) : (x &&& 0x7FFF).toNat = x.toNat % 0x8000 :=
  (UInt16.toNat_and _ _).trans (Nat.and_two_pow_sub_one_eq_mod _ 15)

theorem upper_mask (x : UInt16) : (0x8000 : UInt16) ||| (x &&& 0x7FFF) = 0x8000 ||| x := by
  -- Masking drops the top bit, which the disjunction sets anyway.
  apply UInt16.toNat_inj.mp
  rw [UInt16.toNat_or, UInt16.toNat_and, Nat.or_and_distrib_left, ← UInt16.toNat_or,
    ← UInt16.toNat_or]
  change ((0x8000 : UInt16) ||| x).toNat &&& 2 ^ 16 - 1 = _
  rw [Nat.and_two_pow_sub_one_eq_mod]
  exact Nat.mod_eq_of_lt (UInt16.toNat_lt _)

theorem length_onward (cursor : UInt16) (count : Nat) :
    (onward cursor count).length = count := by
  induction count generalizing cursor with
  | zero => rfl
  | succ count ih => exact congrArg (· + 1) (ih _)

theorem onward_eq_map (cursor : UInt16) (offset count : Nat)
    (low : cursor.toNat = offset % 0x8000) :
    onward cursor count =
      (List.range count).map fun i => 0x8000 ||| ((offset + i) % 0x8000).toUInt16 := by
  induction count generalizing cursor offset with
  | zero => rfl
  | succ count ih =>
      have here : cursor = ((offset + 0) % 0x8000).toUInt16 := by
        apply UInt16.toNat_inj.mp
        rw [low]
        change _ = (offset % 0x8000) % 65536
        omega
      have next : ((cursor + 1) &&& 0x7FFF).toNat = (offset + 1) % 0x8000 := by
        rw [toNat_and_mask, UInt16.toNat_add, low]
        change (offset % 0x8000 + 1) % 65536 % 0x8000 = _
        omega
      rw [onward, ih _ _ next, List.range_succ_eq_map, List.map_cons, List.map_map, ← here]
      congr 1
      apply List.map_congr_left
      intro i _
      change _ = 0x8000 ||| ((offset + (i + 1)) % 0x8000).toUInt16
      rw [Nat.add_assoc, Nat.add_comm 1 i]

theorem sampleStart_toNat (d : Dmc) :
    d.sampleStart.toNat = 0x4000 + 64 * d.addressLatch.toNat := by
  have latch := d.addressLatch.toNat_lt
  unfold sampleStart
  rw [UInt16.toNat_add, UInt16.toNat_shiftLeft, UInt8.toNat_toUInt16, Nat.shiftLeft_eq]
  change (16384 + d.addressLatch.toNat * 64 % 65536) % 65536 = _
  omega

theorem onward_sampleStart (d : Dmc) :
    onward (d.sampleStart &&& 0x7FFF) d.sampleLength.toNat = d.sampleAddresses := by
  rw [onward_eq_map _ _ _ (toNat_and_mask _), sampleStart_toNat, sampleLength_toNat,
    Nat.mul_comm d.lengthLatch.toNat 16]
  rfl

theorem toFetch_start (d : Dmc) (idle : d.remaining = 0) :
    d.start.toFetch = d.sampleAddresses := by
  rw [← onward_sampleStart]
  unfold start toFetch
  rw [idle]
  rfl

end Dmc

namespace Voice

/-- The reader's sixteen-bit offset stands for the fifteen bits of the cursor. -/
theorem sampleBytesFrom_eq_map (m : Memory) (offset : UInt16) (count : Nat) :
    sampleBytesFrom m offset count = (Dmc.onward (offset &&& 0x7FFF) count).map m.read := by
  induction count generalizing offset with
  | zero => rfl
  | succ count ih =>
      have next : ((offset &&& 0x7FFF) + 1) &&& 0x7FFF = (offset + 1) &&& 0x7FFF := by
        apply UInt16.toNat_inj.mp
        rw [Dmc.toNat_and_mask, Dmc.toNat_and_mask, UInt16.toNat_add, UInt16.toNat_add,
          Dmc.toNat_and_mask]
        change (offset.toNat % 0x8000 + 1) % 65536 % 0x8000 = (offset.toNat + 1) % 65536 % 0x8000
        omega
      rw [sampleBytesFrom, ih, Dmc.onward, List.map_cons,
        Dmc.upper_mask, next]

theorem sampleBytes_eq_map (m : Memory) (d : Dmc) :
    sampleBytes m d = d.sampleAddresses.map m.read := by
  unfold sampleBytes
  rw [sampleBytesFrom_eq_map, Dmc.onward_sampleStart]

end Voice

/-! ## One byte of a sample that does not loop -/

namespace Dmc

variable {r : Region} {m : Memory} {d : Dmc}

theorem toNat_remaining_sub (more : d.remaining ≠ 0) :
    (d.remaining - 1).toNat + 1 = d.remaining.toNat := by
  have some : d.remaining.toNat ≠ 0 := fun none => more (UInt16.toNat_inj.mp none)
  rw [UInt16.toNat_sub_of_le _ _ (UInt16.le_iff_toNat_le.mpr (by change 1 ≤ _; omega))]
  change _ - 1 + 1 = _
  omega

/-- A byte that is asked for goes into the buffer, and the last one interrupts. -/
theorem supply_of_once (once : d.loop = false) (more : d.remaining ≠ 0) (data : UInt8) :
    d.supply data = { d with
      buffer := data
      buffered := true
      remaining := d.remaining - 1
      cursor := (d.cursor + 1) &&& 0x7FFF
      irqPending := d.irqPending || (d.irqEnable && d.remaining - 1 == 0) } := by
  unfold supply finishByte
  dsimp only
  rw [if_neg (mt beq_iff_eq.mp more), once, if_neg Bool.false_ne_true]
  by_cases last : d.remaining - 1 = 0
  · rw [last]
    cases d.irqEnable <;> simp
  · rw [if_pos (bne_iff_ne.mpr last), beq_eq_false_iff_ne.mpr last]
    simp

theorem toFetch_supply (once : d.loop = false) (more : d.remaining ≠ 0) (data : UInt8) :
    d.toFetch = d.address :: (d.supply data).toFetch := by
  rw [supply_of_once once more]
  unfold toFetch
  rw [← toNat_remaining_sub more]
  rfl

theorem toFetch_advance (r : Region) (d : Dmc) : (d.advance r).toFetch = d.toFetch := by
  unfold toFetch
  rw [(d.moved r).cursor, (d.moved r).remaining]

theorem owed_of_requests (asks : 0 < d.requests) : d.remaining ≠ 0 ∨ 0 < d.owed := by
  by_cases more : d.remaining = 0
  · right
    unfold requests at asks
    unfold owed
    by_cases last : d.startDelay = 1
    · rw [last]
      decide
    · simp [more, last] at asks
  · exact .inl more

end Dmc

/-! ## A late host -/

namespace Handshake

open Dmc (Event)

variable {r : Region} {m : Memory} {h : Handshake} {e : Event} {bytes : List UInt8}

/-- The host answers from memory and writes nothing that touches the sample. -/
def FromMemory (m : Memory) (h : Handshake) : Event → Prop
  | .clock | .level _ => True
  | .control data => data &&& 0x40 = 0
  | .start => h.dmc.remaining ≠ 0
  | .supply data => data = m.read h.dmc.address
  | .address _ | .length _ | .stop => False

/-- What holds while a sample is fetched. -/
structure Streams (m : Memory) (bytes : List UInt8) (h : Handshake) : Prop where
  once : h.dmc.loop = false
  single : h.opened + h.dmc.owed + h.dmc.buffered.toNat ≤ 1
  needed : 0 < h.opened + h.dmc.owed → h.dmc.remaining ≠ 0
  order : h.delivered ++ h.dmc.toFetch.map m.read = bytes

namespace Streams

theorem start {d : Dmc} (m : Memory) (idle : d.remaining = 0) (once : d.loop = false)
    (primed : d.buffered = true → d.startDelay = 0) :
    Streams m (Voice.sampleBytes m d) { dmc := d.start } where
  once := d.started.loop.trans once
  single := by
    change 0 + d.start.owed + d.start.buffered.toNat ≤ 1
    rw [d.started.buffered]
    cases held : d.buffered with
    | true =>
        rw [d.owed_start_of_busy (.inr held), Dmc.owed, if_pos (primed held)]
        decide
    | false => simpa using d.start.owed_le
  needed _ := d.remaining_start
  order := by
    change d.start.toFetch.map m.read = _
    rw [d.toFetch_start idle, Voice.sampleBytes_eq_map]

theorem clock (s : h.Streams m bytes) : (h.step r .clock).Streams m bytes where
  once := (h.dmc.moved r).loop.trans s.once
  single := by
    have requests := h.dmc.owed_advance r
    have single := s.single
    change h.opened + h.dmc.requests + (h.dmc.advance r).owed +
      (h.dmc.advance r).buffered.toNat ≤ 1
    omega
  needed asks := by
    change (h.dmc.advance r).remaining ≠ 0
    rw [(h.dmc.moved r).remaining]
    by_cases before : 0 < h.opened + h.dmc.owed
    · exact s.needed before
    · have delay := h.dmc.owed_advance_le r
      change 0 < h.opened + h.dmc.requests + (h.dmc.advance r).owed at asks
      exact (Dmc.owed_of_requests (by omega)).resolve_right (by omega)
  order := by
    change h.delivered ++ (h.dmc.advance r).toFetch.map m.read = bytes
    rw [Dmc.toFetch_advance]
    exact s.order

theorem supply (s : h.Streams m bytes) (asked : 0 < h.opened) :
    (h.step r (.supply (m.read h.dmc.address))).Streams m bytes := by
  have single := s.single
  have more := s.needed (by omega)
  have supplied := h.dmc.supplied (m.read h.dmc.address)
  have owed : (h.dmc.supply (m.read h.dmc.address)).owed = h.dmc.owed := by
    rw [Dmc.owed, supplied.startDelay, ← Dmc.owed]
  exact {
    once := supplied.loop.trans s.once
    single := by
      change h.opened - 1 + (h.dmc.supply _).owed + (h.dmc.supply _).buffered.toNat ≤ 1
      rw [owed, supplied.buffered]
      change _ + 1 ≤ 1
      omega
    needed := by
      change 0 < h.opened - 1 + (h.dmc.supply _).owed → _
      rw [owed]
      omega
    order := by
      change h.delivered ++ [_] ++ (h.dmc.supply _).toFetch.map m.read = bytes
      rw [← s.order, Dmc.toFetch_supply s.once more (m.read h.dmc.address)]
      simp }

theorem ignoresStart (s : h.Streams m bytes) (more : h.dmc.remaining ≠ 0) :
    (h.step r .start).Streams m bytes := by
  have same : h.step r .start = { h with dmc := h.dmc.clearIrq } := by
    unfold Handshake.step Dmc.start
    rw [if_pos (bne_iff_ne.mpr more)]
  rw [same]
  exact { s with }

theorem run (s : h.Streams m bytes) {events : List Event}
    (fair : Fair r (FromMemory m) h events) : (h.run r events).Streams m bytes := by
  induction events generalizing h with
  | nil => exact s
  | cons e rest ih =>
      obtain ⟨⟨answers, rule⟩, fair⟩ := fair
      cases e with
      | clock => exact ih s.clock fair
      | supply data =>
          cases rule
          exact ih (s.supply answers) fair
      | control data =>
          have once : (data &&& 0x40 != 0) = false := bne_eq_false_iff_eq.mpr rule
          exact ih { s with once := once } fair
      | level data => exact ih { s with } fair
      | start => exact ih (s.ignoresStart rule) fair
      | address _ | length _ | stop => exact rule.elim

end Streams

end Handshake

/-! ## A prompt host -/

namespace Dmc

variable {r : Region} {m : Memory} {d : Dmc} {n : Nat}

/-- Answer requests from memory. -/
def answer (m : Memory) : Nat → Dmc → Dmc
  | 0, d => d
  | n + 1, d => answer m n (d.supply (m.read d.address))

/-- The addresses those answers are read from. -/
def asked (m : Memory) : Nat → Dmc → List UInt16
  | 0, _ => []
  | n + 1, d => d.address :: asked m n (d.supply (m.read d.address))

/-- One clock, after which its requests are answered. -/
def attend (r : Region) (m : Memory) (d : Dmc) : Dmc :=
  answer m d.requests (d.advance r)

def attendFor (r : Region) (m : Memory) : Nat → Dmc → Dmc
  | 0, d => d
  | n + 1, d => attendFor r m n (d.attend r m)

/-- The addresses the bytes are read from in so many clocks. -/
def fetched (r : Region) (m : Memory) : Nat → Dmc → List UInt16
  | 0, _ => []
  | n + 1, d => asked m d.requests (d.advance r) ++ fetched r m n (d.attend r m)

/-- What answers that are wanted change. -/
structure Answered (m : Memory) (n : Nat) (d e : Dmc) : Prop where
  loop : e.loop = d.loop
  startDelay : e.startDelay = d.startDelay
  timer : e.countdown = d.countdown ∧ e.bit = d.bit
  shifting : e.shifting = d.shifting
  shift : e.shift = d.shift
  level : e.level = d.level
  rate : e.rate = d.rate
  remaining : e.remaining.toNat + n = d.remaining.toNat
  buffered : e.buffered = (d.buffered || n != 0)
  toFetch : d.toFetch = asked m n d ++ e.toFetch
  irqEnable : e.irqEnable = d.irqEnable
  irqPending : d.irqPending = (d.irqEnable && d.remaining == 0) →
    e.irqPending = (e.irqEnable && e.remaining == 0)

theorem answered (m : Memory) (once : d.loop = false) (wanted : n ≤ d.remaining.toNat) :
    Answered m n d (answer m n d) := by
  induction n generalizing d with
  | zero =>
      exact ⟨rfl, rfl, ⟨rfl, rfl⟩, rfl, rfl, rfl, rfl, rfl, (Bool.or_false _).symm, rfl, rfl, id⟩
  | succ n ih =>
      have more : d.remaining ≠ 0 := by
        intro none
        rw [none] at wanted
        exact absurd wanted (Nat.not_succ_le_zero n)
      have supplied := d.supplied (m.read d.address)
      have left : (d.supply (m.read d.address)).remaining.toNat + 1 = d.remaining.toNat := by
        rw [supply_of_once once more]
        exact toNat_remaining_sub more
      have rest := ih (supplied.loop.trans once) (by omega)
      exact {
        loop := rest.loop.trans supplied.loop
        startDelay := rest.startDelay.trans supplied.startDelay
        timer := ⟨rest.timer.1.trans supplied.timer.1, rest.timer.2.trans supplied.timer.2⟩
        shifting := rest.shifting.trans supplied.shifting
        shift := rest.shift.trans supplied.shift
        level := rest.level.trans supplied.level
        rate := rest.rate.trans supplied.rate
        remaining := by
          have := rest.remaining
          change (answer m n (d.supply _)).remaining.toNat + (n + 1) = _
          omega
        buffered := by
          refine rest.buffered.trans ?_
          rw [supplied.buffered, Bool.true_or]
          exact (Bool.or_true _).symm
        toFetch := by
          rw [toFetch_supply once more (m.read d.address), rest.toFetch]
          rfl
        irqEnable := rest.irqEnable.trans supplied.irqEnable
        irqPending := fun before => rest.irqPending (by
          rw [supply_of_once once more, before, beq_eq_false_iff_ne.mpr more, Bool.and_false]
          exact Bool.false_or _) }

/-- The request for the byte after the one that leaves the buffer. -/
def leaving (d : Dmc) : Nat :=
  if d.emptying && d.buffered && d.remaining > 0 then 1 else 0

theorem requests_eq (d : Dmc) : d.requests = d.leaving + if d.startDelay = 1 then 1 else 0 := by
  unfold requests leaving
  simp only [beq_iff_eq]

theorem toNat_runDelay (delay : UInt8) :
    (if delay > 0 then delay - 1 else delay).toNat = delay.toNat - 1 := by
  split
  next waits =>
    exact UInt8.toNat_sub_of_le _ _ (UInt8.le_iff_toNat_le.mpr (UInt8.lt_iff_toNat_lt.mp waits))
  next idle =>
    have none : delay.toNat = 0 := by
      have least := mt UInt8.lt_iff_toNat_lt.mpr idle
      change ¬ 0 < _ at least
      omega
    omega

theorem leaving_eq_one (empties : d.emptying = true) (held : d.buffered = true)
    (more : d.remaining ≠ 0) : d.leaving = 1 := by
  unfold leaving
  rw [empties, held, decide_eq_true (UInt16.pos_iff_ne_zero.mpr more)]
  rfl

theorem leaving_cases (d : Dmc) :
    d.leaving = 0 ∨
      (d.leaving = 1 ∧ d.emptying = true ∧ d.buffered = true ∧ d.remaining ≠ 0) := by
  unfold leaving
  split
  next leaves =>
    simp only [Bool.and_eq_true, decide_eq_true_eq] at leaves
    exact .inr ⟨rfl, leaves.1.1, leaves.1.2, UInt16.pos_iff_ne_zero.mp leaves.2⟩
  next => exact .inl rfl

/-- What holds between two clocks of a prompt host while a sample is fetched. -/
structure Fetching (d : Dmc) : Prop where
  once : d.loop = false
  fed : d.startDelay = 0 → d.remaining ≠ 0 → d.buffered = true
  lasting : d.startDelay ≠ 0 →
    d.remaining ≠ 0 ∧ (d.buffered = true → d.startDelay.toNat < d.remaining.toNat)

/-- More clocks than the rest of a sample takes. -/
def bound (d : Dmc) : Nat :=
  d.startDelay.toNat * 3424 + d.wait 428 + d.remaining.toNat * 3424

namespace Fetching

theorem requests_le (f : d.Fetching) : d.requests ≤ d.remaining.toNat := by
  have some (more : d.remaining ≠ 0) : 0 < d.remaining.toNat :=
    Nat.pos_of_ne_zero fun none => more (UInt16.toNat_inj.mp none)
  rw [requests_eq]
  by_cases last : d.startDelay = 1
  · obtain ⟨more, long⟩ := f.lasting (by rw [last]; decide)
    have more := some more
    rw [if_pos last]
    rcases d.leaving_cases with none | ⟨one, -, held, -⟩
    · omega
    · have long := long held
      rw [last] at long
      change 1 < _ at long
      omega
  · rw [if_neg last]
    rcases d.leaving_cases with none | ⟨one, -, -, more⟩
    · omega
    · have more := some more
      omega

theorem answered (f : d.Fetching) (r : Region) (m : Memory) :
    Answered m d.requests (d.advance r) (d.attend r m) := by
  have moved := d.moved r
  refine Dmc.answered m (moved.loop.trans f.once) ?_
  rw [moved.remaining]
  exact f.requests_le

theorem counts (f : d.Fetching) (r : Region) (m : Memory) :
    (d.attend r m).remaining.toNat + d.requests = d.remaining.toNat ∧
      (d.attend r m).startDelay.toNat = d.startDelay.toNat - 1 ∧
      (d.attend r m).buffered = ((d.buffered && !d.emptying) || d.requests != 0) := by
  have moved := d.moved r
  have answered := f.answered r m
  refine ⟨?_, ?_, ?_⟩
  · rw [← moved.remaining]
    exact answered.remaining
  · rw [answered.startDelay, moved.startDelay]
    exact toNat_runDelay d.startDelay
  · rw [answered.buffered, moved.buffered]

theorem later_of_waits (f : d.Fetching) (r : Region) (m : Memory)
    (waits : (d.attend r m).startDelay ≠ 0) : d.startDelay ≠ 0 ∧ d.startDelay ≠ 1 := by
  have startDelay := (f.counts r m).2.1
  have some : (d.attend r m).startDelay.toNat ≠ 0 := fun none => waits (UInt8.toNat_inj.mp none)
  constructor <;> intro small <;> rw [small] at startDelay <;> exact some startDelay

private theorem fed_attend (f : d.Fetching) (r : Region) (m : Memory)
    (ends : (d.attend r m).startDelay = 0) (more : (d.attend r m).remaining ≠ 0) :
    (d.attend r m).buffered = true := by
  obtain ⟨remaining, startDelay, buffered⟩ := f.counts r m
  have requests := d.requests_eq
  rw [buffered]
  by_cases last : d.startDelay = 1
  · have asks : (d.requests != 0) = true := by
      rw [if_pos last] at requests
      exact bne_iff_ne.mpr (by omega)
    rw [asks, Bool.or_true]
  · have none : d.startDelay = 0 := by
      have one : d.startDelay.toNat ≠ 1 := fun one => last (UInt8.toNat_inj.mp one)
      rw [ends] at startDelay
      change 0 = _ at startDelay
      exact UInt8.toNat_inj.mp (by change _ = 0; omega)
    have before : d.remaining ≠ 0 := by
      intro spent
      rw [spent] at remaining
      exact more (UInt16.toNat_inj.mp (Nat.eq_zero_of_add_eq_zero remaining).1)
    have held := f.fed none before
    cases empties : d.emptying with
    | false => rw [held]; rfl
    | true => rw [requests, d.leaving_eq_one empties held before, none]; simp

private theorem lasting_attend (f : d.Fetching) (r : Region) (m : Memory)
    (waits : (d.attend r m).startDelay ≠ 0) : (d.attend r m).remaining ≠ 0 ∧
      ((d.attend r m).buffered = true →
        (d.attend r m).startDelay.toNat < (d.attend r m).remaining.toNat) := by
  obtain ⟨remaining, startDelay, buffered⟩ := f.counts r m
  have later := f.later_of_waits r m waits
  have some : (d.attend r m).startDelay.toNat ≠ 0 := fun none => waits (UInt8.toNat_inj.mp none)
  obtain ⟨more, long⟩ := f.lasting later.1
  have left : d.remaining.toNat ≠ 0 := fun none => more (UInt16.toNat_inj.mp none)
  have requests : d.requests = d.leaving := by rw [requests_eq, if_neg later.2, Nat.add_zero]
  have fewer : (d.attend r m).remaining.toNat ≠ 0 ∧ ((d.attend r m).buffered = true →
      (d.attend r m).startDelay.toNat < (d.attend r m).remaining.toNat) := by
    rw [requests] at remaining buffered
    rcases d.leaving_cases with none | ⟨one, -, held, -⟩
    · rw [none] at remaining buffered
      refine ⟨by omega, fun held => ?_⟩
      have before : d.buffered = true ∧ d.emptying = false := by simpa [buffered] using held
      have long := long before.1
      omega
    · have long := long held
      rw [one] at remaining
      exact ⟨by omega, fun _ => by omega⟩
  exact ⟨fun spent => fewer.1 (congrArg UInt16.toNat spent), fewer.2⟩

theorem attend (f : d.Fetching) (r : Region) (m : Memory) : (d.attend r m).Fetching where
  once := (f.answered r m).loop.trans ((d.moved r).loop.trans f.once)
  fed := f.fed_attend r m
  lasting := f.lasting_attend r m

theorem toFetch_attend (f : d.Fetching) (r : Region) (m : Memory) :
    d.toFetch = asked m d.requests (d.advance r) ++ (d.attend r m).toFetch := by
  rw [← toFetch_advance r d]
  exact (f.answered r m).toFetch

theorem attendFor (f : d.Fetching) (r : Region) (m : Memory) (n : Nat) :
    (d.attendFor r m n).Fetching := by
  induction n generalizing d with
  | zero => exact f
  | succ n ih => exact ih (f.attend r m)

/-- The bytes fetched so far and those still to fetch make up the sample. -/
theorem fetched_append (f : d.Fetching) (r : Region) (m : Memory) (n : Nat) :
    fetched r m n d ++ (d.attendFor r m n).toFetch = d.toFetch := by
  induction n generalizing d with
  | zero => rfl
  | succ n ih =>
      rw [fetched, List.append_assoc]
      exact (congrArg _ (ih (f.attend r m))).trans (f.toFetch_attend r m).symm

theorem bound_attend (f : d.Fetching) (r : Region) (m : Memory) (more : d.remaining ≠ 0) :
    (d.attend r m).bound < d.bound := by
  obtain ⟨remaining, startDelay, -⟩ := f.counts r m
  have requests := d.requests_eq
  have timer := (f.answered r m).timer
  have wait : (d.attend r m).wait 428 = (d.advance r).wait 428 := by
    unfold Dmc.wait ticks
    rw [timer.1, timer.2]
  unfold bound
  rw [wait]
  cases empties : d.emptying with
  | false =>
      have closer := wait_advance r (r.toNat_dmcPeriod_le d.rate) empties
      omega
  | true =>
      -- The wait starts over, which a byte fewer or a shorter start delay pays for.
      have soon := wait_advance_of_emptying r empties
      have late : 0 < d.wait 428 := by
        unfold Dmc.wait ticks
        omega
      by_cases primed : d.startDelay = 0
      · have leaves := d.leaving_eq_one empties (f.fed primed more) more
        omega
      · have waits : d.startDelay.toNat ≠ 0 := fun none => primed (UInt8.toNat_inj.mp none)
        omega

theorem remaining_attendFor_le (f : d.Fetching) (r : Region) (m : Memory) (n : Nat) :
    (d.attendFor r m n).remaining.toNat ≤ d.remaining.toNat := by
  induction n generalizing d with
  | zero => exact Nat.le_refl _
  | succ n ih =>
      have fewer := (f.counts r m).1
      exact (ih (f.attend r m)).trans (by omega)

theorem remaining_of_bound (f : d.Fetching) (r : Region) (m : Memory) (long : d.bound ≤ n) :
    (d.attendFor r m n).remaining = 0 := by
  induction n generalizing d with
  | zero => exact absurd long (by unfold bound Dmc.wait ticks; omega)
  | succ n ih =>
      by_cases more : d.remaining = 0
      · have fewer := f.remaining_attendFor_le r m (n + 1)
        rw [more] at fewer
        exact UInt16.toNat_inj.mp (Nat.le_zero.mp fewer)
      · have sooner := f.bound_attend r m more
        exact ih (f.attend r m) (by omega)

theorem fetched_of_bound (f : d.Fetching) (r : Region) (m : Memory) (long : d.bound ≤ n) :
    fetched r m n d = d.toFetch := by
  have all := f.fetched_append r m n
  rw [toFetch, f.remaining_of_bound r m long] at all
  exact (List.append_nil _).symm.trans all

end Fetching

/-- A start begins to fetch, unless a byte and a request are left from before. -/
theorem fetching_start (idle : d.remaining = 0) (once : d.loop = false)
    (brief : d.startDelay ≤ 3)
    (long : d.buffered = true → d.startDelay = 0 ∨ 1 ≤ d.lengthLatch) : d.start.Fetching where
  once := d.started.loop.trans once
  fed ends _ := by
    rw [d.started.buffered]
    cases held : d.buffered with
    | true => rfl
    | false =>
        obtain ⟨-, primed⟩ := primed_start held idle
        rw [ends] at primed
        exact absurd primed (by decide)
  lasting waits := by
    refine ⟨d.remaining_start, fun held => ?_⟩
    rw [d.started.buffered] at held
    have delay := d.startDelay_start_of_busy (.inr held)
    rw [delay] at waits ⊢
    have latch := UInt8.le_iff_toNat_le.mp ((long held).resolve_left waits)
    have remaining : d.start.remaining = d.sampleLength := by
      unfold start
      rw [idle]
      rfl
    rw [remaining, sampleLength_toNat]
    have brief := UInt8.le_iff_toNat_le.mp brief
    change 1 ≤ _ at latch
    change _ ≤ 3 at brief
    omega

end Dmc

namespace CountingHost

theorem obey_eq (h : CountingHost) (line : Option Bool) :
    (h.obey line).memory = h.memory ∧ (h.obey line).requests = h.requests := by
  cases line <;> exact ⟨rfl, rfl⟩

theorem dmc_serveTimes (n : Nat) (h : CountingHost) (c : Chip) :
    (serveTimes n h c).2.synth.dmc = Dmc.answer h.memory n c.synth.dmc := by
  induction n generalizing h c with
  | zero => rfl
  | succ n ih =>
      have memory : (h.serveOne c).1.memory = h.memory := (h.obey_eq _).1
      change (serveTimes n (h.serveOne c).1 (h.serveOne c).2).2.synth.dmc = _
      rw [ih, memory]
      rfl

/-- A counting host that serves after every clock is a prompt one. -/
theorem dmc_serve_clock (h : CountingHost) (c : Chip) (served : h.requests = 0) :
    let clocked := h.clock c
    (clocked.1.serve clocked.2.1).2.synth.dmc =
      c.synth.dmc.attend c.synth.region h.memory := by
  intro clocked
  have requests : clocked.1.requests = c.synth.dmc.requests := by
    change (h.obey _).requests + c.synth.dmc.requests = _
    rw [(h.obey_eq _).2, served, Nat.zero_add]
  have memory : clocked.1.memory = h.memory := (h.obey_eq _).1
  have synth : clocked.2.1.synth.dmc = c.synth.dmc.advance c.synth.region := c.synth.dmc_clock
  unfold serve
  rw [dmc_serveTimes, requests, synth]
  change Dmc.answer clocked.1.memory _ _ = _
  rw [memory]
  rfl

end CountingHost

/-! ## The sample that is hashed is the sample that is played -/

namespace Voice

/-- Look a sample up by its bytes: their hash names the instrument, and bytes that no instrument is
known for are recorded. -/
def recognise (t : Tuning) (d : Dmc) (l : Library) (bytes : List UInt8) (v : Voice) :
    Voice × Library × List Effect :=
  let hash := Fingerprint.ofBytes bytes
  let v := v.sightLatches d
  match l.lookup? hash with
  | some i =>
      if i.pitch d.rate > 0.0 then
        (v.playInstrument t i d.rate, l,
          [.notice (.sampleFound hash d.addressLatch d.lengthLatch d.rate)])
      else (v.silenceSample, l, [.notice (.sampleSilent hash d.rate)])
  | none =>
      let (l, dump) := l.recordUnknown hash d.rate bytes
      (v.silenceSample, l,
        .notice (.sampleUnknown hash d.addressLatch d.lengthLatch d.rate) ::
          dump.toList.map .dump)

theorem lookUp_eq_recognise (t : Tuning) (m : Memory) (d : Dmc) (l : Library) (v : Voice) :
    v.lookUp t m d l = v.recognise t d l (sampleBytes m d) :=
  rfl

theorem sampleBytes_congr (m : Memory) {d e : Dmc} (address : e.addressLatch = d.addressLatch)
    (length : e.lengthLatch = d.lengthLatch) : sampleBytes m e = sampleBytes m d := by
  rw [sampleBytes_eq_map, sampleBytes_eq_map, Dmc.sampleAddresses, Dmc.sampleAddresses, address,
    length]

end Voice

namespace Dmc

/-- The bytes that a start fetches are the bytes that a lookup hashes. -/
structure PlaysWhatIsHashed (r : Region) (m : Memory) (d : Dmc) : Prop where
  inOrder : ∀ n, (fetched r m n d.start).map m.read <+: Voice.sampleBytes m d
  inTime : ∀ n, d.start.bound ≤ n → (fetched r m n d.start).map m.read = Voice.sampleBytes m d
  late : (d.buffered = true → d.startDelay = 0) →
    ∀ events, Handshake.Fair r (Handshake.FromMemory m) { dmc := d.start } events →
      let h := Handshake.run r { dmc := d.start } events
      h.delivered <+: Voice.sampleBytes m d ∧
        (h.dmc.remaining = 0 → h.delivered = Voice.sampleBytes m d ∧ h.opened = 0)
  hashed : ∀ n, d.start.bound ≤ n → ∀ e : Dmc,
    e.addressLatch = d.addressLatch → e.lengthLatch = d.lengthLatch →
      ∀ (t : Tuning) (l : Library) (v : Voice),
        v.lookUp t m e l = v.recognise t e l ((fetched r m n d.start).map m.read)

/-- What a sample is looked up by is what its playback fetches, wherever it wraps around. -/
theorem playsWhatIsHashed (r : Region) (m : Memory) (d : Dmc) (idle : d.remaining = 0)
    (once : d.loop = false) (brief : d.startDelay ≤ 3) (long : 1 ≤ d.lengthLatch) :
    d.PlaysWhatIsHashed r m := by
  have fetching : d.start.Fetching := fetching_start idle once brief fun _ => .inr long
  have all (n : Nat) (enough : d.start.bound ≤ n) :
      (fetched r m n d.start).map m.read = Voice.sampleBytes m d := by
    rw [fetching.fetched_of_bound r m enough, d.toFetch_start idle, Voice.sampleBytes_eq_map]
  exact {
    inOrder := fun n => by
      rw [Voice.sampleBytes_eq_map, ← d.toFetch_start idle, ← fetching.fetched_append r m n,
        List.map_append]
      exact List.prefix_append _ _
    inTime := all
    late := fun primed events fair => by
      have streams := (Handshake.Streams.start m idle once primed).run fair
      refine ⟨⟨_, streams.order⟩, fun spent => ⟨?_, ?_⟩⟩
      · have order := streams.order
        rw [Dmc.toFetch, spent] at order
        exact (List.append_nil _).symm.trans order
      · by_contra asked
        exact streams.needed (by omega) spent
    hashed := fun n enough e address length t l v => by
      rw [all n enough, ← Voice.sampleBytes_congr m address length]
      exact Voice.lookUp_eq_recognise t m e l v }

/-- The longest sample, from the highest address: it runs past the top and on from the middle. -/
theorem playsWhatIsHashed_past_top :
    let d := { initial .ntsc with addressLatch := 0xFF, lengthLatch := 0xFF }
    d.sampleAddresses[64]? = some 0x8000 ∧ d.PlaysWhatIsHashed .pal .zero := by
  intro d
  exact ⟨by decide +kernel, playsWhatIsHashed .pal .zero d rfl rfl (by decide) (by decide)⟩

end Dmc

end ChipScribe
