import ChipScribe.LengthCounter

/-!
# Writes that are held back

A write that meets a half frame is kept in a slot until the half frame has been
counted.  To an onlooker who sees the counter once a cycle the slots do not
exist: the cycle first counts the half frame with the flags from before and then
makes its writes, at once and in order.  A cycle may switch the counter on or off
only once, since a switch is never held back.
-/

namespace ChipScribe.LengthCounter

inductive Access where
  | halt (halt : Bool)
  | index (index : UInt8)
  | switch (enabled : Bool)
  deriving DecidableEq, Repr

def Access.switches : Access → Bool
  | .switch _ => true
  | _ => false

/-- What happens between two looks at a counter; `clocking` says whether a half frame is due. -/
structure Cycle where
  clocking : Bool
  accesses : List Access
  deriving DecidableEq, Repr

def Cycle.SwitchesOnce (k : Cycle) : Prop :=
  k.accesses.countP Access.switches ≤ 1

instance (k : Cycle) : Decidable k.SwitchesOnce :=
  inferInstanceAs (Decidable (_ ≤ 1))

def access (clocking : Bool) (c : LengthCounter) : Access → LengthCounter
  | .halt halt => c.writeHalt clocking halt
  | .index index => c.writeIndex clocking index
  | .switch enabled => c.setEnabled enabled

def clockIf (clocking : Bool) (c : LengthCounter) : LengthCounter :=
  if clocking then c.clock else c

def cycle (c : LengthCounter) (k : Cycle) : LengthCounter :=
  ((k.accesses.foldl (access k.clocking) c).clockIf k.clocking).commit

/-! ## A counter without slots -/

structure Plain where
  count : UInt8 := 0
  halt : Bool := false
  enabled : Bool := false
  deriving DecidableEq, Repr

namespace Plain

def clock (p : Plain) : Plain :=
  if p.enabled && !p.halt && p.count != 0 then { p with count := p.count - 1 } else p

def access (p : Plain) : Access → Plain
  | .halt halt => { p with halt := halt }
  | .index index => if p.enabled then { p with count := duration index } else p
  | .switch true => { p with enabled := true }
  | .switch false => { p with enabled := false, count := 0 }

def clockIf (clocking : Bool) (p : Plain) : Plain :=
  if clocking then p.clock else p

def cycle (p : Plain) (k : Cycle) : Plain :=
  k.accesses.foldl access (p.clockIf k.clocking)

/-- A counter that is off is empty. -/
def Empty (p : Plain) : Prop :=
  p.enabled = false → p.count = 0

variable {p : Plain}

theorem Empty.clockIf (h : p.Empty) (clocking : Bool) : (p.clockIf clocking).Empty := by
  unfold Plain.clockIf Plain.clock Empty at *
  grind

theorem Empty.access (h : p.Empty) (a : Access) : (p.access a).Empty := by
  unfold Empty at *
  cases a with
  | halt halt => exact h
  | index index => grind [Plain.access]
  | switch enabled => cases enabled <;> simp [Plain.access]

theorem Empty.cycle (h : p.Empty) (k : Cycle) : (p.cycle k).Empty := by
  have start := h.clockIf k.clocking
  unfold Plain.cycle
  generalize p.clockIf k.clocking = q at start
  induction k.accesses generalizing q with
  | nil => exact start
  | cons a rest ih => exact ih _ (start.access a)

end Plain

/-! ## What the slots come to -/

def plain (c : LengthCounter) : Plain :=
  ⟨c.count, c.halt, c.enabled⟩

/-- The counter as the end of the cycle leaves it if nothing more is written. -/
def due (clocking : Bool) (c : LengthCounter) : Plain :=
  (c.clockIf clocking).commit.plain

theorem plain_clockIf (clocking : Bool) (c : LengthCounter) :
    (c.clockIf clocking).plain = c.plain.clockIf clocking := by
  have counting : (!c.halt && c.enabled && decide (c.count > 0)) =
      (c.enabled && !c.halt && c.count != 0) := by
    have some : decide (c.count > 0) = (c.count != 0) := by
      rw [Bool.eq_iff_iff, decide_eq_true_iff, bne_iff_ne]
      exact UInt8.pos_iff_ne_zero
    rw [some, Bool.and_comm (!c.halt)]
  unfold clockIf Plain.clockIf clock Plain.clock plain
  rw [counting]
  dsimp only
  split
  · split <;> rfl
  · rfl

theorem due_eq (clocking : Bool) (c : LengthCounter) :
    c.due clocking =
      { count := if c.loadPending && c.enabled then duration c.nextIndex
          else (c.plain.clockIf clocking).count
        halt := if c.haltPending then c.nextHalt else c.halt
        enabled := c.enabled } := by
  have kept : (c.clockIf clocking).loadPending = c.loadPending ∧
      (c.clockIf clocking).nextIndex = c.nextIndex ∧
      (c.clockIf clocking).haltPending = c.haltPending ∧
      (c.clockIf clocking).nextHalt = c.nextHalt ∧ (c.clockIf clocking).halt = c.halt ∧
      (c.clockIf clocking).enabled = c.enabled := by
    unfold clockIf clock
    repeat' split
    all_goals simp
  obtain ⟨loads, index, halts, next, halt, enabled⟩ := kept
  rw [← plain_clockIf]
  unfold due plain commit commitLoad commitHalt load
  cases hl : c.loadPending <;> cases hh : c.haltPending <;> cases he : c.enabled <;>
    simp [loads, index, halts, next, halt, enabled, hl, hh, he]

theorem duration_low (index : UInt8) : duration (index &&& 0x1F) = duration index := by
  have low : (index &&& 0x1F).toNat % 32 = index.toNat % 32 := by
    rw [UInt8.toNat_and]
    change (index.toNat &&& 2 ^ 5 - 1) % 32 = _
    rw [Nat.and_two_pow_sub_one_eq_mod]
    omega
  simp only [duration, low]

/-- Nothing is held back. -/
structure Settled (c : LengthCounter) : Prop where
  halt : c.haltPending = false
  load : c.loadPending = false

theorem settled_commit (c : LengthCounter) : c.commit.Settled :=
  ⟨c.pending_commit.1, c.pending_commit.2⟩

theorem Settled.due {c : LengthCounter} (h : c.Settled) (clocking : Bool) :
    c.due clocking = c.plain.clockIf clocking := by
  have same : (c.clockIf clocking).commit = c.clockIf clocking := by
    unfold clockIf clock commit commitLoad commitHalt
    grind [h.halt, h.load]
  rw [LengthCounter.due, same, plain_clockIf]

/-- A counter that is off is empty, and no load waits for it. -/
def Idle (c : LengthCounter) : Prop :=
  c.enabled = false → c.count = 0 ∧ c.loadPending = false

variable {c : LengthCounter}

theorem Settled.access (h : c.Settled) (a : Access) : (c.access false a).Settled := by
  cases a with
  | halt halt => exact ⟨h.halt, h.load⟩
  | index index =>
      simp only [LengthCounter.access, writeIndex, Bool.false_eq_true, if_false]
      unfold LengthCounter.load
      repeat' split
      all_goals exact ⟨h.halt, h.load⟩
  | switch enabled => cases enabled <;> exact ⟨h.halt, h.load⟩

theorem Idle.access (h : c.Idle) (clocking : Bool) {a : Access} (stays : a.switches = false) :
    (c.access clocking a).Idle := by
  unfold Idle at *
  cases a with
  | halt halt => cases clocking <;> exact h
  | index index =>
      simp only [LengthCounter.access, writeIndex, load]
      grind
  | switch enabled => cases stays

/-- An access does to what is due what it does to a counter without slots. -/
theorem due_access {clocking : Bool} {a : Access} (settled : clocking = false → c.Settled)
    (idle : a.switches = true → c.Idle) :
    (c.access clocking a).due clocking = (c.due clocking).access a := by
  rw [due_eq, due_eq]
  cases a with
  | halt halt =>
      cases clocking with
      | true => rfl
      | false =>
          have now := (settled rfl).halt
          simp [LengthCounter.access, writeHalt, Plain.access, plain, Plain.clockIf, now]
  | index index =>
      cases on : c.enabled with
      | false => simp [LengthCounter.access, writeIndex, Plain.access, on]
      | true =>
          cases clocking with
          | true => simp [LengthCounter.access, writeIndex, Plain.access, on, duration_low]
          | false =>
              have now := (settled rfl).load
              simp [LengthCounter.access, writeIndex, load, Plain.access, plain, Plain.clockIf,
                on, now]
  | switch enabled =>
      have waits := idle rfl
      cases enabled with
      | false =>
          simp [LengthCounter.access, setEnabled, Plain.access, plain, Plain.clockIf, Plain.clock]
      | true =>
          cases on : c.enabled with
          | true => simp [LengthCounter.access, setEnabled, Plain.access, plain, on]
          | false =>
              obtain ⟨empty, unloaded⟩ := waits on
              simp [LengthCounter.access, setEnabled, Plain.access, plain, Plain.clockIf,
                Plain.clock, on, empty, unloaded]

/-- Over a cycle that switches once, what is due is what a counter without slots holds. -/
theorem due_foldl {clocking : Bool} {accesses : List Access}
    (once : accesses.countP Access.switches ≤ 1) (settled : clocking = false → c.Settled)
    (idle : accesses.any Access.switches = true → c.Idle) :
    (accesses.foldl (access clocking) c).due clocking =
      accesses.foldl Plain.access (c.due clocking) := by
  induction accesses generalizing c with
  | nil => rfl
  | cons a rest ih =>
      rw [List.countP_cons] at once
      rw [List.foldl_cons, List.foldl_cons, ← due_access settled fun here => idle (by simp [here])]
      -- the counter need only be idle up to the one switch
      refine ih (by omega) ?_ ?_
      · rintro rfl
        exact (settled rfl).access a
      · intro later
        have some : 0 < rest.countP Access.switches := by
          rw [List.countP_pos_iff]
          exact List.any_eq_true.mp later
        have stays : a.switches = false := by
          cases here : a.switches with
          | false => rfl
          | true =>
              rw [if_pos here] at once
              omega
        exact (idle (by simp [later])).access clocking stays

theorem plain_cycle (settled : c.Settled) (empty : c.plain.Empty) {k : Cycle}
    (once : k.SwitchesOnce) : (c.cycle k).plain = c.plain.cycle k := by
  have idle : c.Idle := fun off => ⟨empty off, settled.load⟩
  have folded : (k.accesses.foldl (access k.clocking) c).due k.clocking =
      k.accesses.foldl Plain.access (c.due k.clocking) :=
    due_foldl once (fun _ => settled) fun _ => idle
  rw [settled.due] at folded
  exact folded

theorem settled_cycle (c : LengthCounter) (k : Cycle) : (c.cycle k).Settled :=
  settled_commit _

/-- Seen once a cycle, the counter is one without slots. -/
theorem cycles_plain (cycles : List Cycle) (once : ∀ k ∈ cycles, k.SwitchesOnce) :
    (cycles.scanl cycle ({} : LengthCounter)).map plain = cycles.scanl Plain.cycle {} := by
  have all (c : LengthCounter) (settled : c.Settled) (empty : c.plain.Empty) :
      (cycles.scanl cycle c).map plain = cycles.scanl Plain.cycle c.plain := by
    induction cycles generalizing c with
    | nil => rfl
    | cons k rest ih =>
        obtain ⟨here, later⟩ := List.forall_mem_cons.mp once
        have same := plain_cycle settled empty here
        rw [List.scanl_cons, List.scanl_cons, List.map_cons,
          ih later _ (c.settled_cycle k) (same ▸ empty.cycle k), same]
  exact all {} ⟨rfl, rfl⟩ fun _ => rfl

/-- Loads and halts race half frames, before and after the counter is switched off and on. -/
theorem cycles_plain_racing :
    let cycles : List Cycle :=
      [⟨true, [.switch true, .index 0, .halt true]⟩, ⟨true, [.halt false, .index 1, .index 3]⟩,
        ⟨true, [.index 5]⟩, ⟨false, [.index 7, .halt false]⟩, ⟨true, [.index 4, .switch false]⟩,
        ⟨false, [.index 2, .switch true]⟩, ⟨true, [.index 2]⟩]
    (∀ k ∈ cycles, k.SwitchesOnce) ∧
      (cycles.scanl cycle ({} : LengthCounter)).map plain = cycles.scanl Plain.cycle {} ∧
      (cycles.scanl Plain.cycle {}).map (·.count) = [0, 10, 2, 4, 6, 0, 0, 20] := by
  intro cycles
  have once : ∀ k ∈ cycles, k.SwitchesOnce := by decide
  exact ⟨once, cycles_plain cycles once, by decide⟩

/-- Switched off and on again in one cycle, a counter still takes the load from before. -/
example :
    let k : Cycle := ⟨true, [.index 0, .switch false, .switch true]⟩
    (cycle { enabled := true } k).count = 10 ∧ (Plain.cycle { enabled := true } k).count = 0 := by
  decide

end ChipScribe.LengthCounter
