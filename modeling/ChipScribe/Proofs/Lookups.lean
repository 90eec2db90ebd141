import Mathlib.Data.List.Induction
import ChipScribe.Proofs.SampleNotes
import ChipScribe.Proofs.SwitchedOff

/-!
# Each started sample is looked up once

A start leaves a mark that a lookup is due, and sets a clock running; a stop takes
the mark back but leaves the clock.  The lookup comes when the clock passes the
time that a sample settles in.  While the mark stands the clock has not passed it,
so a lookup is always the `s`-th clock after the last start that left the mark, and
there is one for each of these starts at most.
-/

namespace ChipScribe

/-- The notice of a lookup. -/
def Effect.looksUp : Effect → Bool
  | .notice (.sampleFound ..) | .notice (.sampleSilent ..) | .notice (.sampleUnknown ..) => true
  | _ => false

/-- How many lookups a call made. -/
def Outcome.lookups (out : Outcome) : Nat :=
  out.effects.countP (·.looksUp)

/-! ## What a call means to a lookup -/

/--
A start of an idle channel whose sample has more than one byte, a stop before the
end of a sample, a clock, or anything else.
-/
inductive SampleCall where
  | begins
  | cuts
  | ticks
  | passes
  deriving DecidableEq, Repr

/-- What a write to the status register means in the state that it finds the channel in. -/
def Dmc.statusCall (d : Dmc) (data : UInt8) : SampleCall :=
  if data &&& 0x10 != 0 then
    if d.remaining == 0 && d.lengthLatch ≥ 1 then .begins else .passes
  else if d.remaining != 0 then .cuts else .passes

namespace Operation

def writesStatus : Operation → Bool
  | .write address _ => Register.ofAddress? address == some .status
  | _ => false

/-- How many of the calls are clocks. -/
def cycles (ops : List Operation) : Nat :=
  ops.countP (·.isClock)

theorem cycles_cons (o : Operation) (ops : List Operation) :
    cycles (o :: ops) = cycles ops + if o.isClock then 1 else 0 :=
  List.countP_cons

theorem cycles_concat (ops : List Operation) (o : Operation) :
    cycles (ops ++ [o]) = cycles ops + if o.isClock then 1 else 0 := by
  simp [cycles, List.countP_append, List.countP_cons]

end Operation

open Operation

namespace Chip

def sampleCall (c : Chip) : Operation → SampleCall
  | .clock _ => .ticks
  | .write address data =>
      if Register.ofAddress? address == some .status then c.synth.dmc.statusCall data else .passes
  | _ => .passes

def sampleCalls (c : Chip) : List Operation → List SampleCall
  | [] => []
  | o :: rest => c.sampleCall o :: (c.operate o).1.sampleCalls rest

theorem sampleCalls_append (c : Chip) (ops later : List Operation) :
    c.sampleCalls (ops ++ later) = c.sampleCalls ops ++ (c.after ops).sampleCalls later := by
  induction ops generalizing c with
  | nil => rfl
  | cons o ops ih => exact congrArg _ (ih _)

/-- No call of the run begins a sample or cuts one short. -/
def Spares (c : Chip) (ops : List Operation) : Prop :=
  ∀ call ∈ c.sampleCalls ops, call ≠ .begins ∧ call ≠ .cuts

/-- How many lookups a run makes. -/
def lookups (c : Chip) (ops : List Operation) : Nat :=
  ((c.outcomes ops).map (·.lookups)).sum

theorem lookups_cons (c : Chip) (o : Operation) (ops : List Operation) :
    c.lookups (o :: ops) = (c.operate o).2.lookups + (c.operate o).1.lookups ops := by
  simp [lookups, outcomes]

theorem lookups_append (c : Chip) (ops later : List Operation) :
    c.lookups (ops ++ later) = c.lookups ops + (c.after ops).lookups later := by
  simp [lookups, outcomes_append]

end Chip

namespace SampleCall

/-- The clocks since the start of the sample that waits to be looked up after `s`. -/
def wait (s : Nat) : Option Nat → SampleCall → Option Nat
  | _, begins => some 0
  | _, cuts => none
  | none, ticks => none
  | some n, ticks => if n + 1 = s then none else some (n + 1)
  | w, passes => w

/-- Whether the sample that waits is looked up. -/
def fires (s : Nat) : Option Nat → SampleCall → Nat
  | some n, ticks => if n + 1 = s then 1 else 0
  | _, _ => 0

theorem wait_passes (s : Nat) (w : Option Nat) : wait s w passes = w := by
  cases w <;> rfl

theorem fires_of_ne {call : SampleCall} (other : call ≠ ticks) (s : Nat) (w : Option Nat) :
    fires s w call = 0 := by
  cases call with
  | ticks => exact absurd rfl other
  | begins | cuts | passes => cases w <;> rfl

theorem fires_le (s : Nat) (w : Option Nat) (call : SampleCall) : fires s w call ≤ 1 := by
  unfold fires
  repeat' split
  all_goals decide

theorem of_fires {s : Nat} {w : Option Nat} {call : SampleCall} (looked : fires s w call = 1) :
    call = ticks ∧ ∃ n, w = some n ∧ n + 1 = s := by
  cases call with
  | begins | cuts | passes =>
      rw [fires_of_ne SampleCall.noConfusion] at looked
      cases looked
  | ticks =>
      cases w with
      | none => cases looked
      | some n =>
          simp only [fires] at looked
          split at looked
          next last => exact ⟨rfl, n, rfl, last⟩
          next => cases looked

/-- A lookup uses up the sample that waits, and only a sample that begins is there to wait. -/
theorem fires_add_le (s : Nat) (w : Option Nat) (call : SampleCall) :
    fires s w call + (wait s w call).isSome.toNat ≤
      w.isSome.toNat + if call == begins then 1 else 0 := by
  cases w with
  | none => cases call <;> exact Nat.le_add_left _ _
  | some n =>
      cases call with
      | ticks =>
          simp only [fires, wait]
          split <;> exact Nat.le_refl 1
      | begins | cuts | passes => simp [fires, wait]

/-- A sample waits since it began. -/
theorem of_wait {s n : Nat} {w : Option Nat} {call : SampleCall} (waits : wait s w call = some n) :
    (call = begins ∧ n = 0) ∨
      ∃ k, w = some k ∧ (call = ticks ∧ n = k + 1 ∨ call = passes ∧ n = k) := by
  cases call with
  | begins =>
      cases waits
      exact .inl ⟨rfl, rfl⟩
  | cuts => cases waits
  | passes =>
      rw [wait_passes] at waits
      exact .inr ⟨n, waits, .inr ⟨rfl, rfl⟩⟩
  | ticks =>
      cases w with
      | none => cases waits
      | some k =>
          simp only [wait, Option.ite_none_left_eq_some, Option.some.injEq] at waits
          exact .inr ⟨k, rfl, .inl ⟨rfl, waits.2.symm⟩⟩

end SampleCall

/-! ## The mark and the clock -/

namespace Voice

variable (v : Voice) (t : Tuning) (m : Memory) (d : Dmc) (l : Library)

/-- A lookup takes the mark away. -/
theorem triggered_followDmc :
    (v.followDmc t m d l).1.triggered = (v.triggered && !v.dueLookup t d) := by
  have ended (w : Voice) : (w.endSample d).triggered = w.triggered := by
    unfold endSample
    dsimp only
    split <;> rfl
  have looked : (v.lookUp t m d l).1.triggered = false := by
    dsimp only [lookUp]
    repeat' split
    all_goals rfl
  unfold followDmc
  cases v.dueLookup t d with
  | true => simp [ended, looked]
  | false => simp [ended]

theorem countP_lookUp : (v.lookUp t m d l).2.2.countP (·.looksUp) = 1 := by
  have dumps (dump : Option Waveform.Dump) :
      (dump.toList.map Effect.dump).countP (·.looksUp) = 0 := by
    cases dump <;> rfl
  dsimp only [lookUp]
  split
  · split <;> rfl
  · rw [List.countP_cons, dumps]
    rfl

theorem countP_followDmc :
    (v.followDmc t m d l).2.2.countP (·.looksUp) = (v.dueLookup t d).toNat := by
  unfold followDmc
  cases v.dueLookup t d with
  | true => exact v.countP_lookUp t m d l
  | false => rfl

end Voice

namespace Dmc

/-- The clock counts up, short of the end of its range. -/
theorem toNat_ageTick {age : UInt32} {n : Nat} (shows : age.toNat = n + 1)
    (room : n + 1 < 0xFFFFFFFF) : (ageTick age).toNat = n + 2 := by
  rw [ageTick_of_lt (by omega) (by omega), UInt32.toNat_add, shows]
  change (n + 1 + 1) % 4294967296 = _
  omega

theorem age_supply (d : Dmc) (data : UInt8) : (d.supply data).age = d.age := by
  unfold supply finishByte rewind
  dsimp only
  repeat' split
  all_goals rfl

theorem long_iff (d : Dmc) : d.sampleLength > 1 ↔ d.lengthLatch ≥ 1 := by
  have bytes := d.sampleLength_toNat
  have one : (1 : UInt16).toNat = 1 := rfl
  have one' : (1 : UInt8).toNat = 1 := rfl
  rw [gt_iff_lt, UInt16.lt_iff_toNat_lt, ge_iff_le, UInt8.le_iff_toNat_le]
  omega

/-- A start that is ignored, or that starts a single byte, leaves the clock alone. -/
theorem age_start {d : Dmc} (begins : (d.remaining == 0 && decide (d.lengthLatch ≥ 1)) = false) :
    d.start.age = d.age := by
  unfold start
  split
  · rfl
  next idle =>
    have idle : d.remaining = 0 := by simpa using idle
    have short : ¬ d.lengthLatch ≥ 1 := by simpa [idle] using begins
    exact if_neg (mt d.long_iff.mp short)

end Dmc

namespace Deck

/-- What a write to the status register does to the mark and the clock. -/
def Means (k k' : Deck) : SampleCall → Prop
  | .begins => k'.triggered = true ∧ k'.dmc.age = 1
  | .cuts => k'.triggered = false
  | .ticks => False
  | .passes => k'.triggered = k.triggered ∧ k'.dmc.age = k.dmc.age

theorem means_writeStatus (k : Deck) (data : UInt8) :
    k.Means (k.writeStatus data) (k.dmc.statusCall data) := by
  unfold Dmc.statusCall writeStatus
  by_cases starts : data &&& 0x10 != 0
  · have same : decide (k.dmc.sampleLength > 1) = decide (k.dmc.lengthLatch ≥ 1) :=
      decide_eq_decide.mpr k.dmc.long_iff
    rw [if_pos starts, if_pos starts, same]
    cases begins : k.dmc.remaining == 0 && decide (k.dmc.lengthLatch ≥ 1) with
    | true =>
        obtain ⟨idle, long⟩ : k.dmc.remaining = 0 ∧ k.dmc.lengthLatch ≥ 1 := by
          simpa using begins
        rw [if_pos rfl]
        exact ⟨Bool.or_true _, (k.dmc.start_of_spent idle (k.dmc.long_iff.mpr long)).1⟩
    | false =>
        rw [if_neg Bool.false_ne_true]
        exact ⟨Bool.or_false _, Dmc.age_start begins⟩
  · rw [if_neg starts, if_neg starts]
    cases idle : k.dmc.remaining == 0 with
    | true =>
        rw [if_neg (by simpa using idle), Bool.and_true]
        exact ⟨rfl, rfl⟩
    | false =>
        rw [if_pos (by simpa using idle)]
        exact Bool.and_false _

end Deck

namespace Chip

/-- The mark, and what the clock shows while it stands. -/
structure Waits (s : UInt32) (c : Chip) (w : Option Nat) : Prop where
  settle : c.scribe.tuning.dmcSettle = s
  marked : c.scribe.dmc.triggered = w.isSome
  age {n : Nat} : w = some n → c.synth.dmc.age.toNat = n + 1 ∧ n < s.toNat

variable {c : Chip} {s : UInt32} {w : Option Nat} {o : Operation}

/-- A recalculation makes a lookup where one is due, and takes the mark away. -/
theorem marked_of_follow (f : Scribe) (m : Memory) (synth : Synth) :
    let due := f.dmc.dueLookup f.tuning synth.dmc
    ((f.follow m synth).1.turn .dmc).1.triggered = (f.dmc.triggered && !due) ∧
      (f.follow m synth).2.countP (·.looksUp) = due.toNat := by
  have turned := congrArg Deck.triggered ((f.follow m synth).1.of_turn synth.dmc)
  exact ⟨turned.trans (Voice.triggered_followDmc _ _ _ _ _), Voice.countP_followDmc _ _ _ _ _⟩

theorem marked_of_clock (c : Chip) (m : Memory) :
    let due := c.scribe.dmc.dueLookup c.scribe.tuning c.synth.clock.dmc
    (c.operate (.clock m)).1.scribe.dmc.triggered = (c.scribe.dmc.triggered && !due) ∧
      (c.operate (.clock m)).2.lookups = due.toNat := by
  obtain ⟨marked, looked⟩ := marked_of_follow c.scribe m c.synth.clock
  have voice := (c.voice_operate _ .dmc).trans (c.voice_scribed (.clock m) .dmc)
  have metered (f : Scribe) : f.meter.2.countP (·.looksUp) = 0 := by
    unfold Scribe.meter
    dsimp only
    split <;> rfl
  refine ⟨(congrArg Voice.triggered voice).trans marked, ?_⟩
  exact List.countP_append.trans (by rw [metered, looked]; rfl)

theorem marked_of_transcribe (c : Chip) (m : Memory) :
    let due := c.scribe.dmc.dueLookup c.scribe.tuning c.synth.dmc
    (c.operate (.transcribe m)).1.scribe.dmc.triggered = (c.scribe.dmc.triggered && !due) ∧
      (c.operate (.transcribe m)).2.lookups = due.toNat := by
  obtain ⟨marked, looked⟩ := marked_of_follow c.scribe m c.synth
  have voice := (c.voice_operate _ .dmc).trans (c.voice_scribed (.transcribe m) .dmc)
  exact ⟨(congrArg Voice.triggered voice).trans marked, looked⟩

/-- Calls that leave the mark and the clock alone. -/
theorem Waits.of_same {d : Chip} (h : c.Waits s w) (settle : d.scribe.tuning.dmcSettle = s)
    (marked : d.scribe.dmc.triggered = c.scribe.dmc.triggered)
    (age : d.synth.dmc.age = c.synth.dmc.age) : d.Waits s w where
  settle := settle
  marked := marked.trans h.marked
  age shows := by
    rw [age]
    exact h.age shows

theorem Waits.due (h : c.Waits s w) {d : Dmc} :
    c.scribe.dmc.dueLookup c.scribe.tuning d = (w.isSome && decide (s.toNat < d.age.toNat)) := by
  rw [Voice.dueLookup, h.marked, h.settle]
  rfl

theorem Waits.clock (h : c.Waits s w) (most : s.toNat < 0xFFFFFFFF) (m : Memory) :
    (c.operate (.clock m)).1.Waits s (SampleCall.wait s.toNat w .ticks) ∧
      (c.operate (.clock m)).2.lookups = SampleCall.fires s.toNat w .ticks := by
  have settle : (c.operate (.clock m)).1.scribe.tuning.dmcSettle = s :=
    (congrArg Tuning.dmcSettle (c.tuning_of_working rfl)).trans h.settle
  have age : (c.operate (.clock m)).1.synth.dmc.age = Dmc.ageTick c.synth.dmc.age :=
    (congrArg Dmc.age c.synth.dmc_clock).trans (c.synth.dmc.advanced c.synth.region).age
  obtain ⟨marked, looked⟩ := c.marked_of_clock m
  change _ = (c.scribe.dmc.triggered &&
    !c.scribe.dmc.dueLookup _ (c.operate (.clock m)).1.synth.dmc)
    at marked
  change _ = (c.scribe.dmc.dueLookup _ (c.operate (.clock m)).1.synth.dmc).toNat at looked
  rw [h.due] at marked looked
  rw [h.marked] at marked
  cases w with
  | none => exact ⟨⟨settle, marked, fun shows => nomatch shows⟩, looked⟩
  | some n =>
      obtain ⟨shows, young⟩ := h.age rfl
      have next : (c.operate (.clock m)).1.synth.dmc.age.toNat = n + 2 := by
        rw [age]
        exact Dmc.toNat_ageTick shows (by omega)
      rw [next] at marked looked
      simp only [SampleCall.wait, SampleCall.fires]
      by_cases last : n + 1 = s.toNat
      · have late : decide (s.toNat < n + 2) = true := decide_eq_true (by omega)
        rw [late] at marked looked
        rw [if_pos last, if_pos last]
        exact ⟨⟨settle, marked, fun shows => nomatch shows⟩, looked⟩
      · have early : decide (s.toNat < n + 2) = false := decide_eq_false (by omega)
        rw [early] at marked looked
        rw [if_neg last, if_neg last]
        refine ⟨⟨settle, marked, fun shows => ?_⟩, looked⟩
        cases shows
        exact ⟨next, by omega⟩

theorem Waits.transcribe (h : c.Waits s w) (m : Memory) :
    (c.operate (.transcribe m)).1.Waits s w ∧ (c.operate (.transcribe m)).2.lookups = 0 := by
  obtain ⟨marked, looked⟩ := c.marked_of_transcribe m
  have early : c.scribe.dmc.dueLookup c.scribe.tuning c.synth.dmc = false := by
    rw [h.due]
    cases w with
    | none => rfl
    | some n =>
        obtain ⟨shows, young⟩ := h.age rfl
        simp only [Option.isSome_some, Bool.true_and, decide_eq_false_iff_not]
        omega
  rw [early] at marked looked
  rw [Bool.not_false, Bool.and_true] at marked
  exact ⟨h.of_same h.settle marked rfl, looked⟩

theorem Waits.writeStatus (h : c.Waits s w) (least : 1 ≤ s.toNat) (data : UInt8) :
    (c.writeRegister .status data).1.Waits s
      (SampleCall.wait s.toNat w (c.synth.dmc.statusCall data)) := by
  have moved := c.deck_writeRegister .status data
  have settle : (c.writeRegister .status data).1.scribe.tuning.dmcSettle = s := h.settle
  generalize (c.writeRegister .status data).1 = d at moved settle
  have means : c.deck.Means d.deck (c.synth.dmc.statusCall data) := by
    rw [moved]
    exact c.deck.means_writeStatus data
  generalize c.synth.dmc.statusCall data = call at means ⊢
  cases call with
  | begins =>
      obtain ⟨marked, age⟩ := means
      refine ⟨settle, marked, fun shows => ?_⟩
      cases shows
      exact ⟨congrArg UInt32.toNat age, least⟩
  | cuts => exact ⟨settle, means, fun shows => nomatch shows⟩
  | ticks => exact means.elim
  | passes =>
      obtain ⟨marked, age⟩ := means
      exact h.of_same settle marked age

theorem sampleCall_ne_ticks (c : Chip) (address : UInt16) (data : UInt8) :
    c.sampleCall (.write address data) ≠ .ticks := by
  simp only [sampleCall, Dmc.statusCall]
  repeat' split
  all_goals exact SampleCall.noConfusion

theorem Waits.write (h : c.Waits s w) (least : 1 ≤ s.toNat) (address : UInt16) (data : UInt8) :
    (c.operate (.write address data)).1.Waits s
      (SampleCall.wait s.toNat w (c.sampleCall (.write address data))) := by
  simp only [Chip.operate, Chip.write, sampleCall]
  cases named : Register.ofAddress? address with
  | none =>
      rw [if_neg (by decide), SampleCall.wait_passes]
      exact h
  | some register =>
      by_cases status : register = .status
      · rw [status, if_pos (by decide)]
        exact h.writeStatus least data
      · have moved := c.deck_writeRegister register data
        have kept : c.deck.Means (c.writeRegister register data).1.deck .passes := by
          rw [moved]
          cases register with
          | status => exact absurd rfl status
          | _ => exact ⟨rfl, rfl⟩
        have settle : (c.writeRegister register data).1.scribe.tuning.dmcSettle = s :=
          (congrArg Tuning.dmcSettle (c.scribe.tuning_watchWrite _ _ _)).trans h.settle
        rw [if_neg (by simpa using status), SampleCall.wait_passes]
        exact h.of_same settle kept.1 kept.2

theorem lookups_write (c : Chip) (address : UInt16) (data : UInt8) :
    (c.operate (.write address data)).2.lookups = 0 := by
  simp only [operate, write]
  split
  · simp only [writeRegister, writeNotices]
    split <;> rfl
  · rfl

theorem Waits.operate (h : c.Waits s w) (least : 1 ≤ s.toNat) (most : s.toNat < 0xFFFFFFFF)
    (working : o.working = true) :
    (c.operate o).1.Waits s (SampleCall.wait s.toNat w (c.sampleCall o)) ∧
      (c.operate o).2.lookups = SampleCall.fires s.toNat w (c.sampleCall o) := by
  have quiet {d : Chip} {n : Nat} (kept : d.Waits s w) (none : n = 0) :
      d.Waits s (SampleCall.wait s.toNat w .passes) ∧ n = SampleCall.fires s.toNat w .passes := by
    rw [SampleCall.wait_passes, SampleCall.fires_of_ne SampleCall.noConfusion]
    exact ⟨kept, none⟩
  cases o with
  | clock m => exact h.clock most m
  | write address data =>
      rw [SampleCall.fires_of_ne (c.sampleCall_ne_ticks address data)]
      exact ⟨h.write least address data, c.lookups_write address data⟩
  | transcribe m => exact quiet (h.transcribe m).1 (h.transcribe m).2
  | read address openBus =>
      simp only [Chip.operate, read]
      split
      · exact quiet (h.of_same h.settle rfl rfl) rfl
      · exact quiet h rfl
  | supply data => exact quiet (h.of_same h.settle rfl (c.synth.dmc.age_supply data)) rfl
  | _ => cases working

/-! ## Runs -/

theorem ticks_iff (c : Chip) (o : Operation) : c.sampleCall o = .ticks ↔ o.isClock = true := by
  cases o with
  | clock => exact iff_of_true rfl rfl
  | write address data =>
      exact iff_of_false (c.sampleCall_ne_ticks address data) Bool.false_ne_true
  | _ => exact iff_of_false SampleCall.noConfusion Bool.false_ne_true

theorem Spares.cons {ops : List Operation} (h : c.Spares (o :: ops)) :
    (c.sampleCall o = .ticks ∧ o.isClock = true ∨ c.sampleCall o = .passes ∧ o.isClock = false) ∧
      (c.operate o).1.Spares ops := by
  obtain ⟨⟨begins, cuts⟩, later⟩ := List.forall_mem_cons.mp h
  have clock := c.ticks_iff o
  refine ⟨?_, later⟩
  cases call : c.sampleCall o with
  | begins => exact absurd call begins
  | cuts => exact absurd call cuts
  | ticks => exact .inl ⟨rfl, clock.mp call⟩
  | passes =>
      refine .inr ⟨rfl, Bool.eq_false_iff.mpr fun clocks => ?_⟩
      cases call.symm.trans (clock.mpr clocks)

theorem Spares.concat {ops : List Operation} (h : c.Spares ops)
    (begins : (c.after ops).sampleCall o ≠ .begins) (cuts : (c.after ops).sampleCall o ≠ .cuts) :
    c.Spares (ops ++ [o]) := by
  unfold Spares
  rw [sampleCalls_append]
  exact List.forall_mem_append.mpr ⟨h, List.forall_mem_singleton.mpr ⟨begins, cuts⟩⟩

theorem spares_of_quiet {ops : List Operation} (quiet : ∀ o ∈ ops, o.writesStatus = false)
    (c : Chip) : c.Spares ops := by
  induction ops generalizing c with
  | nil => exact List.forall_mem_nil _
  | cons o ops ih =>
      obtain ⟨here, later⟩ := List.forall_mem_cons.mp quiet
      refine List.forall_mem_cons.mpr ⟨?_, ih later (c.operate o).1⟩
      cases o with
      | write address data =>
          have other : c.sampleCall (.write address data) = .passes :=
            if_neg (Bool.eq_false_iff.mp here)
          rw [other]
          exact ⟨SampleCall.noConfusion, SampleCall.noConfusion⟩
      | _ => exact ⟨SampleCall.noConfusion, SampleCall.noConfusion⟩

section Runs

variable {ops : List Operation} (least : 1 ≤ s.toNat) (most : s.toNat < 0xFFFFFFFF)
  (working : ∀ o ∈ ops, o.working = true)
include least most working

/-- Without a mark, no lookup is made until a sample begins. -/
theorem Waits.idle (h : c.Waits s none) (spares : c.Spares ops) : c.lookups ops = 0 := by
  induction ops generalizing c with
  | nil => rfl
  | cons o ops ih =>
      obtain ⟨here, later⟩ := List.forall_mem_cons.mp working
      obtain ⟨call, spares⟩ := spares.cons
      obtain ⟨waits, looked⟩ := h.operate least most here
      rw [lookups_cons, looked]
      rcases call with ⟨call, -⟩ | ⟨call, -⟩ <;>
        rw [call] at waits ⊢ <;>
        exact (Nat.zero_add _).trans (ih later waits spares)

/-- With the mark, there is one when the clock gets to `s`. -/
theorem Waits.spared {n : Nat} (h : c.Waits s (some n)) (spares : c.Spares ops) :
    c.lookups ops = if n + cycles ops < s.toNat then 0 else 1 := by
  induction ops generalizing c n with
  | nil => exact (if_pos (h.age rfl).2).symm
  | cons o ops ih =>
      obtain ⟨here, later⟩ := List.forall_mem_cons.mp working
      obtain ⟨call, spares⟩ := spares.cons
      obtain ⟨waits, looked⟩ := h.operate least most here
      rw [lookups_cons, looked, cycles_cons]
      rcases call with ⟨call, clock⟩ | ⟨call, other⟩
      · rw [call] at waits ⊢
        simp only [SampleCall.wait, SampleCall.fires, clock, if_true] at waits ⊢
        by_cases last : n + 1 = s.toNat
        · rw [if_pos last] at waits
          rw [if_pos last, waits.idle least most later spares, if_neg (by omega)]
        · rw [if_neg last] at waits
          rw [if_neg last, ih later waits spares, Nat.zero_add, Nat.add_assoc, Nat.add_comm 1]
      · rw [call] at waits ⊢
        rw [other]
        exact (Nat.zero_add _).trans (ih later waits spares)

/-- Each lookup is paid for by a sample that began. -/
theorem Waits.lookups_le (h : c.Waits s w) :
    c.lookups ops ≤ (c.sampleCalls ops).count .begins + w.isSome.toNat := by
  induction ops generalizing c w with
  | nil => exact Nat.zero_le _
  | cons o ops ih =>
      obtain ⟨here, later⟩ := List.forall_mem_cons.mp working
      obtain ⟨waits, looked⟩ := h.operate least most here
      have rest := ih later waits
      rw [lookups_cons, looked, sampleCalls, List.count_cons]
      have paid := SampleCall.fires_add_le s.toNat w (c.sampleCall o)
      omega

/-- While the mark stands, a sample began as long ago as the clock shows. -/
theorem Waits.exists_begin (h : c.Waits s none) :
    ∃ w, (c.after ops).Waits s w ∧ ∀ n, w = some n → ∃ early b window,
      ops = early ++ b :: window ∧ (c.after early).sampleCall b = .begins ∧
        (c.after (early ++ [b])).Spares window ∧ cycles window = n := by
  induction ops using List.reverseRecOn with
  | nil => exact ⟨none, h, fun n shows => nomatch shows⟩
  | append_singleton ops o ih =>
      obtain ⟨before, here⟩ := List.forall_mem_append.mp working
      obtain ⟨w, waits, began⟩ := ih before
      obtain ⟨waits', -⟩ := waits.operate least most (here o (List.mem_singleton_self o))
      have clock := (c.after ops).ticks_iff o
      rw [after_concat]
      refine ⟨_, waits', fun n shows => ?_⟩
      rcases SampleCall.of_wait shows with ⟨begins, rfl⟩ | ⟨k, rfl, goes⟩
      · exact ⟨ops, o, [], rfl, begins, List.forall_mem_nil _, rfl⟩
      · obtain ⟨early, b, window, rfl, begins, spares, rfl⟩ := began k rfl
        rw [after_append_cons] at goes clock
        refine ⟨early, b, window ++ [o], by simp, begins, ?_, ?_⟩
        · refine spares.concat ?_ ?_ <;>
            rcases goes with ⟨call, -⟩ | ⟨call, -⟩ <;> rw [call] <;> exact SampleCall.noConfusion
        · rw [cycles_concat]
          rcases goes with ⟨call, rfl⟩ | ⟨call, rfl⟩
          · rw [clock.mp call, if_pos rfl]
          · have other : o.isClock ≠ true := fun clocks => by
              cases call.symm.trans (clock.mpr clocks)
            rw [if_neg other, Nat.add_zero]

end Runs

theorem lookups_singleton (c : Chip) (o : Operation) :
    c.lookups [o] = (c.operate o).2.lookups :=
  c.lookups_cons o []

/-- After a start the sample is looked up in the `s`-th clock. -/
theorem Waits.begun (h : c.Waits s w) (least : 1 ≤ s.toNat) (most : s.toNat < 0xFFFFFFFF)
    (begins : c.sampleCall o = .begins) {window : List Operation}
    (working : ∀ o' ∈ o :: window, o'.working = true) (spares : (c.operate o).1.Spares window) :
    c.lookups [o] = 0 ∧
      (c.operate o).1.lookups window = if cycles window < s.toNat then 0 else 1 := by
  obtain ⟨here, later⟩ := List.forall_mem_cons.mp working
  obtain ⟨waits, looked⟩ := h.operate least most here
  rw [begins] at waits looked
  rw [SampleCall.fires_of_ne SampleCall.noConfusion] at looked
  have started : (c.operate o).1.Waits s (some 0) := by
    cases w <;> exact waits
  have window := started.spared least most later spares
  rw [Nat.zero_add] at window
  exact ⟨(c.lookups_singleton o).trans looked, window⟩

/-- The lookup is the difference between the windows with and without the `s`-th clock. -/
theorem Waits.looks_up_last (h : c.Waits s w) (least : 1 ≤ s.toNat) (most : s.toNat < 0xFFFFFFFF)
    {b : Operation} (begins : c.sampleCall b = .begins) {window : List Operation}
    (working : ∀ o' ∈ b :: (window ++ [o]), o'.working = true)
    (spares : (c.operate b).1.Spares window) (clock : o.isClock = true)
    (last : cycles window + 1 = s.toNat) : (c.after (b :: window)).lookups [o] = 1 := by
  have ticks := ((c.after (b :: window)).ticks_iff o).mpr clock
  have spares' : (c.operate b).1.Spares (window ++ [o]) := by
    refine spares.concat ?_ ?_ <;>
      rw [after_cons] at ticks <;>
      rw [ticks] <;>
      exact SampleCall.noConfusion
  have sooner : ∀ o' ∈ b :: window, o'.working = true := fun o' member =>
    working o' (List.mem_append_left [o] member)
  have before := (h.begun least most begins sooner spares).2
  have after := (h.begun least most begins working spares').2
  rw [lookups_append, before, cycles_concat, if_pos clock, if_pos (by omega),
    if_neg (by omega), Nat.zero_add] at after
  exact after

/-- How a run looks up its samples, when they settle in `s` clocks. -/
structure LooksUpOnce (s : Nat) (c : Chip) (ops : List Operation) : Prop where
  /-- From a start until the next status write there is one lookup, in the `s`-th clock. -/
  once {front window back : List Operation} {o : Operation} : ops = front ++ o :: window ++ back →
    (c.after front).sampleCall o = .begins → (∀ o' ∈ window, o'.writesStatus = false) →
      (c.after front).lookups (o :: window) = if cycles window < s then 0 else 1
  /-- A lookup is made in the `s`-th clock after a start, if nothing began or was cut since. -/
  due {front back : List Operation} {o : Operation} : ops = front ++ o :: back →
    ((c.after front).lookups [o] = 1 ↔ o.isClock = true ∧ ∃ early b window,
      front = early ++ b :: window ∧ (c.after early).sampleCall b = .begins ∧
        (c.after (early ++ [b])).Spares window ∧ cycles window + 1 = s)
  /-- A call makes no more than one. -/
  single {front back : List Operation} {o : Operation} : ops = front ++ o :: back →
    (c.after front).lookups [o] ≤ 1
  /-- There are at most as many as starts. -/
  count : c.lookups ops ≤ (c.sampleCalls ops).count .begins

/-- From power on, each start of a sample of more than one byte leads to one lookup at most. -/
theorem looks_up_once (c : Chip) {s : UInt32} (settle : c.scribe.tuning.dmcSettle = s)
    (least : 1 ≤ s.toNat) (most : s.toNat < 0xFFFFFFFF) {ops : List Operation}
    (working : ∀ o ∈ ops, o.working = true) : LooksUpOnce s.toNat c.power.1 ops := by
  have start : c.power.1.Waits s none := ⟨settle, rfl, fun shows => nomatch shows⟩
  generalize c.power.1 = c at start ⊢
  refine ⟨?once, ?due, ?single, ?count⟩
  case once =>
    intro front window back o split begins quiet
    have early : ∀ o' ∈ front, o'.working = true := fun o' member =>
      working o' (by simp [split, member])
    have late : ∀ o' ∈ o :: window, o'.working = true := fun o' member =>
      working o' (by
        rw [split]
        exact List.mem_append_left _ (List.mem_append_right _ member))
    obtain ⟨w, waits, -⟩ := start.exists_begin least most early
    obtain ⟨none, looked⟩ := waits.begun least most begins late (spares_of_quiet quiet _)
    rw [lookups_singleton] at none
    rw [lookups_cons, none, looked, Nat.zero_add]
  case due =>
    intro front back o split
    have early : ∀ o' ∈ front, o'.working = true := fun o' member =>
      working o' (by simp [split, member])
    have here : o.working = true := working o (by simp [split])
    obtain ⟨w, waits, began⟩ := start.exists_begin least most early
    constructor
    · intro looked
      obtain ⟨-, fires⟩ := waits.operate least most here
      rw [lookups_singleton, fires] at looked
      obtain ⟨call, n, rfl, last⟩ := SampleCall.of_fires looked
      obtain ⟨early, b, window, front, begins, spares, rfl⟩ := began n rfl
      exact ⟨((c.after _).ticks_iff o).mp call, early, b, window, front, begins, spares, last⟩
    · rintro ⟨clock, front, b, window, rfl, begins, spares, last⟩
      obtain ⟨first, later⟩ := List.forall_mem_append.mp early
      obtain ⟨w, waits, -⟩ := start.exists_begin least most first
      have all : ∀ o' ∈ b :: (window ++ [o]), o'.working = true := fun o' member => by
        rcases List.mem_append.mp (show o' ∈ (b :: window) ++ [o] from member) with before | last
        · exact later o' before
        · rw [List.mem_singleton.mp last]
          exact here
      rw [after_concat] at spares
      rw [after_append]
      exact waits.looks_up_last least most begins all spares clock last
  case single =>
    intro front back o split
    have early : ∀ o' ∈ front, o'.working = true := fun o' member =>
      working o' (by simp [split, member])
    obtain ⟨w, waits, -⟩ := start.exists_begin least most early
    obtain ⟨-, fires⟩ := waits.operate least most (working o (by simp [split]))
    rw [lookups_singleton, fires]
    exact SampleCall.fires_le _ _ _
  case count => exact start.lookups_le least most working

/-- A sample that is cut short and started over is looked up two clocks after the second start. -/
theorem looks_up_once_restarted :
    let c : Chip := ofSettings { tuning := { dmcSettle := 2 } }
    let cut : List Operation :=
      [.write 0x4013 1, .write 0x4015 0x10, .clock .zero, .write 0x4015 0, .clock .zero]
    let window : List Operation :=
      [.read 0x4015 0, .clock .zero, .transcribe .zero, .supply 0x55, .clock .zero, .clock .zero]
    let ops := cut ++ .write 0x4015 0x10 :: window
    c.scribe.tuning.dmcSettle = 2 ∧ 1 ≤ (2 : UInt32).toNat ∧ (2 : UInt32).toNat < 0xFFFFFFFF ∧
      (∀ o ∈ ops, o.working = true) ∧ LooksUpOnce 2 c.power.1 ops ∧
        c.power.1.sampleCalls cut = [.passes, .begins, .ticks, .cuts, .ticks] ∧
        (c.power.1.after cut).lookups (.write 0x4015 0x10 :: window) = 1 := by
  intro c cut window ops
  have working : ∀ o ∈ ops, o.working = true := by
    simp [ops, cut, window, Operation.working]
  have once := c.looks_up_once (s := 2) rfl (by decide) (by decide) working
  refine ⟨rfl, by decide, by decide, working, once, by decide +kernel, ?_⟩
  have split : ops = cut ++ .write 0x4015 0x10 :: window ++ [] := by simp [ops]
  exact once.once split (by decide +kernel) (by decide)

end Chip

end ChipScribe
