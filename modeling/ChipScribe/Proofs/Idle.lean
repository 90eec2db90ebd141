import ChipScribe.Proofs.Hosts

/-!
# An idle channel and the memory

Bytes that are left to fetch are the only reason to ask for one, except that a
stop forgets the start delay: a channel that is stopped while the delay runs asks
for the first byte all the same.  Where no stop falls into a delay, every byte is
the next one of a sample that was started and has not been stopped.
-/

namespace ChipScribe

/-- The status register switches the delta channel on or off. -/
def Turn.switch? : Turn → Option Bool
  | .write address data =>
      if Register.ofAddress? address = some .status then some (data &&& 0x10 != 0) else none
  | .clock | .read _ => none

namespace Dmc

variable {d e : Dmc}

/-- A channel that has yet to ask for its first byte has one to ask for. -/
def Primed (d : Dmc) : Prop :=
  d.startDelay ≠ 0 → d.remaining ≠ 0

theorem toFetch_eq_nil (d : Dmc) : d.toFetch = [] ↔ d.remaining = 0 := by
  rw [← List.length_eq_zero_iff, toFetch, length_onward, ← UInt16.toNat_inj]
  rfl

/-- A byte is the next of its sample, and after the last a looping sample is listed anew. -/
theorem toFetch_supply_loop (more : d.remaining ≠ 0) (data : UInt8) :
    ∃ rest, d.toFetch = d.address :: rest ∧
      (d.supply data).toFetch =
        if rest = [] ∧ d.loop = true then d.sampleAddresses else rest := by
  refine ⟨onward ((d.cursor + 1) &&& 0x7FFF) (d.remaining - 1).toNat, ?_, ?_⟩
  · unfold toFetch
    rw [← toNat_remaining_sub more]
    rfl
  · unfold supply finishByte
    dsimp only
    rw [if_neg (mt beq_iff_eq.mp more)]
    by_cases spent : d.remaining - 1 = 0
    · rw [spent, if_neg (by decide)]
      cases loops : d.loop with
      | true =>
          rw [if_pos rfl, if_pos ⟨rfl, rfl⟩, ← onward_sampleStart]
          rfl
      | false => cases d.irqEnable <;> rfl
    · have left : onward ((d.cursor + 1) &&& 0x7FFF) (d.remaining - 1).toNat ≠ [] := by
        rw [Ne, ← List.length_eq_zero_iff, length_onward]
        exact fun none => spent (UInt16.toNat_inj.mp none)
      rw [if_pos (bne_iff_ne.mpr spent), if_neg fun ends => left ends.1]
      rfl

/-- What a request is for. -/
theorem Primed.needed (primed : d.Primed) (asks : d.requests ≠ 0) : d.remaining ≠ 0 := by
  rcases owed_of_requests (Nat.pos_of_ne_zero asks) with more | owed
  · exact more
  · refine primed fun none => ?_
    rw [Dmc.owed, if_pos none] at owed
    exact absurd owed (Nat.lt_irrefl 0)

theorem primed_start_clearIrq (primed : d.Primed) : d.start.clearIrq.Primed ∧
    d.start.clearIrq.toFetch = if d.toFetch = [] then d.sampleAddresses else d.toFetch := by
  have after : d.start.clearIrq.toFetch = d.start.toFetch := rfl
  rw [after]
  by_cases idle : d.remaining = 0
  · rw [if_pos (d.toFetch_eq_nil.mpr idle), d.toFetch_start idle]
    exact ⟨fun _ => d.remaining_start, rfl⟩
  · have same : d.start = d := if_pos (bne_iff_ne.mpr idle)
    rw [if_neg (mt d.toFetch_eq_nil.mp idle), same]
    exact ⟨primed, rfl⟩

/-- What a register access does to the bytes that are to come. -/
structure Untouched (d e : Dmc) : Prop where
  startDelay : e.startDelay = d.startDelay
  remaining : e.remaining = d.remaining
  cursor : e.cursor = d.cursor

theorem Untouched.toFetch (u : d.Untouched e) : e.toFetch = d.toFetch := by
  rw [Dmc.toFetch, u.cursor, u.remaining, ← Dmc.toFetch]

end Dmc

theorem Synth.dmc_access (s : Synth) (m : Memory) (openBus : UInt8) {t : Turn}
    (access : t ≠ .clock) :
    let e := (s.operate (t.operation m openBus)).dmc
    match t.switch? with
    | some true => e = s.dmc.start.clearIrq
    | some false => e = s.dmc.stop.clearIrq
    | none => s.dmc.Untouched e := by
  cases t with
  | clock => exact absurd rfl access
  | read address =>
      simp only [Turn.operation, Turn.switch?, operate]
      split <;> exact ⟨rfl, rfl, rfl⟩
  | write address data =>
      simp only [Turn.operation, Turn.switch?, operate]
      cases Register.ofAddress? address with
      | none => exact ⟨rfl, rfl, rfl⟩
      | some register =>
          cases register with
          | status =>
              rw [if_pos rfl]
              cases starts : data &&& 0x10 != 0 <;> simp [write, writeStatus, settleIrq, starts]
          | pulseControl side | pulseSweep side | pulseTimerLow side | pulseTimerHigh side =>
              cases side <;> exact ⟨rfl, rfl, rfl⟩
          | _ => exact ⟨rfl, rfl, rfl⟩

namespace Seen

/-- No stop falls into a start delay. -/
def Calm (s : Seen) : Prop :=
  s.turn.switch? = some false → s.before.synth.dmc.startDelay = 0

instance (s : Seen) : Decidable s.Calm :=
  inferInstanceAs (Decidable (_ → _))

/-- The addresses that a turn leaves to fetch, by the samples that are started and stopped. -/
def due (left : List UInt16) (s : Seen) : List UInt16 :=
  let sample := s.before.synth.dmc.sampleAddresses
  match s.turn.switch? with
  | some true => if left = [] then sample else left
  | some false => []
  | none =>
      let later := left.drop s.answers.length
      if later = [] ∧ s.answers ≠ [] ∧ s.before.synth.dmc.loop = true then sample else later

/-- Every byte is fetched from the next address that is due. -/
def Listed : List UInt16 → List Seen → Prop
  | _, [] => True
  | left, s :: rest =>
      s.answers.map Prod.fst = left.take s.answers.length ∧ Listed (s.due left) rest

variable {m : Memory} {s : Seen} {r : Region} {h : Handshake}

theorem primed_access (p : s.Prompt m) (access : s.turn ≠ .clock) (calm : s.Calm)
    (primed : s.before.synth.dmc.Primed) :
    s.answers = [] ∧ s.after.synth.dmc.Primed ∧
      s.after.synth.dmc.toFetch = s.due s.before.synth.dmc.toFetch := by
  have none : s.turn.requests s.before = 0 := by
    cases same : s.turn with
    | clock => exact absurd same access
    | _ => rfl
  obtain ⟨answers, after⟩ := p.quiet none
  have told := s.before.synth.dmc_access m CartridgeHost.openBus access
  rw [← p.synth, ← after] at told
  refine ⟨answers, ?_⟩
  unfold due
  unfold Calm at calm
  rw [answers]
  cases switch : s.turn.switch? with
  | none =>
      rw [switch] at told
      rw [told.toFetch]
      refine ⟨?_, by simp⟩
      unfold Dmc.Primed
      rw [told.startDelay, told.remaining]
      exact primed
  | some on =>
      rw [switch] at told
      cases on with
      | true =>
          rw [told]
          exact Dmc.primed_start_clearIrq primed
      | false =>
          rw [told]
          exact ⟨fun waits => absurd (calm switch) waits, rfl⟩

theorem primed_clock (a : h.Abreast r s.before) (p : s.Prompt m) (clocks : s.turn = .clock)
    (primed : s.before.synth.dmc.Primed) :
    s.answers.map Prod.fst = s.before.synth.dmc.toFetch.take s.answers.length ∧
      s.after.synth.dmc.Primed ∧
      s.after.synth.dmc.toFetch = s.due s.before.synth.dmc.toFetch := by
  have moved := s.before.synth.dmc.moved s.before.synth.region
  have called : s.called.synth.dmc = s.before.synth.dmc.advance s.before.synth.region := by
    rw [p.synth, clocks]
    exact s.before.synth.dmc_clock
  have fetch : s.called.synth.dmc.toFetch = s.before.synth.dmc.toFetch := by
    rw [called, Dmc.toFetch_advance]
  have asked : s.turn.requests s.before = s.before.synth.dmc.requests := by
    rw [clocks]
    rfl
  have unswitched : s.turn.switch? = none := by
    rw [clocks]
    rfl
  unfold due
  rw [unswitched]
  rcases Nat.eq_zero_or_pos s.before.synth.dmc.requests with none | asks
  · obtain ⟨answers, after⟩ := p.quiet (asked.trans none)
    rw [answers, after, fetch]
    refine ⟨rfl, fun waits => ?_, by simp⟩
    rw [called] at waits ⊢
    rw [moved.remaining]
    refine primed fun none => waits ?_
    rw [moved.startDelay, none]
    rfl
  · obtain ⟨answers, after⟩ := p.asking (asked.symm ▸ asks)
    have more : s.called.synth.dmc.remaining ≠ 0 := by
      rw [called, moved.remaining]
      exact primed.needed (Nat.ne_of_gt asks)
    obtain ⟨rest, first, later⟩ := Dmc.toFetch_supply_loop more (m.read s.called.dmaAddress)
    rw [fetch] at first
    have dmc : s.after.synth.dmc = s.called.synth.dmc.supply (m.read s.called.dmaAddress) := by
      rw [after]
      rfl
    rw [answers, first, dmc, later]
    refine ⟨rfl, fun waits => absurd ?_ waits, ?_⟩
    -- a delay that went on would owe another byte besides the one just asked for
    · have single := a.tidy.single
      have owed := s.before.synth.dmc.owed_advance s.before.synth.region
      rw [a.dmc] at single
      rw [(Dmc.supplied _ _).startDelay, called]
      by_contra waits
      rw [Dmc.owed.eq_def (Dmc.advance _ _), if_neg waits] at owed
      omega
    · have sample : s.called.synth.dmc.sampleAddresses = s.before.synth.dmc.sampleAddresses := by
        rw [called, Dmc.sampleAddresses, moved.latches.1, moved.latches.2.1]
        rfl
      have loop : s.called.synth.dmc.loop = s.before.synth.dmc.loop := by
        rw [called, moved.loop]
      rw [sample, loop]
      simp

/-- One turn: a request is made while bytes are left, for the next address that is due. -/
theorem listed_turn (a : h.Abreast r s.before) (p : s.Prompt m) (calm : s.Calm)
    (primed : s.before.synth.dmc.Primed) :
    (s.out.requests ≠ 0 → s.before.synth.dmc.remaining ≠ 0) ∧
      s.answers.map Prod.fst = s.before.synth.dmc.toFetch.take s.answers.length ∧
      s.after.synth.dmc.Primed ∧
      s.after.synth.dmc.toFetch = s.due s.before.synth.dmc.toFetch := by
  by_cases clocks : s.turn = .clock
  · refine ⟨fun asks => primed.needed ?_, primed_clock a p clocks primed⟩
    rw [p.requests, clocks] at asks
    exact asks
  · obtain ⟨answers, after⟩ := primed_access p clocks calm primed
    refine ⟨fun asks => absurd ?_ asks, by rw [answers]; rfl, after⟩
    rw [p.requests]
    cases same : s.turn with
    | clock => exact absurd same clocks
    | _ => rfl

end Seen

open CartridgeHost in
theorem listed_watch {r : Region} {h : Handshake} {c : Chip} {k : CartridgeHost}
    (a : h.Abreast r c) (idle : k.pending = false) (primed : c.synth.dmc.Primed)
    (turns : List Turn) (calm : ∀ s ∈ watch turn k c turns, s.Calm) :
    (∀ s ∈ watch turn k c turns, s.out.requests ≠ 0 → s.before.synth.dmc.remaining ≠ 0) ∧
      Seen.Listed c.synth.dmc.toFetch (watch turn k c turns) := by
  induction turns generalizing k c h with
  | nil => exact ⟨by simp [watch], trivial⟩
  | cons t rest ih =>
      have prompt := k.prompt_turn c t idle
      have keeps := Handshake.Abreast.turn (s := (k.turn c t).2) a prompt
      obtain ⟨needed, next, primed, due⟩ :=
        Seen.listed_turn (s := (k.turn c t).2) a prompt (calm _ List.mem_cons_self) primed
      obtain ⟨later, listed⟩ := ih keeps.abreast (k.pending_turn c t idle) primed
        fun s member => calm s (List.mem_cons_of_mem _ member)
      rw [due] at listed
      exact ⟨List.forall_mem_cons.mpr ⟨needed, later⟩, next, listed⟩

/-! ## After a stop -/

namespace Seen.Listed

variable {left : List UInt16} {s : Seen} {before after seen : List Seen}

theorem of_append (listed : Listed left (before ++ after)) : ∃ left', Listed left' after := by
  induction before generalizing left with
  | nil => exact ⟨left, listed⟩
  | cons s rest ih => exact ih listed.2

/-- With nothing to fetch nothing is fetched, until a sample is started. -/
theorem quiet (listed : Listed [] seen) :
    ∀ s ∈ seen.takeWhile (fun s => s.turn.switch? ≠ some true), s.answers = [] := by
  induction seen with
  | nil => simp
  | cons s rest ih =>
      obtain ⟨answered, later⟩ := listed
      have answers : s.answers = [] := by simpa using answered
      rw [List.takeWhile_cons]
      split
      next off =>
        have due : s.due [] = [] := by
          unfold due
          cases switch : s.turn.switch? with
          | none => simp [answers]
          | some on =>
              cases on with
              | true => simp [switch] at off
              | false => rfl
        rw [due] at later
        exact List.forall_mem_cons.mpr ⟨answers, ih later⟩
      next => simp

theorem after_stop (listed : Listed left (before ++ s :: after))
    (stops : s.turn.switch? = some false) : Listed [] after := by
  obtain ⟨left', -, later⟩ := listed.of_append
  rw [due, stops] at later
  exact later

end Seen.Listed

/-! ## Bytes of started samples -/

/-- A channel asks for bytes of a sample that was started and not stopped, and for no others. -/
structure AsksForSamples (m : Memory) (seen : List Seen) (c : Chip) : Prop where
  needed : ∀ s ∈ seen, s.out.requests ≠ 0 → s.before.synth.dmc.remaining ≠ 0
  quiet : ∀ before s after, seen = before ++ s :: after → s.turn.switch? = some false →
    ∀ t ∈ after.takeWhile (fun t => t.turn.switch? ≠ some true), t.out.requests = 0
  listed : Seen.Listed [] seen
  inTurn : OneByOne m seen c

theorem asksForSamples (m : Memory) (c : Chip) (turns : List Turn)
    (calm : ∀ s ∈ CartridgeHost.tape m c turns, s.Calm) :
    AsksForSamples m (CartridgeHost.tape m c turns) (CartridgeHost.final m c turns) := by
  have start : c.power.1.synth.dmc.Primed := fun waits => absurd rfl waits
  obtain ⟨needed, listed⟩ := listed_watch (k := .powering m c) (.power c) rfl start turns calm
  have inTurn := CartridgeHost.oneByOne_tape m c turns
  refine ⟨needed, fun before s after split stops t member => ?_, listed, inTurn⟩
  have whole : watch CartridgeHost.turn (.powering m c) c.power.1 turns = before ++ s :: after :=
    split
  rw [whole] at listed
  have still := listed.after_stop stops |>.quiet t member
  have seen : t ∈ CartridgeHost.tape m c turns := by
    rw [split]
    exact List.mem_append_right _ (List.mem_cons_of_mem _ (List.takeWhile_subset _ member))
  have answers := (inTurn.alone t seen).answers
  rw [still] at answers
  by_contra asks
  rw [if_pos (Nat.pos_of_ne_zero asks)] at answers
  cases answers

theorem asksForSamples_stopped :
    let turns : List Turn :=
      [.write 0x4015 0x10, .clock, .clock, .clock, .write 0x4015 0x00, .clock]
    let seen := CartridgeHost.tape .zero (.ofSettings {}) turns
    (∀ s ∈ seen, s.Calm) ∧
      AsksForSamples .zero seen (CartridgeHost.final .zero (.ofSettings {}) turns) := by
  intro turns seen
  have calm : ∀ s ∈ seen, s.Calm := by decide
  exact ⟨calm, asksForSamples .zero (.ofSettings {}) turns calm⟩

/-! ## A stop within the start delay -/

/-- Without bytes to fetch the end of the start delay is all that asks. -/
theorem Dmc.requests_of_spent {d : Dmc} (spent : d.remaining = 0) :
    d.requests = if d.startDelay = 1 then 1 else 0 := by
  rw [d.requests_eq]
  rcases d.leaving_cases with none | ⟨-, -, -, more⟩
  · rw [none, Nat.zero_add]
  · exact absurd spent more

theorem Handshake.delay_asks {r : Region} {h : Handshake} {n : Nat}
    (spent : h.dmc.remaining = 0) (waits : h.dmc.startDelay.toNat = n + 1) :
    let k := h.run r (List.replicate n .clock)
    k.dmc.remaining = 0 ∧ k.dmc.requests = 1 := by
  induction n generalizing h with
  | zero =>
      have last : h.dmc.startDelay = 1 := UInt8.toNat_inj.mp waits
      exact ⟨spent, by rw [run, List.replicate_zero, List.foldl_nil,
        Dmc.requests_of_spent spent, if_pos last]⟩
  | succ n ih =>
      have moved := h.dmc.moved r
      refine ih (h := h.step r .clock) (moved.remaining.trans spent) ?_
      change (h.dmc.advance r).startDelay.toNat = n + 1
      rw [moved.startDelay, Dmc.toNat_runDelay, waits]
      rfl

/-- A stop during the start delay does not call the first byte off. -/
theorem Handshake.stop_asks {r : Region} {h : Handshake} {n : Nat}
    (waits : h.dmc.startDelay.toNat = n + 1) :
    let k := h.run r (.stop :: List.replicate n .clock)
    k.dmc.remaining = 0 ∧ k.dmc.requests = 1 :=
  delay_asks (h := h.step r .stop) rfl waits

theorem tape_stop_in_delay :
    let seen := CartridgeHost.tape .zero (.ofSettings {})
      [.write 0x4015 0x10, .write 0x4015 0x00, .clock, .clock, .clock]
    (seen.map fun s => (s.turn.switch?, s.before.synth.dmc.remaining, s.out.requests)) =
        [(some true, 0, 0), (some false, 1, 0), (none, 0, 0), (none, 0, 0), (none, 0, 1)] ∧
      ¬ ∀ s ∈ seen, s.out.requests ≠ 0 → s.before.synth.dmc.remaining ≠ 0 := by
  decide

end ChipScribe
