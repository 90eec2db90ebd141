import ChipScribe.Host.Cartridge
import ChipScribe.Proofs.Bench
import ChipScribe.Proofs.Fetching

/-!
# Hosts that answer at once

One host counts the requests of a clock and serves each of them, the other
remembers only whether there was one and serves that.  They cannot be told apart:
a clock makes one request at most, and the buffer is empty when its answer comes.
-/

namespace ChipScribe

inductive Turn where
  | clock
  | write (address : UInt16) (data : UInt8)
  | read (address : UInt16)
  deriving DecidableEq, Repr

def Turn.operation (m : Memory) (openBus : UInt8) : Turn → Operation
  | .clock => .clock m
  | .write address data => .write address data
  | .read address => .read address openBus

/-- Only a clock makes requests. -/
def Turn.requests (c : Chip) : Turn → Nat
  | .clock => c.synth.requests
  | .write .. | .read _ => 0

theorem Turn.requests_le (c : Chip) (t : Turn) : t.requests c ≤ c.synth.requests := by
  cases t with
  | clock => exact Nat.le_refl _
  | _ => exact Nat.zero_le _

theorem Chip.requests_operate (c : Chip) (m : Memory) (openBus : UInt8) (t : Turn) :
    (c.operate (t.operation m openBus)).2.requests = t.requests c := by
  cases t <;> rfl

/-- A turn: a call of the chip, and the answers to the requests that the call made. -/
structure Seen where
  turn : Turn
  before : Chip
  called : Chip
  after : Chip
  out : Outcome
  answers : List (UInt16 × UInt8)
  line : Bool

namespace Seen

/-- The byte that the turn moves from the buffer to the shifter. -/
def moved (s : Seen) : List UInt8 :=
  match s.turn with
  | .clock => s.before.synth.dmc.taken
  | _ => []

def delivered (seen : List Seen) : List UInt8 :=
  seen.flatMap fun s => s.answers.map Prod.snd

def shifted (seen : List Seen) : List UInt8 :=
  seen.flatMap moved

end Seen

/-- Let a host make its turns one after the other. -/
def watch {σ : Type} (turn : σ → Chip → Turn → σ × Seen) : σ → Chip → List Turn → List Seen
  | _, _, [] => []
  | h, c, t :: rest =>
      let done := turn h c t
      done.2 :: watch turn done.1 done.2.after rest

/-- The host and the chip after those turns. -/
def work {σ : Type} (turn : σ → Chip → Turn → σ × Seen) : σ → Chip → List Turn → σ × Chip
  | h, c, [] => (h, c)
  | h, c, t :: rest =>
      let done := turn h c t
      work turn done.1 done.2.after rest

theorem watch_append {σ : Type} (turn : σ → Chip → Turn → σ × Seen) (h : σ) (c : Chip)
    (turns later : List Turn) : watch turn h c (turns ++ later) =
      watch turn h c turns ++
        watch turn (work turn h c turns).1 (work turn h c turns).2 later := by
  induction turns generalizing h c with
  | nil => rfl
  | cons t rest ih => exact congrArg _ (ih _ _)

namespace CountingHost

def call (h : CountingHost) (c : Chip) (t : Turn) : CountingHost × Chip × Outcome :=
  let done := c.operate (t.operation h.memory h.openBus)
  ((h.obey done.2.irq).request done.2.requests, done.1, done.2)

theorem call_clock (h : CountingHost) (c : Chip) :
    ((h.call c .clock).1, (h.call c .clock).2.1) = ((h.clock c).1, (h.clock c).2.1) := rfl

/-- The addresses and the bytes of so many answers. -/
def answers : Nat → CountingHost → Chip → List (UInt16 × UInt8)
  | 0, _, _ => []
  | n + 1, h, c =>
      (c.dmaAddress, h.memory.read c.dmaAddress) ::
        answers n (h.serveOne c).1 (h.serveOne c).2

def turn (h : CountingHost) (c : Chip) (t : Turn) : CountingHost × Seen :=
  let (host, chip, out) := h.call c t
  let (served, after) := host.serve chip
  (served, ⟨t, c, chip, after, out, answers host.requests host chip, served.irq⟩)

end CountingHost

namespace CartridgeHost

def call (h : CartridgeHost) (c : Chip) (t : Turn) : CartridgeHost × Chip × Outcome :=
  let done := c.operate (t.operation h.memory openBus)
  let h := h.obey done.2.irq
  (if done.2.requests > 0 then h.request else h, done.1, done.2)

theorem clock_eq (h : CartridgeHost) (c : Chip) :
    ((h.clock c).1, (h.clock c).2.1) = (h.call c .clock).1.serve (h.call c .clock).2.1 := rfl

def answers (h : CartridgeHost) (c : Chip) : List (UInt16 × UInt8) :=
  if h.pending then [(c.dmaAddress, h.memory.read c.dmaAddress)] else []

def turn (h : CartridgeHost) (c : Chip) (t : Turn) : CartridgeHost × Seen :=
  let (host, chip, out) := h.call c t
  let (served, after) := host.serve chip
  (served, ⟨t, c, chip, after, out, host.answers chip, served.irq⟩)

@[simp] theorem memory_obey (h : CartridgeHost) (level : Option Bool) :
    (h.obey level).memory = h.memory := by
  cases level <;> rfl

@[simp] theorem pending_obey (h : CartridgeHost) (level : Option Bool) :
    (h.obey level).pending = h.pending := by
  cases level <;> rfl

end CartridgeHost

theorem CartridgeHost.memory_turn (k : CartridgeHost) (c : Chip) (t : Turn) :
    (k.turn c t).1.memory = k.memory := by
  unfold turn call serve
  dsimp only
  repeat' split
  all_goals simp [request]

theorem CartridgeHost.pending_turn (k : CartridgeHost) (c : Chip) (t : Turn)
    (idle : k.pending = false) : (k.turn c t).1.pending = false := by
  unfold turn call serve
  dsimp only
  repeat' split
  all_goals simp_all [request]

/-! ## One turn of both hosts -/

/-- Hosts with the same memory and line, neither of which has anything left to answer. -/
structure Matching (h : CountingHost) (k : CartridgeHost) : Prop where
  memory : h.memory = k.memory
  requests : h.requests = 0
  pending : k.pending = false
  line : h.irq = k.irq
  openBus : h.openBus = CartridgeHost.openBus

namespace Matching

variable {h : CountingHost} {k : CartridgeHost} {c : Chip}

theorem obey (g : Matching h k) (level : Option Bool) :
    Matching (h.obey level) (k.obey level) := by
  cases level with
  | none => exact g
  | some level => exact { g with line := rfl }

/-- One byte answers both a count of one and a flag. -/
theorem serve (g : Matching h k) (c : Chip) {n : Nat} (few : n ≤ 1) :
    let counted := h.request n
    let flagged := if n > 0 then k.request else k
    counted.answers counted.requests c = flagged.answers c ∧
      (counted.serve c).2 = (flagged.serve c).2 ∧
      Matching (counted.serve c).1 (flagged.serve c).1 := by
  obtain ⟨memory, requests, line, history, bus⟩ := h
  obtain ⟨memory', pending, line', edges⟩ := k
  obtain ⟨rfl, rfl, rfl, rfl, rfl⟩ := g
  rcases Nat.le_one_iff_eq_zero_or_eq_one.mp few with rfl | rfl
  · exact ⟨rfl, rfl, rfl, rfl, rfl, rfl, rfl⟩
  · refine ⟨rfl, rfl, ?_⟩
    have idle : Matching ⟨memory, 0, line, history, CartridgeHost.openBus⟩
        ⟨memory, false, line, edges⟩ := ⟨rfl, rfl, rfl, rfl, rfl⟩
    exact idle.obey _

theorem turn (g : Matching h k) (t : Turn) (few : c.synth.requests ≤ 1) :
    (h.turn c t).2 = (k.turn c t).2 ∧ Matching (h.turn c t).1 (k.turn c t).1 := by
  have bus : t.operation h.memory h.openBus = t.operation k.memory CartridgeHost.openBus := by
    rw [g.memory, g.openBus]
  have few := (c.requests_operate k.memory CartridgeHost.openBus t).le.trans
    ((t.requests_le c).trans few)
  unfold CountingHost.turn CartridgeHost.turn CountingHost.call CartridgeHost.call
  rw [bus]
  generalize c.operate (t.operation k.memory CartridgeHost.openBus) = done at few ⊢
  obtain ⟨answers, after, matching⟩ := (g.obey done.2.irq).serve done.1 few
  refine ⟨?_, matching⟩
  dsimp only
  rw [answers, after, matching.line]

end Matching

/-! ## One turn of the channel -/

/-- What a write of this register is to the delta channel. -/
def Register.events (data : UInt8) : Register → List Dmc.Event
  | .dmcControl => [.control data]
  | .dmcLevel => [.level data]
  | .dmcAddress => [.address data]
  | .dmcLength => [.length data]
  | .status => [if data &&& 0x10 != 0 then .start else .stop]
  | _ => []

namespace Seen

def events (s : Seen) : List Dmc.Event :=
  match s.turn with
  | .clock => .clock :: s.answers.map fun a => .supply a.2
  | .write address data => (Register.ofAddress? address).elim [] (Register.events data)
  | .read _ => []

/-- The call was made, and one byte was handed over if any was asked for. -/
structure Prompt (m : Memory) (s : Seen) : Prop where
  called : s.called = (s.before.operate (s.turn.operation m CartridgeHost.openBus)).1
  out : s.out = (s.before.operate (s.turn.operation m CartridgeHost.openBus)).2
  answers : s.answers = if 0 < s.out.requests
    then [(s.called.dmaAddress, m.read s.called.dmaAddress)] else []
  after : s.after = s.answers.foldl (fun c a => (c.supply a.2).1) s.called

/-- One byte was asked for at most, and it was given where it was asked for. -/
structure Alone (m : Memory) (s : Seen) : Prop extends s.Prompt m where
  single : s.out.requests ≤ 1
  vacant : s.answers ≠ [] → s.called.synth.dmc.buffered = false

namespace Prompt

variable {m : Memory} {s : Seen}

theorem synth (p : s.Prompt m) : s.called.synth =
    s.before.synth.operate (s.turn.operation m CartridgeHost.openBus) := by
  rw [p.called]
  exact s.before.synth_operate _

theorem requests (p : s.Prompt m) : s.out.requests = s.turn.requests s.before := by
  rw [p.out]
  exact s.before.requests_operate m _ _

theorem quiet (p : s.Prompt m) (none : s.turn.requests s.before = 0) :
    s.answers = [] ∧ s.after = s.called := by
  have answers : s.answers = [] := by rw [p.answers, p.requests, none]; rfl
  exact ⟨answers, by rw [p.after, answers]; rfl⟩

theorem asking (p : s.Prompt m) (asks : 0 < s.turn.requests s.before) :
    s.answers = [(s.called.dmaAddress, m.read s.called.dmaAddress)] ∧
      s.after = (s.called.supply (m.read s.called.dmaAddress)).1 := by
  have answers : s.answers = [(s.called.dmaAddress, m.read s.called.dmaAddress)] := by
    rw [p.answers, p.requests, if_pos asks]
  exact ⟨answers, by rw [p.after, answers]; rfl⟩

theorem region (p : s.Prompt m) : s.after.synth.region = s.before.synth.region := by
  have called : s.called.synth.region = s.before.synth.region := by
    rw [p.called]
    exact s.before.region_operate _
  rcases Nat.eq_zero_or_pos (s.turn.requests s.before) with none | asks
  · rw [(p.quiet none).2, called]
  · rw [(p.asking asks).2]
    exact called

end Prompt

end Seen

theorem CartridgeHost.prompt_turn (k : CartridgeHost) (c : Chip) (t : Turn)
    (idle : k.pending = false) : (k.turn c t).2.Prompt k.memory := by
  unfold CartridgeHost.turn CartridgeHost.call
  generalize done : c.operate (t.operation k.memory CartridgeHost.openBus) = out
  dsimp only
  split
  next asks => exact {
    called := congrArg Prod.fst done.symm
    out := congrArg Prod.snd done.symm
    answers := by simp [answers, request, asks]
    after := by simp [answers, serve, request] }
  next quiet => exact {
    called := congrArg Prod.fst done.symm
    out := congrArg Prod.snd done.symm
    answers := by simp [answers, idle, quiet]
    after := by simp [answers, serve, idle] }

namespace Handshake

open Dmc (Event)

variable {r : Region} {h : Handshake} {c : Chip} {m : Memory} {s : Seen}

theorem run_events (s : Synth) (same : h.dmc = s.dmc) (register : Register) (data : UInt8) :
    h.run r (register.events data) = { h with dmc := (s.write register data).dmc } := by
  obtain ⟨dmc, opened, delivered, shifted⟩ := h
  obtain rfl : dmc = s.dmc := same
  cases register with
  | status =>
      by_cases starts : data &&& 0x10 != 0 <;>
        simp [Register.events, Synth.write, Synth.writeStatus, starts, run, step, Synth.settleIrq]
  | pulseControl side | pulseSweep side | pulseTimerLow side | pulseTimerHigh side =>
      cases side <;> rfl
  | _ => rfl

theorem fair_events (answered : h.opened = 0) (register : Register) (data : UInt8) :
    Fair r Patient h (register.events data) := by
  cases register with
  | status =>
      by_cases starts : data &&& 0x10 != 0 <;>
        simp [Register.events, starts, Fair, Answers, Patient, answered]
  | _ => simp [Register.events, Fair, Answers, Patient]

theorem run_access (r : Region) (same : h.dmc = s.before.synth.dmc) (answered : h.opened = 0)
    (p : s.Prompt m) (access : s.turn ≠ .clock) : Fair r Patient h s.events ∧
      h.run r s.events = { h with dmc := s.called.synth.dmc } := by
  have unmoved : h = { h with dmc := s.before.synth.dmc } := by rw [← same]
  rw [p.synth, Seen.events]
  cases turn : s.turn with
  | clock => exact absurd turn access
  | read address =>
      refine ⟨trivial, unmoved.trans ?_⟩
      simp only [Turn.operation, Synth.operate]
      split <;> rfl
  | write address data =>
      simp only [Turn.operation, Synth.operate]
      cases Register.ofAddress? address with
      | none => exact ⟨trivial, unmoved⟩
      | some register =>
          exact ⟨fair_events answered register data, run_events _ same register data⟩

theorem Tidy.requests_le (t : h.Tidy) (r : Region) : h.dmc.requests ≤ 1 := by
  have single := t.single
  have owed := h.dmc.owed_advance r
  omega

/-- The channel of a chip whose host has nothing left to answer. -/
structure Abreast (r : Region) (c : Chip) (h : Handshake) : Prop where
  region : c.synth.region = r
  dmc : h.dmc = c.synth.dmc
  answered : h.opened = 0
  tidy : h.Tidy

theorem fair_append (rule : Handshake → Event → Prop) (events later : List Event) :
    Fair r rule h (events ++ later) ↔
      Fair r rule h events ∧ Fair r rule (h.run r events) later := by
  induction events generalizing h with
  | nil => simp [Fair, run]
  | cons e rest ih => simp [Fair, run, ih, and_assoc]

/-- What the host does in a turn, or in many, as the channel has it. -/
structure Keeps (r : Region) (h : Handshake) (events : List Event) (after : Chip)
    (delivered shifted : List UInt8) : Prop where
  fair : Fair r Patient h events
  abreast : (h.run r events).Abreast r after
  delivered : (h.run r events).delivered = h.delivered ++ delivered
  shifted : (h.run r events).shifted = h.shifted ++ shifted

theorem Keeps.trans {events later : List Event} {b c : Chip} {d d' s s' : List UInt8}
    (first : Keeps r h events b d s) (next : Keeps r (h.run r events) later c d' s') :
    Keeps r h (events ++ later) c (d ++ d') (s ++ s') := by
  have run : h.run r (events ++ later) = (h.run r events).run r later := List.foldl_append
  exact {
    fair := (fair_append _ _ _).mpr ⟨first.fair, next.fair⟩
    abreast := run ▸ next.abreast
    delivered := by rw [run, next.delivered, first.delivered, List.append_assoc]
    shifted := by rw [run, next.shifted, first.shifted, List.append_assoc] }

namespace Abreast

theorem access (a : h.Abreast r s.before) (p : s.Prompt m) (access : s.turn ≠ .clock) :
    Keeps r h s.events s.after (s.answers.map Prod.snd) s.moved := by
  obtain ⟨fair, told⟩ := run_access r a.dmc a.answered p access
  have quiet : s.turn.requests s.before = 0 ∧ s.moved = [] := by
    unfold Seen.moved
    cases same : s.turn with
    | clock => exact absurd same access
    | _ => exact ⟨rfl, rfl⟩
  obtain ⟨answers, after⟩ := p.quiet quiet.1
  exact {
    fair := fair
    abreast := {
      region := p.region.trans a.region
      dmc := by rw [told, after]
      answered := by rw [told]; exact a.answered
      tidy := a.tidy.run fair }
    delivered := by rw [told, answers]; simp
    shifted := by rw [told, quiet.2]; simp }

theorem dmc_clock (a : h.Abreast r s.before) (p : s.Prompt m) (clocks : s.turn = .clock) :
    (h.step r .clock).dmc = s.called.synth.dmc := by
  rw [p.synth, clocks]
  change h.dmc.advance r = s.before.synth.clock.dmc
  rw [Synth.dmc_clock, a.dmc, a.region]

theorem clock (a : h.Abreast r s.before) (p : s.Prompt m) (clocks : s.turn = .clock) :
    Keeps r h s.events s.after (s.answers.map Prod.snd) s.moved := by
  let clocked := h.step r .clock
  have opened : clocked.opened = h.dmc.requests := by
    change h.opened + h.dmc.requests = _
    rw [a.answered, Nat.zero_add]
  have shifted : clocked.shifted = h.shifted ++ s.moved := by
    rw [Seen.moved, clocks, ← a.dmc]
    rfl
  have dmc : clocked.dmc = s.called.synth.dmc := a.dmc_clock p clocks
  have asked : s.turn.requests s.before = h.dmc.requests := by
    rw [clocks, a.dmc]
    rfl
  have region := p.region.trans a.region
  -- the channel has a clock alone, or a clock and the one byte that answers it
  rcases Nat.eq_zero_or_pos h.dmc.requests with none | asks
  · obtain ⟨answers, after⟩ := p.quiet (asked.trans none)
    have events : s.events = [.clock] := by rw [Seen.events, clocks, answers]; rfl
    have fair : Fair r Patient h s.events := by
      rw [events]
      exact ⟨⟨trivial, nofun⟩, trivial⟩
    have run : h.run r s.events = clocked := by rw [events]; rfl
    exact {
      fair := fair
      abreast := {
        region := region
        dmc := by rw [run, after, dmc]
        answered := by rw [run, opened, none]
        tidy := a.tidy.run fair }
      delivered := by rw [run, answers]; exact (List.append_nil _).symm
      shifted := by rw [run, shifted] }
  · obtain ⟨answers, after⟩ := p.asking (asked.symm ▸ asks)
    generalize m.read s.called.dmaAddress = byte at answers after
    have few := a.tidy.requests_le r
    have events : s.events = [.clock, .supply byte] := by rw [Seen.events, clocks, answers]; rfl
    have fair : Fair r Patient h s.events := by
      rw [events]
      exact ⟨⟨trivial, nofun⟩, ⟨by change 0 < clocked.opened; omega, nofun⟩, trivial⟩
    have run : h.run r s.events = clocked.step r (.supply byte) := by rw [events]; rfl
    exact {
      fair := fair
      abreast := {
        region := region
        dmc := by
          rw [run, after]
          change clocked.dmc.supply byte = s.called.synth.dmc.supply byte
          rw [dmc]
        answered := by
          rw [run]
          change clocked.opened - 1 = 0
          omega
        tidy := a.tidy.run fair }
      delivered := by rw [run, answers]; rfl
      shifted := by rw [run]; exact shifted }

theorem turn (a : h.Abreast r s.before) (p : s.Prompt m) :
    Keeps r h s.events s.after (s.answers.map Prod.snd) s.moved := by
  by_cases clocks : s.turn = .clock
  · exact a.clock p clocks
  · exact a.access p clocks

theorem alone (a : h.Abreast r s.before) (p : s.Prompt m) : s.Alone m := by
  have few := a.tidy.requests_le r
  have asked : s.before.synth.requests = h.dmc.requests := by
    rw [a.dmc]
    rfl
  refine ⟨p, ?_, fun answered => ?_⟩
  · rw [p.requests]
    exact (s.turn.requests_le s.before).trans (asked.trans_le few)
  · have asks : 0 < s.turn.requests s.before := by
      by_contra none
      exact answered (p.quiet (Nat.eq_zero_of_not_pos none)).1
    cases clocks : s.turn with
    | clock =>
        have open' : 0 < (h.step r .clock).opened := by
          rw [clocks] at asks
          change 0 < h.opened + h.dmc.requests
          rw [← asked]
          exact Nat.lt_add_left _ asks
        rw [← a.dmc_clock p clocks]
        exact a.tidy.clock.vacant open'
    | _ =>
        rw [clocks] at asks
        cases asks

theorem watched {k : CartridgeHost} (a : h.Abreast r c) (idle : k.pending = false)
    (turns : List Turn) :
    let seen := watch CartridgeHost.turn k c turns
    let done := work CartridgeHost.turn k c turns
    (∀ s ∈ seen, s.Alone k.memory) ∧ done.1.pending = false ∧
      Keeps r h (seen.flatMap Seen.events) done.2 (Seen.delivered seen) (Seen.shifted seen) := by
  induction turns generalizing k c h with
  | nil =>
      exact ⟨by simp [watch], idle, trivial, a, (List.append_nil _).symm, (List.append_nil _).symm⟩
  | cons t rest ih =>
      have prompt := k.prompt_turn c t idle
      have keeps := Abreast.turn (s := (k.turn c t).2) a prompt
      have next := ih keeps.abreast (k.pending_turn c t idle)
      rw [k.memory_turn c t] at next
      obtain ⟨alone, served, later⟩ := next
      refine ⟨?_, served, keeps.trans later⟩
      intro s member
      rcases List.mem_cons.mp member with rfl | member
      · exact Abreast.alone a prompt
      · exact alone s member

/-- Every clock of a turn is a clock of the channel. -/
theorem count_clock (k : CartridgeHost) (c : Chip) (turns : List Turn) :
    turns.count .clock ≤
      ((watch CartridgeHost.turn k c turns).flatMap Seen.events).count .clock := by
  induction turns generalizing k c with
  | nil => exact Nat.le_refl _
  | cons t rest ih =>
      have later := ih (k.turn c t).1 (k.turn c t).2.after
      rw [watch, List.flatMap_cons, List.count_append]
      cases t with
      | clock =>
          rw [List.count_cons_self]
          have one : 0 < (k.turn c .clock).2.events.count .clock :=
            List.count_pos_iff.mpr List.mem_cons_self
          omega
      | _ =>
          rw [List.count_cons_of_ne (by simp)]
          exact later.trans (Nat.le_add_left _ _)

theorem power (c : Chip) : Abreast c.synth.region c.power.1 (.power c.synth.region) :=
  ⟨rfl, rfl, rfl, .power _⟩

end Abreast

end Handshake

/-! ## The two hosts -/

/-- As long as no clock makes two requests, a count is as good as a flag. -/
theorem Matching.watch_eq {h : CountingHost} {k : CartridgeHost} {c : Chip} {g : Handshake}
    {r : Region} (matching : Matching h k) (a : g.Abreast r c) (turns : List Turn) :
    watch CountingHost.turn h c turns = watch CartridgeHost.turn k c turns ∧
      (work CountingHost.turn h c turns).2 = (work CartridgeHost.turn k c turns).2 := by
  induction turns generalizing h k c g with
  | nil => exact ⟨rfl, rfl⟩
  | cons t rest ih =>
      have few : c.synth.requests ≤ 1 := by
        have few := a.tidy.requests_le r
        rw [a.dmc] at few
        exact few
      have prompt := k.prompt_turn c t matching.pending
      have keeps := Handshake.Abreast.turn (s := (k.turn c t).2) a prompt
      obtain ⟨same, next⟩ := matching.turn t few
      have rest := ih next keeps.abreast
      unfold watch work
      dsimp only
      rw [same]
      exact ⟨congrArg _ rest.1, rest.2⟩

/-- The bytes of all turns went to the shifter one by one, up to the one that still waits. -/
structure OneByOne (m : Memory) (seen : List Seen) (c : Chip) : Prop where
  alone : ∀ s ∈ seen, s.Alone m
  order : Seen.delivered seen = Seen.shifted seen ++ c.synth.dmc.held
  shifting : c.synth.dmc.shifting = true →
    (Seen.shifted seen).getLast? = some c.synth.dmc.shift

namespace CountingHost

/-- A host with nothing but memory that has just powered a chip on. -/
def powering (m : Memory) (c : Chip) : CountingHost :=
  obey { memory := m } c.power.2.irq

def tape (m : Memory) (c : Chip) (turns : List Turn) : List Seen :=
  watch turn (powering m c) c.power.1 turns

def final (m : Memory) (c : Chip) (turns : List Turn) : Chip :=
  (work turn (powering m c) c.power.1 turns).2

end CountingHost

namespace CartridgeHost

def powering (m : Memory) (c : Chip) : CartridgeHost :=
  obey { memory := m } c.power.2.irq

/-- What there is to see of a chip and its cartridge from power on. -/
def tape (m : Memory) (c : Chip) (turns : List Turn) : List Seen :=
  watch turn (powering m c) c.power.1 turns

def final (m : Memory) (c : Chip) (turns : List Turn) : Chip :=
  (work turn (powering m c) c.power.1 turns).2

theorem oneByOne_tape (m : Memory) (c : Chip) (turns : List Turn) :
    OneByOne m (tape m c turns) (final m c turns) := by
  obtain ⟨alone, -, keeps⟩ := (Handshake.Abreast.power c).watched (k := powering m c) rfl turns
  have order := keeps.abreast.tidy.order
  have shifting := keeps.abreast.tidy.shifting
  rw [keeps.delivered, keeps.shifted, keeps.abreast.dmc] at order
  rw [keeps.shifted, keeps.abreast.dmc] at shifting
  exact ⟨alone, order, shifting⟩

/-- The longest byte takes 3424 clocks, and then the one in the buffer is next. -/
theorem taken_tape (m : Memory) (c : Chip) (turns : List Turn) {later : List Turn}
    (long : 3424 ≤ later.count .clock) :
    Seen.delivered (tape m c turns) <+: Seen.shifted (tape m c (turns ++ later)) := by
  obtain ⟨-, served, keeps⟩ :=
    (Handshake.Abreast.power c).watched (k := powering m c) rfl turns
  obtain ⟨-, -, more⟩ := keeps.abreast.watched served later
  have tidy := keeps.abreast.tidy
  have clocks := Handshake.Abreast.count_clock
    (work turn (powering m c) c.power.1 turns).1 (final m c turns) later
  have taken := tidy.taken more.fair (tidy.wait_le.trans (long.trans clocks))
  rw [keeps.delivered, more.shifted, keeps.shifted, List.append_assoc] at taken
  rw [tape, tape, watch_append, Seen.shifted, List.flatMap_append]
  exact taken

end CartridgeHost

/-- On a chip that was powered on nothing tells the two hosts apart, and they lose no byte. -/
theorem hosts_agree (m : Memory) (c : Chip) (turns : List Turn) :
    CountingHost.tape m c turns = CartridgeHost.tape m c turns ∧
      CountingHost.final m c turns = CartridgeHost.final m c turns ∧
      OneByOne m (CartridgeHost.tape m c turns) (CartridgeHost.final m c turns) ∧
      ∀ later : List Turn, 3424 ≤ later.count .clock →
        Seen.delivered (CartridgeHost.tape m c turns) <+:
          Seen.shifted (CartridgeHost.tape m c (turns ++ later)) := by
  have fresh : Matching (CountingHost.powering m c) (CartridgeHost.powering m c) :=
    ⟨rfl, rfl, rfl, rfl, rfl⟩
  obtain ⟨same, chips⟩ := fresh.watch_eq (Handshake.Abreast.power c) turns
  exact ⟨same, chips, CartridgeHost.oneByOne_tape m c turns, fun _ long =>
    CartridgeHost.taken_tape m c turns long⟩

/-- The one byte of the shortest sample is fetched, and it is shifted in time. -/
theorem hosts_agree_started :
    let c := Chip.ofSettings {}
    let turns : List Turn := [.write 0x4015 0x10, .clock, .clock, .clock]
    let later : List Turn := List.replicate 3424 .clock
    let seen := CartridgeHost.tape .zero c turns
    3424 ≤ later.count .clock ∧ (Seen.delivered seen).length = 1 ∧
      CountingHost.tape .zero c turns = seen ∧
      Seen.delivered seen <+: Seen.shifted (CartridgeHost.tape .zero c (turns ++ later)) := by
  intro c turns later seen
  have long : 3424 ≤ later.count .clock := (List.count_replicate_self ..).ge
  have fetched : (Seen.delivered seen).length = 1 := by decide
  obtain ⟨same, -, -, taken⟩ := hosts_agree .zero c turns
  exact ⟨long, fetched, same, taken later long⟩

end ChipScribe
