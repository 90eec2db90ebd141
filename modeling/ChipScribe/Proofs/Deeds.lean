import ChipScribe.Player
import ChipScribe.Proofs.Operation

/-!
# What a player does to its chip

A player writes to its chip, reads from it, and clocks it.  Each of these is a call of
the chip, and a clock may be followed by one more, which hands over the byte that is
asked for.  So what a player does is a run of the chip, and all that is known of runs
is known of it.
-/

namespace ChipScribe

/-- The handing over of a byte, which is all that a chip asks of its host. -/
def Operation.isSupply : Operation → Bool
  | .supply _ => true
  | _ => false

namespace Player

/-! ## One thing after another -/

/-- Go on from what is done; what is put out comes in order. -/
def andThen (done : Player × List Effect) (next : Player → Player × List Effect) :
    Player × List Effect :=
  ((next done.1).1, done.2 ++ (next done.1).2)

/-- What is done, with another script to go on with. -/
def keep (script : List Access) (done : Player × List Effect) : Player × List Effect :=
  ({ done.1 with script }, done.2)

theorem andThen_nil (p : Player) (next : Player → Player × List Effect) :
    andThen (p, []) next = next p := rfl

theorem andThen_assoc (done : Player × List Effect) (next last : Player → Player × List Effect) :
    andThen (andThen done next) last = andThen done fun p => andThen (next p) last := by
  simp only [andThen, List.append_assoc]

/-! ## Calls of the chip -/

/-- Take what a call leaves: the host obeys the line, and messages are recorded at the clock. -/
def take (p : Player) (called : Chip × Report) : Player × List Effect :=
  ({ p with
      chip := called.1
      host := p.host.obey called.2.irq
      events := p.events ++ (called.2.midi.map (Midi.Event.mk p.cycle)).toArray },
    called.2.effects)

/-- Hand the chip the byte at its address, if it has asked for one. -/
def answer (p : Player) (asked : Bool) : Player :=
  if p.host.pending || asked then
    (take { p with host := { p.host with pending := false } }
      (p.chip.supply (p.host.memory.read p.chip.dmaAddress))).1
  else p

/-- A clock, without the accesses that come before it. -/
def tick (p : Player) : Player × List Effect :=
  let (chip, out) := p.chip.clock p.host.memory
  let (q, effects) := p.take (chip, out.toReport)
  ({ q.answer (0 < out.requests) with
      cycle := p.cycle + 1
      resampler := p.resampler.map (·.push (out.sample.toFloat / 32768.0)) }, effects)

/-- One thing done to the chip: an access, or a clock by itself. -/
inductive Deed where
  | access (a : Access)
  | clock
  deriving DecidableEq

/-- An access with data writes them to its address, one without reads there. -/
def perform (p : Player) : Deed → Player × List Effect
  | .access ⟨_, address, some data⟩ => p.take (p.chip.write address data)
  | .access ⟨_, address, none⟩ => p.take (p.chip.read address CartridgeHost.openBus).2
  | .clock => p.tick

def performAll (p : Player) : List Deed → Player × List Effect
  | [] => (p, [])
  | deed :: rest => andThen (p.perform deed) (performAll · rest)

theorem performAll_append (p : Player) (deeds later : List Deed) :
    p.performAll (deeds ++ later) = andThen (p.performAll deeds) (·.performAll later) := by
  induction deeds generalizing p with
  | nil => rfl
  | cons deed deeds ih =>
      rw [List.cons_append, performAll, performAll, andThen_assoc]
      exact congrArg _ (funext fun q => ih q)

theorem performAll_singleton (p : Player) (deed : Deed) :
    p.performAll [deed] = p.perform deed := by
  simp only [performAll, andThen, List.append_nil]

/-! ## The player's own functions -/

theorem access_eq (p : Player) (a : Access) : p.access a = p.perform (.access a) := by
  have absorb_eq (called : Chip × Report) : p.absorb called.1 called.2 = p.take called := by
    rw [absorb, record, List.foldl_push_eq_append]
    rfl
  obtain ⟨cycle, address, _ | data⟩ := a
  · exact absorb_eq _
  · exact absorb_eq _

theorem accessAll_eq (p : Player) (accesses : List Access) :
    p.accessAll accesses = p.performAll (accesses.map .access) := by
  induction accesses generalizing p with
  | nil => rfl
  | cons a rest ih =>
      rw [List.map_cons, performAll, ← access_eq]
      exact congrArg (andThen (p.access a)) (funext fun q => ih q)

/-- A host that is asked serves at once. -/
theorem answer_eq (p : Player) (asked : Bool) :
    p.answer asked =
      let served := (if asked then p.host.request else p.host).serve p.chip
      { p with host := served.1, chip := served.2 } := by
  have silent (q : Player) (data : UInt8) : (q.take (q.chip.supply data)).1 =
      { q with host := q.host.obey (q.chip.supply data).2.irq, chip := (q.chip.supply data).1 } := by
    simp [take, Chip.supply]
  cases pending : p.host.pending <;> cases asked <;>
    simp [answer, silent, pending, CartridgeHost.serve, CartridgeHost.request]

theorem clock_eq (p : Player) : p.clock = andThen p.accessDue (·.performAll [.clock]) := by
  rw [clock]
  generalize p.accessDue = done
  obtain ⟨q, made⟩ := done
  simp only [performAll_singleton, perform]
  simp only [andThen, tick, answer_eq, take, CartridgeHost.clock, List.foldl_push_eq_append,
    decide_eq_true_eq]

/-! ## What no deed looks at or moves -/

theorem perform_keep (p : Player) (script : List Access) (deed : Deed) :
    { p with script }.perform deed = keep script (p.perform deed) := by
  cases deed with
  | access a =>
      obtain ⟨cycle, address, _ | data⟩ := a
      · rfl
      · rfl
  | clock =>
      simp only [perform, tick, answer_eq]
      rfl

theorem performAll_keep (p : Player) (script : List Access) (deeds : List Deed) :
    { p with script }.performAll deeds = keep script (p.performAll deeds) := by
  induction deeds generalizing p with
  | nil => rfl
  | cons deed rest ih =>
      rw [performAll, perform_keep, performAll, andThen, keep]
      dsimp only
      rw [ih]
      rfl

/-- Clocks are all that a player counts. -/
theorem cycle_performAll (p : Player) (deeds : List Deed) :
    (p.performAll deeds).1.cycle = p.cycle + deeds.count .clock := by
  induction deeds generalizing p with
  | nil => rfl
  | cons deed rest ih =>
      refine (ih (p.perform deed).1).trans ?_
      cases deed with
      | access a =>
          obtain ⟨cycle, address, _ | data⟩ := a <;> simp [perform, take]
      | clock =>
          have ticked : (p.perform .clock).1.cycle = p.cycle + 1 := rfl
          rw [ticked, List.count_cons_self, Nat.add_assoc, Nat.add_comm 1]

/-! ## The run of the chip -/

/-- What a deed is to the chip of a host with that memory. -/
def Deed.operation (m : Memory) : Deed → Operation
  | .access ⟨_, address, some data⟩ => .write address data
  | .access ⟨_, address, none⟩ => .read address CartridgeHost.openBus
  | .clock => .clock m

/-- What a player has after those calls of its chip, and what they put out. -/
structure CameBy (calls : List Operation) (p : Player) (done : Player × List Effect) : Prop where
  chip : done.1.chip = p.chip.after calls
  messages : done.1.events.toList.map (·.message) =
    p.events.toList.map (·.message) ++ p.chip.sent calls
  line : done.1.host.irq = (p.chip.driven calls).getLast?.getD p.host.irq
  memory : done.1.host.memory = p.host.memory
  effects : done.2 = (p.chip.outcomes calls).flatMap (·.effects)

theorem cameBy_nil (p : Player) : CameBy [] p (p, []) where
  chip := rfl
  messages := by simp
  line := rfl
  memory := rfl
  effects := rfl

theorem CameBy.andThen {calls later : List Operation} {p : Player} {done : Player × List Effect}
    {next : Player → Player × List Effect} (first : CameBy calls p done)
    (second : CameBy later done.1 (next done.1)) :
    CameBy (calls ++ later) p (andThen done next) where
  chip := by rw [Chip.after_append, ← first.chip]; exact second.chip
  messages := by
    rw [Chip.sent_append, ← List.append_assoc, ← first.messages, ← first.chip]
    exact second.messages
  line := by
    rw [Chip.driven, Chip.outcomes_append, List.filterMap_append, List.getLast?_append,
      Option.getD_or, ← first.chip]
    exact second.line.trans (congrArg _ first.line)
  memory := second.memory.trans first.memory
  effects := by
    rw [Chip.outcomes_append, List.flatMap_append, ← first.effects, ← first.chip]
    exact congrArg _ second.effects

/-- A call is taken as what the operation puts out. -/
theorem cameBy_take (p : Player) (o : Operation) :
    CameBy [o] p (p.take ((p.chip.operate o).1, (p.chip.operate o).2.toReport)) where
  chip := rfl
  messages := by simp [take, Chip.sent, Chip.outcomes, Function.comp_def]
  line := by
    have driven : p.chip.driven [o] = (p.chip.operate o).2.irq.toList := by
      rw [Chip.driven_cons]
      exact List.append_nil _
    rw [driven, take]
    cases (p.chip.operate o).2.irq <;> rfl
  memory := by
    rw [take]
    cases (p.chip.operate o).2.irq <;> rfl
  effects := by simp [take, Chip.outcomes]

/-- Nothing comes between a clock and the byte that it asks for. -/
theorem exists_cameBy_answer (p : Player) (asked : Bool) :
    ∃ calls : List Operation, calls.filter (!·.isSupply) = [] ∧
      CameBy calls p (p.answer asked, []) := by
  rw [answer]
  split
  next asking =>
    have supplied := cameBy_take { p with host := { p.host with pending := false } }
      (.supply (p.host.memory.read p.chip.dmaAddress))
    exact ⟨_, rfl, supplied.chip, supplied.messages, supplied.line, supplied.memory, rfl⟩
  next => exact ⟨[], rfl, p.cameBy_nil⟩

theorem exists_cameBy_perform (p : Player) (deed : Deed) :
    ∃ calls : List Operation, calls.filter (!·.isSupply) = [deed.operation p.host.memory] ∧
      CameBy calls p (p.perform deed) := by
  cases deed with
  | access a =>
      obtain ⟨cycle, address, _ | data⟩ := a
      · exact ⟨_, rfl, p.cameBy_take (.read address CartridgeHost.openBus)⟩
      · exact ⟨_, rfl, p.cameBy_take (.write address data)⟩
  | clock =>
      let out := p.chip.operate (.clock p.host.memory)
      let clocked := p.take (out.1, out.2.toReport)
      obtain ⟨calls, none, answered⟩ := clocked.1.exists_cameBy_answer (0 < out.2.requests)
      -- the clock is counted, and its sample is kept, after the byte is handed over
      let count (_ : Player) : Player × List Effect := (p.tick.1, [])
      have counted : CameBy calls clocked.1 (count clocked.1) :=
        ⟨answered.chip, answered.messages, answered.line, answered.memory, answered.effects⟩
      have whole := (p.cameBy_take (.clock p.host.memory)).andThen counted
      rw [Player.andThen, List.append_nil] at whole
      exact ⟨_, by rw [List.filter_append, none]; rfl, whole⟩

/-- Whatever is done, the chip is called for that and for the bytes that it asks for. -/
theorem exists_cameBy_performAll (p : Player) (deeds : List Deed) :
    ∃ calls : List Operation,
      calls.filter (!·.isSupply) = deeds.map (·.operation p.host.memory) ∧
        CameBy calls p (p.performAll deeds) := by
  induction deeds generalizing p with
  | nil => exact ⟨[], rfl, p.cameBy_nil⟩
  | cons deed rest ih =>
      obtain ⟨calls, own, first⟩ := p.exists_cameBy_perform deed
      obtain ⟨later, others, second⟩ := ih (p.perform deed).1
      refine ⟨calls ++ later, ?_, first.andThen second⟩
      rw [List.filter_append, own, others, first.memory]
      rfl

end Player

end ChipScribe
