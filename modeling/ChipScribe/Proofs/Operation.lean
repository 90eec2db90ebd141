import ChipScribe.Snapshot

/-!
# Runs of the chip

An operation is one call that a host can make of the chip, with what the host
shows it: its memory, or the value left on its bus.  A run is a list of
operations made in order.  Restoring a snapshot is not an operation of a run;
`Reachable` adds it.
-/

namespace ChipScribe

open Midi

inductive Operation where
  | power
  | clock (memory : Memory)
  | write (address : UInt16) (data : UInt8)
  | read (address : UInt16) (openBus : UInt8)
  | supply (data : UInt8)
  | transcribe (memory : Memory)
  | setUpReceiver
  | silence
  | withTuning (t : Tuning)
  | withLibrary (l : Library)

/-- What a host gets back from one call. -/
structure Outcome extends Report where
  sample : Option Nat := none
  byte : Option UInt8 := none
  requests : Nat := 0
  deriving DecidableEq, Repr

def Outcome.ofReport (r : Report) : Outcome :=
  { toReport := r }

namespace Chip

def operate (c : Chip) : Operation → Chip × Outcome
  | .power => (c.power.1, .ofReport c.power.2)
  | .clock memory =>
      let clocked := c.clock memory
      (clocked.1, { clocked.2.toReport with
        sample := some clocked.2.sample, requests := clocked.2.requests })
  | .write address data => ((c.write address data).1, .ofReport (c.write address data).2)
  | .read address openBus =>
      let found := c.read address openBus
      (found.2.1, { found.2.2 with byte := some found.1 })
  | .supply data => ((c.supply data).1, .ofReport (c.supply data).2)
  | .transcribe memory =>
      ((c.transcribe memory).1, .ofReport (c.transcribe memory).2)
  | .setUpReceiver => (c.setUpReceiver.1, .ofReport c.setUpReceiver.2)
  | .silence => (c.silence.1, .ofReport c.silence.2)
  | .withTuning t => (c.withTuning t, {})
  | .withLibrary l => (c.withLibrary l, {})

def after (c : Chip) : List Operation → Chip
  | [] => c
  | o :: rest => (c.operate o).1.after rest

/-- What a run puts out, call by call. -/
def outcomes (c : Chip) : List Operation → List Outcome
  | [] => []
  | o :: rest => (c.operate o).2 :: (c.operate o).1.outcomes rest

def sent (c : Chip) (ops : List Operation) : List Message :=
  (c.outcomes ops).flatMap fun out => out.midi

/-- The levels a run drives onto the interrupt line. -/
def driven (c : Chip) (ops : List Operation) : List Bool :=
  (c.outcomes ops).filterMap fun out => out.irq

@[simp] theorem after_nil (c : Chip) : c.after [] = c := rfl

@[simp] theorem after_cons (c : Chip) (o : Operation) (ops : List Operation) :
    c.after (o :: ops) = (c.operate o).1.after ops := rfl

theorem after_append (c : Chip) (ops later : List Operation) :
    c.after (ops ++ later) = (c.after ops).after later := by
  induction ops generalizing c with
  | nil => rfl
  | cons o ops ih => exact ih _

theorem after_concat (c : Chip) (ops : List Operation) (o : Operation) :
    c.after (ops ++ [o]) = ((c.after ops).operate o).1 := by
  rw [after_append]
  rfl

theorem after_append_cons (c : Chip) (front : List Operation) (o : Operation)
    (back : List Operation) :
    c.after (front ++ o :: back) = (c.after (front ++ [o])).after back := by
  rw [← after_append, List.append_assoc, List.singleton_append]

theorem outcomes_append (c : Chip) (ops later : List Operation) :
    c.outcomes (ops ++ later) = c.outcomes ops ++ (c.after ops).outcomes later := by
  induction ops generalizing c with
  | nil => rfl
  | cons o ops ih => exact congrArg _ (ih _)

@[simp] theorem sent_nil (c : Chip) : c.sent [] = [] := rfl

theorem sent_cons (c : Chip) (o : Operation) (ops : List Operation) :
    c.sent (o :: ops) = (c.operate o).2.midi ++ (c.operate o).1.sent ops := rfl

theorem sent_append (c : Chip) (ops later : List Operation) :
    c.sent (ops ++ later) = c.sent ops ++ (c.after ops).sent later := by
  simp [sent, outcomes_append]

theorem sent_concat (c : Chip) (ops : List Operation) (o : Operation) :
    c.sent (ops ++ [o]) = c.sent ops ++ ((c.after ops).operate o).2.midi := by
  rw [sent_append]
  simp [sent, outcomes]

theorem driven_cons (c : Chip) (o : Operation) (ops : List Operation) :
    c.driven (o :: ops) = (c.operate o).2.irq.toList ++ (c.operate o).1.driven ops := by
  rw [driven, outcomes, List.filterMap_cons]
  cases (c.operate o).2.irq <;> rfl

/-- What every operation keeps, every run keeps. -/
theorem after_induction {kept : Chip → Prop} {allowed : Operation → Prop}
    (step : ∀ c o, allowed o → kept c → kept (c.operate o).1)
    (c : Chip) (ops : List Operation) (good : ∀ o ∈ ops, allowed o) (start : kept c) :
    kept (c.after ops) := by
  induction ops generalizing c with
  | nil => exact start
  | cons o ops ih =>
      have here : kept (c.operate o).1 := step c o (good o (by simp)) start
      exact ih _ (fun o' member => good o' (by simp [member])) here

end Chip

/--
The chips that a host can come by: new ones, those that an operation leaves, and
those that have taken over a snapshot of another.
-/
inductive Reachable : Chip → Prop
  | new (s : Settings) : Reachable (.ofSettings s)
  | operate {c : Chip} (o : Operation) : Reachable c → Reachable (c.operate o).1
  | load {c other : Chip} : Reachable c → Reachable other →
      Reachable (c.load other.snapshot.toJson).2.1

theorem Reachable.after {c : Chip} (h : Reachable c) (ops : List Operation) :
    Reachable (c.after ops) := by
  induction ops generalizing c with
  | nil => exact h
  | cons o ops ih => exact ih (h.operate o)

end ChipScribe
