import ChipScribe.Proofs.Interrupt
import ChipScribe.Proofs.SwitchedOff

/-!
# Writes to different units commute

Between two clocks a host may make its writes in any order that is right for each
unit by itself: the chip is left the same and the interrupt line is driven the same.
The status register is shared by all units and is left out.
-/

namespace ChipScribe

/-! ## Reordering by part -/

section Reordering

variable {σ α υ : Type} {act : σ → α → σ} {part : α → Option υ}

section Sorted

variable [DecidableEq υ]

/-- The actions on one part, in order. -/
def actionsOn (part : α → Option υ) (u : υ) (xs : List α) : List α :=
  xs.filter fun x => part x = some u

theorem actionsOn_append (u : υ) (xs ys : List α) :
    actionsOn part u (xs ++ ys) = actionsOn part u xs ++ actionsOn part u ys :=
  List.filter_append _ _

theorem actionsOn_cons (u : υ) (x : α) (xs : List α) :
    actionsOn part u (x :: xs) =
      if part x = some u then x :: actionsOn part u xs else actionsOn part u xs := by
  simp only [actionsOn, List.filter_cons, decide_eq_true_eq]

end Sorted

theorem foldl_of_idle (idle : ∀ s x, part x = none → act s x = s) {xs : List α}
    (none : ∀ x ∈ xs, part x = none) (s : σ) : xs.foldl act s = s := by
  induction xs with
  | nil => rfl
  | cons x xs ih =>
      obtain ⟨here, later⟩ := List.forall_mem_cons.mp none
      rw [List.foldl_cons, idle s x here, ih later]

/-- An action may be put off until those on other parts are through. -/
theorem foldl_past (apart : ∀ s x y, part x ≠ part y → act (act s x) y = act (act s y) x) {x : α}
    {ys : List α} (other : ∀ y ∈ ys, part x ≠ part y) (s : σ) :
    ys.foldl act (act s x) = act (ys.foldl act s) x := by
  induction ys generalizing s with
  | nil => rfl
  | cons y ys ih =>
      obtain ⟨here, later⟩ := List.forall_mem_cons.mp other
      rw [List.foldl_cons, List.foldl_cons, apart s x y here, ih later]

/--
Runs that act the same on each part come to the same, if actions on different parts
commute and those on no part do nothing.
-/
theorem foldl_congr_of_parts [DecidableEq υ] (idle : ∀ s x, part x = none → act s x = s)
    (apart : ∀ s x y, part x ≠ part y → act (act s x) y = act (act s y) x) {xs ys : List α}
    (same : ∀ u, actionsOn part u xs = actionsOn part u ys) (s : σ) :
    xs.foldl act s = ys.foldl act s := by
  induction xs generalizing ys s with
  | nil =>
      have none (y : α) (member : y ∈ ys) : part y = none :=
        Option.eq_none_iff_forall_ne_some.mpr fun u own => by
          have found : y ∈ actionsOn part u ys :=
            List.mem_filter.mpr ⟨member, decide_eq_true own⟩
          rw [← same u] at found
          cases found
      rw [foldl_of_idle idle none, List.foldl_nil]
  | cons x xs ih =>
      cases own : part x with
      | none =>
          rw [List.foldl_cons, idle s x own]
          refine ih (fun u => ?_) s
          rw [← same u, actionsOn_cons, own, if_neg nofun]
      | some u =>
          -- the other run makes this action too, after actions on other parts only
          have mine := same u
          rw [actionsOn_cons, if_pos own] at mine
          obtain ⟨front, back, rfl, before, -, after⟩ := List.filter_eq_cons_iff.mp mine.symm
          have other : ∀ y ∈ front, part x ≠ part y := fun y member eq =>
            before y member (decide_eq_true (eq.symm.trans own))
          rw [List.foldl_append, List.foldl_cons, List.foldl_cons, ← foldl_past apart other,
            ← List.foldl_append]
          refine ih (fun v => ?_) _
          have whole := same v
          rw [actionsOn_append, actionsOn_cons, actionsOn_cons] at whole
          rw [actionsOn_append]
          by_cases here : part x = some v
          · have nothing : actionsOn part v front = [] :=
              List.filter_eq_nil_iff.mpr fun y member found =>
                other y member (here.trans (of_decide_eq_true found).symm)
            rw [if_pos here, if_pos here, nothing] at whole
            rw [nothing]
            exact (List.cons_inj_right x).mp whole
          · rwa [if_neg here, if_neg here] at whole

end Reordering

/-! ## Writes -/

/-- A write of a byte to an address other than that of the status register. -/
structure PlainWrite where
  address : UInt16
  data : UInt8
  plain : address ≠ Register.statusAddress
  deriving DecidableEq

namespace PlainWrite

def operation (w : PlainWrite) : Operation :=
  .write w.address w.data

/-- The unit that a write is to, if its address names a register. -/
def part? (w : PlainWrite) : Option Register.Part :=
  (Register.ofAddress? w.address).bind Register.part?

theorem ne_status (w : PlainWrite) {register : Register}
    (named : Register.ofAddress? w.address = some register) : register ≠ .status := fun eq =>
  w.plain (Register.address_of_status (eq ▸ named))

/-- Every register but that of the status is one of a unit. -/
theorem part?_eq_none_iff (w : PlainWrite) :
    w.part? = none ↔ Register.ofAddress? w.address = none := by
  unfold part?
  cases named : Register.ofAddress? w.address with
  | none => exact iff_of_true rfl rfl
  | some register =>
      have plain := w.ne_status named
      cases register with
      | status => exact absurd rfl plain
      | _ => exact iff_of_false nofun nofun

end PlainWrite

namespace Chip

/--
A write reads, besides its own unit, only whether a half frame is due; that depends on the
counter and the step of the frame sequencer, and no write changes them.
-/
theorem writeRegister_comm (c : Chip) {register other : Register}
    (apart : register.part? ≠ other.part?) (plain : register ≠ .status) (plain' : other ≠ .status)
    (data data' : UInt8) :
    ((c.writeRegister register data).1.writeRegister other data').1 =
      ((c.writeRegister other data').1.writeRegister register data).1 := by
  cases register with
  | status => exact absurd rfl plain
  | pulseControl side | pulseSweep side | pulseTimerLow side | pulseTimerHigh side =>
      cases other with
      | status => exact absurd rfl plain'
      | pulseControl side' | pulseSweep side' | pulseTimerLow side' | pulseTimerHigh side' =>
          cases side <;> cases side' <;>
            first
            | rfl
            | exact absurd rfl apart
      | _ => cases side <;> rfl
  | _ =>
      cases other with
      | status => exact absurd rfl plain'
      | pulseControl side' | pulseSweep side' | pulseTimerLow side' | pulseTimerHigh side' =>
          cases side' <;> rfl
      | _ =>
          first
          | rfl
          | exact absurd rfl apart

def take (c : Chip) (w : PlainWrite) : Chip :=
  (c.operate w.operation).1

theorem take_of_unnamed (c : Chip) {w : PlainWrite}
    (unnamed : Register.ofAddress? w.address = none) : c.take w = c := by
  simp only [take, PlainWrite.operation, operate, write, unnamed]

theorem take_of_named (c : Chip) {w : PlainWrite} {register : Register}
    (named : Register.ofAddress? w.address = some register) :
    c.take w = (c.writeRegister register w.data).1 := by
  simp only [take, PlainWrite.operation, operate, write, named]

theorem take_comm (c : Chip) (w w' : PlainWrite) (apart : w.part? ≠ w'.part?) :
    (c.take w).take w' = (c.take w').take w := by
  cases named : Register.ofAddress? w.address with
  | none => rw [take_of_unnamed _ named, take_of_unnamed _ named]
  | some register =>
      cases named' : Register.ofAddress? w'.address with
      | none => rw [take_of_unnamed _ named', take_of_unnamed _ named']
      | some other =>
          rw [PlainWrite.part?, PlainWrite.part?, named, named'] at apart
          rw [take_of_named c named, take_of_named _ named', take_of_named c named',
            take_of_named _ named]
          exact c.writeRegister_comm apart (w.ne_status named) (w'.ne_status named') _ _

theorem after_writes (c : Chip) (ws : List PlainWrite) :
    c.after (ws.map PlainWrite.operation) = ws.foldl take c := by
  induction ws generalizing c with
  | nil => rfl
  | cons w ws ih => exact ih (c.take w)

end Chip

/-! ## The interrupt line -/

namespace Synth

/-- A write to a unit may take an interrupt back but never asks for one. -/
theorem Coherent.line_write {s : Synth} (h : s.Coherent) {register : Register}
    (plain : register ≠ .status) (data : UInt8) (up : (s.write register data).irqLine = true) :
    s.irqLine = true := by
  rw [h.line]
  cases register with
  | status => exact absurd rfl plain
  | dmcControl =>
      rcases Bool.or_eq_true_iff.mp up with frame | dmc
      · exact Bool.or_eq_true_iff.mpr (.inl frame)
      · have pending := (Bool.and_eq_true_iff.mp (Bool.and_eq_true_iff.mp dmc).1).1
        exact Bool.or_eq_true_iff.mpr (.inr pending)
  | frame =>
      rcases Bool.or_eq_true_iff.mp up with frame | dmc
      · exact Bool.or_eq_true_iff.mpr (.inl (Bool.and_eq_true_iff.mp frame).1)
      · exact Bool.or_eq_true_iff.mpr (.inr dmc)
  | pulseControl side | pulseSweep side | pulseTimerLow side | pulseTimerHigh side =>
      cases side <;> exact h.line.symm.trans up
  | _ => exact h.line.symm.trans up

/-- A line that only falls is driven once, if it falls at all. -/
theorem drive_append {a b c : Synth} (first : b.irqLine = true → a.irqLine = true)
    (second : c.irqLine = true → b.irqLine = true) :
    (a.drive b).toList ++ (b.drive c).toList = (a.drive c).toList := by
  unfold drive
  cases here : a.irqLine <;> cases there : b.irqLine <;> cases last : c.irqLine <;> simp_all

end Synth

namespace Chip

variable {c : Chip}

theorem line_take (h : c.synth.Coherent) (w : PlainWrite)
    (up : (c.take w).synth.irqLine = true) : c.synth.irqLine = true := by
  cases named : Register.ofAddress? w.address with
  | none => rwa [take_of_unnamed _ named] at up
  | some register =>
      rw [take_of_named c named] at up
      exact h.line_write (w.ne_status named) w.data up

theorem coherent_take (h : c.synth.Coherent) (w : PlainWrite) : (c.take w).synth.Coherent := by
  rw [take, synth_operate]
  exact h.operate w.operation

/-- Writes to the units drive the line as a single step to where they lead would. -/
theorem driven_writes (h : c.synth.Coherent) (ws : List PlainWrite) :
    ((ws.foldl take c).synth.irqLine = true → c.synth.irqLine = true) ∧
      c.driven (ws.map PlainWrite.operation) =
        (c.synth.drive (ws.foldl take c).synth).toList := by
  induction ws generalizing c with
  | nil =>
      rw [List.foldl_nil, Synth.drive_self]
      exact ⟨id, rfl⟩
  | cons w ws ih =>
      obtain ⟨falls, later⟩ := ih (coherent_take h w)
      have here : (c.operate w.operation).2.irq = c.synth.drive (c.take w).synth := by
        rw [irq_operate, take, synth_operate]
        rfl
      refine ⟨fun up => line_take h w (falls up), ?_⟩
      rw [List.map_cons, driven_cons, List.foldl_cons, here,
        ← Synth.drive_append (line_take h w) falls, ← later]
      rfl

end Chip

/-- The lists write the same to each unit, in the same order. -/
def SameByUnit (ws ws' : List PlainWrite) : Prop :=
  ∀ part, actionsOn PlainWrite.part? part ws = actionsOn PlainWrite.part? part ws'

/--
Between two clocks only the order of the writes to one unit counts: lists of writes that
are the same by unit, however they interleave them and whatever they write to addresses
that name no register, leave the chip in the same state and drive the interrupt line the
same.
-/
theorem Reachable.writes_commute {c : Chip} (h : Reachable c) {ws ws' : List PlainWrite}
    (same : SameByUnit ws ws') :
    c.after (ws.map fun w => w.operation) = c.after (ws'.map fun w => w.operation) ∧
      c.driven (ws.map fun w => w.operation) = c.driven (ws'.map fun w => w.operation) := by
  have state : ws.foldl Chip.take c = ws'.foldl Chip.take c :=
    foldl_congr_of_parts (fun c w unnamed => c.take_of_unnamed (w.part?_eq_none_iff.mp unnamed))
      (fun c w w' => c.take_comm w w') same c
  refine ⟨?_, ?_⟩
  · rw [c.after_writes, c.after_writes, state]
  · rw [(Chip.driven_writes h.coherent ws).2, (Chip.driven_writes h.coherent ws').2, state]

/-- The delta channel asks, and the write that ends this changes places with others. -/
theorem writes_commute_while_asking :
    let asking : Chip := (Chip.ofSettings {}).after
      [.power, .write 0x4010 0x80, .write 0x4015 0x1F, .supply 0]
    let ws : List PlainWrite := [⟨0x4010, 0x0F, by decide⟩, ⟨0x4003, 0x08, by decide⟩,
      ⟨0x4017, 0x40, by decide⟩, ⟨0x4000, 0x3F, by decide⟩, ⟨0x4011, 0x20, by decide⟩]
    let ws' : List PlainWrite := [⟨0x4017, 0x40, by decide⟩, ⟨0x4003, 0x08, by decide⟩,
      ⟨0x4009, 0xFF, by decide⟩, ⟨0x4000, 0x3F, by decide⟩, ⟨0x4010, 0x0F, by decide⟩,
      ⟨0x4011, 0x20, by decide⟩, ⟨0x5000, 0, by decide⟩]
    SameByUnit ws ws' ∧ asking.after (ws.map fun w => w.operation) =
        asking.after (ws'.map fun w => w.operation) ∧
      asking.driven (ws.map fun w => w.operation) = [false] ∧
      asking.driven (ws'.map fun w => w.operation) = [false] := by
  intro asking ws ws'
  have reached : Reachable asking := .after (.new {}) _
  have same : SameByUnit ws ws' := fun part => by
    cases part with
    | pulse side => cases side <;> rfl
    | _ => rfl
  have both := reached.writes_commute same
  have level : asking.driven (ws.map fun w => w.operation) = [false] := by decide +kernel
  exact ⟨same, both.1, level, both.2 ▸ level⟩

end ChipScribe
