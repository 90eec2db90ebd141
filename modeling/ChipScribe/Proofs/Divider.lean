import Mathlib.Data.List.Iterate

/-!
# Dividers

A divider counts down, and where it runs out it starts over and moves something on.
How often it has run out after some clocks, and so how far it has moved what it
moves, is a quotient.
-/

namespace ChipScribe

/-- The clocks until a divider runs out, the last of them counted, and what it moves on then. -/
structure Divider (α : Type) where
  left : Nat
  moved : α

namespace Divider

variable {α : Type}

def clock (period : Nat) (next : α → α) (d : Divider α) : Divider α :=
  if d.left ≤ 1 then ⟨period, next d.moved⟩ else { d with left := d.left - 1 }

/-- How often a divider that has `left` clocks to go runs out within `n` clocks. -/
def turns (period left n : Nat) : Nat :=
  if n < left then 0 else 1 + (n - left) / period

/-! ## Counting turns -/

variable {period : Nat}

theorem turns_more (left n : Nat) : turns period (left + 1) (n + 1) = turns period left n := by
  simp only [turns, Nat.add_lt_add_iff_right, Nat.add_sub_add_right]

section Counting

variable (pos : 0 < period)
include pos

theorem turns_self (n : Nat) : turns period period n = n / period := by
  unfold turns
  split
  next early => exact (Nat.div_eq_of_lt early).symm
  next late => rw [Nat.div_eq_sub_div pos (Nat.le_of_not_lt late), Nat.add_comm]

theorem turns_last (n : Nat) : turns period 1 (n + 1) = turns period period n + 1 := by
  rw [turns_self pos, turns, if_neg (by omega), Nat.add_sub_cancel, Nat.add_comm]

end Counting

theorem turns_from (left n : Nat) : turns period left (left + n) = n / period + 1 := by
  rw [turns, if_neg (by omega), Nat.add_sub_cancel_left, Nat.add_comm]

/-- The next clock completes a turn where the clocks since the first one divide. -/
theorem turns_succ {left : Nat} (counting : 0 < left) (n : Nat) :
    turns period left (n + 1) =
      turns period left n + if left ≤ n + 1 ∧ period ∣ n + 1 - left then 1 else 0 := by
  unfold turns
  rcases Nat.lt_trichotomy (n + 1) left with early | first | late
  · rw [if_pos early, if_pos (by omega), if_neg (by omega)]
  · subst first
    simp
  · rw [if_neg (by omega), if_neg (by omega), Nat.sub_add_comm (by omega), Nat.succ_div,
      Nat.add_assoc]
    simp only [show left ≤ n + 1 by omega, true_and]

/-! ## Running -/

variable {next : α → α}

@[simp] theorem clock_last (x : α) : (Divider.mk 1 x).clock period next = ⟨period, next x⟩ := rfl

@[simp] theorem clock_more (left : Nat) (x : α) :
    (Divider.mk (left + 2) x).clock period next = ⟨left + 1, x⟩ :=
  if_neg (by simp)

theorem left_clock_pos (next : α → α) (pos : 0 < period) (d : Divider α) :
    0 < (d.clock period next).left := by
  unfold clock
  split
  · exact pos
  next more => exact Nat.sub_pos_of_lt (Nat.lt_of_not_le more)

/-- A divider that is kept in a word. -/
theorem clock_word {left : UInt16} (counting : 0 < left.toNat) (reload : UInt16) (x : α) :
    (Divider.mk left.toNat x).clock reload.toNat next =
      if left - 1 == 0 then ⟨reload.toNat, next x⟩ else ⟨(left - 1).toNat, x⟩ := by
  have down : (left - 1).toNat = left.toNat - 1 := UInt16.toNat_sub_of_le _ _ counting
  have last : left.toNat ≤ 1 ↔ (left - 1 == 0) = true := by
    rw [beq_iff_eq, ← UInt16.toNat_inj, down]
    change _ ↔ _ = 0
    omega
  simp only [clock, last, down]

section Running

variable (next) (pos : 0 < period) {d : Divider α} (counting : 0 < d.left)
include pos counting

/-- What a divider moves has been moved on once for each time it ran out. -/
theorem moved_iterate (n : Nat) :
    ((clock period next)^[n] d).moved = next^[turns period d.left n] d.moved := by
  induction n generalizing d with
  | zero =>
      obtain ⟨_ | left, x⟩ := d
      · cases counting
      · rfl
  | succ n ih =>
      rw [Function.iterate_succ_apply]
      match d, counting with
      | ⟨1, x⟩, _ => rw [clock_last, ih pos, turns_last pos, Function.iterate_succ_apply]
      | ⟨left + 2, x⟩, _ => rw [clock_more, ih left.succ_pos, turns_more]

/-- The clocks on which a divider runs out are as many as its turns. -/
theorem countP_iterate (n : Nat) :
    (List.iterate (clock period next) d n).countP (·.left == 1) = turns period d.left n := by
  induction n generalizing d with
  | zero =>
      obtain ⟨_ | left, x⟩ := d
      · cases counting
      · rfl
  | succ n ih =>
      rw [List.iterate, List.countP_cons]
      match d, counting with
      | ⟨1, x⟩, _ =>
          rw [clock_last, ih pos, turns_last pos]
          rfl
      | ⟨left + 2, x⟩, _ =>
          rw [clock_more, ih left.succ_pos, turns_more]
          rfl

end Running

/-- A unit that clocks its divider and keeps its settings keeps clocking it. -/
theorem iterate_of_clock {σ : Type} {step : σ → σ} {view : σ → Divider α} {kept : σ → Prop}
    (keeps : ∀ s, kept s → kept (step s))
    (moves : ∀ s, kept s → view (step s) = (view s).clock period next)
    {s : σ} (start : kept s) (n : Nat) :
    kept (step^[n] s) ∧ view (step^[n] s) = (clock period next)^[n] (view s) := by
  induction n with
  | zero => exact ⟨start, rfl⟩
  | succ n ih =>
      rw [Function.iterate_succ_apply', Function.iterate_succ_apply', ← ih.2]
      exact ⟨keeps _ ih.1, moves _ ih.1⟩

theorem map_iterate_of_clock {σ : Type} {step : σ → σ} {view : σ → Divider α} {kept : σ → Prop}
    (keeps : ∀ s, kept s → kept (step s))
    (moves : ∀ s, kept s → view (step s) = (view s).clock period next)
    {s : σ} (start : kept s) (n : Nat) :
    (List.iterate step s n).map view = List.iterate (clock period next) (view s) n := by
  induction n generalizing s with
  | zero => rfl
  | succ n ih => rw [List.iterate, List.map_cons, ih (keeps s start), moves s start, List.iterate]

end Divider

end ChipScribe
