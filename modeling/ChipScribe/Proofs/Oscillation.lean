import Mathlib.Data.Int.ModEq
import Mathlib.Data.List.Rotate
import ChipScribe.Proofs.Divider

/-!
# Timers, sequences and waves

A timer counts down to its reload, and each reload moves a sequence on by one
place.  Where the places walk through a shape of levels, the levels are that shape
again and again from the first reload on, each held for as long as the timer takes;
and if some change of level comes only once in the shape, nothing shorter is a period.
-/

namespace ChipScribe

/-! ## A timer and its sequence -/

/-- A timer that counts down, and the place of a sequence that it has moved on to. -/
structure Sequencer where
  countdown : UInt16
  place : UInt8

namespace Sequencer

def clock (reload : UInt16) (next : UInt8 → UInt8) (q : Sequencer) : Sequencer :=
  if q.countdown - 1 == 0 then ⟨reload, next q.place⟩
  else { q with countdown := q.countdown - 1 }

variable (reload : UInt16) (next : UInt8 → UInt8) {q : Sequencer}

def timer (q : Sequencer) : Divider UInt8 :=
  ⟨q.countdown.toNat, q.place⟩

theorem timer_clock (counting : 0 < q.countdown.toNat) :
    (q.clock reload next).timer = q.timer.clock reload.toNat next := by
  rw [timer, timer, Divider.clock_word counting]
  exact apply_ite timer _ _ _

/-- The place moves where the timer turns. -/
theorem place_iterate {step : Nat} (length : reload.toNat = step) (pos : 0 < step)
    (counting : 0 < q.countdown.toNat) (n : Nat) :
    ((clock reload next)^[n] q).place = next^[Divider.turns step q.countdown.toNat n] q.place := by
  subst length
  have keeps (q : Sequencer) (counting : 0 < q.countdown.toNat) :
      0 < (q.clock reload next).countdown.toNat := by
    have left := Divider.left_clock_pos next pos q.timer
    rwa [← timer_clock reload next counting] at left
  have run := (Divider.iterate_of_clock keeps (fun _ => timer_clock reload next) counting n).2
  have moved := Divider.moved_iterate next pos (d := q.timer) counting n
  rwa [← run] at moved

end Sequencer

/-! ## Waves -/

/--
Going by `next` from place to place walks through a shape in order and round;
one change of level occurs only once in it.
-/
structure Walks (shape : List UInt8) (next : UInt8 → UInt8) (index : UInt8 → Nat)
    (level : UInt8 → UInt8) : Prop where
  within (q : UInt8) : index q < shape.length
  index_next (q : UInt8) : index (next q) = (index q + 1) % shape.length
  level_eq (q : UInt8) : shape[index q]? = some (level q)
  edge : ∃ i < shape.length, shape[i]? ≠ shape[(i + 1) % shape.length]? ∧
    ∀ j < shape.length, shape[j]? = shape[i]? →
      shape[(j + 1) % shape.length]? = shape[(i + 1) % shape.length]? → j = i

/--
The places and the levels that the clocks find, one after another.  Clock `start`
is the one after the first reload.
-/
structure Oscillates (step period : Nat) (shape : List UInt8) (start : Nat)
    (places levels : List UInt8) : Prop where
  period_eq : period = step * shape.length
  /-- The first reload moves the place, and every `step` clocks after it, and nothing else. -/
  moves {n : Nat} : n + 1 < places.length →
    (places[n + 1]? ≠ places[n]? ↔ start ≤ n + 1 ∧ step ∣ n + 1 - start)
  /-- Each level of the shape is held for `step` clocks, in order and round. -/
  steps : ∃ first, ∀ t, start + t < levels.length →
    levels[start + t]? = shape[(first + t / step) % shape.length]?
  /-- Any period of the levels is the shape, begun at some point of it. -/
  turns {n : Nat} : start ≤ n → n + period ≤ levels.length →
    (levels.drop n).take period ~r shape.flatMap (List.replicate step)
  periodic {n : Nat} : start ≤ n → n + period < levels.length → levels[n + period]? = levels[n]?
  /-- Nothing shorter is a period. -/
  least {d : Nat} : 0 < d → start + period + d < levels.length →
    (∀ n, start ≤ n → n + d < levels.length → levels[n + d]? = levels[n]?) → period ≤ d

theorem Oscillates.nil {step start : Nat} {shape : List UInt8} (pos : 0 < step * shape.length) :
    Oscillates step (step * shape.length) shape start [] [] where
  period_eq := rfl
  moves within := absurd within (Nat.not_lt_zero _)
  steps := ⟨0, fun _ within => absurd within (Nat.not_lt_zero _)⟩
  turns _ within := absurd (Nat.le_trans (Nat.le_add_left _ _) within) (Nat.not_le_of_lt pos)
  periodic _ within := absurd within (Nat.not_lt_zero _)
  least _ within := absurd within (Nat.not_lt_zero _)

/-- Each element of a list held for a while. -/
theorem getElem?_held {α : Type} (shape : List α) {step : Nat} (pos : 0 < step) (j : Nat) :
    (shape.flatMap (List.replicate step))[j]? = shape[j / step]? := by
  induction shape generalizing j with
  | nil => simp
  | cons a shape ih =>
      rw [List.flatMap_cons]
      by_cases here : j < step
      · rw [List.getElem?_append_left (by simpa using here), Nat.div_eq_of_lt here]
        simp [here]
      · have later : j / step = (j - step) / step + 1 := by
          rw [← Nat.add_div_right _ pos, Nat.sub_add_cancel (Nat.le_of_not_lt here)]
        rw [List.getElem?_append_right (by simpa using here), List.length_replicate, ih, later,
          List.getElem?_cons_succ]

section Steps

variable {shape levels : List UInt8} {step start first : Nat} (pos : 0 < step)
  (steps : ∀ t, start + t < levels.length →
    levels[start + t]? = shape[(first + t / step) % shape.length]?)
include pos steps

theorem periodic_of_steps {n : Nat} (late : start ≤ n)
    (within : n + step * shape.length < levels.length) :
    levels[n + step * shape.length]? = levels[n]? := by
  obtain ⟨t, rfl⟩ := Nat.exists_eq_add_of_le late
  have round : (first + (t + step * shape.length) / step) % shape.length =
      (first + t / step) % shape.length := by
    rw [Nat.add_mul_div_left _ _ pos, ← Nat.add_assoc, Nat.add_mod_right]
  rw [Nat.add_assoc, steps _ (by omega), steps _ (by omega), round]

theorem turns_of_steps {n : Nat} (late : start ≤ n)
    (within : n + step * shape.length ≤ levels.length) :
    (levels.drop n).take (step * shape.length) ~r shape.flatMap (List.replicate step) := by
  obtain ⟨t, rfl⟩ := Nat.exists_eq_add_of_le late
  have length : (shape.flatMap (List.replicate step)).length = step * shape.length := by
    simp [List.length_flatMap, Nat.mul_comm]
  refine List.IsRotated.symm ⟨first * step + t, List.ext_getElem? fun i => ?_⟩
  by_cases inside : i < step * shape.length
  · have place : (i + (first * step + t)) / step = first + (t + i) / step := by
      rw [show i + (first * step + t) = t + i + first * step by omega,
        Nat.add_mul_div_right _ _ pos, Nat.add_comm]
    rw [List.getElem?_rotate (by rwa [length]), length, getElem?_held shape pos,
      Nat.mod_mul_right_div_self, place, List.getElem?_take_of_lt inside, List.getElem?_drop,
      Nat.add_assoc, steps _ (by omega)]
  · rw [List.getElem?_eq_none (by rw [List.length_rotate, length]; omega),
      List.getElem?_eq_none (by simp; omega)]

/-- A time that brings back every level brings back the change that occurs only once. -/
theorem least_of_steps {i d : Nat} (inside : i < shape.length)
    (differ : shape[i]? ≠ shape[(i + 1) % shape.length]?)
    (once : ∀ j < shape.length, shape[j]? = shape[i]? →
      shape[(j + 1) % shape.length]? = shape[(i + 1) % shape.length]? → j = i)
    (some : 0 < d) (within : start + step * shape.length + d < levels.length)
    (returns : ∀ n, start ≤ n → n + d < levels.length → levels[n + d]? = levels[n]?) :
    step * shape.length ≤ d := by
  -- The last clock of some step `m` makes the change, and so does the clock `d` later.
  have round : first % shape.length < shape.length := Nat.mod_lt _ (by omega)
  let m := (i + shape.length - first % shape.length) % shape.length
  have few : m < shape.length := Nat.mod_lt _ (by omega)
  have here : (first + m) % shape.length = i := by
    rw [Nat.add_mod_mod, ← Nat.mod_add_mod, Nat.add_sub_cancel' (by omega), Nat.add_mod_right,
      Nat.mod_eq_of_lt inside]
  have along : (m + 1) * step ≤ step * shape.length := by
    rw [Nat.mul_comm step]
    exact Nat.mul_le_mul_right step few
  obtain ⟨t, last⟩ : ∃ t, (m + 1) * step = t + 1 :=
    Nat.exists_eq_add_one.mpr (Nat.mul_pos m.succ_pos pos)
  have next : (t + 1) / step = m + 1 := by rw [← last, Nat.mul_div_cancel _ pos]
  have now : t / step = m := by
    have edge : step ∣ t + 1 := ⟨m + 1, by rw [← last, Nat.mul_comm]⟩
    rw [Nat.succ_div_of_dvd edge] at next
    exact Nat.succ_inj.mp next
  have low : shape[(first + (t + d) / step) % shape.length]? = shape[i]? := by
    have back := returns (start + t) (by omega) (by omega)
    rwa [Nat.add_assoc, steps _ (by omega), steps _ (by omega), now, here] at back
  have high : shape[(first + (t + d + 1) / step) % shape.length]? =
      shape[(i + 1) % shape.length]? := by
    have back := returns (start + (t + 1)) (by omega) (by omega)
    rwa [Nat.add_assoc, steps _ (by omega), steps _ (by omega), next, ← Nat.add_assoc first,
      ← Nat.mod_add_mod (first + m), here, Nat.add_right_comm t] at back
  have turn : step ∣ t + d + 1 := by
    by_contra within
    rw [Nat.succ_div_of_not_dvd within] at high
    exact differ (low.symm.trans high)
  rw [Nat.succ_div_of_dvd turn] at high
  have again : (first + (t + d) / step) % shape.length = i := by
    refine once _ (Nat.mod_lt _ (by omega)) low ?_
    rwa [Nat.mod_add_mod, Nat.add_assoc]
  have whole : ((t + d) / step + 1) * step = t + d + 1 := by
    rw [← Nat.succ_div_of_dvd turn, Nat.div_mul_cancel turn]
  have forth : m < (t + d) / step := by
    by_contra back
    have fewer : (t + d) / step + 1 ≤ m + 1 := by omega
    have shorter := Nat.mul_le_mul_right step fewer
    omega
  have rounds : shape.length ∣ (t + d) / step - m :=
    (Nat.modEq_iff_dvd' forth.le).mp (Nat.ModEq.add_left_cancel' first (here.trans again.symm))
  have taken : step * ((t + d) / step - m) = d := by
    rw [Nat.mul_comm, Nat.sub_mul]
    rw [Nat.succ_mul] at whole last
    omega
  calc step * shape.length ≤ step * ((t + d) / step - m) :=
        Nat.mul_le_mul_left step (Nat.le_of_dvd (by omega) rounds)
    _ = d := taken

end Steps

namespace Walks

variable {shape : List UInt8} {next level : UInt8 → UInt8} {index : UInt8 → Nat}
  (w : Walks shape next index level)
include w

theorem length_pos : 0 < shape.length :=
  Nat.zero_lt_of_lt (w.within 0)

theorem index_iterate (place : UInt8) (n : Nat) :
    index (next^[n] place) = (index place + n) % shape.length := by
  induction n with
  | zero => exact (Nat.mod_eq_of_lt (w.within place)).symm
  | succ n ih => rw [Function.iterate_succ_apply', w.index_next, ih, Nat.mod_add_mod, Nat.add_assoc]

theorem next_ne (place : UInt8) : next place ≠ place := by
  obtain ⟨i, inside, differ, -⟩ := w.edge
  intro same
  have stays := w.index_next place
  rw [same] at stays
  have within := w.within place
  -- A shape of one level has no change in it.
  have many : 1 < shape.length := by
    by_contra one
    have only : (i + 1) % shape.length = i := by
      rw [show shape.length = 1 by omega, Nat.mod_one]
      omega
    exact differ (by rw [only])
  rcases Nat.lt_or_ge (index place + 1) shape.length with more | last
  · rw [Nat.mod_eq_of_lt more] at stays
    omega
  · rw [show index place + 1 = shape.length by omega, Nat.mod_self] at stays
    omega

/-- A channel that walks with its timer oscillates. -/
theorem oscillates {q : Sequencer} {reload : UInt16} {step : Nat} (length : reload.toNat = step)
    (pos : 0 < step) (counting : 0 < q.countdown.toNat) (n : Nat) :
    Oscillates step (step * shape.length) shape q.countdown.toNat
      ((List.iterate (Sequencer.clock reload next) q n).map fun q => q.place)
      ((List.iterate (Sequencer.clock reload next) q n).map fun q => level q.place) := by
  have places {i : Nat} (within : i < n) :
      ((List.iterate (Sequencer.clock reload next) q n).map fun q => q.place)[i]? =
        some ((Sequencer.clock reload next)^[i] q).place := by
    rw [List.getElem?_map, List.getElem?_iterate _ _ _ _ within, Option.map_some]
  have place (n : Nat) := Sequencer.place_iterate reload next length pos counting n
  have steps (t : Nat) (within : q.countdown.toNat + t <
      ((List.iterate (Sequencer.clock reload next) q n).map fun q => level q.place).length) :
      ((List.iterate (Sequencer.clock reload next) q n).map fun q => level q.place)[
          q.countdown.toNat + t]? =
        shape[(index q.place + 1 + t / step) % shape.length]? := by
    rw [List.length_map, List.length_iterate] at within
    rw [List.getElem?_map, List.getElem?_iterate _ _ _ _ within, Option.map_some, place,
      Divider.turns_from, ← w.level_eq, w.index_iterate, Nat.add_right_comm, Nat.add_assoc]
  obtain ⟨i, inside, differ, once⟩ := w.edge
  refine ⟨rfl, ?moves, ⟨_, steps⟩, turns_of_steps pos steps, periodic_of_steps pos steps,
    least_of_steps pos steps inside differ once⟩
  case moves =>
    intro m within
    rw [List.length_map, List.length_iterate] at within
    rw [places within, places (Nat.lt_of_succ_lt within), Ne, Option.some_inj]
    rw [place, place, Divider.turns_succ counting]
    split
    next turned =>
      rw [Function.iterate_succ_apply']
      exact iff_of_true (w.next_ne _) turned
    next stays => exact iff_of_false (fun moved => moved rfl) stays

end Walks

end ChipScribe
