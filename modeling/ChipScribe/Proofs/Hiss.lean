import ChipScribe.Proofs.Divider
import ChipScribe.Proofs.ShiftRegister
import ChipScribe.Proofs.Wavelength

/-!
# How noise runs

While the noise channel plays on, its timer steps the shift register once a period,
whatever clocks its countdown had still to go.  Together with the orders of the two
modes this says what a listener hears: every value but zero once before any comes
again, or a short pattern over and over.
-/

namespace ChipScribe

namespace Noise

/-! ## The timer -/

def timer (n : Noise) : Divider UInt16 :=
  ⟨n.countdown.toNat, n.shift⟩

/-- The channel sounds, with these settings. -/
structure Plays (period : UInt8) (short : Bool) (volume : UInt8) (n : Noise) : Prop where
  active : n.length.active = true
  period : n.period = period
  mode : n.shortMode = short
  volume : n.envelope.volume = volume

variable {period : UInt8} {short : Bool} {volume : UInt8} {n : Noise}

instance : Decidable (n.Plays period short volume) :=
  decidable_of_iff
    (n.length.active = true ∧ n.period = period ∧ n.shortMode = short ∧ n.envelope.volume = volume)
    ⟨fun ⟨active, period, mode, volume⟩ => ⟨active, period, mode, volume⟩,
      fun ⟨active, period, mode, volume⟩ => ⟨active, period, mode, volume⟩⟩

theorem Plays.output (plays : n.Plays period short volume) :
    n.output = if n.shift &&& 1 = 1 then volume else 0 := by
  have low : n.shift &&& 1 ≤ 1 := UInt16.and_le_right
  have bit : (n.shift &&& 1 != 0) = decide (n.shift &&& 1 = 1) := by grind
  rw [Noise.output, plays.active, plays.volume, bit, Bool.true_and]
  simp only [decide_eq_true_eq]

theorem Plays.advance (plays : n.Plays period short volume) (r : Region) :
    (n.advance r).Plays period short volume := by
  unfold Noise.advance
  rw [plays.active, if_neg (by decide)]
  split <;> exact ⟨plays.active, plays.period, plays.mode, plays.volume⟩

theorem Plays.timer_advance (plays : n.Plays period short volume) (counting : 1 ≤ n.countdown)
    (r : Region) :
    (n.advance r).timer = n.timer.clock (r.noisePeriod period).toNat (stepShift short) := by
  unfold Noise.advance
  rw [plays.active, if_neg (by decide), plays.period, plays.mode, timer, timer,
    Divider.clock_word counting]
  exact apply_ite timer _ _ _

/-! ## Runs -/

/--
What clocks find of a noise channel that plays on.  The timer has `start` clocks to go
before it steps the register for the first time.
-/
structure Rattles (period : Nat) (short : Bool) (volume : UInt8) (start : Nat) (first : UInt16)
    (ns : List Noise) : Prop where
  stepped {i : Nat} {n : Noise} : ns[i]? = some n →
    n.shift = (stepShift short)^[Divider.turns period start i] first
  once {i : Nat} {n later : Noise} : ns[i]? = some n → ns[i + 1]? = some later →
    later.shift =
      if start ≤ i + 1 ∧ period ∣ i + 1 - start then stepShift short n.shift else n.shift
  output {n : Noise} : n ∈ ns → n.output = if n.shift &&& 1 = 1 then volume else 0

/-- A list of channels whose timers are clocked from one to the next. -/
theorem rattles_of_timers {span start : Nat} {first : UInt16} {ns : List Noise} (pos : 0 < span)
    (counting : 0 < start) (plays : ∀ n ∈ ns, n.Plays period short volume)
    (timers : ns.map timer =
      List.iterate (Divider.clock span (stepShift short)) ⟨start, first⟩ ns.length) :
    Rattles span short volume start first ns := by
  have stepped {i : Nat} {n : Noise} (here : ns[i]? = some n) :
      n.shift = (stepShift short)^[Divider.turns span start i] first := by
    have inside := (List.getElem?_eq_some_iff.mp here).1
    have found : (ns.map timer)[i]? = some n.timer := by rw [List.getElem?_map, here]; rfl
    rw [timers, List.getElem?_iterate _ _ _ _ inside, Option.some_inj] at found
    have moved := Divider.moved_iterate (stepShift short) pos (d := ⟨start, first⟩) counting i
    rwa [found] at moved
  refine ⟨stepped, fun here next => ?_, fun member => (plays _ member).output⟩
  rw [stepped here, stepped next, Divider.turns_succ counting]
  split
  · rw [Function.iterate_succ_apply']
  · rfl

/-- However far on its countdown is, a channel that plays is stepped once a period. -/
theorem Plays.rattles (plays : n.Plays period short volume) (counting : 1 ≤ n.countdown)
    (r : Region) (count : Nat) :
    Rattles (r.noisePeriod period).toNat short volume n.countdown.toNat n.shift
      (List.iterate (Noise.advance r) n count) := by
  have pos : 0 < (r.noisePeriod period).toNat := (r.noisePeriod_le period).1
  have moves (n : Noise) (kept : n.Plays period short volume ∧ 1 ≤ n.countdown) :=
    kept.1.timer_advance kept.2 r
  have keeps (n : Noise) (kept : n.Plays period short volume ∧ 1 ≤ n.countdown) :
      (n.advance r).Plays period short volume ∧ 1 ≤ (n.advance r).countdown := by
    have left := Divider.left_clock_pos (stepShift short) pos n.timer
    rw [← moves n kept] at left
    exact ⟨kept.1.advance r, left⟩
  have all : ∀ later ∈ List.iterate (Noise.advance r) n count,
      later.Plays period short volume := fun later found => by
    rw [← List.range_map_iterate] at found
    obtain ⟨i, -, rfl⟩ := List.mem_map.mp found
    exact (Divider.iterate_of_clock keeps moves ⟨plays, counting⟩ i).1.1
  have timers := Divider.map_iterate_of_clock keeps moves ⟨plays, counting⟩ count
  refine rattles_of_timers pos counting all ?_
  rwa [List.length_iterate]

/-! ## The register -/

/-- The register holds fifteen bits, and not all of them are zero. -/
def Alive (n : Noise) : Prop :=
  1 ≤ n.shift ∧ n.shift ≤ 0x7FFF

theorem Alive.advance (h : n.Alive) (r : Region) : (n.advance r).Alive := by
  unfold Noise.advance
  split
  · exact h
  · split
    · exact ⟨stepShift_pos _ h.1, stepShift_le _ h.2⟩
    · exact h

/--
What the steps do to a value of fifteen bits: the long mode goes through every value but
zero before it is back, the short mode is back after 93 steps, and each mode leads to the
value from exactly one.
-/
structure Cycles (x : UInt16) : Prop where
  long : 1 ≤ x → (List.iterate (stepShift false) x 32767).Nodup ∧
    (∀ y, y ∈ List.iterate (stepShift false) x 32767 ↔ 1 ≤ y ∧ y ≤ 0x7FFF) ∧
      (stepShift false)^[32767] x = x
  short : (stepShift true)^[93] x = x
  reversible (short : Bool) : ∃! w, w ≤ 0x7FFF ∧ stepShift short w = x

theorem cycles {x : UInt16} (range : x ≤ 0x7FFF) : Cycles x where
  long pos := ⟨(long_runs_through pos range).1, (long_runs_through pos range).2, long_returns range⟩
  short := short_returns range
  reversible short := by
    have permutes := bijOn_stepShift short
    obtain ⟨w, small, steps⟩ := permutes.surjOn range
    exact ⟨w, ⟨small, steps⟩, fun v ⟨little, same⟩ =>
      permutes.injOn little small (same.trans steps.symm)⟩

end Noise

namespace Synth

theorem timer_clock_noise (s : Synth) : s.clock.noise.timer = (s.noise.advance s.region).timer := by
  unfold clock
  cases s.frame.signal <;> rfl

theorem timer_operate_noise {o : Operation} (goesOn : o.restarts .noise = false)
    (still : o.isClock = false) (s : Synth) : (s.operate o).noise.timer = s.noise.timer := by
  refine operate_of_writes (fun s => s.noise.timer) goesOn still s rfl (fun _ => rfl)
    fun _ _ register _ _ => ?_
  cases register with
  | pulseControl side | pulseSweep side | pulseTimerLow side | pulseTimerHigh side =>
      cases side <;> rfl
  | _ => rfl

theorem alive_operate {s : Synth} (h : s.noise.Alive) (o : Operation) :
    (s.operate o).noise.Alive := by
  have moved {n : Noise} (same : (s.operate o).noise.timer = n.timer) (alive : n.Alive) :
      (s.operate o).noise.Alive := by
    have shift : (s.operate o).noise.shift = n.shift := congrArg Divider.moved same
    rwa [Noise.Alive, shift]
  cases o with
  | power => exact ⟨(by decide : (1 : UInt16) ≤ 1), (by decide : (1 : UInt16) ≤ 0x7FFF)⟩
  | clock memory => exact moved s.timer_clock_noise (h.advance s.region)
  | write address data =>
      exact moved (timer_operate_noise (o := .write address data) rfl rfl s) h
  | _ => exact moved (timer_operate_noise rfl rfl s) h

/-- A chip's channel is stepped once a period as well, whatever calls stand between the clocks. -/
theorem noise_rattles {s : Synth} (h : s.InRange) {period : UInt8} {short : Bool} {volume : UInt8}
    {ops : List Operation} (goesOn : ∀ o ∈ ops, o.restarts .noise = false)
    (plays : ∀ s' ∈ s.clocked ops, s'.noise.Plays period short volume) :
    Noise.Rattles (s.region.noisePeriod period).toNat short volume s.noise.countdown.toNat
      s.noise.shift ((s.clocked ops).map fun s' => s'.noise) := by
  have turns (s' : Synth) (found : s' ∈ s.clocked ops) : s'.clock.noise.timer =
      s'.noise.timer.clock (s.region.noisePeriod period).toNat (Noise.stepShift short) := by
    have counting := (inRange_clocked h ops s' found).noise.countdown.1
    rw [timer_clock_noise, (plays s' found).timer_advance counting, region_clocked s ops s' found]
  have timers := s.map_clocked (fun s' => s'.noise.timer)
    (fun o member => timer_operate_noise (goesOn o member)) turns
  refine Noise.rattles_of_timers (s.region.noisePeriod_le period).1 h.noise.countdown.1
    (List.forall_mem_map.mpr plays) ?_
  rw [List.map_map, List.length_map]
  exact timers

end Synth

/--
Noise is a sequence of greatest length at the rate it is set to: a channel that plays is
stepped once a period from its first step on, by itself or in a chip; the steps go through
all values or come back early, as the mode is; and no run of a chip, whatever modes and
rates it sets, empties a register that is not empty.
-/
theorem Noise.runs_through_at_rate :
    (∀ (r : Region) (n : Noise) (period : UInt8) (short : Bool) (volume : UInt8),
      n.Plays period short volume → 1 ≤ n.countdown → ∀ count,
        Rattles (r.noisePeriod period).toNat short volume n.countdown.toNat n.shift
          (List.iterate (Noise.advance r) n count)) ∧
      (∀ c : Chip, Reachable c → ∀ (ops : List Operation) (period : UInt8) (short : Bool)
        (volume : UInt8), (∀ o ∈ ops, o.restarts .noise = false) →
          (∀ s ∈ c.clocked ops, s.noise.Plays period short volume) →
            Rattles (c.synth.region.noisePeriod period).toNat short volume
              c.synth.noise.countdown.toNat c.synth.noise.shift
              ((c.clocked ops).map fun s => s.noise)) ∧
      (∀ x : UInt16, x ≤ 0x7FFF → Cycles x) ∧
      ∀ (c : Chip) (ops : List Operation), c.synth.noise.Alive → (c.after ops).synth.noise.Alive := by
  refine ⟨fun r n _ _ _ plays counting => plays.rattles counting r, fun c h ops _ _ _ goesOn plays => ?_,
    fun _ => cycles, fun c ops alive => ?_⟩
  · rw [c.clocked_eq] at plays ⊢
    exact Synth.noise_rattles h.inRange.synth goesOn plays
  · have step (c : Chip) (o : Operation) (_ : True) (here : c.synth.noise.Alive) :
        (c.operate o).1.synth.noise.Alive := by
      rw [c.synth_operate]
      exact Synth.alive_operate here o
    exact Chip.after_induction step c ops (fun _ _ => trivial) alive

/-- A chip in the short mode while its status is read and another channel is written. -/
theorem Noise.runs_through_short :
    let c : Chip := (Chip.ofSettings {}).after ([.power, .write 0x4015 0x08, .write 0x400C 0x3A,
      .write 0x400E 0x81, .write 0x400F 0x08] ++ List.replicate 5 (.clock .zero))
    let ops : List Operation := List.replicate 100 (.clock .zero) ++ .read 0x4015 0 ::
      .write 0x4004 0x3F :: List.replicate 100 (.clock .zero)
    let alone : Noise := {
      length := { count := 1 }, envelope := { speed := 9, constant := true }
      countdown := 3, shift := 0x4000 }
    Rattles 8 true 10 4 0x4000 ((c.clocked ops).map fun s => s.noise) ∧
      Rattles 4 false 9 3 0x4000 (List.iterate (Noise.advance .pal) alone 500) ∧
      Cycles 0x4000 ∧ ((c.after ops).after [.write 0x400E 0x0F, .clock .zero]).synth.noise.Alive := by
  intro c ops alone
  have reached : Reachable c := .after (.new {}) _
  have all := Noise.runs_through_at_rate
  refine ⟨?_, ?_, all.2.2.1 0x4000 (by decide), all.2.2.2 _ _ ?_⟩
  · exact all.2.1 c reached ops 1 true 10 (by decide +kernel) (by decide +kernel)
  · exact all.1 .pal alone 0 false 9 (by decide) (by decide) 500
  · exact ⟨by decide +kernel, by decide +kernel⟩

end ChipScribe
