import ChipScribe.Proofs.Exact
import ChipScribe.Proofs.Hysteresis
import ChipScribe.Proofs.Oscillation
import ChipScribe.Proofs.Safety
import ChipScribe.Proofs.SwitchedOff

/-!
# Channels sound as they are pitched

While a pulse channel or the triangle plays on with the same settings, its output
oscillates.  A pulse takes 16 clocks and the triangle 32, times one more than the
timer period, for a turn; this is exactly the divisor that the pitch of the notes
is computed from.
-/

namespace ChipScribe

/-! ## The channels -/

namespace Pulse

def sequencer (p : Pulse) : Sequencer :=
  ⟨p.countdown, p.phase⟩

def stepDown (phase : UInt8) : UInt8 :=
  (phase - 1) &&& 7

def eighths (duty : UInt8) : Nat :=
  [1, 2, 4, 6].getD (duty.toNat % 4) 0

/-- One run of the volume and one of silence. -/
def square (duty volume : UInt8) : List UInt8 :=
  List.replicate (eighths duty) volume ++ List.replicate (8 - eighths duty) 0

/-- Where a phase stands in the shape; the fourth duty begins at phase 5, the others at 7. -/
def indexOf (duty phase : UInt8) : Nat :=
  ((if duty.toNat % 4 = 3 then 13 else 15) - phase.toNat % 8) % 8

theorem eighths_range (duty : UInt8) : 1 ≤ eighths duty ∧ eighths duty ≤ 6 := by
  have table : ∀ d : Fin 4, 1 ≤ [1, 2, 4, 6].getD d 0 ∧ [1, 2, 4, 6].getD d 0 ≤ 6 := by decide
  exact table ⟨duty.toNat % 4, Nat.mod_lt _ (by decide)⟩

theorem length_square (duty volume : UInt8) : (square duty volume).length = 8 := by
  have range := eighths_range duty
  simp only [square, List.length_append, List.length_replicate]
  omega

theorem getElem?_square (duty volume : UInt8) {i : Nat} (inside : i < 8) :
    (square duty volume)[i]? = some (if i < eighths duty then volume else 0) := by
  unfold square
  split
  next loud =>
    rw [List.getElem?_append_left (by simpa using loud)]
    simp [loud]
  next quiet =>
    rw [List.getElem?_append_right (by simpa using quiet), List.length_replicate]
    simp only [List.getElem?_replicate, Option.ite_none_right_eq_some, and_true]
    omega

theorem high_iff (duty phase : UInt8) :
    high duty phase = true ↔ indexOf duty phase < eighths duty := by
  have table : ∀ (d : Fin 4) (q : Fin 8), (dutyTable[d])[q] = true ↔
      ((if d.val = 3 then 13 else 15) - q.val) % 8 < [1, 2, 4, 6].getD d 0 := by
    decide
  exact table ⟨duty.toNat % 4, Nat.mod_lt _ (by decide)⟩ ⟨phase.toNat % 8, Nat.mod_lt _ (by decide)⟩

theorem indexOf_lt (duty phase : UInt8) : indexOf duty phase < 8 :=
  Nat.mod_lt _ (by decide)

theorem toNat_stepDown (phase : UInt8) : (stepDown phase).toNat = (phase.toNat + 7) % 8 := by
  have masked : (stepDown phase).toNat = (phase - 1).toNat % 8 :=
    Nat.and_two_pow_sub_one_eq_mod (phase - 1).toNat 3
  have bound := phase.toNat_lt
  rw [masked, UInt8.toNat_sub]
  change (256 - 1 + phase.toNat) % 256 % 8 = _
  omega

theorem walks (duty : UInt8) {volume : UInt8} (loud : volume ≠ 0) :
    Walks (square duty volume) stepDown (indexOf duty)
      fun phase => if high duty phase then volume else 0 where
  within phase := by
    rw [length_square]
    exact indexOf_lt duty phase
  index_next phase := by
    rw [length_square]
    simp only [indexOf, toNat_stepDown]
    split <;> omega
  level_eq phase := by
    rw [getElem?_square duty volume (indexOf_lt duty phase)]
    simp only [high_iff]
  edge := by
    -- Silence turns to sound only where the last eighth is followed by the first.
    have range := eighths_range duty
    have quiet {i : Nat} (inside : i < 8) :
        (square duty volume)[i]? = some 0 ↔ eighths duty ≤ i := by
      rw [getElem?_square duty volume inside]
      split <;> simp_all
    have last : (square duty volume)[7]? = some 0 := (quiet (by decide)).mpr (by omega)
    have first : (square duty volume)[0]? = some volume := by
      rw [getElem?_square duty volume (by decide), if_pos (Nat.pos_of_ne_zero (by omega))]
    rw [length_square]
    refine ⟨7, by decide, ?_, fun j inside low high => ?_⟩
    · rw [last, show (7 + 1) % 8 = 0 from rfl, first]
      simpa using loud.symm
    rw [last] at low
    rw [show (7 + 1) % 8 = 0 from rfl, first] at high
    by_contra other
    rw [Nat.mod_eq_of_lt (by omega), getElem?_square duty volume (by omega)] at high
    have below := (quiet inside).mp low
    rw [if_neg (by omega)] at high
    exact loud (Option.some_inj.mp high).symm

theorem sequencer_advance {p : Pulse} (sounds : p.sounding = true) :
    p.advance.sequencer = p.sequencer.clock ((p.sweep.timer + 1) * 2) stepDown := by
  unfold advance
  rw [sounds, if_neg (by decide)]
  exact apply_ite Pulse.sequencer _ _ _

end Pulse

namespace Triangle

def sequencer (t : Triangle) : Sequencer :=
  ⟨t.countdown, t.step⟩

def stepUp (step : UInt8) : UInt8 :=
  (step + 1) &&& 0x1F

/-- The steps of the staircase from its first 0 on, up and down again. -/
def staircase : List UInt8 :=
  (List.range 16 ++ (List.range 16).reverse).map Nat.toUInt8

def indexOf (step : UInt8) : Nat :=
  (step.toNat + 16) % 32

def level (step : UInt8) : UInt8 :=
  output { step := step }

theorem toNat_stepUp (step : UInt8) : (stepUp step).toNat = (step.toNat + 1) % 32 := by
  have masked : (stepUp step).toNat = (step + 1).toNat % 32 :=
    Nat.and_two_pow_sub_one_eq_mod (step + 1).toNat 5
  rw [masked, UInt8.toNat_add]
  change (step.toNat + 1) % 256 % 32 = _
  omega

theorem walks : Walks staircase stepUp indexOf level where
  within step := Nat.mod_lt _ (by decide)
  index_next step := by
    change ((stepUp step).toNat + 16) % 32 = ((step.toNat + 16) % 32 + 1) % 32
    rw [toNat_stepUp]
    omega
  level_eq step := by
    have table : ∀ n : Fin 256,
        staircase[indexOf (UInt8.ofNat n)]? = some (level (UInt8.ofNat n)) := by
      decide +kernel
    have here := table ⟨step.toNat, step.toNat_lt⟩
    rwa [UInt8.ofNat_toNat] at here
  edge := by
    -- The staircase is at 0 twice, and goes on to 1 from the first of them.
    refine ⟨0, ?_⟩
    decide

theorem sequencer_advance {t : Triangle} (sounds : t.sounding = true) :
    t.advance.sequencer = t.sequencer.clock (t.timer + 1) stepUp := by
  unfold advance
  rw [sounds, if_neg (by decide)]
  exact apply_ite Triangle.sequencer _ _ _

end Triangle

/-! ## Runs -/

/-- Calls that set the sequence back; for a pulse so does a write of the upper timer half. -/
def Operation.restarts (p : Part) : Operation → Bool
  | .power => true
  | .write address _ =>
      match p, Register.ofAddress? address with
      | .pulse side, some (.pulseTimerHigh side') => side == side'
      | _, _ => false
  | _ => false

namespace Synth

/-- What the clocks of a run find, before they move it. -/
def clocked (s : Synth) : List Operation → List Synth
  | [] => []
  | o :: rest =>
      let later := (s.operate o).clocked rest
      if o.isClock then s :: later else later

/-- What every operation keeps, every clock finds. -/
theorem forall_clocked {kept : Synth → Prop} (step : ∀ s o, kept s → kept (s.operate o))
    {s : Synth} (start : kept s) (ops : List Operation) : ∀ s' ∈ s.clocked ops, kept s' := by
  induction ops generalizing s with
  | nil => simp [clocked]
  | cons o ops ih =>
      have later := ih (step s o start)
      cases clocks : o.isClock with
      | true =>
          simp only [clocked, clocks, if_pos, List.forall_mem_cons]
          exact ⟨start, later⟩
      | false =>
          simp only [clocked, clocks, Bool.false_eq_true, if_false]
          exact later

theorem inRange_clocked {s : Synth} (h : s.InRange) (ops : List Operation) :
    ∀ s' ∈ s.clocked ops, s'.InRange :=
  forall_clocked (fun _ o kept => kept.operate o) h ops

theorem region_clocked (s : Synth) (ops : List Operation) :
    ∀ s' ∈ s.clocked ops, s'.region = s.region :=
  forall_clocked (fun s' o kept => (s'.region_operate o).trans kept) rfl ops

/-- A part that only clocks move runs on from clock to clock. -/
theorem map_clocked {α : Type} (part : Synth → α) {next : α → α} (s : Synth)
    {ops : List Operation}
    (still : ∀ o ∈ ops, o.isClock = false → ∀ s : Synth, part (s.operate o) = part s)
    (turns : ∀ s' ∈ s.clocked ops, part s'.clock = next (part s')) :
    (s.clocked ops).map part = List.iterate next (part s) (s.clocked ops).length := by
  induction ops generalizing s with
  | nil => rfl
  | cons o ops ih =>
      obtain ⟨here, later⟩ := List.forall_mem_cons.mp still
      cases clocks : o.isClock with
      | true =>
          have moved : s.operate o = s.clock := by
            cases o with
            | clock memory => rfl
            | _ => cases clocks
          simp only [clocked, clocks, if_pos, List.forall_mem_cons] at turns ⊢
          rw [List.map_cons, ih _ later turns.2, List.length_cons, moved, turns.1]
          rfl
      | false =>
          simp only [clocked, clocks, Bool.false_eq_true, if_false] at turns ⊢
          have rest := ih (s.operate o) later turns
          rwa [here clocks] at rest

theorem oscillates_clocked (part : Synth → Sequencer) {reload : UInt16} {step : Nat}
    {shape : List UInt8} {next level : UInt8 → UInt8} {index : UInt8 → Nat}
    (w : Walks shape next index level) (pos : 0 < step) {s : Synth} {ops : List Operation}
    (counting : 0 < (part s).countdown.toNat)
    (still : ∀ o ∈ ops, o.isClock = false → ∀ s : Synth, part (s.operate o) = part s)
    (turns : ∀ s' ∈ s.clocked ops,
      reload.toNat = step ∧ part s'.clock = (part s').clock reload next) :
    Oscillates step (step * shape.length) shape (part s).countdown.toNat
      ((s.clocked ops).map fun s' => (part s').place)
      ((s.clocked ops).map fun s' => level (part s').place) := by
  have run := s.map_clocked part still fun s' found => (turns s' found).2
  cases clocked : s.clocked ops with
  | nil => exact .nil (Nat.mul_pos pos w.length_pos)
  | cons s' later =>
      have length : reload.toNat = step := (turns s' (by simp [clocked])).1
      have wave := w.oscillates length pos counting (s.clocked ops).length
      rw [← run, List.map_map, List.map_map, clocked] at wave
      exact wave

theorem sequencer_clock_pulse (s : Synth) (side : PulseSide) :
    (s.clock.pulse side).sequencer = (s.pulse side).advance.sequencer := by
  unfold clock
  cases s.frame.signal <;> cases side <;> rfl

theorem sequencer_clock_triangle (s : Synth) :
    s.clock.triangle.sequencer = s.triangle.advance.sequencer := by
  unfold clock
  cases s.frame.signal <;> rfl

/-- A part that only clocks and restarts move is left alone by every other call. -/
theorem operate_of_writes {α : Type} (part : Synth → α) {p : Part} {o : Operation}
    (goesOn : o.restarts p = false) (still : o.isClock = false) (s : Synth)
    (acknowledge : part s.acknowledge = part s) (supply : ∀ data, part (s.supply data) = part s)
    (write : ∀ address data register, o = .write address data →
      Register.ofAddress? address = some register → part (s.write register data) = part s) :
    part (s.operate o) = part s := by
  cases o with
  | power => cases goesOn
  | clock memory => cases still
  | read address openBus =>
      simp only [operate]
      split
      · exact acknowledge
      · rfl
  | write address data =>
      simp only [operate]
      cases named : Register.ofAddress? address with
      | none => rfl
      | some register => exact write address data register rfl named
  | supply data => exact supply data
  | _ => rfl

theorem sequencer_operate_pulse {side : PulseSide} {o : Operation}
    (goesOn : o.restarts (.pulse side) = false) (still : o.isClock = false) (s : Synth) :
    ((s.operate o).pulse side).sequencer = (s.pulse side).sequencer := by
  refine operate_of_writes (fun s => (s.pulse side).sequencer) goesOn still s ?_ ?_ ?_
  · cases side <;> rfl
  · cases side <;> exact fun _ => rfl
  rintro address data register rfl named
  cases register with
  | pulseTimerHigh side' =>
      have other : side ≠ side' := by simpa [Operation.restarts, named] using goesOn
      cases side <;> cases side' <;>
        first
        | rfl
        | exact absurd rfl other
  | pulseControl side' | pulseSweep side' | pulseTimerLow side' =>
      cases side <;> cases side' <;> rfl
  | _ => cases side <;> rfl

theorem sequencer_operate_triangle {o : Operation}
    (goesOn : o.restarts .triangle = false) (still : o.isClock = false) (s : Synth) :
    (s.operate o).triangle.sequencer = s.triangle.sequencer := by
  refine operate_of_writes (fun s => s.triangle.sequencer) goesOn still s rfl (fun _ => rfl)
    fun _ _ register _ _ => ?_
  cases register with
  | pulseControl side | pulseSweep side | pulseTimerLow side | pulseTimerHigh side =>
      cases side <;> rfl
  | _ => rfl

end Synth

/-! ## The pitch -/

namespace Pitch

/-- The pitch of a wave that takes so many clocks. -/
def ofWavelength (clocks : Nat) : Float :=
  12.0 * (clockHz / clocks.toUInt32.toFloat / 27.5).log2 + 21.0

/-- No rounding comes between a timer period and the wavelength. -/
theorem ofPeriod_eq {divider : Float} {whole : Nat} (exact : divider = wholeFloat whole)
    (few : whole < 2 ^ 16) (timer : UInt16) :
    ofPeriod divider timer = ofWavelength (whole * (timer.toNat + 1)) := by
  have bound := timer.toNat_lt
  have small : whole * (timer.toNat + 1) < 2 ^ 32 := by
    calc whole * (timer.toNat + 1) ≤ whole * 2 ^ 16 := Nat.mul_le_mul_left _ bound
      _ < 2 ^ 16 * 2 ^ 16 := Nat.mul_lt_mul_of_pos_right few (by decide)
  have one : (1.0 : Float) = wholeFloat 1 := rfl
  have clocks : divider * (timer.toFloat + 1.0) =
      (whole * (timer.toNat + 1)).toUInt32.toFloat := by
    rw [exact, toFloat_word, one, wholeFloat_add (by omega), wholeFloat_mul (by omega) (by omega)
      (by omega), toFloat_long]
    congr 1
    exact (Nat.mod_eq_of_lt small).symm
  rw [ofPeriod, clocks]
  rfl

theorem ofPeriod_pulse (timer : UInt16) :
    ofPeriod pulseDivider timer = ofWavelength (16 * (timer.toNat + 1)) :=
  ofPeriod_eq (show pulseDivider = wholeFloat 16 from rfl) (by decide) timer

theorem ofPeriod_triangle (timer : UInt16) :
    ofPeriod triangleDivider timer = ofWavelength (32 * (timer.toNat + 1)) :=
  ofPeriod_eq (show triangleDivider = wholeFloat 32 from rfl) (by decide) timer

end Pitch

namespace Voice

/-- What a settled voice makes of the pitch of a pulse channel that is audible. -/
def hearPulse (t : Tuning) (p : Pulse) (pitch : Float) (v : Voice) : Voice :=
  if pitch > 127.0 then v.hush else v.soundPulse t p pitch

/-- What a settled voice makes of the pitch of a triangle that is audible. -/
def hearTriangle (t : Tuning) (pitch : Float) (v : Voice) : Voice :=
  let v := { v with want := { v.want with chan := v.lane 0, vel := t.triangleVelocity } }
  if pitch > 127.0 then { v with want := { v.want with note := 0 } } else v.steer t pitch

end Voice

/-! ## Channels that play on -/

namespace Pulse

variable {timer : UInt16} {duty volume : UInt8} {p : Pulse}

/-- The channel is audible, with these settings. -/
structure Plays (timer : UInt16) (duty volume : UInt8) (p : Pulse) : Prop where
  sounding : p.sounding = true
  timer : p.sweep.timer = timer
  duty : p.duty = duty
  volume : p.envelope.volume = volume

instance : Decidable (p.Plays timer duty volume) :=
  decidable_of_iff
    (p.sounding = true ∧ p.sweep.timer = timer ∧ p.duty = duty ∧ p.envelope.volume = volume)
    ⟨fun ⟨sounding, timer, duty, volume⟩ => ⟨sounding, timer, duty, volume⟩,
      fun ⟨sounding, timer, duty, volume⟩ => ⟨sounding, timer, duty, volume⟩⟩

/-- What a pulse channel puts out while it plays on, and what pitch a settled voice hears. -/
structure SoundsAsPitched (timer : UInt16) (duty volume : UInt8) (start : Nat)
    (ps : List Pulse) : Prop where
  wave : Oscillates (2 * (timer.toNat + 1)) (16 * (timer.toNat + 1)) (square duty volume) start
    (ps.map fun p => p.phase) (ps.map fun p => p.output)
  pitch {p : Pulse} : p ∈ ps → ∀ (t : Tuning) (v : Voice), v.settle = 0 →
    v.followPulse t p = v.hearPulse t p (Pitch.ofWavelength (16 * (timer.toNat + 1)))

theorem Plays.output (plays : p.Plays timer duty volume) :
    p.output = if high duty p.phase then volume else 0 := by
  rw [Pulse.output, plays.sounding, plays.duty, plays.volume, Bool.true_and]

theorem Plays.sequencer_advance (plays : p.Plays timer duty volume) :
    p.advance.sequencer = p.sequencer.clock ((timer + 1) * 2) stepDown := by
  rw [Pulse.sequencer_advance plays.sounding, plays.timer]

theorem Plays.followPulse (plays : p.Plays timer duty volume) (t : Tuning) {v : Voice}
    (settled : v.settle = 0) :
    v.followPulse t p = v.hearPulse t p (Pitch.ofWavelength (16 * (timer.toNat + 1))) := by
  unfold Voice.followPulse
  rw [if_neg (by simp [settled]), plays.sounding, if_neg (by decide), plays.timer,
    Pitch.ofPeriod_pulse]
  rfl

theorem toNat_reload (range : timer ≤ 0x7FF) :
    ((timer + 1) * 2).toNat = 2 * (timer.toNat + 1) := by
  have bound : timer.toNat ≤ 2047 := range
  rw [UInt16.toNat_mul, UInt16.toNat_add]
  change (timer.toNat + 1) % 65536 * 2 % 65536 = _
  omega

end Pulse

namespace Triangle

variable {timer : UInt16} {c : Triangle}

/-- Both counters let the staircase run, with this period. -/
structure Plays (timer : UInt16) (c : Triangle) : Prop where
  sounding : c.sounding = true
  timer : c.timer = timer

instance : Decidable (c.Plays timer) :=
  decidable_of_iff (c.sounding = true ∧ c.timer = timer)
    ⟨fun ⟨sounding, timer⟩ => ⟨sounding, timer⟩, fun ⟨sounding, timer⟩ => ⟨sounding, timer⟩⟩

/-- What the triangle puts out while it plays on, and what pitch a settled voice hears. -/
structure SoundsAsPitched (timer : UInt16) (start : Nat) (cs : List Triangle) : Prop where
  wave : Oscillates (timer.toNat + 1) (32 * (timer.toNat + 1)) staircase start
    (cs.map fun c => c.step) (cs.map fun c => c.output)
  pitch {c : Triangle} : c ∈ cs → 1 < timer → ∀ (t : Tuning) (v : Voice), v.settle = 0 →
    v.followTriangle t c = v.hearTriangle t (Pitch.ofWavelength (32 * (timer.toNat + 1)))

theorem Plays.sequencer_advance (plays : c.Plays timer) :
    c.advance.sequencer = c.sequencer.clock (timer + 1) stepUp := by
  rw [Triangle.sequencer_advance plays.sounding, plays.timer]

theorem Plays.followTriangle (plays : c.Plays timer) (low : 1 < timer) (t : Tuning) {v : Voice}
    (settled : v.settle = 0) :
    v.followTriangle t c = v.hearTriangle t (Pitch.ofWavelength (32 * (timer.toNat + 1))) := by
  have heard : (!c.sounding || decide (c.timer ≤ 1)) = false := by
    simpa [plays.sounding, plays.timer] using low
  unfold Voice.followTriangle
  rw [if_neg (by simp [settled]), heard, if_neg (by decide), plays.timer, Pitch.ofPeriod_triangle]
  rfl

end Triangle

theorem Synth.pulse_sounds_as_pitched {s : Synth} (h : s.InRange) (side : PulseSide)
    {timer : UInt16} {duty volume : UInt8} (loud : volume ≠ 0) {ops : List Operation}
    (goesOn : ∀ o ∈ ops, o.restarts (.pulse side) = false)
    (plays : ∀ s' ∈ s.clocked ops, (s'.pulse side).Plays timer duty volume) :
    Pulse.SoundsAsPitched timer duty volume (s.pulse side).countdown.toNat
      ((s.clocked ops).map fun s' => s'.pulse side) where
  pitch member t _ settled := by
    obtain ⟨s', found, rfl⟩ := List.mem_map.mp member
    exact (plays s' found).followPulse t settled
  wave := by
    have range {s' : Synth} (h : s'.InRange) : (s'.pulse side).InRange := by
      cases side
      · exact h.pulse1
      · exact h.pulse2
    have turns (s' : Synth) (found : s' ∈ s.clocked ops) :
        ((timer + 1) * 2).toNat = 2 * (timer.toNat + 1) ∧ (s'.clock.pulse side).sequencer =
          (s'.pulse side).sequencer.clock ((timer + 1) * 2) Pulse.stepDown := by
      have eleven := (range (inRange_clocked h ops s' found)).sweep.timer
      rw [(plays s' found).timer] at eleven
      exact ⟨Pulse.toNat_reload eleven,
        (s'.sequencer_clock_pulse side).trans (plays s' found).sequencer_advance⟩
    have pos : 0 < 2 * (timer.toNat + 1) := by omega
    have wave := oscillates_clocked (fun s' => (s'.pulse side).sequencer) (Pulse.walks duty loud)
      pos (range h).countdown.1 (fun o member => sequencer_operate_pulse (goesOn o member)) turns
    have period : 2 * (timer.toNat + 1) * (Pulse.square duty volume).length =
        16 * (timer.toNat + 1) := by
      rw [Pulse.length_square]
      omega
    have levels : ((s.clocked ops).map fun s' => s'.pulse side).map (fun p => p.output) =
        (s.clocked ops).map fun s' =>
          if Pulse.high duty (s'.pulse side).phase then volume else 0 := by
      rw [List.map_map]
      exact List.map_congr_left fun s' found => (plays s' found).output
    rw [period] at wave
    rw [levels, List.map_map]
    exact wave

theorem Synth.triangle_sounds_as_pitched {s : Synth} (h : s.InRange) {timer : UInt16}
    {ops : List Operation} (goesOn : ∀ o ∈ ops, o.restarts .triangle = false)
    (plays : ∀ s' ∈ s.clocked ops, s'.triangle.Plays timer) :
    Triangle.SoundsAsPitched timer s.triangle.countdown.toNat
      ((s.clocked ops).map fun s' => s'.triangle) where
  pitch member low t _ settled := by
    obtain ⟨s', found, rfl⟩ := List.mem_map.mp member
    exact (plays s' found).followTriangle low t settled
  wave := by
    have turns (s' : Synth) (found : s' ∈ s.clocked ops) :
        (timer + 1).toNat = timer.toNat + 1 ∧ s'.clock.triangle.sequencer =
          s'.triangle.sequencer.clock (timer + 1) Triangle.stepUp := by
      have eleven := (inRange_clocked h ops s' found).triangle.timer
      rw [(plays s' found).timer] at eleven
      have bound : timer.toNat ≤ 2047 := eleven
      refine ⟨?_, s'.sequencer_clock_triangle.trans (plays s' found).sequencer_advance⟩
      rw [UInt16.toNat_add]
      change (timer.toNat + 1) % 65536 = _
      omega
    have wave := oscillates_clocked (fun s' => s'.triangle.sequencer) Triangle.walks
      timer.toNat.succ_pos h.triangle.countdown.1
      (fun o member => sequencer_operate_triangle (goesOn o member)) turns
    rw [Nat.mul_comm] at wave
    rw [List.map_map, List.map_map]
    exact wave

/-- What the clocks of a run of the chip find. -/
def Chip.clocked (c : Chip) : List Operation → List Synth
  | [] => []
  | o :: rest =>
      let later := (c.operate o).1.clocked rest
      if o.isClock then c.synth :: later else later

theorem Chip.clocked_eq (c : Chip) (ops : List Operation) :
    c.clocked ops = c.synth.clocked ops := by
  induction ops generalizing c with
  | nil => rfl
  | cons o ops ih => rw [clocked, ih, c.synth_operate, Synth.clocked]

/--
As long as a channel of a chip plays on, it oscillates with the wavelength that
its voice takes the pitch from.
-/
theorem Reachable.sounds_as_pitched {c : Chip} (h : Reachable c) (ops : List Operation) :
    (∀ (side : PulseSide) (timer : UInt16) (duty volume : UInt8), volume ≠ 0 →
      (∀ o ∈ ops, o.restarts (.pulse side) = false) →
        (∀ s ∈ c.clocked ops, (s.pulse side).Plays timer duty volume) →
          Pulse.SoundsAsPitched timer duty volume (c.synth.pulse side).countdown.toNat
            ((c.clocked ops).map fun s => s.pulse side)) ∧
      ∀ timer : UInt16, (∀ o ∈ ops, o.restarts .triangle = false) →
        (∀ s ∈ c.clocked ops, s.triangle.Plays timer) →
          Triangle.SoundsAsPitched timer c.synth.triangle.countdown.toNat
            ((c.clocked ops).map fun s => s.triangle) := by
  rw [c.clocked_eq]
  exact ⟨fun side _ _ _ loud goesOn plays =>
      Synth.pulse_sounds_as_pitched h.inRange.synth side loud goesOn plays,
    fun _ goesOn plays => Synth.triangle_sounds_as_pitched h.inRange.synth goesOn plays⟩

/-- A pulse channel in its third duty and the triangle, for a turn of each and more. -/
theorem sounds_as_pitched_together :
    let c : Chip := (Chip.ofSettings {}).after ([.power, .write 0x4015 0x05, .write 0x4000 0xBF,
      .write 0x4002 0x08, .write 0x4003 0x08, .write 0x4008 0xFF, .write 0x400A 0x02,
      .write 0x400B 0x08, .write 0x4017 0x80] ++ List.replicate 5 (.clock .zero))
    let ops : List Operation := List.replicate 100 (.clock .zero) ++ .read 0x4015 0 ::
      .write 0x4004 0x3F :: List.replicate 100 (.clock .zero)
    (Pulse.SoundsAsPitched 8 2 15 (c.synth.pulse .first).countdown.toNat
        ((c.clocked ops).map fun s => s.pulse .first)) ∧
      Triangle.SoundsAsPitched 2 c.synth.triangle.countdown.toNat
        ((c.clocked ops).map fun s => s.triangle) := by
  intro c ops
  have both := (Reachable.after (.new {}) _ : Reachable c).sounds_as_pitched ops
  exact ⟨both.1 .first 8 2 15 (by decide) (by decide +kernel) (by decide +kernel),
    both.2 2 (by decide +kernel) (by decide +kernel)⟩

end ChipScribe
