import ChipScribe.Proofs.Forecast

/-!
# A channel that is switched off

Switching a channel off empties its length counter, and after that only a write
to the channel's own length register fills it.  A load that is held back is the
exception: switching off does not take it back.  The clock drops it if the
channel is still off by then, and lets it land if the channel is on again.
-/

namespace ChipScribe

open LengthCounter

namespace LengthCounter

def Access.loads : Access → Bool
  | .index _ => true
  | _ => false

/-- Empty, and with no load to come. -/
structure Spent (c : LengthCounter) : Prop where
  count : c.count = 0
  load : c.loadPending = false

/-- Off, and so empty; a load that is held back will be dropped. -/
structure Off (c : LengthCounter) : Prop where
  count : c.count = 0
  disabled : c.enabled = false

variable {c : LengthCounter}

theorem Spent.access (h : c.Spent) (clocking : Bool) {a : Access} (other : a.loads = false) :
    (c.access clocking a).Spent := by
  cases a with
  | index index => cases other
  | halt halt => cases clocking <;> exact ⟨h.count, h.load⟩
  | switch enabled =>
      cases enabled with
      | true => exact ⟨h.count, h.load⟩
      | false => exact ⟨rfl, h.load⟩

theorem Off.access (h : c.Off) (clocking : Bool) {a : Access} (other : a.loads = false)
    (stays : a ≠ .switch true) : (c.access clocking a).Off := by
  cases a with
  | index index => cases other
  | halt halt => cases clocking <;> exact ⟨h.count, h.disabled⟩
  | switch enabled =>
      cases enabled with
      | true => exact absurd rfl stays
      | false => exact ⟨rfl, rfl⟩

/-- An empty counter has nothing to count. -/
theorem clockIf_of_count (h : c.count = 0) (clocking : Bool) : c.clockIf clocking = c := by
  unfold clockIf clock
  simp [h]

theorem Spent.commit (h : c.Spent) : c.commit.Spent := by
  have halted : c.commitHalt.count = c.count ∧ c.commitHalt.loadPending = c.loadPending := by
    unfold commitHalt
    split <;> exact ⟨rfl, rfl⟩
  have none : c.commit = c.commitHalt := by
    rw [LengthCounter.commit, commitLoad, halted.2, h.load]
    rfl
  rw [none]
  exact ⟨halted.1.trans h.count, halted.2.trans h.load⟩

/-- The clock drops a load for a channel that is off. -/
theorem Off.spent_commit (h : c.Off) : c.commit.Spent := by
  refine ⟨?_, c.pending_commit.2⟩
  have halted : c.commitHalt.count = c.count ∧ c.commitHalt.enabled = c.enabled := by
    unfold commitHalt
    split <;> exact ⟨rfl, rfl⟩
  have off : c.commitHalt.enabled = false := halted.2.trans h.disabled
  have kept : c.commit.count = c.commitHalt.count := by
    rw [LengthCounter.commit, commitLoad]
    split
    · simp [load, off]
    · rfl
  exact (kept.trans halted.1).trans h.count

/-- The register that loads the counter of a channel. -/
def Owner.lengthRegister : Owner → Register
  | .pulse side => .pulseTimerHigh side
  | .triangle => .triangleTimerHigh
  | .noise => .noiseLength

def Owner.lengthAddress : Owner → UInt16
  | .pulse .first => 0x4003
  | .pulse .second => 0x4007
  | .triangle => 0x400B
  | .noise => 0x400F

end LengthCounter

/-! ## Which calls load and which switch on -/

namespace Register

variable {register : Register} {address : UInt16} {data : UInt8} {o : Owner}

theorem access?_eq_index {index : UInt8} (access : register.access? data o = some (.index index)) :
    register = o.lengthRegister := by
  cases register <;> simp_all [access?, Owner.lengthRegister]

theorem access?_eq_switch {enabled : Bool}
    (access : register.access? data o = some (.switch enabled)) :
    register = .status ∧ enabled = (data &&& o.statusBit != 0) := by
  cases register <;> simp_all [access?]

theorem address_of_length (named : ofAddress? address = some o.lengthRegister) :
    address = o.lengthAddress := by
  unfold ofAddress? at named
  rcases o with (_ | _) | _ | _ <;> split at named <;>
    simp_all [Owner.lengthRegister, Owner.lengthAddress]

theorem address_of_status (named : ofAddress? address = some .status) :
    address = statusAddress := by
  unfold ofAddress? at named
  split at named <;> simp_all [statusAddress]

end Register

namespace Operation

def isClock : Operation → Bool
  | .clock _ => true
  | _ => false

variable {op : Operation} {o : Owner}

theorem mem_accesses {a : LengthCounter.Access} (member : a ∈ op.accesses o) :
    ∃ address data register, op = .write address data ∧
      Register.ofAddress? address = some register ∧ register.access? data o = some a := by
  cases op with
  | write address data =>
      simp only [accesses, Option.mem_toList, Option.bind_eq_some_iff] at member
      obtain ⟨register, named, access⟩ := member
      exact ⟨address, data, register, rfl, named, access⟩
  | _ => cases member

/-- A call that loads the counter is a write to the channel's own length register. -/
theorem loads_eq_false (other : ∀ value, op ≠ .write o.lengthAddress value)
    {a : LengthCounter.Access} (member : a ∈ op.accesses o) : a.loads = false := by
  cases a with
  | index index =>
      obtain ⟨address, data, register, rfl, named, access⟩ := mem_accesses member
      rw [Register.access?_eq_index access] at named
      exact absurd (Register.address_of_length named ▸ rfl) (other data)
  | _ => rfl

/-- A call that switches the counter on is a write to the status register. -/
theorem ne_switch
    (off : ∀ value, op = .write Register.statusAddress value → value &&& o.statusBit = 0)
    {a : LengthCounter.Access} (member : a ∈ op.accesses o) : a ≠ .switch true := by
  rintro rfl
  obtain ⟨address, data, register, rfl, named, access⟩ := mem_accesses member
  obtain ⟨rfl, bit⟩ := Register.access?_eq_switch access
  rw [Register.address_of_status named] at off
  exact absurd (off data rfl) (bne_iff_ne.mp bit.symm)

end Operation

/-! ## One call -/

namespace LengthCounter

variable {c : LengthCounter} {accesses : List Access}

theorem Spent.foldl (h : c.Spent) (clocking : Bool) (other : ∀ a ∈ accesses, a.loads = false) :
    (accesses.foldl (LengthCounter.access clocking) c).Spent := by
  induction accesses generalizing c with
  | nil => exact h
  | cons a rest ih =>
      obtain ⟨here, later⟩ := List.forall_mem_cons.mp other
      exact ih (h.access clocking here) later

theorem Off.foldl (h : c.Off) (clocking : Bool) (other : ∀ a ∈ accesses, a.loads = false)
    (stays : ∀ a ∈ accesses, a ≠ .switch true) :
    (accesses.foldl (LengthCounter.access clocking) c).Off := by
  induction accesses generalizing c with
  | nil => exact h
  | cons a rest ih =>
      obtain ⟨here, later⟩ := List.forall_mem_cons.mp other
      obtain ⟨here', later'⟩ := List.forall_mem_cons.mp stays
      exact ih (h.access clocking here here') later later'

end LengthCounter

namespace Synth

variable {s : Synth} {o : Owner} {op : Operation}

theorem counter_power (s : Synth) (o : Owner) : s.power.counter o = {} := by
  rcases o with (_ | _) | _ | _ <;> rfl

theorem spent_clock_of_count (count : (s.counter o).count = 0)
    (commits : (s.counter o).commit.Spent) : (s.clock.counter o).Spent := by
  rwa [counter_clock, clockIf_of_count count]

/-- An empty counter stays empty through any call but a load. -/
theorem spent_operate (h : (s.counter o).Spent)
    (other : ∀ value, op ≠ .write o.lengthAddress value) : ((s.operate op).counter o).Spent := by
  cases within : op.withinCycle with
  | true =>
      rw [s.counter_operate within]
      exact h.foldl _ fun a member => Operation.loads_eq_false other member
  | false =>
      cases op with
      | power =>
          rw [operate, counter_power]
          exact ⟨rfl, rfl⟩
      | clock memory => exact spent_clock_of_count h.count h.commit
      | _ => cases within

/-- Before the clock, a channel that is off stays off unless it is switched on. -/
theorem off_operate (h : (s.counter o).Off) (before : op.isClock = false)
    (other : ∀ value, op ≠ .write o.lengthAddress value)
    (off : ∀ value, op = .write Register.statusAddress value → value &&& o.statusBit = 0) :
    ((s.operate op).counter o).Off := by
  cases within : op.withinCycle with
  | true =>
      rw [s.counter_operate within]
      exact h.foldl _ (fun a member => Operation.loads_eq_false other member) fun a member =>
        Operation.ne_switch off member
  | false =>
      cases op with
      | power =>
          rw [operate, counter_power]
          exact ⟨rfl, rfl⟩
      | clock memory => cases before
      | _ => cases within

/-- Switching off empties the counter and leaves a load that is held back where it is. -/
theorem counter_switchOff (s : Synth) {data : UInt8}
    (clears : data &&& o.statusBit = 0) :
    (s.operate (.write Register.statusAddress data)).counter o =
      { s.counter o with enabled := false, count := 0 } := by
  have switch : Operation.accesses o (.write Register.statusAddress data) = [.switch false] := by
    change [LengthCounter.Access.switch (data &&& o.statusBit != 0)] = _
    rw [clears]
    rfl
  rw [s.counter_operate rfl, switch]
  rfl

/-- The bits of the status register tell which counters run. -/
theorem status_and_bit (s : Synth) (o : Owner) :
    s.status &&& o.statusBit = 0 ↔ (s.counter o).active = false := by
  have bits : ∀ a b c d e f g : Bool,
      let status := a.toUInt8 ||| (b.toUInt8 <<< 1) ||| (c.toUInt8 <<< 2) ||| (d.toUInt8 <<< 3) |||
        (e.toUInt8 <<< 4) ||| (f.toUInt8 <<< 6) ||| (g.toUInt8 <<< 7)
      (status &&& 0x01 = 0 ↔ a = false) ∧ (status &&& 0x02 = 0 ↔ b = false) ∧
        (status &&& 0x04 = 0 ↔ c = false) ∧ (status &&& 0x08 = 0 ↔ d = false) := by
    decide
  obtain ⟨first, second, triangle, noise⟩ := bits s.pulse1.length.active s.pulse2.length.active
    s.triangle.length.active s.noise.length.active (decide (s.dmc.remaining > 0))
    s.frame.irqPending s.dmc.irqPending
  rcases o with (_ | _) | _ | _
  · exact first
  · exact second
  · exact triangle
  · exact noise

end Synth

/-! ## Runs -/

namespace Chip

variable {c : Chip} {o : Owner} {ops : List Operation}

theorem spent_after (h : (c.synth.counter o).Spent)
    (own : ∀ value, .write o.lengthAddress value ∉ ops) :
    ((c.after ops).synth.counter o).Spent := by
  have step (c : Chip) (op : Operation) (other : ∀ value, op ≠ .write o.lengthAddress value)
      (now : (c.synth.counter o).Spent) : ((c.operate op).1.synth.counter o).Spent := by
    rw [synth_operate]
    exact Synth.spent_operate now other
  exact after_induction step c ops (fun op member value eq => own value (eq ▸ member)) h

/-- The clock decides: what is off until then is empty for good. -/
theorem count_after_of_off (h : (c.synth.counter o).Off)
    (own : ∀ value, .write o.lengthAddress value ∉ ops)
    (off : ∀ value, .write Register.statusAddress value ∈ ops.takeWhile (!·.isClock) →
      value &&& o.statusBit = 0) :
    ((c.after ops).synth.counter o).count = 0 := by
  induction ops generalizing c with
  | nil => exact h.count
  | cons op ops ih =>
      have own' : ∀ value, .write o.lengthAddress value ∉ ops :=
        fun value member => own value (List.mem_cons_of_mem _ member)
      cases clocks : op.isClock with
      | true =>
          obtain ⟨memory, rfl⟩ : ∃ memory, op = .clock memory := by
            cases op with
            | clock memory => exact ⟨memory, rfl⟩
            | _ => cases clocks
          have spent : ((c.operate (.clock memory)).1.synth.counter o).Spent := by
            rw [synth_operate]
            exact Synth.spent_clock_of_count h.count h.spent_commit
          exact (spent_after spent own').count
      | false =>
          rw [List.takeWhile_cons_of_pos (by simp [clocks])] at off
          refine ih ?_ own' fun value member => off value (List.mem_cons_of_mem _ member)
          rw [synth_operate]
          refine Synth.off_operate h clocks (fun value eq => ?_) fun value eq => ?_
          · exact own value (eq ▸ List.mem_cons_self)
          · exact off value (eq ▸ List.mem_cons_self)

/--
A channel that is switched off stays empty until its length register is written, unless a load is
held back and the channel is switched on again before the clock.
-/
theorem stays_off (c : Chip) (o : Owner) {data : UInt8} (clears : data &&& o.statusBit = 0)
    {ops : List Operation} (own : ∀ value, .write o.lengthAddress value ∉ ops)
    (held : (c.synth.counter o).loadPending = false ∨
      ∀ value, .write Register.statusAddress value ∈ ops.takeWhile (!·.isClock) →
        value &&& o.statusBit = 0) :
    let d := c.after (.write Register.statusAddress data :: ops)
    (d.synth.counter o).count = 0 ∧
      ∀ openBus, (d.read Register.statusAddress openBus).1 &&& o.statusBit = 0 := by
  intro d
  let switched := (c.operate (.write Register.statusAddress data)).1
  have counter : switched.synth.counter o =
      { c.synth.counter o with enabled := false, count := 0 } := by
    rw [synth_operate]
    exact c.synth.counter_switchOff clears
  have empty : (d.synth.counter o).count = 0 := by
    rcases held with none | off
    · have spent : (switched.synth.counter o).Spent := by
        rw [counter]
        exact ⟨rfl, none⟩
      exact (spent_after (c := switched) spent own).count
    · have off' : (switched.synth.counter o).Off := by
        rw [counter]
        exact ⟨rfl, rfl⟩
      exact count_after_of_off (c := switched) off' own off
  refine ⟨empty, fun openBus => (d.synth.status_and_bit o).mpr ?_⟩
  simp [active, empty]

/-- A note is cut off, and switching its channel on again does not bring it back. -/
theorem stays_off_after_note :
    let c := (ofSettings {}).after [.power, .write 0x4015 0x01, .write 0x4003 0x00]
    let later : List Operation :=
      [.write 0x4015 0x01, .write 0x4000 0x3F, .write 0x4007 0x00, .clock .zero, .clock .zero]
    let d := c.after (.write 0x4015 0x0E :: later)
    (c.synth.counter (.pulse .first)).count = 10 ∧
      (c.synth.counter (.pulse .first)).loadPending = false ∧
      (∀ value, .write 0x4003 value ∉ later) ∧
      (d.synth.counter (.pulse .first)).count = 0 ∧
      ∀ openBus, (d.read Register.statusAddress openBus).1 &&& 0x01 = 0 := by
  intro c later d
  have count : (c.synth.counter (.pulse .first)).count = 10 := by decide
  have none : (c.synth.counter (.pulse .first)).loadPending = false := by decide
  have own : ∀ value, .write 0x4003 value ∉ later := by simp [later]
  have clears : 0x0E &&& Owner.statusBit (.pulse .first) = 0 := by decide
  have off := stays_off c (.pulse .first) clears own (.inl none)
  exact ⟨count, none, own, off⟩

/-- Clocks alone run the sequencer on, and leave a channel that is on but empty as it is. -/
theorem after_clocks (idle : c.synth.counter o = { enabled := true }) (m : Memory) (n : Nat) :
    let d := (c.after (List.replicate n (.clock m))).synth
    d.frame = FrameSequencer.after c.synth.region c.synth.frame (List.replicate n .clock) ∧
      d.counter o = { enabled := true } := by
  induction n generalizing c with
  | zero => exact ⟨rfl, idle⟩
  | succ n ih =>
      have stands : c.synth.clock.counter o = { enabled := true } := by
        rw [Synth.counter_clock, idle, clockIf_of_count rfl]
        rfl
      have region : c.synth.clock.region = c.synth.region := by
        unfold Synth.clock
        cases c.synth.frame.signal <;> rfl
      have frame : c.synth.clock.frame = c.synth.frame.advance c.synth.region := by
        unfold Synth.clock
        cases c.synth.frame.signal <;> rfl
      obtain ⟨frame', counter'⟩ := ih (c := (c.operate (.clock m)).1) stands
      rw [synth_operate] at frame'
      refine ⟨frame'.trans ?_, counter'⟩
      change FrameSequencer.after c.synth.clock.region c.synth.clock.frame _ = _
      rw [region, frame]
      rfl

/-- Between a load on a half frame and its clock, a channel is switched off and on. -/
theorem count_of_held_load (idle : c.synth.counter (.pulse .first) = { enabled := true })
    (range : c.synth.frame.InRange) (goesOn : c.synth.frame.restarting = false)
    (half : c.synth.frame.signal = .half) :
    let d := c.after
      [.write 0x4003 0x00, .write 0x4015 0x00, .write 0x4015 0x01, .clock .zero]
    (d.synth.counter (.pulse .first)).count = 10 := by
  intro d
  let writes : List Operation := [.write 0x4003 0x00, .write 0x4015 0x00, .write 0x4015 0x01]
  have within : ∀ op ∈ writes, op.withinCycle = true := by
    simp [writes, Operation.withinCycle]
  have sequencer : (c.synth.after writes).frame = c.synth.frame := rfl
  have cycle : d.synth = (c.synth.after writes).clock := by
    rw [synth_after]
    rfl
  have known : c.synth.frame.step.toNat ≤ 5 := UInt8.le_iff_toNat_le.mp range.step
  rw [← sequencer] at goesOn half
  rw [cycle, Synth.counter_cycle within known goesOn, idle, half]
  rfl

/-- A load is held back, and switching the channel off and on before the clock lets it land. -/
theorem load_outlives_switch :
    let c := (ofSettings {}).after (.power :: .write 0x4015 0x01 ::
      (List.replicate 14912 (.clock .zero) ++ [.write 0x4003 0x00]))
    let later : List Operation := [.write 0x4015 0x01, .clock .zero]
    (∀ value, .write 0x4003 value ∉ later) ∧
      ((c.after (.write 0x4015 0x00 :: later)).synth.counter (.pulse .first)).count = 10 := by
  intro c later
  refine ⟨by simp [later], ?_⟩
  let on := (ofSettings {}).after [.power, .write 0x4015 0x01]
  have idle : on.synth.counter (.pulse .first) = { enabled := true } := by decide
  have start : on.synth.region = .ntsc ∧ on.synth.frame = .initial .ntsc := ⟨rfl, rfl⟩
  obtain ⟨frame, counter⟩ := after_clocks idle .zero 14912
  obtain ⟨goesOn, half⟩ := FrameSequencer.first_half .ntsc (n := 14912) rfl
  have range := (FrameSequencer.InRange.initial .ntsc).after .ntsc (List.replicate 14912 .clock)
  rw [start.1, start.2] at frame
  rw [← frame] at range goesOn half
  have landed := count_of_held_load counter range goesOn half
  -- the clocks stay a variable here, as 14912 of them are too many to compute
  have calls (clocks : List Operation) :
      ((ofSettings {}).after (.power :: .write 0x4015 0x01 ::
        (clocks ++ [.write 0x4003 0x00]))).after (.write 0x4015 0x00 :: later) =
      (on.after clocks).after
        [.write 0x4003 0x00, .write 0x4015 0x00, .write 0x4015 0x01, .clock .zero] := by
    simp only [on, later, after_append, after_cons, after_nil]
  rw [← calls] at landed
  exact landed

end Chip

end ChipScribe
