import Mathlib.Algebra.GroupWithZero.Nat
import ChipScribe.Proofs.InStep

/-!
# The cable has time for every burst

A voice that has sent `k` messages keeps quiet for the next `k * n` calls, where
`n` is the number of clocks one message takes on the cable.  What a voice does
call by call is a list of slots; the pacer alone decides which of them are held
back, so the bounds on a list of slots are proved from the pacer's own steps.
-/

namespace ChipScribe

open Midi

/-! ## Lists of slots -/

/-- One call of a voice: whether the pacer held it back, and what it sent. -/
structure Slot where
  held : Bool
  sent : List Message
  deriving DecidableEq, Repr

namespace Slot

def emits (s : Slot) : Prop :=
  s.sent ≠ []

def total (slots : List Slot) : Nat :=
  (slots.map (·.sent.length)).sum

theorem total_cons (s : Slot) (slots : List Slot) :
    total (s :: slots) = s.sent.length + total slots := by
  simp [total]

end Slot

/-- The slots that a pacer allows, one after the other, at `n` calls a message. -/
inductive Paced (n : UInt32) : Pacer → List Slot → Prop
  | nil (p : Pacer) : Paced n p []
  | held {p : Pacer} {rest : List Slot} : p.busy n = true → Paced n p.tick rest →
      Paced n p (⟨true, []⟩ :: rest)
  | free {p : Pacer} {rest : List Slot} {sent : List Message} : p.busy n = false →
      sent.length ≤ 4 → Paced n (.restart sent.length.toUInt32) rest →
      Paced n p (⟨false, sent⟩ :: rest)

namespace Pacer

variable {n : UInt32} {p : Pacer}

/-- The calls that are still held back. -/
def quiet (p : Pacer) (n : UInt32) : Nat :=
  n.toNat * p.burst.toNat - p.elapsed.toNat

theorem quiet_restart (n : UInt32) {k : Nat} (short : k ≤ 4) :
    (restart k.toUInt32).quiet n = n.toNat * k := by
  have exact_count : k.toUInt32.toNat = k := UInt32.toNat_ofNat_of_lt' (by
    change k < 4294967296
    omega)
  simp [quiet, restart, exact_count]

/-- A burst of up to four messages is charged in full. -/
theorem busy_iff (fits : 4 * n.toNat ≤ 0xFFFFFFFF) (short : p.burst.toNat ≤ 4) :
    p.busy n = true ↔ 0 < p.quiet n := by
  have charge : n.toNat * p.burst.toNat ≤ n.toNat * 4 := Nat.mul_le_mul_left _ short
  simp only [busy, quiet, decide_eq_true_eq]
  omega

theorem burst_tick (p : Pacer) : p.tick.burst = p.burst := by
  unfold tick
  split <;> rfl

theorem quiet_tick (busy : p.busy n = true) : p.tick.quiet n = p.quiet n - 1 := by
  simp only [Pacer.busy, decide_eq_true_eq] at busy
  have more : p.elapsed.toNat < 0xFFFFFFFF := Nat.lt_of_lt_of_le busy (Nat.min_le_right _ _)
  have other : (p.elapsed == 0xFFFFFFFF) = false := by
    rw [beq_eq_false_iff_ne]
    intro last
    rw [last] at more
    exact absurd more (by decide)
  have counted : (p.elapsed + 1).toNat = p.elapsed.toNat + 1 := by
    rw [UInt32.toNat_add]
    change (p.elapsed.toNat + 1) % 4294967296 = _
    omega
  simp only [tick, other, quiet, Bool.false_eq_true, ↓reduceIte, counted]
  omega

end Pacer

namespace Paced

variable {n : UInt32} {p : Pacer} {slots : List Slot} {i j : Nat} {s t : Slot}

/-- The slots before the pacer's time is up are held back and empty. -/
theorem held_of_lt (h : Paced n p slots) (fits : 4 * n.toNat ≤ 0xFFFFFFFF)
    (short : p.burst.toNat ≤ 4) (early : i < p.quiet n) (here : slots[i]? = some t) :
    t = ⟨true, []⟩ := by
  induction h generalizing i with
  | nil p => simp at here
  | held busy _ ih =>
      cases i with
      | zero => simpa using here.symm
      | succ i =>
          refine ih (by rwa [Pacer.burst_tick]) ?_ (by simpa using here)
          rw [Pacer.quiet_tick busy]
          omega
  | free free _ _ _ =>
      have past := (Pacer.busy_iff fits short).mpr (Nat.lt_of_le_of_lt (Nat.zero_le _) early)
      exact absurd (free.symm.trans past) Bool.false_ne_true

/-- The slot at which the pacer's time is up is not held back. -/
theorem free_at (h : Paced n p slots) (fits : 4 * n.toNat ≤ 0xFFFFFFFF)
    (short : p.burst.toNat ≤ 4) (here : slots[p.quiet n]? = some t) : t.held = false := by
  generalize due : p.quiet n = i at here
  induction h generalizing i with
  | nil p => simp at here
  | held busy _ ih =>
      have waits := (Pacer.busy_iff fits short).mp busy
      obtain ⟨i, rfl⟩ := Nat.exists_eq_succ_of_ne_zero (by omega : i ≠ 0)
      refine ih (by rwa [Pacer.burst_tick]) i ?_ (by simpa using here)
      rw [Pacer.quiet_tick busy]
      omega
  | free free _ _ _ =>
      have past : ¬ 0 < Pacer.quiet _ n := fun waits =>
        absurd (free.symm.trans ((Pacer.busy_iff fits short).mpr waits)) Bool.false_ne_true
      obtain rfl : i = 0 := by omega
      rw [← Option.some.inj here]

/-- Up to a slot that sends, the pacer's time and the messages before it are paid for in calls. -/
theorem total_le (h : Paced n p slots) (fits : 4 * n.toNat ≤ 0xFFFFFFFF)
    (short : p.burst.toNat ≤ 4) (here : slots[j]? = some t) (emits : t.emits) :
    p.quiet n + n.toNat * Slot.total (slots.take j) ≤ j := by
  induction h generalizing j with
  | nil p => simp at here
  | held busy _ ih =>
      have waits := (Pacer.busy_iff fits short).mp busy
      cases j with
      | zero =>
          obtain rfl : _ = t := by simpa using here
          exact absurd rfl emits
      | succ j =>
          have rest := ih (by rwa [Pacer.burst_tick]) (by simpa using here)
          rw [Pacer.quiet_tick busy] at rest
          rw [List.take_succ_cons, Slot.total_cons, List.length_nil, Nat.zero_add]
          omega
  | @free p rest sent free few _ ih =>
      have past : ¬ 0 < p.quiet n := fun waits =>
        absurd (free.symm.trans ((Pacer.busy_iff fits short).mpr waits)) Bool.false_ne_true
      cases j with
      | zero =>
          rw [List.take_zero]
          simp only [Slot.total, List.map_nil, List.sum_nil, Nat.mul_zero]
          omega
      | succ j =>
          have charged : sent.length.toUInt32.toNat ≤ 4 := by
            rw [UInt32.toNat_ofNat_of_lt' (by change sent.length < 4294967296; omega)]
            exact few
          have later := ih charged (by simpa using here)
          rw [Pacer.quiet_restart n few] at later
          have now : Slot.total ((⟨false, sent⟩ :: rest).take (j + 1)) =
              sent.length + Slot.total (rest.take j) := Slot.total_cons _ _
          rw [now, Nat.mul_add]
          omega

/-- After a slot that sends, the pacer is charged with what it sent. -/
theorem after (h : Paced n p slots) (here : slots[i]? = some s) (emits : s.emits) :
    s.sent.length ≤ 4 ∧ Paced n (.restart s.sent.length.toUInt32) (slots.drop (i + 1)) := by
  induction h generalizing i with
  | nil p => simp at here
  | held _ _ ih =>
      cases i with
      | zero =>
          obtain rfl : _ = s := by simpa using here
          exact absurd rfl emits
      | succ i => exact ih (by simpa using here)
  | free _ few rest ih =>
      cases i with
      | zero =>
          obtain rfl : _ = s := by simpa using here
          exact ⟨few, rest⟩
      | succ i => exact ih (by simpa using here)

theorem length_le (h : Paced n p slots) (here : slots[i]? = some s) : s.sent.length ≤ 4 := by
  by_cases emits : s.sent = []
  · simp [emits]
  · exact (h.after here emits).1

end Paced

/-! ## The size of a burst -/

namespace Voice

theorem Burst.length_andThen (first : Burst) (next : Voice → Burst) :
    (first.andThen next).2.length = first.2.length + (next first.1).2.length :=
  List.length_append

private theorem length_optional (asked : Bool) (w v : Voice) (ms : List Message) :
    (if asked then (w, ms) else (v, []) : Burst).2.length ≤ ms.length := by
  cases asked <;> simp

variable (v : Voice) (t : Tuning)

theorem length_changeBurst : (v.changeBurst t).2.length ≤ 2 := by
  unfold changeBurst
  split
  · have released : v.releaseBurst.2.length ≤ 1 := length_optional _ _ _ _
    have struck : (v.releaseBurst.1.strikeBurst t).2.length ≤ 1 := length_optional _ _ _ _
    rw [Burst.length_andThen]
    omega
  · exact Nat.zero_le 2

/-- A tone that fades is not struck, and only a tone to be heard is bent or made louder. -/
theorem length_pulseBurst : (v.pulseBurst t).2.length ≤ 4 := by
  cases audible : v.audible with
  | true =>
      have changed := v.length_changeBurst t
      have bent (w : Voice) : (w.bendBurst v.sent.chan).2.length ≤ 1 := length_optional _ _ _ _
      have louder (w : Voice) : (w.volumeBurst v.sent.chan).2.length ≤ 1 :=
        length_optional _ _ _ _
      have bent := bent (v.changeBurst t).1
      have louder := louder ((v.changeBurst t).andThen (bendBurst v.sent.chan)).1
      rw [pulseBurst_of_audible audible, Burst.length_andThen, Burst.length_andThen]
      omega
  | false =>
      have faded : v.fadeBurst.2.length ≤ 1 := length_optional _ _ _ _
      have changed := v.fadeBurst.1.length_changeBurst t
      rw [pulseBurst_of_inaudible audible, Burst.length_andThen]
      omega

theorem length_triangleChangeBurst : (v.triangleChangeBurst t).2.length ≤ 2 := by
  unfold triangleChangeBurst
  split
  · have released : v.triangleReleaseBurst.2.length ≤ 1 := length_optional _ _ _ _
    have struck : (v.triangleReleaseBurst.1.triangleStrikeBurst t).2.length ≤ 1 :=
      length_optional _ _ _ _
    rw [Burst.length_andThen]
    omega
  · exact Nat.zero_le 2

theorem length_triangleBurst : (v.triangleBurst t).2.length ≤ 4 := by
  have changed := v.length_triangleChangeBurst t
  have bent : (v.triangleChangeBurst t).1.triangleBendBurst.2.length ≤ 1 :=
    length_optional _ _ _ _
  rw [triangleBurst, Burst.length_andThen]
  omega

theorem length_noiseChangeBurst : v.noiseChangeBurst.2.length ≤ 2 := by
  unfold noiseChangeBurst
  split
  · have released : v.noiseReleaseBurst.2.length ≤ 1 := length_optional _ _ _ _
    have struck : v.noiseReleaseBurst.1.noiseStrikeBurst.2.length ≤ 1 := length_optional _ _ _ _
    rw [Burst.length_andThen]
    omega
  · exact Nat.zero_le 2

theorem length_noiseBurst : v.noiseBurst.2.length ≤ 4 := by
  have faded : v.noiseFadeBurst.2.length ≤ 1 := length_optional _ _ _ _
  have changed := v.noiseFadeBurst.1.length_noiseChangeBurst
  rw [noiseBurst, Burst.length_andThen]
  omega

theorem length_dmcBurst : v.dmcBurst.2.length ≤ 4 := by
  have released : v.dmcReleaseBurst.2.length ≤ 1 := length_optional _ _ _ _
  have struck : v.dmcReleaseBurst.1.dmcStrikeBurst.2.length ≤ 3 := length_optional _ _ _ _
  unfold dmcBurst
  split
  · dsimp only
    rw [Burst.length_andThen]
    omega
  · exact Nat.zero_le 4

end Voice

theorem Part.length_burst (t : Tuning) (p : Part) (v : Voice) : (p.burst t v).2.length ≤ 4 := by
  cases p with
  | pulse side => exact v.length_pulseBurst t
  | triangle => exact v.length_triangleBurst t
  | noise => exact v.length_noiseBurst
  | dmc => exact v.length_dmcBurst

/-- The emitter may drop messages; it adds none. -/
theorem Midi.Emitter.length_deliver (e : Emitter) (ms : List Message) :
    (e.deliver ms).2.length ≤ ms.length := by
  induction ms generalizing e with
  | nil => exact Nat.le_refl 0
  | cons m rest ih =>
      have here : (e.offer m).2.length ≤ 1 := by
        cases m with
        | delay => exact Nat.le_refl 1
        | short status data1 data2 =>
            simp only [offer]
            split <;> simp
      have there := ih (e.offer m).1
      simp only [deliver, List.length_append, List.length_cons]
      omega

/-! ## The slots of a run -/

/-- Calls that leave the pacers running and the cost of a message at `n`. -/
def Operation.KeepsPace (n : UInt32) : Operation → Prop
  | .power | .setUpReceiver => False
  | .withTuning t => t.cyclesPerMessage = n
  | .clock _ | .write .. | .read .. | .supply _ | .transcribe _ | .silence | .withLibrary _ => True

namespace Scribe

def slot (c : Scribe) (p : Part) : Slot where
  held := (c.voice p).pacer.busy c.tuning.cyclesPerMessage
  sent := (c.turn p).2.2

theorem length_slot (c : Scribe) (p : Part) : (c.slot p).sent.length ≤ 4 := by
  have asked : (c.asked p).length ≤ 4 := by
    unfold asked
    split
    · exact Nat.zero_le 4
    · exact p.length_burst _ _
  have few := (c.emitterAfter (Part.turnOrder.takeWhile (· ≠ p))).length_deliver (c.asked p)
  rw [slot, turn, deliver_asked]
  exact few.trans asked

/-- A turn is allowed by the pacer before it, and leaves the pacer that goes with it. -/
theorem paced_turn {c : Scribe} {p : Part} {n : UInt32} (pace : c.tuning.cyclesPerMessage = n)
    {rest : List Slot} (later : Paced n (c.turn p).1.pacer rest) :
    Paced n (c.voice p).pacer (c.slot p :: rest) := by
  have few := c.length_slot p
  unfold slot at few ⊢
  unfold turn perform Voice.transmit at few later ⊢
  rw [pace] at few later ⊢
  cases busy : (c.voice p).pacer.busy n with
  | true =>
      simp only [busy, ↓reduceIte] at later
      exact .held busy later
  | false =>
      simp only [busy, Bool.false_eq_true, ↓reduceIte] at few later
      exact .free busy few later

theorem pacer_follow (c : Scribe) (m : Memory) (s : Synth) (p : Part) :
    ((c.follow m s).1.voice p).pacer = (c.voice p).pacer :=
  (c.followed_voice m s p).pacer

theorem pacer_watchWrite (c : Scribe) (s : Synth) (register : Register) (data : UInt8) (p : Part) :
    ((c.watchWrite s register data).voice p).pacer = (c.voice p).pacer := by
  cases register with
  | pulseTimerLow side | pulseTimerHigh side =>
      rcases p with (_ | _) | _ | _ | _ <;> cases side <;> rfl
  | status =>
      rcases p with (_ | _) | _ | _ | _
      case dmc =>
        simp only [watchWrite, voice, Voice.startSample, Voice.stopSample]
        repeat' split
        all_goals rfl
      all_goals rfl
  | _ => rcases p with (_ | _) | _ | _ | _ <;> rfl

end Scribe

namespace Chip

/-- The scribe that transmits in the course of an operation. -/
def transmitter? (c : Chip) : Operation → Option Scribe
  | .clock memory => some (c.scribe.follow memory c.synth.clock).1
  | .transcribe memory => some (c.scribe.follow memory c.synth).1
  | _ => none

/-- The slots of one part along a run, one for each call that transmits. -/
def slots (c : Chip) (p : Part) : List Operation → List Slot
  | [] => []
  | o :: rest =>
      ((c.transmitter? o).map (·.slot p)).toList ++ (c.operate o).1.slots p rest

theorem pace_operate {c : Chip} {n : UInt32} (pace : c.scribe.tuning.cyclesPerMessage = n)
    {o : Operation} (keeps : o.KeepsPace n) :
    (c.operate o).1.scribe.tuning.cyclesPerMessage = n := by
  cases o with
  | power | setUpReceiver => exact keeps.elim
  | withTuning t => exact keeps
  | _ =>
      rw [c.tuning_operate (fun _ => Operation.noConfusion)]
      exact pace

theorem pacer_of_transmitter {c : Chip} {o : Operation} {s : Scribe}
    (transmits : c.transmitter? o = some s) (p : Part) :
    (s.voice p).pacer = (c.scribe.voice p).pacer ∧
      s.tuning = c.scribe.tuning ∧
      ((c.operate o).1.scribe.voice p).pacer = (s.turn p).1.pacer := by
  have turned := c.voice_scribed o p
  rw [← c.voice_operate] at turned
  cases o with
  | clock memory | transcribe memory =>
      cases transmits
      exact ⟨c.scribe.pacer_follow memory _ p, rfl, congrArg _ turned⟩
  | _ => cases transmits

/-- What a call sends while it transmits is what the parts send in their slots. -/
theorem midi_of_transmitter {c : Chip} {o : Operation} {s : Scribe}
    (transmits : c.transmitter? o = some s) :
    (c.operate o).2.midi = Part.turnOrder.flatMap fun p => (s.slot p).sent := by
  rw [c.midi_operate]
  cases o with
  | clock memory | transcribe memory =>
      cases transmits
      exact Scribe.messages_transmit _
  | _ => cases transmits

/-- Between two turns of a part its pacer stands still. -/
theorem pacer_of_idle {c : Chip} {n : UInt32} {o : Operation} (idle : c.transmitter? o = none)
    (keeps : o.KeepsPace n) (p : Part) :
    ((c.operate o).1.scribe.voice p).pacer = (c.scribe.voice p).pacer := by
  cases o with
  | power | setUpReceiver => exact keeps.elim
  | clock memory | transcribe memory => cases idle
  | silence =>
      rw [c.voice_operate, c.voice_scribed .silence p]
      rfl
  | write address data =>
      simp only [operate, write]
      split
      · exact c.scribe.pacer_watchWrite _ _ _ p
      · rfl
  | read address openBus =>
      simp only [operate, read]
      split <;> rfl
  | supply | withTuning | withLibrary => rcases p with (_ | _) | _ | _ | _ <;> rfl

theorem paced_slots (c : Chip) (p : Part) {n : UInt32} {ops : List Operation}
    (pace : c.scribe.tuning.cyclesPerMessage = n) (keep : ∀ o ∈ ops, o.KeepsPace n) :
    Paced n (c.scribe.voice p).pacer (c.slots p ops) := by
  induction ops generalizing c with
  | nil => exact .nil _
  | cons o ops ih =>
      have keeps := keep o List.mem_cons_self
      have rest := ih (c.operate o).1 (pace_operate pace keeps) fun o' member =>
        keep o' (List.mem_cons_of_mem _ member)
      rw [slots]
      cases transmits : c.transmitter? o with
      | none =>
          rw [pacer_of_idle transmits keeps p] at rest
          exact rest
      | some s =>
          obtain ⟨before, tuning, after⟩ := pacer_of_transmitter transmits p
          rw [after] at rest
          rw [← before]
          exact Scribe.paced_turn (tuning ▸ pace) rest

/-- What the cable's pace makes of the slots of one part. -/
structure KeepsTime (n : UInt32) (slots : List Slot) : Prop where
  /-- No burst has more than four messages. -/
  short {s : Slot} : s ∈ slots → s.sent.length ≤ 4
  /-- After a burst the part is quiet for as many calls as its messages take. -/
  quiet {i m : Nat} {s t : Slot} : slots[i]? = some s → s.emits → slots[i + m]? = some t →
    1 ≤ m → m ≤ s.sent.length * n.toNat → t.held = true ∧ t.sent = []
  /-- The call after that is not held back. -/
  free {i : Nat} {s t : Slot} : slots[i]? = some s → s.emits →
    slots[i + s.sent.length * n.toNat + 1]? = some t → t.held = false
  /-- From a burst to a later one, all that was sent has had its time. -/
  bound {i j : Nat} {s t : Slot} : slots[i]? = some s → s.emits → slots[j]? = some t → t.emits →
    i < j → Slot.total ((slots.drop i).take (j - i)) * n.toNat < j - i

theorem bursts_keep_time (c : Chip) (p : Part) {n : UInt32} {ops : List Operation}
    (pace : c.scribe.tuning.cyclesPerMessage = n) (fits : 4 * n.toNat ≤ 0xFFFFFFFF)
    (keep : ∀ o ∈ ops, o.KeepsPace n) : KeepsTime n (c.slots p ops) := by
  have paced := c.paced_slots p pace keep
  generalize c.slots p ops = slots at paced ⊢
  have charged {k : Nat} (few : k ≤ 4) : (Pacer.restart k.toUInt32).burst.toNat ≤ 4 := by
    rw [Pacer.restart, UInt32.toNat_ofNat_of_lt' (by change k < 4294967296; omega)]
    exact few
  refine ⟨?short, ?quiet, ?free, ?bound⟩
  case short =>
    intro s member
    obtain ⟨i, here⟩ := List.mem_iff_getElem?.mp member
    exact paced.length_le here
  case quiet =>
    intro i m s t here emits later positive within
    obtain ⟨few, rest⟩ := paced.after here emits
    have found : (slots.drop (i + 1))[m - 1]? = some t := by
      rw [List.getElem?_drop, ← later]
      congr 1
      omega
    have early : m - 1 < (Pacer.restart s.sent.length.toUInt32).quiet n := by
      rw [Pacer.quiet_restart n few, Nat.mul_comm]
      omega
    rw [rest.held_of_lt fits (charged few) early found]
    exact ⟨rfl, rfl⟩
  case free =>
    intro i s t here emits later
    obtain ⟨few, rest⟩ := paced.after here emits
    refine rest.free_at fits (charged few) ?_
    rw [Pacer.quiet_restart n few, Nat.mul_comm, List.getElem?_drop, ← later]
    congr 1
    omega
  case bound =>
    intro i j s t here emits later emits' lt
    obtain ⟨few, rest⟩ := paced.after here emits
    obtain ⟨d, rfl⟩ : ∃ d, j = i + 1 + d := ⟨j - (i + 1), by omega⟩
    have found : (slots.drop (i + 1))[d]? = some t := by
      rw [List.getElem?_drop, later]
    have paid := rest.total_le fits (charged few) found emits'
    have span : (slots.drop i).take (i + 1 + d - i) = s :: (slots.drop (i + 1)).take d := by
      rw [List.drop_eq_getElem_cons (List.getElem?_eq_some_iff.mp here).1,
        (List.getElem?_eq_some_iff.mp here).2]
      have length : i + 1 + d - i = d + 1 := by omega
      rw [length, List.take_succ_cons]
    rw [Pacer.quiet_restart n few] at paid
    rw [span, Slot.total_cons, Nat.mul_comm, Nat.mul_add]
    omega

/-- A receiver that is silenced while a note sounds, between calls of a set-up chip. -/
theorem bursts_keep_time_after_setup :
    let c : Chip := (ofSettings { tuning := { periodSettle := 0 } }).setUpReceiver.1
    let ops : List Operation :=
      [.write 0x4015 0x01, .write 0x4000 0xBF, .write 0x4002 0xFD, .write 0x4003 0x08,
        .clock .zero, .silence, .withTuning { noteOnVelocity := 1 }, .clock .zero,
        .transcribe .zero]
    c.scribe.tuning.cyclesPerMessage = 1715 ∧ 4 * (1715 : UInt32).toNat ≤ 0xFFFFFFFF ∧
      (∀ o ∈ ops, o.KeepsPace 1715) ∧ ∀ p, KeepsTime 1715 (c.slots p ops) := by
  intro c ops
  have pace : c.scribe.tuning.cyclesPerMessage = 1715 := rfl
  have fits : 4 * (1715 : UInt32).toNat ≤ 0xFFFFFFFF := by decide
  have keep : ∀ o ∈ ops, o.KeepsPace 1715 := by
    simp [ops, Operation.KeepsPace]
  exact ⟨pace, fits, keep, fun p => c.bursts_keep_time p pace fits keep⟩

end Chip

end ChipScribe
