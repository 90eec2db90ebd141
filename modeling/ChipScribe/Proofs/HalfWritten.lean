import Mathlib.Data.List.Induction
import ChipScribe.Proofs.Pacing

/-!
# A half-written period is not transcribed

The period of a melodic channel is written in two halves.  Each write holds its
voice off for as many recalculations as a period takes to settle, whatever else
the channel does meanwhile.  So a voice that changes what it wants has seen no
period write for that long, and never wants anything of a period of which the
other half is still to come.
-/

namespace ChipScribe

open Midi

/-! ## Writes of a period -/

/-- The register that a half of a timer period is written to. -/
inductive Half where
  | low
  | high
  deriving DecidableEq, Repr

/-- The parts that play a pitch, which they read off a timer period. -/
def Part.melodic : Part → Bool
  | .pulse _ | .triangle => true
  | .noise | .dmc => false

/-- The half of the period of a part that a register holds. -/
def Part.half? (p : Part) : Register → Option Half
  | .pulseTimerLow side => if p = .pulse side then some .low else none
  | .pulseTimerHigh side => if p = .pulse side then some .high else none
  | .triangleTimerLow => if p = .triangle then some .low else none
  | .triangleTimerHigh => if p = .triangle then some .high else none
  | _ => none

namespace Operation

/-- The half of the period of a part that a call writes. -/
def half? (p : Part) : Operation → Option Half
  | .write address _ => (Register.ofAddress? address).bind p.half?
  | _ => none

/-- Calls that leave the voices as they are set up, and the time a period settles in at `s`. -/
def KeepsSettle (s : UInt32) : Operation → Prop
  | .power | .setUpReceiver => False
  | .withTuning t => t.periodSettle = s
  | _ => True

/-- How many of the calls recompute what the voices want. -/
def recalculations (ops : List Operation) : Nat :=
  ops.countP (·.transmits)

theorem recalculations_cons (o : Operation) (ops : List Operation) :
    recalculations (o :: ops) = recalculations ops + if o.transmits then 1 else 0 :=
  List.countP_cons

theorem recalculations_concat (ops : List Operation) (o : Operation) :
    recalculations (ops ++ [o]) = recalculations ops + if o.transmits then 1 else 0 := by
  simp [recalculations, List.countP_append, List.countP_cons]

theorem transmits_eq_false_of_half? {p : Part} {o : Operation} (writes : o.half? p ≠ none) :
    o.transmits = false := by
  cases o with
  | clock | transcribe => exact absurd rfl writes
  | _ => rfl

end Operation

open Operation

namespace Part

/-- The half that was written last, if the other has not been written since it was due. -/
def loneAfter (p : Part) (lone : Option Half) (o : Operation) : Option Half :=
  match o.half? p, lone with
  | none, lone => lone
  | some h, none => some h
  | some h, some g => if h = g then some g else none

/-- The half of its period that waits for the other one after a run. -/
def lone (p : Part) (ops : List Operation) : Option Half :=
  ops.foldl p.loneAfter none

theorem lone_concat (p : Part) (ops : List Operation) (o : Operation) :
    p.lone (ops ++ [o]) = p.loneAfter (p.lone ops) o := by
  rw [lone, List.foldl_append]
  rfl

/-- A half that waits was written by a call that no other period write has followed. -/
theorem exists_write_of_lone {p : Part} {ops : List Operation} (waits : p.lone ops ≠ none) :
    ∃ front w between, ops = front ++ w :: between ∧ w.half? p ≠ none ∧
      (∀ o ∈ between, o.half? p = none) ∧ p.lone (front ++ [w]) ≠ none := by
  induction ops using List.reverseRecOn with
  | nil => exact absurd rfl waits
  | append_singleton ops o ih =>
      cases half : o.half? p with
      | some h =>
          refine ⟨ops, o, [], rfl, ?_, by simp, waits⟩
          rw [half]
          exact Option.some_ne_none h
      | none =>
          have same : p.lone (ops ++ [o]) = p.lone ops := by
            simp [lone_concat, loneAfter, half]
          rw [same] at waits
          obtain ⟨front, w, between, rfl, writes, quiet, left⟩ := ih waits
          refine ⟨front, w, between ++ [o], by simp, writes, fun o' member => ?_, left⟩
          rcases List.mem_append.mp member with here | last
          · exact quiet o' here
          · rw [List.mem_singleton.mp last, half]

end Part

/-- The halves of a period always come within `n` recalculations of one another. -/
def Part.Prompt (n : Nat) (p : Part) (ops : List Operation) : Prop :=
  ∀ front w between back, ops = front ++ w :: between ++ back → w.half? p ≠ none →
    (∀ o ∈ between, o.half? p = none) → p.lone (front ++ [w]) ≠ none → recalculations between ≤ n

/-! ## What a voice wants -/

namespace Voice

/-- The voices want the same, and choose its channel by the same hysteresis. -/
structure WantsAs (v w : Voice) : Prop where
  want : w.want = v.want
  fresh : w.fresh = v.fresh
  duty : w.duty = v.duty
  age : w.age = v.age

theorem WantsAs.refl (v : Voice) : v.WantsAs v :=
  ⟨rfl, rfl, rfl, rfl⟩

/-- A burst that changes nothing but the tone that was sent. -/
def OnlySends (v : Voice) (b : Burst) : Prop :=
  ∃ sent, b.1 = { v with sent := sent }

theorem OnlySends.optional {v w : Voice} {ms : List Message} {sent : Tone} (asked : Bool)
    (only : w = { v with sent := sent }) : v.OnlySends (if asked then (w, ms) else (v, [])) := by
  cases asked with
  | true => exact ⟨sent, only⟩
  | false => exact ⟨v.sent, rfl⟩

theorem OnlySends.andThen {v : Voice} {b : Burst} {next : Voice → Burst} (first : v.OnlySends b)
    (second : b.1.OnlySends (next b.1)) : v.OnlySends (b.andThen next) := by
  obtain ⟨sent, eq⟩ := first
  obtain ⟨sent', eq'⟩ := second
  refine ⟨sent', ?_⟩
  rw [Burst.fst_andThen, eq', eq]

variable (v : Voice) (t : Tuning)

theorem onlySends_pulseBurst : v.OnlySends (v.pulseBurst t) := by
  have faded (v : Voice) : v.OnlySends v.fadeBurst := .optional _ rfl
  have released (v : Voice) : v.OnlySends v.releaseBurst := .optional _ rfl
  have struck (v : Voice) : v.OnlySends (v.strikeBurst t) := .optional _ rfl
  have bent (w : Voice) : w.OnlySends (w.bendBurst v.sent.chan) := .optional _ rfl
  have louder (w : Voice) : w.OnlySends (w.volumeBurst v.sent.chan) := .optional _ rfl
  have changed (v : Voice) : v.OnlySends (v.changeBurst t) := by
    unfold changeBurst
    split
    · exact (released v).andThen (struck _)
    · exact ⟨v.sent, rfl⟩
  exact (((faded v).andThen (changed _)).andThen (bent _)).andThen (louder _)

theorem onlySends_triangleBurst : v.OnlySends (v.triangleBurst t) := by
  have released (v : Voice) : v.OnlySends v.triangleReleaseBurst := .optional _ rfl
  have struck (v : Voice) : v.OnlySends (v.triangleStrikeBurst t) := .optional _ rfl
  have bent (v : Voice) : v.OnlySends v.triangleBendBurst := .optional _ rfl
  have changed (v : Voice) : v.OnlySends (v.triangleChangeBurst t) := by
    unfold triangleChangeBurst
    split
    · exact (released v).andThen (struck _)
    · exact ⟨v.sent, rfl⟩
  exact (changed v).andThen (bent _)

end Voice

theorem Part.onlySends_burst {p : Part} (melodic : p.melodic = true) (t : Tuning) (v : Voice) :
    v.OnlySends (p.burst t v) := by
  cases p with
  | pulse side => exact v.onlySends_pulseBurst t
  | triangle => exact v.onlySends_triangleBurst t
  | noise | dmc => cases melodic

/-- While a period settles, a recalculation only counts. -/
theorem Part.follow_of_settling {p : Part} (melodic : p.melodic = true) {v : Voice}
    (settling : v.settle ≠ 0) (t : Tuning) (m : Memory) (s : Synth) (l : Library) :
    p.follow t m s l v = { v with settle := v.settle - 1 } := by
  have counting : v.settle > 0 := UInt32.pos_iff_ne_zero.mpr settling
  cases p with
  | pulse side => cases side <;> exact if_pos counting
  | triangle => exact if_pos counting
  | noise | dmc => cases melodic

namespace Voice

theorem settle_followPulse {t : Tuning} {p : Pulse} {v : Voice} (settled : v.settle = 0) :
    (v.followPulse t p).settle = 0 := by
  have begun (v : Voice) (duty held : UInt8) : (v.beginNote duty held).settle = v.settle := by
    unfold beginNote
    split <;> rfl
  have chosen (v : Voice) (duty : UInt8) : (v.chooseLane t duty).settle = v.settle := by
    unfold chooseLane
    split <;> rfl
  unfold followPulse
  rw [if_neg (by simp [settled])]
  split
  · exact settled
  · dsimp only
    split
    · exact settled
    · exact (chosen _ _).trans ((begun _ _ _).trans settled)

theorem settle_followTriangle {t : Tuning} {c : Triangle} {v : Voice} (settled : v.settle = 0) :
    (v.followTriangle t c).settle = 0 := by
  unfold followTriangle
  rw [if_neg (by simp [settled])]
  dsimp only
  split
  · exact settled
  · split <;> exact settled

end Voice

theorem Part.settle_follow {p : Part} (melodic : p.melodic = true) {v : Voice} (t : Tuning)
    (m : Memory) (s : Synth) (l : Library) :
    (p.follow t m s l v).settle.toNat = v.settle.toNat - 1 := by
  by_cases settled : v.settle = 0
  · have kept : (p.follow t m s l v).settle = 0 := by
      cases p with
      | pulse side => cases side <;> exact Voice.settle_followPulse settled
      | triangle => exact Voice.settle_followTriangle settled
      | noise | dmc => cases melodic
    rw [kept, settled]
    rfl
  · have counting : v.settle.toNat ≠ 0 := fun zero => settled (UInt32.toNat_inj.mp zero)
    have least : (1 : UInt32) ≤ v.settle := UInt32.le_iff_toNat_le.mpr (Nat.pos_of_ne_zero counting)
    rw [Part.follow_of_settling melodic settled]
    exact UInt32.toNat_sub_of_le _ _ least

/-! ## One call -/

/-- A write of a period holds its voice off; no other write touches a melodic voice. -/
theorem Scribe.voice_watchWrite {p : Part} (melodic : p.melodic = true) (c : Scribe) (s : Synth)
    (register : Register) (data : UInt8) :
    (c.watchWrite s register data).voice p =
      match p.half? register with
      | none => c.voice p
      | some _ => (c.voice p).holdOff c.tuning.periodSettle := by
  cases p with
  | noise | dmc => cases melodic
  | pulse side =>
      cases register with
      | pulseTimerLow side' | pulseTimerHigh side' => cases side <;> cases side' <;> rfl
      | _ => cases side <;> rfl
  | triangle =>
      cases register with
      | pulseTimerLow side | pulseTimerHigh side => cases side <;> rfl
      | _ => rfl

namespace Chip

variable {c : Chip} {p : Part} {n : UInt32} {o : Operation}

/-- The recalculations that a voice still skips. -/
def settling (c : Chip) (p : Part) : Nat :=
  (c.scribe.voice p).settle.toNat

/-- A recalculation leaves the melodic voice that followed, but for what it sent. -/
theorem exists_sent_of_transmitter (melodic : p.melodic = true) {f : Scribe}
    (transmits : c.transmitter? o = some f) :
    ∃ sent pacer, (c.operate o).1.scribe.voice p =
      { f.voice p with sent := sent, pacer := pacer } := by
  have turned : (c.operate o).1.scribe.voice p = (f.turn p).1 := by
    have next := c.voice_scribed o p
    rw [← c.voice_operate] at next
    cases o with
    | clock memory | transcribe memory =>
        cases transmits
        exact next
    | _ => cases transmits
  rw [turned]
  obtain ⟨-, -, pacer, waits⟩ | ⟨-, -, pacer, moves⟩ := f.turn_cases p
  · exact ⟨_, pacer, waits⟩
  · obtain ⟨sent, only⟩ := p.onlySends_burst melodic f.tuning (f.voice p)
    exact ⟨sent, pacer, by rw [moves, only]⟩

theorem exists_transmitter (transmits : o.transmits = true) (c : Chip) (p : Part) :
    ∃ f m s, c.transmitter? o = some f ∧
      f.voice p = p.follow c.scribe.tuning m s c.scribe.library (c.scribe.voice p) := by
  cases o with
  | clock memory => exact ⟨_, memory, c.synth.clock, rfl, c.scribe.voice_follow memory _ p⟩
  | transcribe memory => exact ⟨_, memory, c.synth, rfl, c.scribe.voice_follow memory _ p⟩
  | _ => cases transmits

theorem settling_of_transmits (melodic : p.melodic = true) (transmits : o.transmits = true) :
    (c.operate o).1.settling p = c.settling p - 1 := by
  obtain ⟨f, m, s, transmitter, followed⟩ := exists_transmitter transmits c p
  obtain ⟨sent, pacer, voice⟩ := exists_sent_of_transmitter melodic transmitter
  rw [settling, voice, followed]
  exact p.settle_follow melodic _ _ _ _

theorem wantsAs_of_settling (melodic : p.melodic = true) (transmits : o.transmits = true)
    (settling : c.settling p ≠ 0) :
    (c.scribe.voice p).WantsAs ((c.operate o).1.scribe.voice p) := by
  have counting : (c.scribe.voice p).settle ≠ 0 := by
    intro zero
    rw [Chip.settling, zero] at settling
    exact settling rfl
  obtain ⟨f, m, s, transmitter, followed⟩ := exists_transmitter transmits c p
  obtain ⟨sent, pacer, voice⟩ := exists_sent_of_transmitter melodic transmitter
  rw [voice, followed, p.follow_of_settling melodic counting]
  exact ⟨rfl, rfl, rfl, rfl⟩

/-- Between recalculations a voice wants the same, and only a period write holds it off. -/
theorem wantsAs_of_still (melodic : p.melodic = true) (still : o.transmits = false)
    (keeps : o.KeepsSettle n) :
    (c.scribe.voice p).WantsAs ((c.operate o).1.scribe.voice p) ∧
      (c.operate o).1.settling p =
        match o.half? p with
        | none => c.settling p
        | some _ => c.scribe.tuning.periodSettle.toNat := by
  cases o with
  | power | setUpReceiver => exact keeps.elim
  | clock | transcribe => cases still
  | silence =>
      have next := c.voice_scribed .silence p
      rw [← c.voice_operate] at next
      rw [settling, next]
      exact ⟨⟨rfl, rfl, rfl, rfl⟩, rfl⟩
  | write address data =>
      simp only [settling, c.voice_operate, scribed, half?]
      cases Register.ofAddress? address with
      | none => exact ⟨.refl _, rfl⟩
      | some register =>
          simp only [Option.bind_some, Scribe.voice_watchWrite melodic]
          cases p.half? register with
          | none => exact ⟨.refl _, rfl⟩
          | some half => exact ⟨⟨rfl, rfl, rfl, rfl⟩, rfl⟩
  | read | supply | withTuning | withLibrary =>
      rw [settling, c.voice_operate]
      rcases p with (_ | _) | _ | _ | _ <;> exact ⟨.refl _, rfl⟩

theorem settle_operate (settle : c.scribe.tuning.periodSettle = n) (keeps : o.KeepsSettle n) :
    (c.operate o).1.scribe.tuning.periodSettle = n := by
  cases o with
  | power | setUpReceiver => exact keeps.elim
  | withTuning t => exact keeps
  | _ =>
      rw [c.tuning_operate (fun _ => Operation.noConfusion)]
      exact settle

/-! ## Runs -/

section Runs

variable {ops : List Operation} (melodic : p.melodic = true)
  (settle : c.scribe.tuning.periodSettle = n) (keep : ∀ o ∈ ops, o.KeepsSettle n)
include melodic settle keep

/-- A recalculation takes at most one off the count, and a write fills it up. -/
theorem settling_after_ge {k : Nat} (least : n.toNat ≤ c.settling p + k) :
    n.toNat ≤ (c.after ops).settling p + (k + recalculations ops) := by
  -- Further writes fill the count up again, so only a lower bound of it is kept.
  induction ops generalizing c k with
  | nil => exact least
  | cons o ops ih =>
      obtain ⟨keeps, later⟩ := List.forall_mem_cons.mp keep
      have next : n.toNat ≤ (c.operate o).1.settling p + (k + if o.transmits then 1 else 0) := by
        cases transmits : o.transmits with
        | true =>
            rw [settling_of_transmits melodic transmits, if_pos rfl]
            omega
        | false =>
            rw [(wantsAs_of_still melodic transmits keeps).2]
            cases o.half? p with
            | none => exact least
            | some half =>
                rw [settle]
                exact Nat.le_add_right _ _
      have rest := ih (settle_operate settle keeps) later next
      rw [after_cons, recalculations_cons]
      omega

/-- Without further period writes the count goes down with the recalculations. -/
theorem settling_after (quiet : ∀ o ∈ ops, o.half? p = none) :
    (c.after ops).settling p = c.settling p - recalculations ops := by
  induction ops generalizing c with
  | nil => rfl
  | cons o ops ih =>
      obtain ⟨keeps, later⟩ := List.forall_mem_cons.mp keep
      obtain ⟨none, quiet⟩ := List.forall_mem_cons.mp quiet
      rw [after_cons, ih (settle_operate settle keeps) later quiet, recalculations_cons]
      cases transmits : o.transmits with
      | true =>
          rw [settling_of_transmits melodic transmits, if_pos rfl]
          omega
      | false =>
          rw [(wantsAs_of_still melodic transmits keeps).2, none]
          rfl

end Runs

theorem settle_after {ops : List Operation} (settle : c.scribe.tuning.periodSettle = n)
    (keep : ∀ o ∈ ops, o.KeepsSettle n) : (c.after ops).scribe.tuning.periodSettle = n := by
  let settled (c : Chip) := c.scribe.tuning.periodSettle = n
  have step (c : Chip) (o : Operation) (keeps : o.KeepsSettle n) (here : settled c) :
      settled (c.operate o).1 := settle_operate here keeps
  exact after_induction step c ops keep settle

/-- What a voice makes of the period writes of a run, when a period settles in `n`. -/
structure SettlesPeriods (n : Nat) (p : Part) (c : Chip) (ops : List Operation) : Prop where
  /-- Only a recalculation changes what is wanted. -/
  still {front back : List Operation} {o : Operation} : ops = front ++ o :: back →
    o.transmits = false →
      ((c.after front).scribe.voice p).WantsAs ((c.after (front ++ [o])).scribe.voice p)
  /-- One that does has at least `n` others between itself and each period write before it. -/
  waits {front between back : List Operation} {w o : Operation} :
    ops = front ++ w :: between ++ o :: back → w.half? p ≠ none →
      ¬ ((c.after (front ++ w :: between)).scribe.voice p).WantsAs
          ((c.after (front ++ w :: between ++ [o])).scribe.voice p) →
        n ≤ recalculations between
  /-- After the last period write `n` recalculations are skipped, and no more. -/
  skips {front between back : List Operation} {w : Operation} :
    ops = front ++ w :: between ++ back → w.half? p ≠ none → (∀ o ∈ between, o.half? p = none) →
      (c.after (front ++ w :: between)).settling p = n - recalculations between
  /-- Where the halves are written promptly, nothing is wanted of a half-written period. -/
  whole {front back : List Operation} {o : Operation} : p.Prompt n ops →
    ops = front ++ o :: back →
      ¬ ((c.after front).scribe.voice p).WantsAs ((c.after (front ++ [o])).scribe.voice p) →
        p.lone front = none

section Written

variable {front between : List Operation} {w : Operation} (melodic : p.melodic = true)
  (settle : c.scribe.tuning.periodSettle = n)
  (keep : ∀ o ∈ front ++ w :: between, o.KeepsSettle n) (writes : w.half? p ≠ none)
include melodic settle keep writes

/-- A period write leaves a voice that skips the next `n` recalculations. -/
theorem written : (c.after (front ++ [w])).scribe.tuning.periodSettle = n ∧
    (c.after (front ++ [w])).settling p = n.toNat ∧ (∀ o ∈ between, o.KeepsSettle n) ∧
      c.after (front ++ w :: between) = (c.after (front ++ [w])).after between := by
  obtain ⟨early, here, later⟩ : (∀ o ∈ front, o.KeepsSettle n) ∧ w.KeepsSettle n ∧
      ∀ o ∈ between, o.KeepsSettle n := by
    simpa [or_imp, forall_and] using keep
  have settle' := settle_after settle early
  refine ⟨?_, ?_, later, c.after_append_cons front w between⟩
  · rw [after_concat]
    exact settle_operate settle' here
  · rw [after_concat, (wantsAs_of_still melodic (transmits_eq_false_of_half? writes) here).2,
      settle']
    cases half : w.half? p with
    | none => exact absurd half writes
    | some half => rfl

theorem settling_of_written :
    n.toNat ≤ (c.after (front ++ w :: between)).settling p + recalculations between := by
  obtain ⟨settle', filled, later, same⟩ := written melodic settle keep writes
  have left := settling_after_ge melodic settle' later (k := 0) filled.ge
  rwa [same, ← Nat.zero_add (recalculations between)]

end Written

/-- A voice wants nothing new until the period has settled after its last write. -/
theorem settles_periods (c : Chip) (p : Part) (melodic : p.melodic = true) {n : UInt32}
    (settle : c.scribe.tuning.periodSettle = n) {ops : List Operation}
    (keep : ∀ o ∈ ops, o.KeepsSettle n) : SettlesPeriods n.toNat p c ops := by
  have still {front back : List Operation} {o : Operation} (split : ops = front ++ o :: back)
      (still : o.transmits = false) :
      ((c.after front).scribe.voice p).WantsAs ((c.after (front ++ [o])).scribe.voice p) := by
    rw [after_concat]
    exact (wantsAs_of_still melodic still (keep o (by simp [split]))).1
  have waits {front between back : List Operation} {w o : Operation}
      (split : ops = front ++ w :: between ++ o :: back) (writes : w.half? p ≠ none)
      (changes : ¬ ((c.after (front ++ w :: between)).scribe.voice p).WantsAs
        ((c.after (front ++ w :: between ++ [o])).scribe.voice p)) :
      n.toNat ≤ recalculations between := by
    have early : ∀ o ∈ front ++ w :: between, o.KeepsSettle n := fun o member =>
      keep o (by rw [split]; exact List.mem_append_left _ member)
    have left := settling_of_written melodic settle early writes
    have spent : (c.after (front ++ w :: between)).settling p = 0 := by
      by_contra counting
      apply changes
      cases transmits : o.transmits with
      | true =>
          rw [after_concat]
          exact wantsAs_of_settling melodic transmits counting
      | false => exact still split transmits
    omega
  refine ⟨still, waits, ?skips, ?whole⟩
  case skips =>
    intro front between back w split writes quiet
    have early : ∀ o ∈ front ++ w :: between, o.KeepsSettle n := fun o member =>
      keep o (by rw [split]; exact List.mem_append_left _ member)
    obtain ⟨settle', filled, later, same⟩ := written melodic settle early writes
    rw [same, settling_after melodic settle' later quiet, filled]
  case whole =>
    intro front back o prompt split changes
    by_contra alone
    obtain ⟨early, w, between, rfl, writes, quiet, left⟩ := p.exists_write_of_lone alone
    have transmits : o.transmits = true := by
      by_contra silent
      exact changes (still split (Bool.eq_false_iff.mpr silent))
    have within := prompt early w (between ++ [o]) back (by simp [split]) writes ?_ left
    · -- The call itself is a recalculation, so promptness leaves fewer than `n` before it.
      have before := waits split writes changes
      rw [recalculations_concat, if_pos transmits] at within
      omega
    · intro o' member
      rcases List.mem_append.mp member with here | last
      · exact quiet o' here
      · rw [List.mem_singleton.mp last]
        by_contra half
        exact Bool.false_ne_true ((transmits_eq_false_of_half? half).symm.trans transmits)

/-- Both halves are written while the first still settles; the third clock after them is heard. -/
theorem settles_periods_triangle :
    let c : Chip := (ofSettings { tuning := { periodSettle := 2 } }).power.1
    let written : List Operation :=
      [.write 0x400A 0xFD, .clock .zero, .clock .zero, .write 0x400B 0x08, .clock .zero,
        .withTuning { periodSettle := 2, noteOnVelocity := 1 }, .silence, .transcribe .zero]
    let ops := written ++ [.clock .zero]
    Part.triangle.melodic = true ∧ c.scribe.tuning.periodSettle = 2 ∧
      (∀ o ∈ ops, o.KeepsSettle 2) ∧ SettlesPeriods 2 .triangle c ops ∧
        ((c.after written).scribe.voice .triangle).want.vel = 0 ∧
        ((c.after ops).scribe.voice .triangle).want.vel = 96 := by
  intro c written ops
  have settle : c.scribe.tuning.periodSettle = 2 := rfl
  have keep : ∀ o ∈ ops, o.KeepsSettle 2 := by
    simp [ops, written, Operation.KeepsSettle]
  exact ⟨rfl, settle, keep, c.settles_periods .triangle rfl settle keep, by decide, by decide⟩

end Chip

end ChipScribe
