import ChipScribe.Proofs.Operation

/-!
# The sound does not depend on the transcription

The audible half runs as a machine of its own, `Synth.operate`, and the whole
chip projects onto it: calls that only concern the transcription leave it where
it is.  So two chips that agree on their audible halves sound alike under the
same calls, whatever their voices, tunings and libraries, and whatever calls for
the transcription alone are put in between.
-/

namespace ChipScribe

/-- The operations that only concern the transcription are the others. -/
def Operation.concernsSound : Operation → Bool
  | .power | .clock _ | .write .. | .read .. | .supply _ => true
  | .transcribe _ | .setUpReceiver | .silence | .withTuning _ | .withLibrary _ => false

/-- What a host can tell of the sound from one call, and where it would read next. -/
structure Heard where
  sample : Option Nat
  byte : Option UInt8
  requests : Nat
  irq : Option Bool
  address : UInt16
  deriving DecidableEq, Repr

namespace Chip

def hear (c : Chip) (o : Operation) : Heard :=
  let (c, out) := c.operate o
  ⟨out.sample, out.byte, out.requests, out.irq, c.dmaAddress⟩

def heard (c : Chip) : List Operation → List Heard
  | [] => []
  | o :: rest =>
      let later := (c.operate o).1.heard rest
      if o.concernsSound then c.hear o :: later else later

end Chip

/-! ## The audible half alone -/

namespace Synth

def operate (s : Synth) : Operation → Synth
  | .power => s.power
  | .clock _ => s.clock
  | .write address data =>
      match Register.ofAddress? address with
      | some register => s.write register data
      | none => s
  | .read address _ => if address == Register.statusAddress then s.acknowledge else s
  | .supply data => s.supply data
  | .transcribe _ | .setUpReceiver | .silence | .withTuning _ | .withLibrary _ => s

/-- Power drives the interrupt line in any case, other calls where it changes. -/
def levelDriven (s : Synth) (o : Operation) : Option Bool :=
  match o with
  | .power => some s.power.irqLine
  | o => s.drive (s.operate o)

def hear (s : Synth) (o : Operation) : Heard where
  sample := match o with
    | .clock _ => some s.sample
    | _ => none
  byte := match o with
    | .read address openBus =>
        some (if address == Register.statusAddress then s.status else openBus)
    | _ => none
  requests := match o with
    | .clock _ => s.requests
    | _ => 0
  irq := s.levelDriven o
  address := (s.operate o).dmc.address

def after (s : Synth) : List Operation → Synth
  | [] => s
  | o :: rest => (s.operate o).after rest

def heard (s : Synth) : List Operation → List Heard
  | [] => []
  | o :: rest => s.hear o :: (s.operate o).heard rest

@[simp] theorem drive_self (s : Synth) : s.drive s = none := by
  simp [drive]

theorem operate_eq_self {o : Operation} (h : o.concernsSound = false) (s : Synth) :
    s.operate o = s := by
  cases o <;> simp_all [Operation.concernsSound, operate]

theorem region_operate (s : Synth) (o : Operation) : (s.operate o).region = s.region := by
  cases o with
  | clock memory =>
      simp only [operate, clock]
      cases s.frame.signal <;> rfl
  | write address data =>
      simp only [operate]
      cases Register.ofAddress? address with
      | none => rfl
      | some register =>
          cases register with
          | pulseControl side | pulseSweep side | pulseTimerLow side | pulseTimerHigh side =>
              cases side <;> rfl
          | _ => rfl
  | read address openBus =>
      simp only [operate]
      split <;> rfl
  | _ => rfl

theorem levelDriven_eq_none {o : Operation} (h : o.concernsSound = false) (s : Synth) :
    s.levelDriven o = none := by
  cases o <;> simp_all [Operation.concernsSound, levelDriven, operate]

end Synth

/-! ## The chip projects onto it -/

namespace Chip

theorem synth_operate (c : Chip) (o : Operation) :
    (c.operate o).1.synth = c.synth.operate o := by
  cases o with
  | write address data =>
      simp only [operate, write, Synth.operate]
      cases Register.ofAddress? address <;> rfl
  | read address openBus =>
      simp only [operate, read, Synth.operate]
      split <;> rfl
  | _ => rfl

theorem irq_operate (c : Chip) (o : Operation) :
    (c.operate o).2.irq = c.synth.levelDriven o := by
  cases o with
  | write address data =>
      simp only [operate, write, Synth.levelDriven, Synth.operate]
      cases Register.ofAddress? address with
      | some register => rfl
      | none => simp [Outcome.ofReport]
  | read address openBus =>
      simp only [operate, read, Synth.levelDriven, Synth.operate]
      split <;> simp
  | transcribe | setUpReceiver | silence | withTuning | withLibrary =>
      simp [Synth.levelDriven, Synth.operate]
      rfl
  | _ => rfl

theorem hear_eq (c : Chip) (o : Operation) : c.hear o = c.synth.hear o := by
  have irq := c.irq_operate o
  have address : (c.operate o).1.dmaAddress = (c.synth.operate o).dmc.address := by
    rw [dmaAddress, synth_operate]
  simp only [hear, Synth.hear, irq, address]
  cases o with
  | read address openBus =>
      simp only [operate, read]
      split <;> rfl
  | _ => rfl

theorem synth_after (c : Chip) (ops : List Operation) :
    (c.after ops).synth = c.synth.after (ops.filter (·.concernsSound)) := by
  induction ops generalizing c with
  | nil => rfl
  | cons o ops ih =>
      rw [after_cons, ih, synth_operate]
      cases h : o.concernsSound with
      | true => simp [h, Synth.after]
      | false => simp [h, Synth.operate_eq_self h]

theorem heard_eq (c : Chip) (ops : List Operation) :
    c.heard ops = c.synth.heard (ops.filter (·.concernsSound)) := by
  induction ops generalizing c with
  | nil => rfl
  | cons o ops ih =>
      rw [heard, ih, synth_operate, hear_eq]
      cases h : o.concernsSound with
      | true => simp [h, Synth.heard]
      | false => simp [h, Synth.operate_eq_self h]

/-- Every level on the line was driven by a call that concerns the sound. -/
theorem driven_eq (c : Chip) (ops : List Operation) :
    c.driven ops = (c.heard ops).filterMap (·.irq) := by
  induction ops generalizing c with
  | nil => rfl
  | cons o ops ih =>
      have later := ih (c.operate o).1
      simp only [driven, outcomes, List.filterMap_cons] at later ⊢
      rw [later, heard]
      cases h : o.concernsSound with
      | true => simp only [↓reduceIte, hear, List.filterMap_cons]
      | false => simp [irq_operate, Synth.levelDriven_eq_none h]

/--
Chips with equal audible halves give the same samples, bytes, requests and
interrupt levels under the same calls, and end with equal audible halves.
-/
theorem sound_ignores_transcription {c₁ c₂ : Chip} {ops₁ ops₂ : List Operation}
    (same : c₁.synth = c₂.synth)
    (common : ops₁.filter (·.concernsSound) = ops₂.filter (·.concernsSound)) :
    c₁.heard ops₁ = c₂.heard ops₂ ∧ c₁.driven ops₁ = c₂.driven ops₂ ∧
      (c₁.after ops₁).synth = (c₂.after ops₂).synth := by
  have heard : c₁.heard ops₁ = c₂.heard ops₂ := by
    rw [heard_eq, heard_eq, same, common]
  refine ⟨heard, ?_, ?_⟩
  · rw [driven_eq, driven_eq, heard]
  · rw [synth_after, synth_after, same, common]

/-- Another tuning and a dump directory, with the receiver set up and silenced in between. -/
theorem same_sound_beside_other_transcription :
    let plain : Chip := .ofSettings {}
    let other : Chip := .ofSettings {
      tuning := { periodSettle := 0, noteOnVelocity := 1 }, dumpDirectory := some "dumps" }
    let calls : List Operation :=
      [.power, .write 0x4015 0x11, .write 0x4000 0x1F, .clock .zero, .supply 7, .read 0x4015 0]
    let mixed : List Operation :=
      [.power, .setUpReceiver, .write 0x4015 0x11, .write 0x4000 0x1F, .withTuning {},
        .clock .zero, .transcribe .zero, .supply 7, .silence, .read 0x4015 0]
    plain.heard calls = other.heard mixed ∧ plain.driven calls = other.driven mixed ∧
      (plain.after calls).synth = (other.after mixed).synth :=
  sound_ignores_transcription rfl rfl

end Chip

end ChipScribe
