import ChipScribe.Proofs.Operation
import ChipScribe.Proofs.Receiver

/-!
# The five parts

Each voice plays one part.  A part takes its turn when the scribe transmits and
has notes to release when the receiver is silenced; everything the scribe sends
is made of these.  `voice_operate` says what one call does to one voice, and
`VoiceInvariant` lifts what the small steps of a voice keep to whole calls.
-/

namespace ChipScribe

open Midi

inductive Part where
  | pulse (side : PulseSide)
  | triangle
  | noise
  | dmc
  deriving DecidableEq, Repr

namespace Part

/-- Percussion goes first. -/
def turnOrder : List Part :=
  [.dmc, .noise, .triangle, .pulse .first, .pulse .second]

def releaseOrder : List Part :=
  [.pulse .first, .pulse .second, .triangle, .noise, .dmc]

/-- What the part recomputes before it may send. -/
def follow (t : Tuning) (m : Memory) (s : Synth) (l : Library) : Part → Voice → Voice
  | .pulse .first, v => v.followPulse t s.pulse1
  | .pulse .second, v => v.followPulse t s.pulse2
  | .triangle, v => v.followTriangle t s.triangle
  | .noise, v => v.followNoise t s.noise
  | .dmc, v => (v.followDmc t m s.dmc l).1

def burst (t : Tuning) : Part → Voice → Voice.Burst
  | .pulse _ => Voice.pulseBurst t
  | .triangle => Voice.triangleBurst t
  | .noise => Voice.noiseBurst
  | .dmc => Voice.dmcBurst

/-- What the part releases when the receiver is silenced. -/
def release : Part → Voice → List Message
  | .pulse _ => Scribe.pulseReleases
  | .triangle | .noise => Scribe.wantedRelease
  | .dmc => Scribe.sentRelease

/-- The voice of the part once the receiver is set up. -/
def home : Part → Voice
  | .pulse .first => Scribe.pulse1Home
  | .pulse .second => Scribe.pulse2Home
  | .triangle => Scribe.triangleHome
  | .noise => Scribe.noiseHome
  | .dmc => {}

end Part

namespace Scribe

def voice (c : Scribe) : Part → Voice
  | .pulse .first => c.pulse1
  | .pulse .second => c.pulse2
  | .triangle => c.triangle
  | .noise => c.noise
  | .dmc => c.dmc

/-- One part transmits through an emitter. -/
def perform (c : Scribe) (p : Part) (e : Emitter) : Voice × Emitter × List Message :=
  Voice.transmit (p.burst c.tuning) c.tuning (c.voice p) e

def asked (c : Scribe) (p : Part) : List Message :=
  if (c.voice p).pacer.busy c.tuning.cyclesPerMessage then []
  else (p.burst c.tuning (c.voice p)).2

theorem deliver_asked (c : Scribe) (p : Part) (e : Emitter) :
    (c.perform p e).2 = e.deliver (c.asked p) := by
  unfold perform Voice.transmit asked
  split <;> rfl

def emitterAfter (c : Scribe) (parts : List Part) : Emitter :=
  parts.foldl (fun e p => (c.perform p e).2.1) c.emitter

def turn (c : Scribe) (p : Part) : Voice × Emitter × List Message :=
  c.perform p (c.emitterAfter (Part.turnOrder.takeWhile (· ≠ p)))

/-- A part whose cable is busy waits; any other moves on by its burst. -/
theorem turn_cases (c : Scribe) (p : Part) :
    ((c.voice p).pacer.busy c.tuning.cyclesPerMessage = true ∧ c.asked p = [] ∧
        ∃ pacer, (c.turn p).1 = { c.voice p with pacer := pacer }) ∨
      ((c.voice p).pacer.busy c.tuning.cyclesPerMessage = false ∧
        c.asked p = (p.burst c.tuning (c.voice p)).2 ∧
        ∃ pacer, (c.turn p).1 = { (p.burst c.tuning (c.voice p)).1 with pacer := pacer }) := by
  unfold turn perform Voice.transmit asked
  cases busy : (c.voice p).pacer.busy c.tuning.cyclesPerMessage with
  | true => exact .inl ⟨rfl, rfl, _, rfl⟩
  | false => exact .inr ⟨rfl, rfl, _, rfl⟩

theorem voice_follow (c : Scribe) (m : Memory) (s : Synth) (p : Part) :
    (c.follow m s).1.voice p = p.follow c.tuning m s c.library (c.voice p) := by
  cases p with
  | pulse side => cases side <;> rfl
  | _ => rfl

theorem voice_transmit (c : Scribe) (p : Part) : c.transmit.1.voice p = (c.turn p).1 := by
  cases p with
  | pulse side => cases side <;> rfl
  | _ => rfl

theorem messages_transmit (c : Scribe) :
    c.transmit.2 = Part.turnOrder.flatMap fun p => (c.turn p).2.2 := by
  have order : c.transmit.2 = (c.turn .dmc).2.2 ++ (c.turn .noise).2.2 ++ (c.turn .triangle).2.2 ++
      (c.turn (.pulse .first)).2.2 ++ (c.turn (.pulse .second)).2.2 := rfl
  rw [order]
  simp [Part.turnOrder]

theorem releases_eq (c : Scribe) :
    c.releases = Part.releaseOrder.flatMap fun p => p.release (c.voice p) := by
  simp [releases, Part.releaseOrder, Part.release, voice]

theorem voice_reset (c : Scribe) (p : Part) : c.reset.1.voice p = (c.voice p).released := by
  cases p with
  | pulse side => cases side <;> rfl
  | _ => rfl

theorem voice_setUp (c : Scribe) (p : Part) : c.setUp.1.voice p = p.home := by
  cases p with
  | pulse side => cases side <;> rfl
  | _ => rfl

theorem voice_power (c : Scribe) (p : Part) : c.power.1.voice p = p.home := by
  cases p with
  | pulse side => cases side <;> rfl
  | _ => rfl

theorem voice_meter (c : Scribe) (p : Part) : c.meter.1.voice p = c.voice p := by
  unfold meter
  dsimp only
  split
  · cases p with
    | pulse side => cases side <;> rfl
    | _ => rfl
  · cases p with
    | pulse side => cases side <;> rfl
    | _ => rfl

theorem controllers_meter (c : Scribe) :
    c.meter.1.emitter.controllers = c.emitter.controllers := by
  unfold meter
  dsimp only
  split <;> rfl

end Scribe

/-! ## Changes that leave the tones alone -/

namespace Voice

/-- The voices differ at most in what does not bear on their tones and channels. -/
structure Alike (v w : Voice) : Prop where
  want : w.want = v.want
  sent : w.sent = v.sent
  fresh : w.fresh = v.fresh
  duty : w.duty = v.duty
  lanes : w.lanes = v.lanes

theorem Alike.refl (v : Voice) : v.Alike v :=
  ⟨rfl, rfl, rfl, rfl, rfl⟩

theorem alike_holdOff (v : Voice) (settle : UInt32) : v.Alike (v.holdOff settle) :=
  ⟨rfl, rfl, rfl, rfl, rfl⟩

theorem alike_pacer (v : Voice) (pacer : Pacer) : v.Alike { v with pacer := pacer } :=
  ⟨rfl, rfl, rfl, rfl, rfl⟩

theorem alike_startSample (v : Voice) (d : Dmc) : v.Alike (v.startSample d) := by
  unfold startSample
  split
  · exact ⟨rfl, rfl, rfl, rfl, rfl⟩
  · exact .refl v

theorem alike_stopSample (v : Voice) (d : Dmc) : v.Alike (v.stopSample d) := by
  unfold stopSample
  split
  · exact ⟨rfl, rfl, rfl, rfl, rfl⟩
  · exact .refl v

end Voice

theorem Scribe.alike_watchWrite (c : Scribe) (s : Synth) (register : Register) (data : UInt8)
    (p : Part) : (c.voice p).Alike ((c.watchWrite s register data).voice p) := by
  cases register with
  | pulseTimerLow side | pulseTimerHigh side =>
      rcases p with (side' | _) | _ | _ | _ <;> cases side <;>
        first
        | exact Voice.Alike.refl _
        | exact Voice.alike_holdOff _ _
  | triangleTimerLow | triangleTimerHigh =>
      rcases p with (side' | _) | _ | _ | _
      case triangle => exact Voice.alike_holdOff _ _
      all_goals exact Voice.Alike.refl _
  | status =>
      rcases p with (side' | _) | _ | _ | _
      case dmc =>
        simp only [watchWrite, voice]
        split
        · exact Voice.alike_startSample _ _
        · exact Voice.alike_stopSample _ _
      all_goals exact Voice.Alike.refl _
  | _ => exact Voice.Alike.refl _

/-! ## The library that a chip looks its samples up in -/

/-- Every instrument of the library is of a kind. -/
def Library.All (ok : Instrument → Prop) (l : Library) : Prop :=
  ∀ hash i, l.lookup? hash = some i → ok i

/-- The library that the operation brings, if any, is of a kind. -/
def Operation.Brings (ok : Instrument → Prop) : Operation → Prop
  | .withLibrary l => l.All ok
  | _ => True

section Library

variable {ok : Instrument → Prop} {l : Library}

theorem Library.all_empty : Library.empty.All ok := by
  intro hash i found
  rw [lookup?_empty] at found
  cases found

theorem Library.All.insert (all : l.All ok) {i : Instrument} (good : ok i) (hash : Fingerprint) :
    (l.insert hash i).All ok := by
  intro hash' j found
  rw [lookup?_insert] at found
  split at found
  · cases found
    exact good
  · exact all hash' j found

theorem Library.All.dumpingTo (all : l.All ok) (directory : Option String) :
    (l.dumpingTo directory).All ok :=
  all

theorem Library.All.recordUnknown (all : l.All ok) (hash : Fingerprint) (rate : UInt8)
    (bytes : List UInt8) : (l.recordUnknown hash rate bytes).1.All ok := by
  unfold Library.recordUnknown
  dsimp only
  split
  · exact all
  · exact all

theorem Library.All.followDmc (all : l.All ok) (t : Tuning) (m : Memory) (d : Dmc) (v : Voice) :
    (v.followDmc t m d l).2.1.All ok := by
  unfold Voice.followDmc
  split
  · dsimp only [Voice.lookUp]
    split
    · split
      · exact all
      · exact all
    · exact all.recordUnknown _ _ _
  · exact all

theorem Scribe.library_watchWrite (c : Scribe) (s : Synth) (register : Register) (data : UInt8) :
    (c.watchWrite s register data).library = c.library := by
  cases register with
  | pulseTimerLow side | pulseTimerHigh side => cases side <;> rfl
  | _ => rfl

theorem Scribe.library_meter (c : Scribe) : c.meter.1.library = c.library := by
  unfold meter
  dsimp only
  split <;> rfl

theorem Chip.library_operate {c : Chip} {o : Operation} (all : c.scribe.library.All ok)
    (brings : o.Brings ok) : (c.operate o).1.scribe.library.All ok := by
  cases o with
  | clock memory =>
      have followed := all.followDmc c.scribe.tuning memory c.synth.clock.dmc c.scribe.dmc
      have same : (c.operate (.clock memory)).1.scribe.library =
          (c.scribe.follow memory c.synth.clock).1.transmit.1.library :=
        Scribe.library_meter _
      rw [same]
      exact followed
  | transcribe memory => exact all.followDmc _ _ _ _
  | write address data =>
      simp only [operate, write]
      split
      next register _ =>
        have same := c.scribe.library_watchWrite c.synth register data
        simpa only [writeRegister, same] using all
      next => exact all
  | read address openBus =>
      simp only [operate, read]
      split <;> exact all
  | withLibrary l => exact brings.dumpingTo _
  | _ => exact all

end Library

/-! ## The tuning -/

namespace Scribe

theorem tuning_watchWrite (c : Scribe) (s : Synth) (register : Register) (data : UInt8) :
    (c.watchWrite s register data).tuning = c.tuning := by
  cases register with
  | pulseTimerLow side | pulseTimerHigh side => cases side <;> rfl
  | _ => rfl

theorem tuning_meter (c : Scribe) : c.meter.1.tuning = c.tuning := by
  unfold meter
  dsimp only
  split <;> rfl

end Scribe

/-- Only `withTuning` changes the tuning. -/
theorem Chip.tuning_operate (c : Chip) {o : Operation} (keeps : ∀ t, o ≠ .withTuning t) :
    (c.operate o).1.scribe.tuning = c.scribe.tuning := by
  cases o with
  | clock memory => exact Scribe.tuning_meter _
  | write address data =>
      simp only [operate, write]
      split
      · exact c.scribe.tuning_watchWrite c.synth _ data
      · rfl
  | read address openBus =>
      simp only [operate, read]
      split <;> rfl
  | withTuning t => exact absurd rfl (keeps t)
  | _ => rfl

/-! ## What one call does to the scribe -/

/-- The scribe after a call, up to its counters, and what it sent. -/
def Chip.scribed (c : Chip) : Operation → Scribe × List Message
  | .power | .setUpReceiver => c.scribe.setUp
  | .silence => c.scribe.reset
  | .clock memory => (c.scribe.follow memory c.synth.clock).1.transmit
  | .transcribe memory => (c.scribe.follow memory c.synth).1.transmit
  | .write address data =>
      match Register.ofAddress? address with
      | some register => (c.scribe.watchWrite c.synth register data, [])
      | none => (c.scribe, [])
  | .read .. | .supply _ => (c.scribe, [])
  | .withTuning t => ((c.withTuning t).scribe, [])
  | .withLibrary l => ((c.withLibrary l).scribe, [])

theorem Chip.midi_operate (c : Chip) (o : Operation) : (c.operate o).2.midi = (c.scribed o).2 := by
  cases o with
  | write address data =>
      simp only [operate, write, scribed]
      cases Register.ofAddress? address <;> rfl
  | read address openBus =>
      simp only [operate, read]
      split <;> rfl
  | _ => rfl

theorem Chip.controllers_operate (c : Chip) (o : Operation) :
    (c.operate o).1.scribe.emitter.controllers = (c.scribed o).1.emitter.controllers := by
  cases o with
  | power =>
      have counted : (c.operate .power).1.scribe.emitter =
          c.scribe.setUp.1.emitter.takeReport.2 := rfl
      exact (congrArg Emitter.controllers counted).trans (Emitter.controllers_takeReport _)
  | clock memory => exact Scribe.controllers_meter _
  | write address data =>
      simp only [operate, write, scribed]
      cases Register.ofAddress? address <;> rfl
  | read address openBus =>
      simp only [operate, read]
      split <;> rfl
  | _ => rfl

theorem Chip.voice_operate (c : Chip) (o : Operation) (p : Part) :
    (c.operate o).1.scribe.voice p = (c.scribed o).1.voice p := by
  cases o with
  | power => exact (c.scribe.voice_power p).trans (c.scribe.voice_setUp p).symm
  | clock memory => exact Scribe.voice_meter _ p
  | write address data =>
      simp only [operate, write, scribed]
      cases Register.ofAddress? address <;> rfl
  | read address openBus =>
      simp only [operate, read]
      split <;> rfl
  | _ => rfl

/-! ## What one call does to one voice -/

/-- The voice is set up, released, moved on by its turn, or left with its tones as they are. -/
theorem Chip.voice_scribed (c : Chip) (o : Operation) (p : Part) :
    match o with
    | .power | .setUpReceiver => (c.scribed o).1.voice p = p.home
    | .silence => (c.scribed o).1.voice p = (c.scribe.voice p).released
    | .clock memory =>
        (c.scribed o).1.voice p = ((c.scribe.follow memory c.synth.clock).1.turn p).1
    | .transcribe memory =>
        (c.scribed o).1.voice p = ((c.scribe.follow memory c.synth).1.turn p).1
    | .write .. | .read .. | .supply _ | .withTuning _ | .withLibrary _ =>
        (c.scribe.voice p).Alike ((c.scribed o).1.voice p) := by
  cases o with
  | power | setUpReceiver => exact c.scribe.voice_setUp p
  | silence => exact c.scribe.voice_reset p
  | clock memory | transcribe memory => exact Scribe.voice_transmit _ p
  | write address data =>
      simp only [scribed]
      split
      · exact c.scribe.alike_watchWrite _ _ _ p
      · exact .refl _
  | read | supply => exact .refl _
  | withTuning t | withLibrary l =>
      cases p with
      | pulse side => cases side <;> exact .refl _
      | _ => exact .refl _

section Voices

variable {kept : Part → Voice → Prop} {known : Instrument → Prop}

/-- What the small steps of every voice keep, with a library of known instruments. -/
structure VoiceInvariant (kept : Part → Voice → Prop) (known : Instrument → Prop) : Prop where
  home (p : Part) : kept p p.home
  alike {p : Part} {v w : Voice} : v.Alike w → kept p v → kept p w
  released {p : Part} {v : Voice} : kept p v → kept p v.released
  follow {p : Part} {v : Voice} (t : Tuning) (m : Memory) (s : Synth) (l : Library) :
    l.All known → kept p v → kept p (p.follow t m s l v)
  burst {p : Part} {v : Voice} (t : Tuning) : kept p v → kept p (p.burst t v).1

theorem VoiceInvariant.voice_follow (h : VoiceInvariant kept known) {c : Scribe}
    (all : c.library.All known) {p : Part} (now : kept p (c.voice p)) (m : Memory) (s : Synth) :
    kept p ((c.follow m s).1.voice p) := by
  rw [c.voice_follow]
  exact h.follow _ _ _ _ all now

theorem VoiceInvariant.turn (h : VoiceInvariant kept known) {c : Scribe} {p : Part}
    (now : kept p (c.voice p)) : kept p (c.turn p).1 := by
  obtain ⟨-, -, pacer, waits⟩ | ⟨-, -, pacer, moves⟩ := c.turn_cases p
  · rw [waits]
    exact h.alike (Voice.alike_pacer _ _) now
  · rw [moves]
    exact h.alike (Voice.alike_pacer _ _) (h.burst c.tuning now)

theorem VoiceInvariant.operate (h : VoiceInvariant kept known) {c : Chip} (o : Operation)
    (all : c.scribe.library.All known) {p : Part} (now : kept p (c.scribe.voice p)) :
    kept p ((c.operate o).1.scribe.voice p) := by
  rw [c.voice_operate]
  have next := c.voice_scribed o p
  cases o with
  | power | setUpReceiver =>
      rw [next]
      exact h.home p
  | silence =>
      rw [next]
      exact h.released now
  | clock memory | transcribe memory =>
      rw [next]
      exact h.turn (h.voice_follow all now _ _)
  | write | read | supply | withTuning | withLibrary => exact h.alike next now

theorem VoiceInvariant.after (h : VoiceInvariant kept known) {c : Chip} {ops : List Operation}
    (brings : ∀ o ∈ ops, o.Brings known) (all : c.scribe.library.All known)
    (now : ∀ p, kept p (c.scribe.voice p)) :
    (c.after ops).scribe.library.All known ∧ ∀ p, kept p ((c.after ops).scribe.voice p) := by
  let good (c : Chip) := c.scribe.library.All known ∧ ∀ p, kept p (c.scribe.voice p)
  have step (c : Chip) (o : Operation) (brings : o.Brings known) (here : good c) :
      good (c.operate o).1 :=
    ⟨Chip.library_operate here.1 brings, fun p => h.operate o here.1 (here.2 p)⟩
  exact Chip.after_induction step c ops brings ⟨all, now⟩

end Voices

end ChipScribe
