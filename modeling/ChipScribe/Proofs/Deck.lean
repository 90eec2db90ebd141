import ChipScribe.Proofs.Parts
import ChipScribe.Proofs.Separation
import ChipScribe.Sample.LibraryFile

/-!
# The sample deck

Whether a sample's note is wanted depends on little: the delta channel, what its
voice remembers of the sample, and the outcome of a lookup.  That much of a chip
is its deck.  The deck moves on its own but for the outcome, so what a host can
do to the note is read off a machine without memory, library or floats.  `Hosted`
are the chips a host comes by that answers their requests.
-/

namespace ChipScribe

/-- A note is wanted, loud enough to be struck. -/
def Voice.wantsNote (v : Voice) : Bool :=
  v.want.note != 0 && v.want.vel != 0

structure Deck where
  dmc : Dmc
  /-- A lookup is pending. -/
  triggered : Bool := false
  /-- The sample was stopped since the last recalculation. -/
  stopped : Bool := false
  /-- The bytes left at the last recalculation. -/
  seen : UInt16 := 0
  wanted : Bool := false
  deriving DecidableEq, Repr

namespace Deck

def of (d : Dmc) (v : Voice) : Deck where
  dmc := d
  triggered := v.triggered
  stopped := v.stopped
  seen := v.seen.remaining
  wanted := v.wantsNote

/-! ## How it moves -/

/-- Clocks from the start of a sample to its lookup. -/
def settle : UInt32 := 16

def due (k : Deck) : Bool :=
  k.triggered && k.dmc.age > settle

/-- The sample has run out or was stopped since the last recalculation. -/
def ended (k : Deck) : Bool :=
  (!k.dmc.loop && k.dmc.remaining == 0 && k.seen != 0) || k.stopped

/-- A recalculation; a lookup that is due leaves a note wanted or not. -/
def recalculate (found : Bool) (k : Deck) : Deck where
  dmc := k.dmc
  triggered := k.triggered && !k.due
  stopped := false
  seen := k.dmc.remaining
  wanted := (if k.due then found else k.wanted) && !k.ended

def clock (r : Region) (found : Bool) (k : Deck) : Deck :=
  { k with dmc := k.dmc.advance r }.recalculate found

def writeStatus (data : UInt8) (k : Deck) : Deck :=
  if data &&& 0x10 != 0 then
    { k with
      dmc := k.dmc.start.clearIrq
      triggered := k.triggered || (k.dmc.remaining == 0 && k.dmc.sampleLength > 1) }
  else
    { k with
      dmc := k.dmc.stop.clearIrq
      triggered := k.triggered && k.dmc.remaining == 0
      stopped := k.stopped || k.dmc.remaining != 0 }

def write (register : Register) (data : UInt8) (k : Deck) : Deck :=
  match register with
  | .dmcControl => { k with dmc := k.dmc.writeControl data }
  | .dmcLevel => { k with dmc := k.dmc.writeLevel data }
  | .dmcAddress => { k with dmc := k.dmc.writeAddress data }
  | .dmcLength => { k with dmc := k.dmc.writeLength data }
  | .status => k.writeStatus data
  | _ => k

def supply (data : UInt8) (k : Deck) : Deck :=
  { k with dmc := k.dmc.supply data }

/-- A call of a host at work; it makes no other. -/
def operate (r : Region) (found : Bool) (k : Deck) : Operation → Deck
  | .clock _ => k.clock r found
  | .transcribe _ => k.recalculate found
  | .write address data =>
      match Register.ofAddress? address with
      | some register => k.write register data
      | none => k
  | .supply data => k.supply data
  | _ => k

/-! ## The chip projects onto it -/

theorem of_dmcBurst (d : Dmc) (v : Voice) : of d v.dmcBurst.1 = of d v := by
  unfold Voice.dmcBurst Voice.Burst.andThen Voice.dmcReleaseBurst Voice.dmcStrikeBurst
  dsimp only
  repeat' split
  all_goals rfl

theorem of_endSample (d : Dmc) (v : Voice) : of d (v.endSample d) =
    { of d v with
      stopped := false, seen := d.remaining, wanted := v.wantsNote && !(of d v).ended } := by
  have same : v.sampleEnded d = (of d v).ended := rfl
  unfold Voice.endSample
  cases ended : (of d v).ended with
  | true =>
      rw [same, ended, if_pos rfl, Bool.not_true, Bool.and_false]
      rfl
  | false =>
      rw [same, ended, if_neg Bool.false_ne_true, Bool.not_false, Bool.and_true]
      rfl

theorem of_lookUp (t : Tuning) (m : Memory) (d : Dmc) (l : Library) (v : Voice) :
    of d (v.lookUp t m d l).1 =
      { of d v with triggered := false, wanted := (v.lookUp t m d l).1.wantsNote } := by
  dsimp only [Voice.lookUp]
  repeat' split
  all_goals rfl

theorem of_followDmc {t : Tuning} (settled : t.dmcSettle = settle) (m : Memory) (d : Dmc)
    (l : Library) (v : Voice) : of d (v.followDmc t m d l).1 =
      (of d v).recalculate (v.lookUp t m d l).1.wantsNote := by
  have same : v.dueLookup t d = (of d v).due := by
    unfold Voice.dueLookup
    rw [settled]
    rfl
  unfold Voice.followDmc recalculate
  rw [same]
  cases due : (of d v).due with
  | true =>
      rw [if_pos rfl, if_pos rfl, Bool.not_true, Bool.and_false]
      dsimp only
      rw [of_endSample, of_lookUp]
      rfl
  | false =>
      rw [if_neg Bool.false_ne_true, if_neg Bool.false_ne_true, Bool.not_false, Bool.and_true]
      exact of_endSample d v

end Deck

/-- A host at work clocks the chip, uses its registers, and hands over bytes. -/
def Operation.working : Operation → Bool
  | .clock _ | .transcribe _ | .write .. | .read .. | .supply _ => true
  | _ => false

theorem Synth.dmc_clock (s : Synth) : s.clock.dmc = s.dmc.advance s.region := by
  unfold clock
  cases s.frame.signal <;> rfl

theorem Scribe.of_turn (c : Scribe) (d : Dmc) : Deck.of d (c.turn .dmc).1 = Deck.of d c.dmc := by
  obtain ⟨-, -, pacer, waits⟩ | ⟨-, -, pacer, moves⟩ := c.turn_cases .dmc
  · rw [waits]
    rfl
  · rw [moves]
    exact Deck.of_dmcBurst d _

namespace Chip

def deck (c : Chip) : Deck :=
  .of c.synth.dmc c.scribe.dmc

/-- A lookup made by this call would leave a note wanted. -/
def finds (c : Chip) : Operation → Bool
  | .clock m =>
      (c.scribe.dmc.lookUp c.scribe.tuning m c.synth.clock.dmc c.scribe.library).1.wantsNote
  | .transcribe m =>
      (c.scribe.dmc.lookUp c.scribe.tuning m c.synth.dmc c.scribe.library).1.wantsNote
  | _ => false

private theorem deck_recalculate {c : Scribe} (settled : c.tuning.dmcSettle = Deck.settle)
    (m : Memory) (s : Synth) : Deck.of s.dmc ((c.follow m s).1.turn .dmc).1 =
      (Deck.of s.dmc c.dmc).recalculate (c.dmc.lookUp c.tuning m s.dmc c.library).1.wantsNote := by
  rw [Scribe.of_turn]
  exact Deck.of_followDmc settled m s.dmc c.library c.dmc

private theorem of_startSample (d : Dmc) (v : Voice) :
    Deck.of d.start.clearIrq (v.startSample d) =
      { Deck.of d v with
        dmc := d.start.clearIrq
        triggered := v.triggered || (d.remaining == 0 && decide (d.sampleLength > 1)) } := by
  unfold Voice.startSample
  split
  next long =>
    rw [long, Bool.or_true]
    rfl
  next short =>
    rw [Bool.eq_false_iff.mpr short, Bool.or_false]
    rfl

private theorem of_stopSample (d : Dmc) (v : Voice) :
    Deck.of d.stop.clearIrq (v.stopSample d) =
      { Deck.of d v with
        dmc := d.stop.clearIrq
        triggered := v.triggered && d.remaining == 0
        stopped := v.stopped || d.remaining != 0 } := by
  unfold Voice.stopSample
  by_cases playing : d.remaining != 0
  · have left : (d.remaining == 0) = false := by simpa using playing
    rw [if_pos playing, playing, left, Bool.and_false, Bool.or_true]
    rfl
  · have spent : (d.remaining == 0) = true := by simpa using playing
    rw [if_neg playing, Bool.eq_false_iff.mpr playing, spent, Bool.and_true, Bool.or_false]
    rfl

theorem deck_writeRegister (c : Chip) (register : Register) (data : UInt8) :
    (c.writeRegister register data).1.deck = c.deck.write register data := by
  cases register with
  | status =>
      have moved : (c.writeRegister .status data).1.deck =
          Deck.of (if data &&& 0x10 != 0 then c.synth.dmc.start else c.synth.dmc.stop).clearIrq
            (if data &&& 0x10 != 0 then c.scribe.dmc.startSample c.synth.dmc
              else c.scribe.dmc.stopSample c.synth.dmc) := rfl
      rw [moved, Deck.write, Deck.writeStatus]
      by_cases start : data &&& 0x10 != 0
      · rw [if_pos start, if_pos start, if_pos start]
        exact of_startSample c.synth.dmc c.scribe.dmc
      · rw [if_neg start, if_neg start, if_neg start]
        exact of_stopSample c.synth.dmc c.scribe.dmc
  | pulseControl side | pulseSweep side | pulseTimerLow side | pulseTimerHigh side =>
      cases side <;> rfl
  | _ => rfl

theorem deck_operate {c : Chip} (settled : c.scribe.tuning.dmcSettle = Deck.settle)
    {o : Operation} (working : o.working) :
    (c.operate o).1.deck = c.deck.operate c.synth.region (c.finds o) o := by
  cases o with
  | clock m =>
      have moved : (c.operate (.clock m)).1.deck =
          Deck.of c.synth.clock.dmc ((c.scribe.follow m c.synth.clock).1.turn .dmc).1 :=
        congrArg (Deck.of c.synth.clock.dmc)
          ((c.voice_operate _ .dmc).trans (c.voice_scribed (.clock m) .dmc))
      have advanced : Deck.of c.synth.clock.dmc c.scribe.dmc =
          { c.deck with dmc := c.deck.dmc.advance c.synth.region } := by
        rw [Synth.dmc_clock]
        rfl
      rw [moved, deck_recalculate settled, advanced]
      rfl
  | transcribe m =>
      have moved : (c.operate (.transcribe m)).1.deck =
          Deck.of c.synth.dmc ((c.scribe.follow m c.synth).1.turn .dmc).1 :=
        congrArg (Deck.of c.synth.dmc)
          ((c.voice_operate _ .dmc).trans (c.voice_scribed (.transcribe m) .dmc))
      rw [moved, deck_recalculate settled]
      rfl
  | write address data =>
      simp only [operate, write, Deck.operate]
      cases Register.ofAddress? address with
      | some register => exact c.deck_writeRegister register data
      | none => rfl
  | read address openBus =>
      simp only [operate, read]
      split <;> rfl
  | supply data => rfl
  | _ => cases working

theorem settled_of_tuned {c : Chip} (tuned : c.scribe.tuning = {}) :
    c.scribe.tuning.dmcSettle = Deck.settle := by
  rw [tuned]
  rfl

theorem tuning_of_working (c : Chip) {o : Operation} (working : o.working = true) :
    (c.operate o).1.scribe.tuning = c.scribe.tuning := by
  refine c.tuning_operate ?_
  rintro t rfl
  cases working

end Chip

/-! ## A host at work -/

/--
The requests left open after a call.  A byte handed over answers one of them, so
there has to be one; a host at work makes no calls but these.
-/
def Operation.leaves? (o : Operation) (out : Outcome) (opened : Nat) : Option Nat :=
  match o with
  | .clock _ => some (opened + out.requests)
  | .transcribe _ | .write .. | .read .. => some opened
  | .supply _ =>
      match opened with
      | 0 => none
      | left + 1 => some left
  | _ => none

/--
The chips that a host at work comes by, with the requests it has yet to answer.
It powers a chip that has the default tuning and a library that was read from
text; what it may do then is up to `rule`.
-/
inductive Hosted (rule : Chip → Nat → Operation → Prop) : Chip → Nat → Prop
  | power {c : Chip} {text : String} {l : Library} (tuned : c.scribe.tuning = {})
      (parsed : Library.parse text = .ok l) : Hosted rule (c.withLibrary l).power.1 0
  | operate {c : Chip} {opened left : Nat} {o : Operation} (h : Hosted rule c opened)
      (allowed : rule c opened o) (leaves : o.leaves? (c.operate o).2 opened = some left) :
      Hosted rule (c.operate o).1 left

/-- A write that makes a sample loop after it has run out, before the voice has seen that. -/
def Deck.loopsLate (k : Deck) : Operation → Bool
  | .write address data =>
      Register.ofAddress? address == some .dmcControl && data &&& 0x40 != 0 &&
        k.dmc.remaining == 0 && k.seen != 0 && !k.stopped
  | _ => false

/-- The host leaves few requests open, and does not make a sample loop after its end. -/
def Chip.Careful (limit : Nat) (c : Chip) (opened : Nat) (o : Operation) : Prop :=
  opened ≤ limit ∧ c.deck.loopsLate o = false

theorem Hosted.mono {rule wider : Chip → Nat → Operation → Prop}
    (wide : ∀ c opened o, rule c opened o → wider c opened o) {c : Chip} {opened : Nat}
    (h : Hosted rule c opened) : Hosted wider c opened := by
  induction h with
  | power tuned parsed => exact .power tuned parsed
  | operate _ allowed leaves ih => exact ih.operate (wide _ _ _ allowed) leaves

theorem Chip.working_of_leaves {c : Chip} {opened left : Nat} {o : Operation}
    (leaves : o.leaves? (c.operate o).2 opened = some left) : o.working = true := by
  cases o with
  | power | setUpReceiver | silence | withTuning | withLibrary => cases leaves
  | _ => rfl

end ChipScribe
