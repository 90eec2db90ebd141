import Mathlib.Algebra.Order.Group.Multiset
import ChipScribe.Midi.Emitter

/-!
# What a receiver holds

A receiver keeps the keys that were struck and not yet released, counted with
multiplicity, so that a note struck twice shows.  On each channel it keeps the
last volume and the last bend.  Data bytes count as they travel, with seven
bits.
-/

namespace ChipScribe.Midi

/-- A note on one of the sixteen channels. -/
structure Key where
  chan : UInt8
  note : UInt8
  deriving DecidableEq, Repr

def Key.of (chan note : UInt8) : Key :=
  ⟨chan, note &&& 0x7F⟩

inductive NoteEvent where
  | on (k : Key)
  | off (k : Key)
  deriving DecidableEq, Repr

/-- Any velocity counts as a strike. -/
def Message.note? : Message → Option NoteEvent
  | .short status data1 _ =>
      if status &&& 0xF0 == Message.noteOn then some (.on (.of (status &&& 0x0F) data1))
      else if status &&& 0xF0 == Message.noteOff then some (.off (.of (status &&& 0x0F) data1))
      else none
  | .delay => none

def notes (ms : List Message) : List NoteEvent :=
  ms.filterMap Message.note?

@[simp] theorem notes_nil : notes [] = [] := rfl

@[simp] theorem notes_append (ms more : List Message) :
    notes (ms ++ more) = notes ms ++ notes more :=
  List.filterMap_append

theorem notes_cons (m : Message) (ms : List Message) : notes (m :: ms) = notes [m] ++ notes ms := by
  rw [← notes_append, List.singleton_append]

/-! ## Channels within a status byte -/

variable {chan : UInt8}

private theorem nibbles_of_lt (narrow : chan < 16) :
    chan &&& 0xF0 = 0 ∧ chan &&& 0x0F = chan := by
  have table : ∀ n : Fin 16,
      UInt8.ofNat n &&& 0xF0 = 0 ∧ UInt8.ofNat n &&& 0x0F = UInt8.ofNat n := by decide
  have bound : chan.toNat < 16 := narrow
  have here := table ⟨chan.toNat, bound⟩
  rwa [UInt8.ofNat_toNat] at here

theorem low_of_lt (narrow : chan < 16) : chan &&& 0x0F = chan :=
  (nibbles_of_lt narrow).2

theorem or_and (kind chan mask : UInt8) :
    (kind ||| chan) &&& mask = (kind &&& mask) ||| (chan &&& mask) := by
  rw [← UInt8.toNat_inj]
  simp [Nat.and_or_distrib_right]

/-- A channel below 16 leaves the kind of a status alone. -/
theorem kind_or (narrow : chan < 16) (kind : UInt8) :
    (kind ||| chan) &&& 0xF0 = kind &&& 0xF0 := by
  rw [or_and, (nibbles_of_lt narrow).1, UInt8.or_zero]

theorem chan_or (narrow : chan < 16) (kind : UInt8) (upper : kind &&& 0x0F = 0) :
    (kind ||| chan) &&& 0x0F = chan := by
  rw [or_and, low_of_lt narrow, upper, UInt8.zero_or]

theorem note?_off (narrow : chan < 16) (note : UInt8) :
    (Message.off chan note).note? = some (.off (.of chan note)) := by
  simp only [Message.off, Message.note?, kind_or narrow, chan_or narrow Message.noteOff rfl]
  rfl

theorem note?_on (narrow : chan < 16) (note velocity : UInt8) :
    (Message.on chan note velocity).note? = some (.on (.of chan note)) := by
  simp only [Message.on, Message.note?, kind_or narrow, chan_or narrow Message.noteOn rfl]
  rfl

private theorem note?_other (narrow : chan < 16) {kind : UInt8}
    (on : kind &&& 0xF0 ≠ Message.noteOn) (off : kind &&& 0xF0 ≠ Message.noteOff)
    (data1 data2 : UInt8) : (Message.short (kind ||| chan) data1 data2).note? = none := by
  simp [Message.note?, kind_or narrow, on, off]

@[simp] theorem notes_off (narrow : chan < 16) (note : UInt8) :
    notes [.off chan note] = [.off (.of chan note)] := by
  rw [notes, List.filterMap_cons, note?_off narrow, List.filterMap_nil]

@[simp] theorem notes_on (narrow : chan < 16) (note velocity : UInt8) :
    notes [.on chan note velocity] = [.on (.of chan note)] := by
  rw [notes, List.filterMap_cons, note?_on narrow, List.filterMap_nil]

@[simp] theorem notes_bend (narrow : chan < 16) (wheel : UInt16) :
    notes [.bend chan wheel] = [] := by
  rw [notes, List.filterMap_cons, Message.bend, note?_other narrow (by decide) (by decide)]
  rfl

@[simp] theorem notes_volume (narrow : chan < 16) (level : UInt8) :
    notes [.volume chan level] = [] := by
  rw [notes, List.filterMap_cons, Message.volume, note?_other narrow (by decide) (by decide)]
  rfl

theorem low_narrow (chan : UInt8) : chan &&& 0x0F < 16 :=
  UInt8.lt_of_le_of_lt UInt8.and_le_right (by decide)

@[simp] theorem notes_control (chan controller value : UInt8) :
    notes [.control chan controller value] = [] := by
  rw [notes, List.filterMap_cons, Message.control,
    note?_other (low_narrow chan) (by decide) (by decide)]
  rfl

@[simp] theorem notes_program (chan number : UInt8) : notes [.program chan number] = [] := by
  rw [notes, List.filterMap_cons, Message.program,
    note?_other (low_narrow chan) (by decide) (by decide)]
  rfl

/-! ## The emitter passes every note -/

theorem notes_offer (e : Emitter) (m : Message) : notes (e.offer m).2 = notes [m] := by
  cases m with
  | delay => rfl
  | short status data1 data2 =>
      have masked : (Message.short status (data1 &&& 0x7F) (data2 &&& 0x7F)).note? =
          (Message.short status data1 data2).note? := by
        simp [Message.note?, Key.of, UInt8.and_assoc]
      simp only [Emitter.offer]
      split
      next redundant =>
        have quiet : (Message.short status data1 data2).note? = none := by
          simp only [Emitter.redundant] at redundant
          split at redundant
          next control =>
            have kind := eq_of_beq control
            simp [Message.note?, kind, Message.controlChange, Message.noteOn, Message.noteOff]
          next =>
            split at redundant
            next program =>
              have kind := eq_of_beq program
              simp [Message.note?, kind, Message.programChange, Message.noteOn, Message.noteOff]
            next => cases redundant
        simp [notes, quiet]
      next => simp only [notes, List.filterMap_cons, masked]

@[simp] theorem notes_deliver (e : Emitter) (ms : List Message) :
    notes (e.deliver ms).2 = notes ms := by
  induction ms generalizing e with
  | nil => rfl
  | cons m rest ih =>
      have here := notes_offer e m
      simp only [Emitter.deliver, notes_append, here, ih]
      rw [← notes_cons]

theorem notes_announce (e : Emitter) (front back : List Message) :
    notes (e.announce front back).2 = notes front ++ notes back := by
  simp [Emitter.announce]

/-! ## Held keys -/

namespace NoteEvent

/-- The held keys after an event; a release takes one strike back. -/
def apply (held : Multiset Key) : NoteEvent → Multiset Key
  | .on k => k ::ₘ held
  | .off k => held.erase k

/-- A strike fits where nothing is held, a release where its key alone is. -/
def Fits (held : Multiset Key) : NoteEvent → Prop
  | .on _ => held = 0
  | .off k => held = {k}

theorem Fits.card_le_one {held : Multiset Key} {e : NoteEvent} (h : e.Fits held) :
    (e.apply held).card ≤ 1 := by
  cases e with
  | on k =>
      rw [apply, (h : held = 0)]
      rfl
  | off k =>
      rw [apply, (h : held = {k})]
      simp

end NoteEvent

def play (held : Multiset Key) : List NoteEvent → Multiset Key
  | [] => held
  | e :: rest => play (e.apply held) rest

@[simp] theorem play_nil (held : Multiset Key) : play held [] = held := rfl

@[simp] theorem play_append (held : Multiset Key) (es more : List NoteEvent) :
    play held (es ++ more) = play (play held es) more := by
  induction es generalizing held with
  | nil => rfl
  | cons e es ih => exact ih _

/-- Every event of the list fits when its turn comes. -/
def Orderly (held : Multiset Key) : List NoteEvent → Prop
  | [] => True
  | e :: rest => e.Fits held ∧ Orderly (e.apply held) rest

namespace Orderly

variable {held : Multiset Key} {front back : List NoteEvent}

theorem append (first : Orderly held front) (rest : Orderly (play held front) back) :
    Orderly held (front ++ back) := by
  induction front generalizing held with
  | nil => exact rest
  | cons e front ih => exact ⟨first.1, ih first.2 rest⟩

/-- Orderly notes leave whatever else is held as it is. -/
theorem play_beside {es : List NoteEvent} (h : Orderly held es) (beside : Multiset Key) :
    play (held + beside) es = play held es + beside := by
  induction es generalizing held with
  | nil => rfl
  | cons e es ih =>
      have here : e.apply (held + beside) = e.apply held + beside := by
        cases e with
        | on k => exact (Multiset.cons_add k held beside).symm
        | off k =>
            have alone : held = {k} := h.1
            rw [alone]
            exact Multiset.erase_add_left_pos beside (Multiset.mem_singleton_self k)
      exact (congrArg (play · es) here).trans (ih h.2)

/-- Where other keys are held, orderly notes take back their own and leave the rest. -/
theorem play_elsewhere {own : Multiset Key} {es : List NoteEvent} (h : Orderly own es)
    (spoken : es ≠ []) (held : Multiset Key) : play held es = play own es + (held - own) := by
  cases es with
  | nil => exact absurd rfl spoken
  | cons e es =>
      have here : e.apply held = e.apply own + (held - own) := by
        cases e with
        | on k =>
            have none : own = 0 := h.1
            rw [none, Multiset.sub_zero]
            exact (Multiset.singleton_add k held).symm
        | off k =>
            have alone : own = {k} := h.1
            rw [alone, Multiset.sub_singleton]
            simp [NoteEvent.apply]
      rw [play, here]
      exact h.2.play_beside _

theorem fits {e : NoteEvent} (h : Orderly held (front ++ e :: back)) :
    e.Fits (play held front) := by
  induction front generalizing held with
  | nil => exact h.1
  | cons e' front ih => exact ih h.2

theorem card_le_one (start : held.card ≤ 1) (h : Orderly held (front ++ back)) :
    (play held front).card ≤ 1 := by
  induction front generalizing held with
  | nil => exact start
  | cons e front ih => exact ih h.1.card_le_one h.2

end Orderly

/-- Releasing at least the held keys leaves nothing. -/
theorem play_releases {held : Multiset Key} {keys : List Key}
    (all : held ≤ (keys : Multiset Key)) : play held (keys.map .off) = 0 := by
  induction keys generalizing held with
  | nil => exact Multiset.le_zero.mp all
  | cons k keys ih =>
      apply ih
      exact Multiset.erase_le_iff_le_cons.mpr all

theorem play_releases_le (held : Multiset Key) (keys : List Key) :
    play held (keys.map .off) ≤ held := by
  induction keys generalizing held with
  | nil => exact le_rfl
  | cons k keys ih => exact (ih _).trans (Multiset.erase_le k held)

/-! ## Some of the held keys -/

section Some

variable (q : Key → Prop) [DecidablePred q]

def NoteEvent.key : NoteEvent → Key
  | .on k | .off k => k

theorem filter_erase (held : Multiset Key) (k : Key) :
    (held.erase k).filter q = held.filter q - Multiset.filter q {k} := by
  rw [← Multiset.sub_singleton, Multiset.filter_sub]

/-- Events of other keys leave the keys of a kind as they are. -/
theorem filter_play_of_not {held : Multiset Key} {es : List NoteEvent}
    (other : ∀ e ∈ es, ¬ q e.key) : (play held es).filter q = held.filter q := by
  induction es generalizing held with
  | nil => rfl
  | cons e es ih =>
      rw [play, ih fun e' member => other e' (List.mem_cons_of_mem _ member)]
      have here : ¬ q e.key := other e List.mem_cons_self
      cases e with
      | on k => exact Multiset.filter_cons_of_neg _ here
      | off k =>
          have here : ¬ q k := here
          rw [NoteEvent.apply, filter_erase, Multiset.filter_singleton, if_neg here]
          exact Multiset.sub_zero _

/-- What is held beside a voice's notes stays when the voice plays on in order. -/
theorem Orderly.filter_play {held beside own : Multiset Key} {es : List NoteEvent}
    (orderly : Orderly own es) (split : held.filter q = beside + own.filter q) :
    (play held es).filter q = beside + (play own es).filter q := by
  induction es generalizing held own with
  | nil => exact split
  | cons e es ih =>
      refine ih orderly.2 ?_
      have fits := orderly.1
      cases e with
      | on k =>
          have none : own = 0 := fits
          subst none
          have held_eq : held.filter q = beside := by simpa using split
          rw [NoteEvent.apply, NoteEvent.apply, Multiset.filter_cons, Multiset.filter_cons, held_eq,
            Multiset.filter_zero, add_zero, add_comm]
      | off k =>
          have one : own = {k} := fits
          subst one
          rw [NoteEvent.apply, filter_erase, split, NoteEvent.apply, Multiset.erase_singleton,
            Multiset.filter_zero, add_zero]
          exact add_tsub_cancel_right _ _

/-- Releasing at least the held keys of a kind leaves none of the kind. -/
theorem filter_play_releases {held : Multiset Key} {keys : List Key}
    (all : held.filter q ≤ (keys : Multiset Key)) :
    (play held (keys.map .off)).filter q = 0 := by
  induction keys generalizing held with
  | nil => exact Multiset.le_zero.mp all
  | cons k keys ih =>
      apply ih
      rw [NoteEvent.apply, filter_erase, Multiset.filter_singleton]
      split
      · rw [tsub_le_iff_right, add_comm]
        exact all
      next other =>
        have absent : k ∉ held.filter q := fun member => other (Multiset.of_mem_filter member)
        rw [Multiset.empty_eq_zero, Multiset.sub_zero, ← Multiset.erase_of_notMem absent]
        exact Multiset.erase_le_iff_le_cons.mpr all

end Some

end ChipScribe.Midi
