import Mathlib.Logic.Function.Basic
import ChipScribe.Proofs.Receiver

/-!
# The emitter and the receiver behind it

The emitter drops a volume that it believes the receiver holds.  As long as the
belief is right (`Link.Coherent`) the receiver behind it ends where it would
have ended without the emitter.
-/

namespace ChipScribe.Midi

namespace Message

def volume? : Message → Option (UInt8 × UInt8)
  | .short status data1 data2 =>
      if status &&& 0xF0 == controlChange && data1 &&& 0x7F == channelVolume then
        some (status &&& 0x0F, data2 &&& 0x7F)
      else none
  | .delay => none

/-- The channel and the value of a bend, whose low half comes first. -/
def bend? : Message → Option (UInt8 × UInt16)
  | .short status data1 data2 =>
      if status &&& 0xF0 == pitchBend then
        some (status &&& 0x0F, (data1 &&& 0x7F).toUInt16 + (data2 &&& 0x7F).toUInt16 * 128)
      else none
  | .delay => none

@[simp] theorem note?_masked (m : Message) : m.masked.note? = m.note? := by
  cases m with
  | delay => rfl
  | short status data1 data2 => simp [masked, note?, Key.of, UInt8.and_assoc]

@[simp] theorem volume?_masked (m : Message) : m.masked.volume? = m.volume? := by
  cases m with
  | delay => rfl
  | short status data1 data2 => simp [masked, volume?, UInt8.and_assoc]

@[simp] theorem bend?_masked (m : Message) : m.masked.bend? = m.bend? := by
  cases m with
  | delay => rfl
  | short status data1 data2 => simp [masked, bend?, UInt8.and_assoc]

theorem channel?_of_volume? {m : Message} {chan level : UInt8}
    (h : m.volume? = some (chan, level)) :
    m.channel? = some chan := by
  cases m with
  | delay => cases h
  | short status data1 data2 =>
      simp only [volume?] at h
      split at h
      · cases h
        rfl
      · cases h

theorem channel?_of_bend? {m : Message} {chan : UInt8} {wheel : UInt16}
    (h : m.bend? = some (chan, wheel)) : m.channel? = some chan := by
  cases m with
  | delay => cases h
  | short status data1 data2 =>
      simp only [bend?] at h
      split at h
      · cases h
        rfl
      · cases h

end Message

/-! ## The channel of a message -/

section Channel

variable (chan : UInt8)

private theorem low_or (kind : UInt8) (upper : kind &&& 0x0F = 0) :
    (kind ||| chan) &&& 0x0F = chan &&& 0x0F := by
  rw [or_and, upper, UInt8.zero_or]

theorem Message.channel?_off (note : UInt8) :
    (Message.off chan note).channel? = some (chan &&& 0x0F) :=
  congrArg some (low_or chan Message.noteOff rfl)

theorem Message.channel?_on (note velocity : UInt8) :
    (Message.on chan note velocity).channel? = some (chan &&& 0x0F) :=
  congrArg some (low_or chan Message.noteOn rfl)

theorem Message.channel?_bend (wheel : UInt16) :
    (Message.bend chan wheel).channel? = some (chan &&& 0x0F) :=
  congrArg some (low_or chan Message.pitchBend rfl)

theorem Message.channel?_volume (level : UInt8) :
    (Message.volume chan level).channel? = some (chan &&& 0x0F) :=
  congrArg some (low_or chan Message.controlChange rfl)

theorem Message.channel?_control (controller value : UInt8) :
    (Message.control chan controller value).channel? = some (chan &&& 0x0F) := by
  have low := low_or (chan &&& 0x0F) Message.controlChange rfl
  rw [UInt8.and_assoc, UInt8.and_self] at low
  exact congrArg some low

theorem Message.channel?_program (number : UInt8) :
    (Message.program chan number).channel? = some (chan &&& 0x0F) := by
  have low := low_or (chan &&& 0x0F) Message.programChange rfl
  rw [UInt8.and_assoc, UInt8.and_self] at low
  exact congrArg some low

end Channel

theorem Message.channel?_of_note? {m : Message} {e : NoteEvent} (h : m.note? = some e) :
    m.channel? = some e.key.chan := by
  cases m with
  | delay => cases h
  | short status data1 data2 =>
      simp only [Message.note?] at h
      split at h
      · cases h
        rfl
      · split at h
        · cases h
          rfl
        · cases h

/-! ## Messages that change one thing -/

section Kind

variable {chan : UInt8} (narrow : chan < 16)
include narrow

theorem Message.volume?_off (note : UInt8) : (Message.off chan note).volume? = none := by
  simp only [off, volume?, kind_or narrow]
  rfl

theorem Message.volume?_on (note velocity : UInt8) :
    (Message.on chan note velocity).volume? = none := by
  simp only [on, volume?, kind_or narrow]
  rfl

theorem Message.volume?_bend (wheel : UInt16) : (Message.bend chan wheel).volume? = none := by
  simp only [bend, volume?, kind_or narrow]
  rfl

theorem Message.bend?_off (note : UInt8) : (Message.off chan note).bend? = none := by
  simp only [off, bend?, kind_or narrow]
  rfl

theorem Message.bend?_on (note velocity : UInt8) :
    (Message.on chan note velocity).bend? = none := by
  simp only [on, bend?, kind_or narrow]
  rfl

theorem Message.bend?_volume (level : UInt8) : (Message.volume chan level).bend? = none := by
  simp only [volume, bend?, kind_or narrow]
  rfl

end Kind

/-- No volume and no bend is among the messages. -/
def Plain (ms : List Message) : Prop :=
  ∀ m ∈ ms, m.volume? = none ∧ m.bend? = none

instance (ms : List Message) : Decidable (Plain ms) :=
  inferInstanceAs (Decidable (∀ m ∈ ms, m.volume? = none ∧ m.bend? = none))

namespace Plain

variable {ms more : List Message}

theorem nil : Plain [] :=
  fun _ member => nomatch member

theorem append (h : Plain ms) (h' : Plain more) : Plain (ms ++ more) := by
  intro m member
  rcases List.mem_append.mp member with first | second
  · exact h m first
  · exact h' m second

theorem off {chan : UInt8} (narrow : chan < 16) (note : UInt8) : Plain [.off chan note] := by
  intro m member
  rw [List.mem_singleton] at member
  subst member
  exact ⟨Message.volume?_off narrow note, Message.bend?_off narrow note⟩

theorem on {chan : UInt8} (narrow : chan < 16) (note velocity : UInt8) :
    Plain [.on chan note velocity] := by
  intro m member
  rw [List.mem_singleton] at member
  subst member
  exact ⟨Message.volume?_on narrow note velocity, Message.bend?_on narrow note velocity⟩

theorem volume?_ne (h : Plain ms) (chan : UInt8) :
    ∀ m ∈ ms, ∀ level, m.volume? ≠ some (chan, level) := by
  intro m member level
  rw [(h m member).1]
  simp

theorem bend?_ne (h : Plain ms) (chan : UInt8) :
    ∀ m ∈ ms, ∀ wheel, m.bend? ≠ some (chan, wheel) := by
  intro m member wheel
  rw [(h m member).2]
  simp

end Plain

/-! ## Messages for some of the channels -/

/-- Every message is for a channel of a region, or a pause. -/
def Confined (region : UInt8 → Prop) (ms : List Message) : Prop :=
  ∀ m ∈ ms, ∀ chan, m.channel? = some chan → region chan

namespace Confined

variable {region : UInt8 → Prop} {ms more : List Message} {chan : UInt8}

theorem nil : Confined region [] :=
  fun _ member => nomatch member

theorem append (h : Confined region ms) (h' : Confined region more) :
    Confined region (ms ++ more) := by
  intro m member
  rcases List.mem_append.mp member with first | second
  · exact h m first
  · exact h' m second

theorem mono {wider : UInt8 → Prop} (h : Confined region ms)
    (within : ∀ chan, region chan → wider chan) : Confined wider ms :=
  fun m member chan channel => within chan (h m member chan channel)

theorem volume?_ne (h : Confined region ms) (outside : ¬ region chan) :
    ∀ m ∈ ms, ∀ level, m.volume? ≠ some (chan, level) :=
  fun m member _ eq => outside (h m member chan (Message.channel?_of_volume? eq))

theorem bend?_ne (h : Confined region ms) (outside : ¬ region chan) :
    ∀ m ∈ ms, ∀ wheel, m.bend? ≠ some (chan, wheel) :=
  fun m member _ eq => outside (h m member chan (Message.channel?_of_bend? eq))

theorem note_chan (h : Confined region ms) : ∀ e ∈ notes ms, region e.key.chan := by
  intro e member
  obtain ⟨m, sent, eq⟩ := List.mem_filterMap.mp member
  exact h m sent _ (Message.channel?_of_note? eq)

end Confined

/-! ## The receiver -/

/-- A table of values by channel, with the change that a message makes. -/
def store {α : Type} (table : UInt8 → Option α) : Option (UInt8 × α) → UInt8 → Option α
  | some (chan, x) => Function.update table chan (some x)
  | none => table

/-- What a receiver holds: its keys, and by channel the last volume and the last bend. -/
structure Receiver where
  held : Multiset Key := 0
  volume : UInt8 → Option UInt8 := fun _ => none
  bend : UInt8 → Option UInt16 := fun _ => none

namespace Receiver

def take (r : Receiver) (m : Message) : Receiver where
  held := play r.held (notes [m])
  volume := store r.volume m.volume?
  bend := store r.bend m.bend?

def hear (r : Receiver) (ms : List Message) : Receiver :=
  ms.foldl take r

@[simp] theorem hear_nil (r : Receiver) : r.hear [] = r := rfl

theorem hear_append (r : Receiver) (ms more : List Message) :
    r.hear (ms ++ more) = (r.hear ms).hear more :=
  List.foldl_append

theorem held_hear (r : Receiver) (ms : List Message) :
    (r.hear ms).held = play r.held (notes ms) := by
  induction ms generalizing r with
  | nil => rfl
  | cons m ms ih =>
      rw [notes_cons, play_append]
      exact ih (r.take m)

end Receiver

/-! ## The emitter in front of it -/

namespace Emitter

/-- The emitter drops a message or delivers it, masked. -/
theorem offer_cases (e : Emitter) (m : Message) :
    e.offer m = (e, []) ∨ (e.offer m).2 = [m.masked] := by
  cases m with
  | delay => exact .inr rfl
  | short status data1 data2 =>
      simp only [offer]
      split
      · exact .inl rfl
      · exact .inr rfl

end Emitter

structure Link where
  emitter : Emitter
  receiver : Receiver

namespace Link

/-- Offer messages to the emitter; the receiver hears what is delivered. -/
def send (k : Link) (ms : List Message) : Link where
  emitter := (k.emitter.deliver ms).1
  receiver := k.receiver.hear (k.emitter.deliver ms).2

@[simp] theorem send_nil (k : Link) : k.send [] = k := rfl

theorem send_append (k : Link) (ms more : List Message) :
    k.send (ms ++ more) = (k.send ms).send more := by
  simp only [send, Emitter.deliver_append, Receiver.hear_append]

theorem send_cons (k : Link) (m : Message) (ms : List Message) :
    k.send (m :: ms) = (k.send [m]).send ms := by
  rw [← send_append, List.singleton_append]

theorem receiver_send_one (k : Link) (m : Message) :
    k.send [m] = k ∨ (k.send [m]).receiver = k.receiver.take m.masked := by
  rcases k.emitter.offer_cases m with dropped | delivered
  · left
    simp [send, Emitter.deliver, dropped]
  · right
    simp [send, Emitter.deliver, delivered, Receiver.hear]

@[simp] theorem held_send (k : Link) (ms : List Message) :
    (k.send ms).receiver.held = play k.receiver.held (notes ms) := by
  rw [send, Receiver.held_hear, notes_deliver]

/-- What a receiver keeps by channel stays where no message changes it. -/
private theorem stored_send_of_ne {α : Type} {table : Receiver → UInt8 → Option α}
    {change : Message → Option (UInt8 × α)}
    (take : ∀ r m, table (r.take m) = store (table r) (change m))
    (masked : ∀ m, change m.masked = change m) (k : Link) {chan : UInt8} {ms : List Message}
    (other : ∀ m ∈ ms, ∀ x, change m ≠ some (chan, x)) :
    table (k.send ms).receiver chan = table k.receiver chan := by
  induction ms generalizing k with
  | nil => rfl
  | cons m ms ih =>
      rw [send_cons, ih _ fun m' member => other m' (List.mem_cons_of_mem _ member)]
      rcases k.receiver_send_one m with same | taken
      · rw [same]
      · rw [taken, take, masked]
        cases eq : change m with
        | none => rfl
        | some made =>
            obtain ⟨chan', x⟩ := made
            have ne : chan ≠ chan' := by
              rintro rfl
              exact other m List.mem_cons_self x eq
            exact Function.update_of_ne ne _ _

theorem volume_send_of_ne (k : Link) {chan : UInt8} {ms : List Message}
    (other : ∀ m ∈ ms, ∀ level, m.volume? ≠ some (chan, level)) :
    (k.send ms).receiver.volume chan = k.receiver.volume chan :=
  stored_send_of_ne (fun _ _ => rfl) Message.volume?_masked k other

theorem bend_send_of_ne (k : Link) {chan : UInt8} {ms : List Message}
    (other : ∀ m ∈ ms, ∀ wheel, m.bend? ≠ some (chan, wheel)) :
    (k.send ms).receiver.bend chan = k.receiver.bend chan :=
  stored_send_of_ne (fun _ _ => rfl) Message.bend?_masked k other

/-! ## A coherent link -/

/-- Every volume that the emitter believes in is the one that the receiver holds. -/
def Coherent (k : Link) : Prop :=
  ∀ status level,
    k.emitter.controllers[Emitter.controllerSlot status Message.channelVolume] = some level →
      k.receiver.volume (status &&& 0x0F) = some level

theorem Coherent.congr {k k' : Link} (h : k.Coherent)
    (controllers : k'.emitter.controllers = k.emitter.controllers)
    (receiver : k'.receiver = k.receiver) : k'.Coherent := by
  unfold Coherent
  rw [controllers, receiver]
  exact h

def forget (k : Link) : Link :=
  { k with emitter := k.emitter.forget }

theorem coherent_forget (k : Link) : k.forget.Coherent := by
  intro status level believed
  simp [forget, Emitter.forget] at believed

private theorem slot_eq_iff (status status' data1 : UInt8) (seven : data1 &&& 0x7F = data1) :
    (Emitter.controllerSlot status data1).val =
        (Emitter.controllerSlot status' Message.channelVolume).val ↔
      status &&& 0x0F = status' &&& 0x0F ∧ data1 = Message.channelVolume := by
  have low (x : UInt8) : (x &&& 0x0F).toNat = x.toNat % 16 := by
    rw [UInt8.toNat_and]
    exact Nat.and_two_pow_sub_one_eq_mod x.toNat 4
  have small : data1.toNat % 128 = data1.toNat := by
    have masked : (data1 &&& 0x7F).toNat = data1.toNat % 128 := by
      rw [UInt8.toNat_and]
      exact Nat.and_two_pow_sub_one_eq_mod data1.toNat 7
    rw [← masked, seven]
  rw [← UInt8.toNat_inj, ← UInt8.toNat_inj, low, low]
  simp only [Emitter.controllerSlot, Message.channelVolume, UInt8.reduceToNat, small]
  omega

private theorem coherent_learn {k : Link} (h : k.Coherent) (status data1 data2 : UInt8)
    (seven : data1 &&& 0x7F = data1) (value : data2 &&& 0x7F = data2) :
    Coherent ⟨(k.emitter.learn status data1 data2).tally,
      k.receiver.take (.short status data1 data2)⟩ := by
  intro status' level believed
  simp only [Emitter.tally, Emitter.learn] at believed
  simp only [Receiver.take, Message.volume?, seven, value]
  split at believed
  next control =>
    simp only [control, Bool.true_and]
    have slots := slot_eq_iff status status' data1 seven
    by_cases same : (Emitter.controllerSlot status data1).val =
        (Emitter.controllerSlot status' Message.channelVolume).val
    · obtain ⟨chan, rfl⟩ := slots.mp same
      have learned : some data2 = some level := by
        simpa [same] using believed
      simp [store, chan, learned]
    · have kept : k.emitter.controllers[Emitter.controllerSlot status' Message.channelVolume] =
          some level := by
        simpa [Vector.getElem_set, same] using believed
      have before := h status' level kept
      split
      next volume =>
        have ne : status' &&& 0x0F ≠ status &&& 0x0F := by
          intro chan
          exact same (slots.mpr ⟨chan.symm, eq_of_beq volume⟩)
        rw [store, Function.update_of_ne ne, before]
      next => exact before
  next other =>
    have kept : k.emitter.controllers[Emitter.controllerSlot status' Message.channelVolume] =
        some level := by
      split at believed <;> exact believed
    simpa [other, store] using h status' level kept

theorem Coherent.send_one {k : Link} (h : k.Coherent) (m : Message) : (k.send [m]).Coherent := by
  cases m with
  | delay => exact h
  | short status data1 data2 =>
      have learned := coherent_learn h status (data1 &&& 0x7F) (data2 &&& 0x7F)
        (by rw [UInt8.and_assoc, UInt8.and_self]) (by rw [UInt8.and_assoc, UInt8.and_self])
      simp only [send, Emitter.deliver, Emitter.offer]
      split
      · exact h
      · exact learned

theorem Coherent.send {k : Link} (h : k.Coherent) (ms : List Message) : (k.send ms).Coherent := by
  induction ms generalizing k with
  | nil => exact h
  | cons m ms ih =>
      rw [send_cons]
      exact ih (h.send_one m)

variable {chan : UInt8}

theorem Coherent.volume_send {k : Link} (h : k.Coherent) (narrow : chan < 16) (level : UInt8) :
    (k.send [.volume chan level]).receiver.volume chan = some (level &&& 0x7F) := by
  have kind : (Message.controlChange ||| chan) &&& 0xF0 = Message.controlChange := kind_or narrow _
  have low : (Message.controlChange ||| chan) &&& 0x0F = chan := chan_or narrow _ rfl
  simp only [Link.send, Emitter.deliver, Message.volume, Emitter.offer]
  split
  next redundant =>
    have seven : Message.channelVolume &&& 0x7F = Message.channelVolume := rfl
    have believed : k.emitter.controllers[Emitter.controllerSlot (Message.controlChange ||| chan)
        Message.channelVolume] = some (level &&& 0x7F) := by
      simpa [Emitter.redundant, kind, seven] using redundant
    have held := h _ _ believed
    rwa [low] at held
  next =>
    have seven : Message.channelVolume &&& 0x7F = Message.channelVolume := rfl
    simp [Receiver.hear, Receiver.take, Message.volume?, kind, low, seven, store, UInt8.and_assoc]

private theorem bend_halves {wheel : UInt16} (range : wheel ≤ 0x3FFF) :
    ((wheel &&& 0x7F).toUInt8 &&& 0x7F).toUInt16 +
      (((wheel >>> 7) &&& 0x7F).toUInt8 &&& 0x7F).toUInt16 * 128 = wheel := by
  have low (n : Nat) : n &&& 127 = n % 128 := Nat.and_two_pow_sub_one_eq_mod n 7
  have half : 2 ^ (7 % 16) = 128 := rfl
  have bound : wheel.toNat ≤ 16383 := range
  rw [← UInt16.toNat_inj]
  simp only [UInt16.toNat_add, UInt16.toNat_mul, UInt8.toNat_toUInt16, UInt8.toNat_and,
    UInt16.toNat_toUInt8, UInt16.toNat_and, UInt16.toNat_shiftRight, UInt8.reduceToNat,
    UInt16.reduceToNat, low, Nat.shiftRight_eq_div_pow, half]
  omega

/-- Bends are never dropped, and arrive whole. -/
theorem bend_send (k : Link) (narrow : chan < 16) {wheel : UInt16} (range : wheel ≤ 0x3FFF) :
    (k.send [.bend chan wheel]).receiver.bend chan = some wheel := by
  have kind : (Message.pitchBend ||| chan) &&& 0xF0 = Message.pitchBend := kind_or narrow _
  have low : (Message.pitchBend ||| chan) &&& 0x0F = chan := chan_or narrow _ rfl
  have kept (data1 data2 : UInt8) :
      k.emitter.redundant (Message.pitchBend ||| chan) data1 data2 = false := by
    simp only [Emitter.redundant, kind]
    rfl
  have made : (Message.bend chan wheel).bend? = some (chan, wheel) := by
    simp only [Message.bend, Message.bend?, kind, low, BEq.rfl, ↓reduceIte, bend_halves range]
  have taken : (k.send [.bend chan wheel]).receiver =
      k.receiver.take (Message.bend chan wheel).masked := by
    simp only [send, Emitter.deliver, Message.bend, Emitter.offer, kept]
    rfl
  rw [taken, Receiver.take, Message.bend?_masked, made]
  exact Function.update_self _ _ _

/-! ### Announcing -/

/-- Send, forget what the receiver is believed to hold, and send on. -/
def announce (k : Link) (front back : List Message) : Link :=
  let second := (k.send front).forget.send back
  { second with emitter := second.emitter.resetCount }

theorem announce_eq (k : Link) (front back : List Message) :
    k.announce front back =
      ⟨(k.emitter.announce front back).1, k.receiver.hear (k.emitter.announce front back).2⟩ := by
  simp only [announce, send, forget, Emitter.announce, Receiver.hear_append]

theorem coherent_announce (k : Link) (front back : List Message) :
    (k.announce front back).Coherent :=
  ((k.send front).coherent_forget.send back :)

@[simp] theorem held_announce (k : Link) (front back : List Message) :
    (k.announce front back).receiver.held =
      play k.receiver.held (notes front ++ notes back) := by
  simp [announce, forget]

theorem volume_announce_of_ne (k : Link) {front back : List Message}
    (other : ∀ m ∈ front ++ back, ∀ level, m.volume? ≠ some (chan, level)) :
    (k.announce front back).receiver.volume chan = k.receiver.volume chan := by
  have first := k.volume_send_of_ne fun m member => other m (List.mem_append_left _ member)
  have second := (k.send front).forget.volume_send_of_ne fun m member =>
    other m (List.mem_append_right _ member)
  exact second.trans first

theorem bend_announce_of_ne (k : Link) {front back : List Message}
    (other : ∀ m ∈ front ++ back, ∀ wheel, m.bend? ≠ some (chan, wheel)) :
    (k.announce front back).receiver.bend chan = k.receiver.bend chan := by
  have first := k.bend_send_of_ne fun m member => other m (List.mem_append_left _ member)
  have second := (k.send front).forget.bend_send_of_ne fun m member =>
    other m (List.mem_append_right _ member)
  exact second.trans first

end Link

end ChipScribe.Midi
