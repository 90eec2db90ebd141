import ChipScribe.Proofs.Bench
import ChipScribe.Proofs.Pacing

/-!
# What reaches the receiver

A status byte is made by joining a kind and a channel, and the channel is not
cut to four bits.  It does not have to be: nothing is sent before a voice has
taken its channel from its lanes or from an instrument of a library file, and
those are all below 16.  Once a chip has been powered on, the lanes are those of
the part for good.
-/

namespace ChipScribe

namespace Midi

namespace Message

/-- The kinds of message that a chip sends. -/
def kinds : List UInt8 :=
  [noteOff, noteOn, controlChange, programChange, pitchBend]

def Proper (m : Message) : Prop :=
  ∀ kind ∈ m.kind?, kind ∈ kinds

/-- One of those kinds, with data bytes of seven bits. -/
def WellFormed : Message → Prop
  | .short status data1 data2 =>
      status &&& 0xF0 ∈ kinds ∧ data1 < 0x80 ∧ data2 < 0x80
  | .delay => True

theorem wellFormed_masked {m : Message} (proper : m.Proper) : m.masked.WellFormed := by
  have seven (data : UInt8) : data &&& 0x7F < 0x80 :=
    UInt8.lt_of_le_of_lt UInt8.and_le_right (by decide)
  cases m with
  | delay => trivial
  | short status data1 data2 => exact ⟨proper _ rfl, seven data1, seven data2⟩

@[simp] theorem channel?_masked (m : Message) : m.masked.channel? = m.channel? := by
  cases m <;> rfl

@[simp] theorem proper_delay : Message.delay.Proper :=
  fun _ some => nomatch some

theorem proper_short {kind chan : UInt8} (narrow : chan < 16) (sent : kind &&& 0xF0 ∈ kinds)
    (data1 data2 : UInt8) : (Message.short (kind ||| chan) data1 data2).Proper := by
  intro other some
  cases some
  rwa [kind_or narrow]

@[simp] theorem proper_control (chan controller value : UInt8) :
    (Message.control chan controller value).Proper :=
  proper_short (low_narrow chan) (by decide) _ _

@[simp] theorem proper_program (chan number : UInt8) : (Message.program chan number).Proper :=
  proper_short (low_narrow chan) (by decide) _ _

theorem For.proper {chan : UInt8} {m : Message} (narrow : chan < 16) (h : m.For chan) :
    m.Proper := by
  cases h with
  | control controller value => exact proper_control chan controller value
  | program number => exact proper_program chan number
  | _ => exact proper_short narrow (by decide) _ _

end Message

namespace Emitter

/-- What is delivered was asked for, up to the top bits of its data. -/
theorem mem_deliver {e : Emitter} {ms : List Message} {m : Message} (sent : m ∈ (e.deliver ms).2) :
    ∃ asked ∈ ms, asked.masked = m := by
  induction ms generalizing e with
  | nil => simp at sent
  | cons first rest ih =>
      rw [deliver] at sent
      rcases List.mem_append.mp sent with here | later
      · refine ⟨first, List.mem_cons_self, ?_⟩
        rcases e.offer_cases first with dropped | delivered
        · simp [dropped] at here
        · simpa [delivered, eq_comm] using here
      · obtain ⟨asked, member, eq⟩ := ih later
        exact ⟨asked, List.mem_cons_of_mem _ member, eq⟩

theorem wellFormed_deliver {e : Emitter} {ms : List Message} (proper : ∀ m ∈ ms, m.Proper) :
    ∀ m ∈ (e.deliver ms).2, m.WellFormed := by
  intro m sent
  obtain ⟨asked, member, rfl⟩ := mem_deliver sent
  exact Message.wellFormed_masked (proper asked member)

theorem wellFormed_announce {e : Emitter} {front back : List Message}
    (first : ∀ m ∈ front, m.Proper) (second : ∀ m ∈ back, m.Proper) :
    ∀ m ∈ (e.announce front back).2, m.WellFormed := by
  rw [announce]
  exact List.forall_mem_append.mpr ⟨wellFormed_deliver first, wellFormed_deliver second⟩

end Emitter

end Midi

open Midi

/-! ## Below 16 -/

namespace Part

variable {ok : UInt8 → Prop} {p : Part} {v : Voice} {chan : UInt8}

theorem Placed.narrow (placed : p.Placed ok v) (narrow : ∀ chan, ok chan → chan < 16)
    (mine : p.Mine ok v chan) : chan < 16 := by
  cases p with
  | pulse side =>
      obtain ⟨duty, rfl⟩ := mine
      exact Voice.OnLanes.narrow placed duty
  | triangle | noise =>
      obtain rfl := mine
      exact Voice.OnFirstLane.narrow placed
  | dmc => exact narrow chan mine

theorem Placed.proper (placed : p.Placed ok v) (narrow : ∀ chan, ok chan → chan < 16)
    {ms : List Message} (addressed : Addressed (p.Mine ok v) ms) : ∀ m ∈ ms, m.Proper := by
  intro m member
  obtain ⟨chan, mine, here⟩ := addressed m member
  exact here.proper (placed.narrow narrow mine)

end Part

namespace Scribe

theorem proper_hushSequence : ∀ m ∈ hushSequence, m.Proper := by
  refine List.forall_mem_append.mpr ⟨?_, ?_⟩
  · exact List.forall_mem_flatMap.mpr fun chan _ => by simp
  · exact List.forall_mem_flatMap.mpr fun chan _ => by simp

theorem proper_pulseSetup (chan program pan : UInt8) :
    ∀ m ∈ pulseSetup chan program pan, m.Proper := by
  simp [pulseSetup]

theorem proper_setupSequence : ∀ m ∈ setupSequence, m.Proper := by
  refine List.forall_mem_append.mpr ⟨?_, by simp [fixedSetup]⟩
  refine List.forall_mem_flatMap.mpr fun (program, duty) _ => ?_
  exact List.forall_mem_append.mpr ⟨proper_pulseSetup _ _ _, proper_pulseSetup _ _ _⟩

end Scribe

namespace Chip

variable {ok : UInt8 → Prop} {c : Chip}

theorem wellFormed_transmit {s : Scribe} (placed : ∀ p : Part, p.Placed ok (s.voice p))
    (narrow : ∀ chan, ok chan → chan < 16) : ∀ m ∈ s.transmit.2, m.WellFormed := by
  intro m sent
  rw [s.messages_transmit] at sent
  obtain ⟨p, -, slot⟩ := List.mem_flatMap.mp sent
  rw [Scribe.turn, s.deliver_asked] at slot
  exact Emitter.wellFormed_deliver ((placed p).proper narrow (s.addressed_asked (placed p))) m slot

theorem wellFormed_reset {s : Scribe} (placed : ∀ p : Part, p.Placed ok (s.voice p))
    (narrow : ∀ chan, ok chan → chan < 16) : ∀ m ∈ s.reset.2, m.WellFormed := by
  refine Emitter.wellFormed_announce ?_ Scribe.proper_hushSequence
  intro m released
  rw [s.releases_eq] at released
  obtain ⟨p, -, release⟩ := List.mem_flatMap.mp released
  exact (placed p).proper narrow (placed p).addressed_release m release

theorem wellFormed_operate (all : c.scribe.library.All (ok ·.channel))
    (placed : ∀ p : Part, p.Placed ok (c.scribe.voice p))
    (narrow : ∀ chan, ok chan → chan < 16) (o : Operation) :
    ∀ m ∈ (c.operate o).2.midi, m.WellFormed := by
  rw [c.midi_operate]
  cases o with
  | power | setUpReceiver =>
      refine List.forall_mem_append.mpr ⟨wellFormed_reset placed narrow, ?_⟩
      exact Emitter.wellFormed_announce (by simp) Scribe.proper_setupSequence
  | silence => exact wellFormed_reset placed narrow
  | clock memory | transcribe memory =>
      exact wellFormed_transmit
        (fun p => placed_invariant.voice_follow all (placed p) memory _) narrow
  | write address data =>
      simp only [scribed]
      split <;> simp
  | _ => simp [scribed]

end Chip

/-! ## On the channels of the part -/

namespace Part

/-- Where a part is heard, with the delta channel's instruments on some channels. -/
def Channels (named : UInt8 → Prop) : Part → UInt8 → Prop
  | .pulse .first, chan => chan < 4
  | .pulse .second, chan => 4 ≤ chan ∧ chan < 8
  | .triangle, chan => chan = 8
  | .noise, chan => chan = 9
  | .dmc, chan => named chan

theorem Channels.mono {named wider : UInt8 → Prop} {p : Part} {chan : UInt8}
    (h : p.Channels named chan) (within : ∀ chan, named chan → wider chan) :
    p.Channels wider chan := by
  cases p with
  | pulse side => cases side <;> exact h
  | triangle | noise => exact h
  | dmc => exact within chan h

/-- A voice with the lanes it got when the chip was powered on. -/
structure Homed (ok : UInt8 → Prop) (p : Part) (v : Voice) : Prop where
  placed : p.Placed ok v
  lanes : v.lanes = p.home.lanes

variable {ok : UInt8 → Prop} {p : Part} {v : Voice} {chan : UInt8}

theorem Homed.channels (homed : p.Homed ok v) (mine : p.Mine ok v chan) : p.Channels ok chan := by
  have lane := Voice.lane_of_lanes homed.lanes
  cases p with
  | pulse side =>
      obtain ⟨duty, rfl⟩ := mine
      rw [lane]
      cases side with
      | first => exact Scribe.lane_freshVoice (· < 4) (by decide) duty
      | second => exact Scribe.lane_freshVoice (fun chan => 4 ≤ chan ∧ chan < 8) (by decide) duty
  | triangle | noise =>
      obtain rfl := mine
      rw [lane]
      rfl
  | dmc => exact mine

end Part

theorem homed_invariant {ok : UInt8 → Prop} : VoiceInvariant (Part.Homed ok) (ok ·.channel) where
  home p := ⟨p.placed_home, rfl⟩
  alike alike h := ⟨placed_invariant.alike alike h.placed, alike.lanes.trans h.lanes⟩
  released h := ⟨placed_invariant.released h.placed, h.lanes⟩
  follow t m s l all h :=
    ⟨placed_invariant.follow t m s l all h.placed,
      (Part.followed_follow t m s l _ _).lanes.trans h.lanes⟩
  burst {p v} t h := ⟨placed_invariant.burst t h.placed, (p.sent_burst t v).lanes.trans h.lanes⟩

theorem Scribe.channels_slot {ok : UInt8 → Prop} {s : Scribe} {p : Part}
    (homed : p.Homed ok (s.voice p)) (narrow : ∀ chan, ok chan → chan < 16) :
    ∀ m ∈ (s.slot p).sent, ∃ chan, m.channel? = some chan ∧ p.Channels ok chan := by
  intro m sent
  rw [slot, turn, s.deliver_asked] at sent
  obtain ⟨asked, member, rfl⟩ := Emitter.mem_deliver sent
  obtain ⟨chan, mine, here⟩ := s.addressed_asked homed.placed asked member
  refine ⟨chan, ?_, homed.channels mine⟩
  rw [Message.channel?_masked, here.channel?, low_of_lt (homed.placed.narrow narrow mine)]

/-! ## Libraries that were read from text -/

namespace Library

theorem addRecords_all {ok : Instrument → Prop}
    (good : ∀ r hash i, Record.resolve r = .ok (hash, i) → ok i) {l l' : Library}
    {records : List Record} (all : l.All ok) (added : l.addRecords records = .ok l') :
    l'.All ok := by
  induction records generalizing l with
  | nil =>
      cases added
      exact all
  | cons r rest ih =>
      rw [addRecords] at added
      split at added
      · cases added
      next hash i resolved => exact ih (all.insert (good r hash i resolved) hash) added

theorem Record.narrow_resolve {r : Record} {hash : Fingerprint} {i : Instrument}
    (resolved : r.resolve = .ok (hash, i)) : i.channel < 16 := by
  unfold resolve at resolved
  split at resolved
  · cases resolved
  · split at resolved
    · cases resolved
    · cases resolved
      exact UInt8.lt_of_le_of_lt UInt8.and_le_right (by decide)

theorem narrow_parse {text : String} {l : Library} (parsed : parse text = .ok l) :
    l.All (·.channel < 16) := by
  unfold parse at parsed
  split at parsed
  · unfold ofJson at parsed
    split at parsed
    · exact addRecords_all (fun _ _ _ => Record.narrow_resolve) all_empty parsed
    · cases parsed
  · cases parsed

end Library

/-- An instrument that a library file names. -/
def Instrument.FromText (i : Instrument) : Prop :=
  ∃ text l hash, Library.parse text = .ok l ∧ l.lookup? hash = some i

theorem Instrument.FromText.narrow {i : Instrument} (h : i.FromText) : i.channel < 16 := by
  obtain ⟨text, l, hash, parsed, found⟩ := h
  exact Library.narrow_parse parsed hash i found

/-- A channel of an instrument in one of the libraries that a run brings. -/
def Named (ops : List Operation) (chan : UInt8) : Prop :=
  ∃ l hash i, Operation.withLibrary l ∈ ops ∧ l.lookup? hash = some i ∧ i.channel = chan

theorem brings_named {ops : List Operation} (listed : ∀ o ∈ ops, o.Brings Instrument.FromText) :
    ∀ o ∈ ops, o.Brings fun i => i.channel < 16 ∧ Named ops i.channel := by
  intro o member
  have here := listed o member
  cases o with
  | withLibrary l =>
      exact fun hash i found => ⟨(here hash i found).narrow, l, hash, i, member, found, rfl⟩
  | _ => trivial

namespace Chip

theorem homed_after {ok : UInt8 → Prop} {c : Chip} {ops : List Operation}
    (all : c.scribe.library.All (ok ·.channel)) (brings : ∀ o ∈ ops, o.Brings (ok ·.channel))
    (powered : .power ∈ ops) : ∀ p : Part, p.Homed ok ((c.after ops).scribe.voice p) := by
  induction ops generalizing c with
  | nil => simp at powered
  | cons o rest ih =>
      have here := library_operate all (brings o List.mem_cons_self)
      have later : ∀ o ∈ rest, o.Brings (ok ·.channel) := fun o member =>
        brings o (List.mem_cons_of_mem _ member)
      -- whatever came before it, the first power gives every voice its lanes
      rcases List.mem_cons.mp powered with rfl | powered
      · refine (homed_invariant.after later here fun p => ?_).2
        rw [c.voice_operate, c.voice_scribed .power p]
        exact homed_invariant.home p
      · exact ih here later powered

/-- What a powered chip sends is well formed and stays on the channels of the part that sends it. -/
structure SendsInPlace (named : UInt8 → Prop) (c : Chip) (o : Operation) : Prop where
  inTurn {s : Scribe} : c.transmitter? o = some s →
    (c.operate o).2.midi = Part.turnOrder.flatMap fun p => (s.slot p).sent
  inPlace {s : Scribe} : c.transmitter? o = some s →
    ∀ p, ∀ m ∈ (s.slot p).sent, ∃ chan, m.channel? = some chan ∧ p.Channels named chan

theorem messages_wellFormed_in_place (s : Settings) (ops : List Operation) (o : Operation)
    (listed : ∀ o ∈ ops, o.Brings Instrument.FromText) :
    let c := (ofSettings s).after ops
    (∀ m ∈ (c.operate o).2.midi, m.WellFormed) ∧
      (.power ∈ ops → c.SendsInPlace (Named ops) o) := by
  intro c
  let ok (chan : UInt8) := chan < 16 ∧ Named ops chan
  have narrow (chan : UInt8) (good : ok chan) : chan < 16 := good.1
  have brings : ∀ o ∈ ops, o.Brings (ok ·.channel) := brings_named listed
  have empty : (ofSettings s).scribe.library.All (ok ·.channel) :=
    Library.all_empty.dumpingTo s.dumpDirectory
  have start (p : Part) : p.Placed ok ((ofSettings s).scribe.voice p) := by
    have fresh : (ofSettings s).scribe.voice p = {} := by
      rcases p with (_ | _) | _ | _ | _ <;> rfl
    rw [fresh]
    exact p.placed_new
  obtain ⟨all, placed⟩ := placed_invariant.after brings empty start
  refine ⟨wellFormed_operate all placed narrow o, fun powered => ⟨midi_of_transmitter, ?_⟩⟩
  intro t transmits p m sent
  have homed : p.Homed ok (t.voice p) := by
    have now := homed_after empty brings powered p
    cases o with
    | clock memory | transcribe memory =>
        cases transmits
        exact homed_invariant.voice_follow all now memory _
    | _ => cases transmits
  obtain ⟨chan, channel, here⟩ := Scribe.channels_slot homed narrow m sent
  exact ⟨chan, channel, here.mono fun _ good => good.2⟩

/-- The drum of a library that was read from text is played on a powered chip. -/
theorem messages_wellFormed_in_place_drums :
    let ops : List Operation :=
      [.withLibrary .drums, .power, .write 0x4013 0x01, .write 0x4015 0x10, .clock .zero]
    let c := (ofSettings {}).after ops
    (∀ o ∈ ops, o.Brings Instrument.FromText) ∧ .power ∈ ops ∧
      (∀ m ∈ (c.operate (.clock .zero)).2.midi, m.WellFormed) ∧
      c.SendsInPlace (Named ops) (.clock .zero) := by
  intro ops c
  have drums : Library.drums.All Instrument.FromText := fun hash i found =>
    ⟨Library.drumText, .drums, hash, Library.parse_drumText, found⟩
  have listed : ∀ o ∈ ops, o.Brings Instrument.FromText := by
    simp [ops, Operation.Brings, drums]
  have powered : Operation.power ∈ ops := by simp [ops]
  obtain ⟨wellFormed, inPlace⟩ := messages_wellFormed_in_place {} ops (.clock .zero) listed
  exact ⟨listed, powered, wellFormed, inPlace powered⟩

end Chip

end ChipScribe
