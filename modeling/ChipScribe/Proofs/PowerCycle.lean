import ChipScribe.Proofs.Bench
import ChipScribe.Proofs.Redundancy
import ChipScribe.Proofs.Restoring

/-!
# Power forgets everything

Each unit starts over by listing its own fields, and the scribe by silencing the
receiver and setting it up again.  Nothing of what was played is left in the
chip; only the messages still tell of it, since what sounds is released first.
-/

namespace ChipScribe

open Midi

/-! ## Emitters -/

/-- The slot that a message sets. -/
def Midi.Message.slot? (m : Message) : Option ReceiverSlot :=
  m.setting?.map Prod.fst

namespace Midi.Emitter

/-- Emitters that know the same of the receiver. -/
structure Agree (e f : Emitter) : Prop where
  programs : f.programs = e.programs
  controllers : f.controllers = e.controllers

variable {e f : Emitter}

theorem agree_forget (e f : Emitter) : e.forget.Agree f.forget :=
  ⟨rfl, rfl⟩

theorem Agree.offer (h : e.Agree f) (m : Message) :
    (e.offer m).1.Agree (f.offer m).1 ∧ (f.offer m).2 = (e.offer m).2 := by
  cases m with
  | delay => exact ⟨h, rfl⟩
  | short status data1 data2 =>
      have redundant (data1 data2 : UInt8) :
          f.redundant status data1 data2 = e.redundant status data1 data2 := by
        simp only [Emitter.redundant, h.programs, h.controllers]
      have learn (data1 data2 : UInt8) :
          (e.learn status data1 data2).Agree (f.learn status data1 data2) := by
        unfold Emitter.learn
        split
        · exact ⟨h.programs, by rw [h.controllers]⟩
        · split
          · exact ⟨by rw [h.programs], h.controllers⟩
          · exact h
      simp only [Emitter.offer, redundant]
      split
      · exact ⟨h, rfl⟩
      · exact ⟨⟨(learn _ _).programs, (learn _ _).controllers⟩, rfl⟩

/-- What is delivered depends on what is known alone. -/
theorem Agree.deliver (h : e.Agree f) (ms : List Message) :
    (e.deliver ms).1.Agree (f.deliver ms).1 ∧ (f.deliver ms).2 = (e.deliver ms).2 := by
  induction ms generalizing e f with
  | nil => exact ⟨h, rfl⟩
  | cons m rest ih =>
      obtain ⟨first, sent⟩ := h.offer m
      obtain ⟨later, more⟩ := ih first
      refine ⟨later, ?_⟩
      change (f.offer m).2 ++ ((f.offer m).1.deliver rest).2 =
        (e.offer m).2 ++ ((e.offer m).1.deliver rest).2
      rw [sent, more]

theorem Agree.uncounted (h : e.Agree f) :
    e.resetCount.takeReport.2 = f.resetCount.takeReport.2 := by
  simp only [resetCount, takeReport, h.programs, h.controllers]

/-- A message that sets nothing is never dropped. -/
theorem deliver_plain (e : Emitter) {ms : List Message}
    (plain : ∀ m ∈ ms, m.masked.setting? = none) : (e.deliver ms).2 = ms.map Message.masked := by
  induction ms generalizing e with
  | nil => rfl
  | cons m rest ih =>
      obtain ⟨here, later⟩ := List.forall_mem_cons.mp plain
      change (e.offer m).2 ++ ((e.offer m).1.deliver rest).2 = _
      rw [ih _ later]
      rcases e.offered m with ⟨slot, value, sets, -, -⟩ | ⟨-, sent, -⟩
      · rw [here] at sets
        cases sets
      · rw [sent, List.map_cons, List.singleton_append]

/-- No slot is set twice, and of none the value is known: then nothing is dropped. -/
theorem deliver_fresh (e : Emitter) {ms : List Message} (seven : ∀ m ∈ ms, m.masked = m)
    (once : (ms.filterMap Message.slot?).Nodup)
    (unknown : ∀ slot ∈ ms.filterMap Message.slot?, e.known slot = none) :
    (e.deliver ms).2 = ms := by
  induction ms generalizing e with
  | nil => rfl
  | cons m rest ih =>
      obtain ⟨same, later⟩ := List.forall_mem_cons.mp seven
      change (e.offer m).2 ++ ((e.offer m).1.deliver rest).2 = _
      rcases e.offered m with ⟨slot, value, sets, holds, -⟩ | ⟨-, sent, learns⟩
      · have listed : slot ∈ (m :: rest).filterMap Message.slot? := by
          rw [same] at sets
          exact List.mem_filterMap.mpr ⟨m, List.mem_cons_self, congrArg _ sets⟩
        rw [unknown slot listed] at holds
        cases holds
      · have tail := (List.sublist_cons_self m rest).filterMap Message.slot?
        have learnt : ∀ slot ∈ rest.filterMap Message.slot?, (e.offer m).1.known slot = none := by
          intro slot listed
          have other : m.value? slot = none := by
            unfold Message.value?
            split
            next set value sets =>
              have first : m.slot? = some set := congrArg _ sets
              rw [List.filterMap_cons_some first] at once
              have apart : set ≠ slot := fun eq => (List.nodup_cons.mp once).1 (eq ▸ listed)
              exact if_neg apart
            next => rfl
          rw [learns, same, Message.put_apply, other]
          exact unknown slot (tail.subset listed)
        rw [sent, same, List.singleton_append, ih _ later (once.sublist tail) learnt]

end Midi.Emitter

/-! ## The units -/

/-- The units forget all they hold, each field by its own reset. -/
theorem Synth.power_eq (s : Synth) : s.power = .initial s.region := rfl

/-! ## The scribe -/

namespace Scribe

/-- What every power sends once the voices are released. -/
def resetSequence : List Message :=
  hushSequence ++ setupSequence

/-- A receiver of which nothing is known hears the whole of both sequences. -/
theorem deliver_forget (e : Emitter) :
    (e.forget.deliver hushSequence).2 = hushSequence ∧
      (e.forget.deliver setupSequence).2 = setupSequence := by
  have unknown (slots : List ReceiverSlot) : ∀ slot ∈ slots, e.forget.known slot = none := by
    simp
  constructor
  · exact e.forget.deliver_fresh (by decide +kernel) (by decide +kernel) (unknown _)
  · exact e.forget.deliver_fresh (by decide +kernel) (by decide +kernel) (unknown _)

theorem messages_power (c : Scribe) :
    c.power.2 = (c.emitter.deliver c.releases).2 ++ resetSequence := by
  simp only [power, setUp, setUpWith, reset, Emitter.announce, Emitter.deliver_nil, deliver_forget,
    List.nil_append, List.append_assoc, resetSequence]

/-- The emitter knows what the set-up told the receiver, and has counted nothing. -/
theorem emitter_power (c d : Scribe) : c.power.1.emitter = d.power.1.emitter := by
  have same := (Emitter.agree_forget c.reset.1.emitter d.reset.1.emitter).deliver setupSequence
  exact same.1.uncounted

/-- Of what a scribe was, power leaves only what it was given. -/
theorem power_congr {c d : Scribe} (library : c.library = d.library) (tuning : c.tuning = d.tuning)
    (directory : c.dumpDirectory = d.dumpDirectory) : c.power.1 = d.power.1 := by
  have shape (c : Scribe) : c.power.1 =
      { pulse1 := pulse1Home, pulse2 := pulse2Home, triangle := triangleHome, noise := noiseHome
        dmc := {}, emitter := c.power.1.emitter, library := c.library, tuning := c.tuning
        dumpDirectory := c.dumpDirectory, reportClock := 0 } := rfl
  rw [shape c, shape d, emitter_power c d, library, tuning, directory]

end Scribe

/-! ## Where a chip dumps -/

theorem Library.dumpDirectory_recordUnknown (l : Library) (hash : Fingerprint) (rate : UInt8)
    (bytes : List UInt8) :
    (l.recordUnknown hash rate bytes).1.dumpDirectory = l.dumpDirectory := by
  unfold recordUnknown
  dsimp only
  split <;> rfl

theorem Voice.dumpDirectory_followDmc (t : Tuning) (m : Memory) (d : Dmc) (l : Library)
    (v : Voice) : (v.followDmc t m d l).2.1.dumpDirectory = l.dumpDirectory := by
  unfold followDmc
  split
  · dsimp only [lookUp]
    split
    · split <;> rfl
    · exact l.dumpDirectory_recordUnknown _ _ _
  · rfl

namespace Chip

/-- The library of the chip dumps where the chip was told to. -/
def DumpsAsTold (c : Chip) : Prop :=
  c.scribe.library.dumpDirectory = c.scribe.dumpDirectory

variable {c : Chip}

theorem DumpsAsTold.operate (h : c.DumpsAsTold) (o : Operation) : (c.operate o).1.DumpsAsTold := by
  cases o with
  | clock m =>
      have told (s : Scribe) : s.meter.1.dumpDirectory = s.dumpDirectory := by
        unfold Scribe.meter
        dsimp only
        split <;> rfl
      refine (congrArg _ (Scribe.library_meter _)).trans (Eq.trans ?_ (told _).symm)
      exact (Voice.dumpDirectory_followDmc _ _ _ _ _).trans h
  | transcribe m => exact (Voice.dumpDirectory_followDmc _ _ _ _ _).trans h
  | write address data =>
      simp only [Chip.operate, write]
      split
      next register _ =>
        have told : (c.scribe.watchWrite c.synth register data).dumpDirectory =
            c.scribe.dumpDirectory := by
          cases register with
          | pulseTimerLow side | pulseTimerHigh side => cases side <;> rfl
          | _ => rfl
        have same := c.scribe.library_watchWrite c.synth register data
        exact ((congrArg _ same).trans h).trans told.symm
      next => exact h
  | read address openBus =>
      simp only [Chip.operate, read]
      split <;> exact h
  | withLibrary l => rfl
  | power | supply | setUpReceiver | silence | withTuning => exact h

theorem dumpsAsTold (h : Reachable c) : c.DumpsAsTold := by
  induction h with
  | new s => rfl
  | operate o _ ih => exact ih.operate o
  | @load c other _ _ ih _ =>
      rcases c.load_snapshot other with taken | refused
      · rw [taken]
        exact ih
      · rw [refused]
        exact ih

end Chip

/-! ## What power releases -/

theorem Midi.Message.setting?_off {chan : UInt8} (narrow : chan < 16) (note : UInt8) :
    (Message.off chan note).setting? = none := by
  simp only [Message.off, Message.setting?, kind_or narrow]
  rfl

namespace Part

variable {ok : UInt8 → Prop} {p : Part} {v : Voice}

theorem Placed.masked_release (placed : p.Placed ok v) :
    (p.release v).map Message.masked =
      (p.releasedKeys v).map fun k => Message.off k.chan k.note := by
  by_cases sounds : v.sent.note = 0
  · rw [releasedKeys_of_zero sounds]
    cases p <;>
      simp [release, Scribe.pulseReleases, Scribe.wantedRelease, Scribe.sentRelease, sounds]
  · have some : (v.sent.note != 0) = true := bne_iff_ne.mpr sounds
    cases p with
    | pulse side =>
        simp only [release, Scribe.pulseReleases, releasedKeys, some, sounds, if_true, if_false,
          List.map_map]
        rfl
    | triangle | noise =>
        have eq := (Voice.OnFirstLane.sent placed sounds).trans
          (Voice.OnFirstLane.want placed (.inr sounds)).symm
        simp only [release, Scribe.wantedRelease, releasedKeys, some, sounds, if_true, if_false, eq]
        rfl
    | dmc =>
        simp only [release, Scribe.sentRelease, releasedKeys, some, sounds, if_true, if_false]
        rfl

theorem Placed.narrow_releasedKeys (placed : p.Placed ok v)
    (narrow : p = .dmc → ∀ chan, ok chan → chan < 16) : ∀ k ∈ p.releasedKeys v, k.chan < 16 := by
  intro k released
  by_cases sounds : v.sent.note = 0
  · rw [releasedKeys_of_zero sounds] at released
    cases released
  · cases p with
    | pulse side =>
        rw [releasedKeys, if_neg sounds] at released
        obtain ⟨chan, lane, rfl⟩ := List.mem_map.mp released
        exact Voice.OnLanes.narrow_lanes placed chan lane
    | triangle | noise =>
        rw [releasedKeys, if_neg sounds] at released
        obtain rfl := List.mem_singleton.mp released
        change v.sent.chan < 16
        rw [Voice.OnFirstLane.sent placed sounds]
        exact Voice.OnFirstLane.narrow placed
    | dmc =>
        rw [releasedKeys, if_neg sounds] at released
        obtain rfl := List.mem_singleton.mp released
        exact narrow rfl _ (Voice.OnChannels.sent placed sounds)

end Part

namespace Chip

/-- The Note Offs for the voices that sound, as they travel. -/
def noteOffs (c : Chip) : List Message :=
  Part.releaseOrder.flatMap fun p =>
    (p.releasedKeys (c.scribe.voice p)).map fun k => .off k.chan k.note

variable {c : Chip}

/-- Where every part is on a channel below 16, its Note Offs pass the emitter. -/
theorem deliver_releases {ok : UInt8 → Prop} (placed : ∀ p : Part, p.Placed ok (c.scribe.voice p))
    (narrow : ∀ chan, ok chan → chan < 16) :
    (c.scribe.emitter.deliver c.scribe.releases).2 = c.noteOffs := by
  have masked : c.scribe.releases.map Message.masked = c.noteOffs := by
    rw [Scribe.releases_eq, List.map_flatMap, noteOffs]
    exact congrArg (Part.releaseOrder.flatMap ·) (funext fun p => (placed p).masked_release)
  have plain : ∀ m ∈ c.scribe.releases, m.masked.setting? = none := by
    intro m asked
    have travels : m.masked ∈ c.noteOffs := masked ▸ List.mem_map_of_mem asked
    obtain ⟨p, -, released⟩ := List.mem_flatMap.mp travels
    obtain ⟨k, key, same⟩ := List.mem_map.mp released
    rw [← same]
    exact Message.setting?_off ((placed p).narrow_releasedKeys (fun _ => narrow) k key) _
  rw [Emitter.deliver_plain _ plain, masked]

end Chip

/-! ## Power -/

/-- The chips that a host can come by with libraries of a kind. -/
inductive ReachableWith (known : Instrument → Prop) : Chip → Prop
  | new (s : Settings) : ReachableWith known (.ofSettings s)
  | operate {c : Chip} (o : Operation) : ReachableWith known c → o.Brings known →
      ReachableWith known (c.operate o).1
  | load {c other : Chip} : ReachableWith known c → ReachableWith known other →
      ReachableWith known (c.load other.snapshot.toJson).2.1

theorem ReachableWith.after {known : Instrument → Prop} {c : Chip} (h : ReachableWith known c)
    (ops : List Operation) (brings : ∀ o ∈ ops, o.Brings known) :
    ReachableWith known (c.after ops) := by
  induction ops generalizing c with
  | nil => exact h
  | cons o ops ih =>
      exact ih (h.operate o (brings o List.mem_cons_self)) fun o' member =>
        brings o' (List.mem_cons_of_mem _ member)

namespace Chip

theorem exists_heard_with (ok : UInt8 → Prop) (h : ReachableWith (ok ·.channel) c) (p : Part) :
    ∃ held, Heard ok p c held := by
  induction h with
  | new s => exact ⟨0, .new s⟩
  | operate o _ brings ih =>
      obtain ⟨held, heard⟩ := ih
      exact ⟨_, heard.operate o brings⟩
  | load _ _ ih ih' =>
      obtain ⟨held, heard⟩ := ih
      obtain ⟨beside, other⟩ := ih'
      exact ⟨held, heard.load other⟩

theorem snapshot_congr {c d : Chip} (synth : c.synth = d.synth)
    (voices : ∀ p, c.scribe.voice p = d.scribe.voice p) : c.snapshot = d.snapshot := by
  have pulse1 : c.scribe.pulse1 = d.scribe.pulse1 := voices (.pulse .first)
  have pulse2 : c.scribe.pulse2 = d.scribe.pulse2 := voices (.pulse .second)
  have triangle : c.scribe.triangle = d.scribe.triangle := voices .triangle
  have noise : c.scribe.noise = d.scribe.noise := voices .noise
  have dmc : c.scribe.dmc = d.scribe.dmc := voices .dmc
  simp only [snapshot, synth, pulse1, pulse2, triangle, noise, dmc]

/--
Power leaves a chip as it leaves a new one of the same region, whatever the
history; with the same tuning, library and dump directory it is the same chip.
The interrupt line is driven low.  The Note Offs of the voices that sound are
offered to the receiver, and then it hears what it hears at every power; they
reach it as they are where all instruments are on channels below 16.
-/
theorem power_forgets (h : Reachable c) (s : Settings) :
    let new := ofSettings { s with region := c.synth.region }
    let same := (ofSettings ⟨c.synth.region, c.scribe.tuning, c.scribe.dumpDirectory⟩).withLibrary
      c.scribe.library
    (c.power.1.synth = new.power.1.synth ∧
        (∀ p, c.power.1.scribe.voice p = new.power.1.scribe.voice p) ∧
        c.power.1.scribe.emitter = new.power.1.scribe.emitter ∧
        c.power.1.scribe.reportClock = new.power.1.scribe.reportClock) ∧
      c.power.1.snapshot = new.power.1.snapshot ∧
      c.power.1 = same.power.1 ∧
      c.power.2.irq = some false ∧
      c.power.2.midi =
        (c.scribe.emitter.deliver c.scribe.releases).2 ++ Scribe.resetSequence ∧
      (ReachableWith (·.channel < 16) c →
        c.power.2.midi = c.noteOffs ++ Scribe.resetSequence) := by
  intro new same
  have voices (p : Part) : c.power.1.scribe.voice p = new.power.1.scribe.voice p :=
    (c.scribe.voice_power p).trans (new.scribe.voice_power p).symm
  have synth : c.power.1.synth = new.power.1.synth :=
    c.synth.power_eq.trans new.synth.power_eq.symm
  have midi : c.power.2.midi =
      (c.scribe.emitter.deliver c.scribe.releases).2 ++ Scribe.resetSequence :=
    c.scribe.messages_power
  refine ⟨⟨synth, voices, c.scribe.emitter_power new.scribe, rfl⟩, snapshot_congr synth voices,
    ?same, ?irq, midi, ?narrow⟩
  case same =>
    have library : c.scribe.library = c.scribe.library.dumpingTo c.scribe.dumpDirectory := by
      rw [← dumpsAsTold h]
      rfl
    have scribe : c.power.1.scribe = same.power.1.scribe :=
      Scribe.power_congr library rfl rfl
    have synth : c.power.1.synth = same.power.1.synth :=
      c.synth.power_eq.trans same.synth.power_eq.symm
    exact (Chip.mk.injEq ..).mpr ⟨synth, scribe⟩
  case irq =>
    change some c.synth.power.irqLine = some false
    rw [c.synth.power_eq]
    rfl
  case narrow =>
    intro reached
    have placed (p : Part) : p.Placed (· < 16) (c.scribe.voice p) := by
      obtain ⟨held, heard⟩ := exists_heard_with (· < 16) reached p
      exact (heard.ready fun _ _ narrow => narrow).recorded.placed
    rw [midi, deliver_releases placed fun _ narrow => narrow]

/-- A chip with a drum of its own takes over one from another region, and is powered on again. -/
theorem power_forgets_after_load :
    let beat (period : UInt8) : List Operation :=
      [.power, .write 0x4015 0x08, .write 0x400C 0x3F, .write 0x400E period, .write 0x400F 0x08,
        .clock .zero]
    let a := (ofSettings {}).after (beat 0)
    let b := (ofSettings { region := .pal }).after (beat 12)
    let c := (a.load b.snapshot.toJson).2.1
    Reachable c ∧ ReachableWith (·.channel < 16) c ∧ c.synth.region = .pal ∧
      c.power.1.snapshot = (ofSettings { region := .pal }).power.1.snapshot ∧
      c.power.2.midi = .off 9 35 :: Scribe.resetSequence := by
  intro beat a b c
  have writable : b.snapshot.writable := by decide +kernel
  have reached : Reachable a := (Reachable.new {}).after (beat 0)
  have saved : Reachable b := (Reachable.new { region := .pal }).after (beat 12)
  have narrow : ReachableWith (·.channel < 16) a :=
    (ReachableWith.new {}).after (beat 0) (by simp [beat, Operation.Brings])
  have savedNarrow : ReachableWith (·.channel < 16) b :=
    (ReachableWith.new { region := .pal }).after (beat 12) (by simp [beat, Operation.Brings])
  have taken : c = (a.restore b.snapshot).1 := congrArg (·.2.1) (load_of_writable writable)
  have region : c.synth.region = .pal := by
    rw [taken]
    decide +kernel
  have offs : c.noteOffs = [.off 9 35] := by
    rw [taken]
    decide +kernel
  have loaded : Reachable c := reached.load saved
  have within : ReachableWith (·.channel < 16) c := narrow.load savedNarrow
  obtain ⟨-, snapshot, -, -, -, midi⟩ := power_forgets loaded {}
  have sent := midi within
  rw [region] at snapshot
  rw [offs] at sent
  exact ⟨loaded, within, region, snapshot, sent⟩

end Chip

/-! ## An instrument on no channel -/

theorem Voice.followDmc_of_known {v : Voice} {t : Tuning} {m : Memory} {d : Dmc} {l : Library}
    {i : Instrument} (due : v.dueLookup t d = true)
    (known : l.lookup? (.ofBytes (sampleBytes m d)) = some i) (sounds : i.pitch d.rate > 0.0) :
    (v.followDmc t m d l).1 = ((v.sightLatches d).playInstrument t i d.rate).endSample d ∧
      (v.followDmc t m d l).2.1 = l := by
  simp only [followDmc, due, lookUp, known, if_true, if_pos sounds, and_self]

theorem Scribe.follow_of_known {c : Scribe} {m : Memory} {s : Synth} {i : Instrument}
    (due : c.dmc.dueLookup c.tuning s.dmc = true)
    (known : c.library.lookup? (.ofBytes (Voice.sampleBytes m s.dmc)) = some i)
    (sounds : i.pitch s.dmc.rate > 0.0) :
    (c.follow m s).1 =
      { c with
        pulse1 := c.pulse1.followPulse c.tuning s.pulse1
        pulse2 := c.pulse2.followPulse c.tuning s.pulse2
        triangle := c.triangle.followTriangle c.tuning s.triangle
        noise := c.noise.followNoise c.tuning s.noise
        dmc := ((c.dmc.sightLatches s.dmc).playInstrument c.tuning i s.dmc.rate).endSample
          s.dmc } := by
  obtain ⟨voice, library⟩ := Voice.followDmc_of_known due known sounds
  simp only [follow, voice, library]

/-- A drum on channel 48, and louder than MIDI can say. -/
def Instrument.wideDrum : Instrument :=
  { Instrument.drum with channel := 48, velocity := 128 }

namespace Chip

/-- What a clock makes of the transcription. -/
theorem scribe_clock (c : Chip) (m : Memory) :
    (c.operate (.clock m)).1.scribe = (c.scribe.follow m c.synth.clock).1.transmit.1.meter.1 := rfl

/--
The drum's note travels as a controller that is set to zero, and so would its
release, which the emitter therefore drops.
-/
theorem power_releases_nothing :
    let started := (ofSettings { tuning := { dmcSettle := 0 } }).after
      [.withLibrary (Library.empty.insert Library.drumHash .wideDrum), .power, .write 0x4013 1,
        .write 0x4015 0x10]
    let c := (started.operate (.clock .zero)).1
    Reachable c ∧ (c.scribe.voice .dmc).sent.note = 36 ∧
      c.power.2.midi = Scribe.resetSequence := by
  intro started c
  have due : started.scribe.dmc.dueLookup started.scribe.tuning started.synth.clock.dmc = true := by
    decide +kernel
  have latched : started.synth.clock.dmc.lengthLatch = 1 := by decide +kernel
  have known : started.scribe.library.lookup?
      (.ofBytes (Voice.sampleBytes .zero started.synth.clock.dmc)) = some .wideDrum := by
    rw [Voice.ofBytes_sampleBytes_zero latched]
    exact (Library.lookup?_insert ..).trans (if_pos rfl)
  have sounds : Instrument.wideDrum.pitch started.synth.clock.dmc.rate > 0.0 := by decide +kernel
  have scribe : c.scribe = _ := started.scribe_clock .zero
  rw [Scribe.follow_of_known due known sounds] at scribe
  have reached : Reachable c := ((Reachable.new _).after _).operate (.clock .zero)
  have note : (c.scribe.voice .dmc).sent.note = 36 := by
    rw [scribe]
    decide +kernel
  have silent : (c.scribe.emitter.deliver c.scribe.releases).2 = [] := by
    rw [scribe]
    decide +kernel
  have midi : c.power.2.midi =
      (c.scribe.emitter.deliver c.scribe.releases).2 ++ Scribe.resetSequence :=
    c.scribe.messages_power
  rw [silent] at midi
  exact ⟨reached, note, midi⟩

end Chip

end ChipScribe
