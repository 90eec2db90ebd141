import Mathlib
import ChipScribe.Proofs.Deck

/-!
# Runs on the bench

A chip with a drum in its library is run as its deck alone, and clocks that only
count its timers down are passed at once; so a run of thousands of clocks is
computed in hundreds of moves.  `Bench.Shows.play` says that the chip follows.
-/

namespace ChipScribe

/-! ## A library of one drum -/

namespace Instrument

def drum : Instrument where
  channel := 9
  program := 0
  volume := 0x60
  velocity := 96
  pitches := .replicate 16 (Json.floatOfInt 36)

theorem pitch_drum (rate : UInt8) : drum.pitch rate = Json.floatOfInt 36 :=
  Vector.getElem_replicate _

end Instrument

namespace Library

/-- The fingerprint of seventeen zero bytes. -/
def drumHash : Fingerprint := 0x4dfa4cffd1f7979f

def drumText : String :=
  "[\x7b\"fnv64a\": \"0x4dfa4cffd1f7979f\", " ++
    "\"notes\": [36, 36, 36, 36, 36, 36, 36, 36, 36, 36, 36, 36, 36, 36, 36, 36]\x7d]"

def drums : Library :=
  empty.insert drumHash .drum

private def drumJson : Json :=
  .arr [.obj [("fnv64a", .str "0x4dfa4cffd1f7979f"),
    ("notes", .arr (List.replicate 16 (.int 36)))]]

private def drumRecord : Record where
  literal := "0x4dfa4cffd1f7979f"
  pitches := List.replicate 16 (Json.floatOfInt 36)

private theorem parse?_drumText : Json.parse? drumText = some drumJson := by
  cbv

private theorem resolve_drumRecord : drumRecord.resolve = .ok (drumHash, .drum) := by
  rfl

theorem parse_drumText : parse drumText = .ok drums := by
  have records : drumJson.asListOf? Record.ofJson? = some [drumRecord] := by
    rfl
  simp only [parse, parse?_drumText, ofJson, records, ofRecords, addRecords, resolve_drumRecord]
  rfl

theorem lookup?_drums : drums.lookup? drumHash = some .drum := by
  rw [drums, lookup?_insert, if_pos rfl]

end Library

/-! ## A drum on zeroed memory -/

theorem Memory.read_zero (address : UInt16) : zero.read address = 0 := by
  simp [read, zero, ByteArray.get]

namespace Voice

theorem sampleBytesFrom_zero (offset : UInt16) (n : Nat) :
    sampleBytesFrom .zero offset n = List.replicate n 0 := by
  induction n generalizing offset with
  | zero => rfl
  | succ n ih => rw [sampleBytesFrom, Memory.read_zero, ih, List.replicate_succ]

theorem ofBytes_sampleBytes_zero {d : Dmc} (latched : d.lengthLatch = 1) :
    Fingerprint.ofBytes (sampleBytes .zero d) = Library.drumHash := by
  have length : d.sampleLength.toNat = 17 := by
    rw [Dmc.sampleLength, latched]
    rfl
  have hash : Fingerprint.ofBytes (List.replicate 17 0) = Library.drumHash := by
    decide +kernel
  rw [sampleBytes, sampleBytesFrom_zero, length, hash]

private theorem held_ne_zero : ∀ held : Fin 256, held ≠ 0 →
    (clampFloat 0.0 127.0 (UInt8.ofFin held).toFloat).toUInt8 ≠ 0 := by
  decide +kernel

/-- A voice steered to the drum's pitch holds its note or takes the drum's; neither is none. -/
theorem note_steer_drum (v : Voice) (t : Tuning) :
    (v.steer t (Json.floatOfInt 36)).want.note ≠ 0 := by
  change (clampFloat 0.0 127.0 (nearestNote t v.want (Json.floatOfInt 36))).toUInt8 ≠ 0
  unfold nearestNote
  dsimp only
  split
  next held =>
    have sounding : v.want.note ≠ 0 := by
      intro none
      simp [none] at held
    refine held_ne_zero v.want.note.toFin fun none => sounding ?_
    exact UInt8.toFin_inj.mp none
  next => decide +kernel

private theorem wantsNote_playInstrument_drum (v : Voice) (t : Tuning) (rate : UInt8) :
    (v.playInstrument t .drum rate).wantsNote = true := by
  unfold playInstrument
  rw [Instrument.pitch_drum]
  exact Bool.and_eq_true_iff.mpr ⟨bne_iff_ne.mpr (note_steer_drum _ t), rfl⟩

theorem wantsNote_lookUp_drum {l : Library} (known : l.lookup? Library.drumHash = some .drum)
    {d : Dmc} (latched : d.lengthLatch = 1) (t : Tuning) (v : Voice) :
    (v.lookUp t .zero d l).1.wantsNote = true := by
  have sounds : Json.floatOfInt 36 > 0.0 := by
    decide +kernel
  simp only [lookUp, ofBytes_sampleBytes_zero latched, known, Instrument.pitch_drum, if_pos sounds]
  exact wantsNote_playInstrument_drum _ t _

end Voice

/-! ## The chip keeps its drum -/

namespace Library

theorem instruments_recordUnknown (l : Library) (hash : Fingerprint) (rate : UInt8)
    (bytes : List UInt8) : (l.recordUnknown hash rate bytes).1.instruments = l.instruments := by
  unfold recordUnknown
  dsimp only
  split <;> rfl

end Library

theorem Voice.instruments_followDmc (t : Tuning) (m : Memory) (d : Dmc) (l : Library) (v : Voice) :
    (v.followDmc t m d l).2.1.instruments = l.instruments := by
  unfold followDmc
  split
  · dsimp only [lookUp]
    split
    · split <;> rfl
    · exact l.instruments_recordUnknown _ _ _
  · rfl

namespace Chip

/-- Hosts at work do not change what a library knows. -/
theorem instruments_operate (c : Chip) {o : Operation} (working : o.working = true) :
    (c.operate o).1.scribe.library.instruments = c.scribe.library.instruments := by
  cases o with
  | clock m =>
      have same : (c.operate (.clock m)).1.scribe.library =
          (c.scribe.follow m c.synth.clock).1.transmit.1.library :=
        Scribe.library_meter _
      rw [same]
      exact Voice.instruments_followDmc _ _ _ _ _
  | transcribe m => exact Voice.instruments_followDmc _ _ _ _ _
  | write address data =>
      simp only [operate, write]
      split
      next register _ =>
        exact congrArg _ (c.scribe.library_watchWrite c.synth register data)
      next => rfl
  | read address openBus =>
      simp only [operate, read]
      split <;> rfl
  | supply data => rfl
  | _ => cases working

theorem region_operate (c : Chip) (o : Operation) :
    (c.operate o).1.synth.region = c.synth.region := by
  rw [synth_operate]
  exact c.synth.region_operate o

/-- A chip with default tuning that plays its drum for a sample of zero bytes. -/
structure Drums (c : Chip) : Prop where
  tuned : c.scribe.tuning = {}
  ntsc : c.synth.region = .ntsc
  known : c.scribe.library.lookup? Library.drumHash = some .drum

variable {c : Chip}

theorem Drums.operate (h : c.Drums) {o : Operation} (working : o.working = true) :
    (c.operate o).1.Drums where
  tuned := (c.tuning_of_working working).trans h.tuned
  ntsc := (c.region_operate o).trans h.ntsc
  known := by
    rw [Library.lookup?, c.instruments_operate working]
    exact h.known

theorem Drums.deck_operate (h : c.Drums) {o : Operation} (working : o.working = true) :
    (c.operate o).1.deck = c.deck.operate .ntsc (c.finds o) o := by
  rw [Chip.deck_operate (settled_of_tuned h.tuned) working, h.ntsc]

theorem Drums.finds (h : c.Drums) (latched : (c.deck.dmc.advance .ntsc).lengthLatch = 1) :
    c.finds (.clock .zero) = true := by
  refine Voice.wantsNote_lookUp_drum h.known ?_ _ _
  rw [Synth.dmc_clock, h.ntsc]
  exact latched

end Chip

/-! ## Clocks at rest -/

namespace Dmc

theorem ageTick_of_lt {age : UInt32} (born : 0 < age.toNat) (young : age.toNat < 0xFFFFFFFF) :
    ageTick age = age + 1 := by
  refine if_neg fun stays => ?_
  rcases Bool.or_eq_true_iff.mp stays with zero | last
  · rw [beq_iff_eq.mp zero] at born
    exact absurd born (by decide)
  · rw [beq_iff_eq.mp last] at young
    exact absurd young (by decide)

theorem advance_of_idle {d : Dmc} (waits : d.stepping = false) (idle : d.startDelay = 0)
    (r : Region) : d.advance r =
      { d with age := ageTick d.age, countdown := d.countdown - 1 } := by
  have still : d.tickAge.stepping = false := waits
  have asked : ¬ d.startDelay > 0 := by
    rw [idle]
    decide
  unfold advance runTimer
  rw [still, if_neg Bool.false_ne_true]
  exact if_neg asked

end Dmc

namespace Deck

variable {k : Deck}

/-- Nothing moves but the timers. -/
def resting (k : Deck) : Bool :=
  !k.triggered && !k.stopped && k.seen == k.dmc.remaining && k.dmc.startDelay == 0

/-- The bit timer does not fire within `n` clocks, and the age neither starts nor stops. -/
def restsFor (n : Nat) (k : Deck) : Bool :=
  k.resting && n < k.dmc.countdown.toNat && 0 < k.dmc.age.toNat &&
    k.dmc.age.toNat + n < 0xFFFFFFFF

/-- What `n` such clocks do. -/
def rest (n : Nat) (k : Deck) : Deck :=
  { k with dmc := { k.dmc with
      countdown := k.dmc.countdown - UInt16.ofNat n
      age := k.dmc.age + UInt32.ofNat n } }

theorem recalculate_of_settled (settled : k.triggered = false) (found : Bool) :
    k.recalculate found =
      { k with stopped := false, seen := k.dmc.remaining, wanted := k.wanted && !k.ended } := by
  simp [recalculate, due, settled]

theorem clock_of_resting (h : k.resting = true) (waits : k.dmc.stepping = false)
    (ages : Dmc.ageTick k.dmc.age = k.dmc.age + 1) (r : Region) (found : Bool) :
    k.clock r found = k.rest 1 := by
  simp only [resting, Bool.and_eq_true, Bool.not_eq_true', beq_iff_eq] at h
  obtain ⟨⟨⟨settled, unstopped⟩, seen⟩, idle⟩ := h
  have advanced : k.dmc.advance r =
      { k.dmc with age := k.dmc.age + 1, countdown := k.dmc.countdown - 1 } := by
    rw [Dmc.advance_of_idle waits idle, ages]
  have going : (k.rest 1).ended = false := by
    change (!k.dmc.loop && k.dmc.remaining == 0 && k.seen != 0 || k.stopped) = false
    rw [seen, bne, Bool.and_assoc, Bool.and_not_self, Bool.and_false, unstopped, Bool.or_false]
  calc k.clock r found
      _ = (k.rest 1).recalculate found := by rw [clock, advanced]; rfl
      _ = { k.rest 1 with stopped := false, seen := k.dmc.remaining, wanted := k.wanted } := by
          rw [recalculate_of_settled (k := k.rest 1) settled, going, Bool.not_false, Bool.and_true]
          rfl
      _ = k.rest 1 := by rw [← seen, ← unstopped]; rfl

theorem rest_zero (k : Deck) : k.rest 0 = k := by
  simp [rest]

theorem rest_succ (n : Nat) (k : Deck) : k.rest (n + 1) = (k.rest n).rest 1 := by
  have fewer : k.dmc.countdown - UInt16.ofNat (n + 1) = k.dmc.countdown - UInt16.ofNat n - 1 := by
    rw [UInt16.ofNat_add]
    grind
  have older : k.dmc.age + UInt32.ofNat (n + 1) = k.dmc.age + UInt32.ofNat n + 1 := by
    rw [UInt32.ofNat_add, UInt32.add_assoc]
    rfl
  unfold rest
  rw [fewer, older]
  rfl

theorem requests_of_resting (h : k.resting = true) (waits : k.dmc.stepping = false) :
    k.dmc.requests = 0 := by
  simp only [resting, Bool.and_eq_true, beq_iff_eq] at h
  simp [Dmc.requests, Dmc.emptying, waits, h.2]

/-- Each of the clocks is one at rest. -/
theorem restsFor_succ {n : Nat} (h : k.restsFor (n + 1) = true) :
    k.restsFor n = true ∧ (k.rest n).resting = true ∧ (k.rest n).dmc.stepping = false ∧
      Dmc.ageTick (k.rest n).dmc.age = (k.rest n).dmc.age + 1 := by
  simp only [restsFor, Bool.and_eq_true, decide_eq_true_eq] at h
  obtain ⟨⟨⟨rests, early⟩, born⟩, young⟩ := h
  have bound := k.dmc.countdown.toNat_lt
  have passed : (UInt16.ofNat n).toNat = n :=
    UInt16.toNat_ofNat_of_lt' (by change n < 65536; omega)
  have counted : (k.dmc.countdown - UInt16.ofNat n).toNat = k.dmc.countdown.toNat - n := by
    rw [UInt16.toNat_sub_of_le, passed]
    rw [UInt16.le_iff_toNat_le, passed]
    omega
  have aged : (k.dmc.age + UInt32.ofNat n).toNat = k.dmc.age.toNat + n := by
    rw [UInt32.toNat_add, UInt32.toNat_ofNat']
    omega
  refine ⟨?_, rests, ?_, Dmc.ageTick_of_lt (aged ▸ by omega) (aged ▸ by omega)⟩
  · simp only [restsFor, Bool.and_eq_true, decide_eq_true_eq]
    exact ⟨⟨⟨rests, by omega⟩, born⟩, by omega⟩
  · refine beq_eq_false_iff_ne.mpr fun fires => ?_
    change k.dmc.countdown - UInt16.ofNat n - 1 = 0 at fires
    have one : k.dmc.countdown - UInt16.ofNat n = 1 := by
      grind
    rw [one] at counted
    change 1 = _ at counted
    omega

end Deck

/-! ## Moves -/

/-- A deck and the requests its host has yet to answer. -/
structure Bench where
  deck : Deck
  opened : Nat := 0

inductive Move where
  | clock
  | supply
  | write (address : UInt16) (data : UInt8)
  /-- So many clocks at rest. -/
  | rest (clocks : Nat)

def Move.operations : Move → List Operation
  | .clock => [.clock .zero]
  | .supply => [.supply 0]
  | .write address data => [.write address data]
  | .rest clocks => List.replicate clocks (.clock .zero)

namespace Bench

/-- A move by a host that keeps to the limit, where the chip is sure to follow. -/
def move? (limit : Nat) (b : Bench) : Move → Option Bench
  | .clock =>
      if b.opened ≤ limit ∧ (b.deck.dmc.advance .ntsc).lengthLatch = 1 then
        some ⟨b.deck.clock .ntsc true, b.opened + b.deck.dmc.requests⟩
      else none
  | .supply =>
      if b.opened ≤ limit ∧ 0 < b.opened then some ⟨b.deck.supply 0, b.opened - 1⟩ else none
  | .write address data =>
      if b.opened ≤ limit ∧ b.deck.loopsLate (.write address data) = false then
        some ⟨b.deck.operate .ntsc true (.write address data), b.opened⟩
      else none
  | .rest clocks =>
      if b.opened ≤ limit ∧ b.deck.restsFor clocks = true then
        some ⟨b.deck.rest clocks, b.opened⟩
      else none

def play? (limit : Nat) (b : Bench) : List Move → Option Bench
  | [] => some b
  | m :: ms => (b.move? limit m).bind (·.play? limit ms)

/-- A chip that such a host comes by, and its deck is on the bench. -/
structure Shows (limit : Nat) (b : Bench) (c : Chip) : Prop where
  hosted : Hosted (Chip.Careful limit) c b.opened
  drums : c.Drums
  deck : c.deck = b.deck

variable {limit : Nat} {b b' : Bench} {c : Chip}

theorem Shows.operate (h : b.Shows limit c) {o : Operation} {left : Nat}
    (few : b.opened ≤ limit) (inTime : b.deck.loopsLate o = false)
    (leaves : o.leaves? (c.operate o).2 b.opened = some left) :
    (⟨b.deck.operate .ntsc (c.finds o) o, left⟩ : Bench).Shows limit (c.operate o).1 where
  hosted := h.hosted.operate ⟨few, h.deck ▸ inTime⟩ leaves
  drums := h.drums.operate (Chip.working_of_leaves leaves)
  deck := h.deck ▸ h.drums.deck_operate (Chip.working_of_leaves leaves)

theorem Shows.clock (h : b.Shows limit c) (few : b.opened ≤ limit) :
    (⟨b.deck.clock .ntsc (c.finds (.clock .zero)), b.opened + b.deck.dmc.requests⟩ : Bench).Shows
      limit (c.operate (.clock .zero)).1 := by
  refine h.operate (o := .clock .zero) few rfl ?_
  rw [← h.deck]
  rfl

theorem Shows.rest (h : b.Shows limit c) (few : b.opened ≤ limit) {n : Nat}
    (rests : b.deck.restsFor n = true) :
    (⟨b.deck.rest n, b.opened⟩ : Bench).Shows limit
      (c.after (List.replicate n (.clock .zero))) := by
  induction n with
  | zero =>
      rw [Deck.rest_zero]
      exact h
  | succ n ih =>
      obtain ⟨fewer, resting, waits, ages⟩ := Deck.restsFor_succ rests
      have clocked := (ih fewer).clock few
      dsimp only at clocked
      rw [Deck.clock_of_resting resting waits ages, Deck.requests_of_resting resting waits,
        ← Deck.rest_succ, ← Chip.after_concat, ← List.replicate_succ'] at clocked
      exact clocked

/-- The chip follows a move. -/
theorem Shows.move (h : b.Shows limit c) {m : Move} (moved : b.move? limit m = some b') :
    b'.Shows limit (c.after m.operations) := by
  cases m with
  | clock =>
      obtain ⟨⟨few, latched⟩, ⟨⟩⟩ := Option.ite_none_right_eq_some.mp moved
      have clocked := h.clock few
      rw [h.drums.finds (h.deck ▸ latched)] at clocked
      exact clocked
  | supply =>
      obtain ⟨⟨few, asked⟩, ⟨⟩⟩ := Option.ite_none_right_eq_some.mp moved
      obtain ⟨deck, opened⟩ := b
      cases opened with
      | zero => exact absurd asked (Nat.lt_irrefl 0)
      | succ left => exact h.operate (o := .supply 0) few rfl rfl
  | write address data =>
      obtain ⟨⟨few, inTime⟩, ⟨⟩⟩ := Option.ite_none_right_eq_some.mp moved
      exact h.operate few inTime rfl
  | rest clocks =>
      obtain ⟨⟨few, rests⟩, ⟨⟩⟩ := Option.ite_none_right_eq_some.mp moved
      exact h.rest few rests

theorem Shows.play (h : b.Shows limit c) {ms : List Move} (played : b.play? limit ms = some b') :
    b'.Shows limit (c.after (ms.flatMap Move.operations)) := by
  induction ms generalizing b c with
  | nil =>
      cases played
      exact h
  | cons m ms ih =>
      obtain ⟨next, moved, rest⟩ := Option.bind_eq_some_iff.mp played
      rw [List.flatMap_cons, Chip.after_append]
      exact ih (h.move moved) rest

def start : Bench where
  deck := { dmc := .initial .ntsc }

end Bench

/-- A new chip with the drum, powered. -/
def Chip.drummer : Chip :=
  ((Chip.ofSettings {}).withLibrary .drums).power.1

theorem Bench.shows_drummer (limit : Nat) : start.Shows limit .drummer where
  hosted := .power rfl Library.parse_drumText
  drums := ⟨rfl, rfl, Library.lookup?_drums⟩
  deck := rfl

/-- A run computed on the bench is one that the chip makes. -/
theorem Bench.exists_shows (limit : Nat) (ms : List Move) (ends : Bench → Bool)
    (computed : (start.play? limit ms).any ends = true) :
    ∃ b : Bench, b.Shows limit (Chip.drummer.after (ms.flatMap Move.operations)) ∧
      ends b = true := by
  obtain ⟨b, played, ended⟩ := (Option.any_eq_true _ _).mp computed
  exact ⟨b, (shows_drummer limit).play played, ended⟩

end ChipScribe
