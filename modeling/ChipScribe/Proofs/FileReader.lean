import Mathlib.Algebra.BigOperators.Group.List.Basic
import Mathlib.Tactic.Ring
import ChipScribe.Midi.File

/-!
# A reader of MIDI files

A reader of files of format 0, after the format and not after the writer.  It
takes two chunks, each exactly as long as its length field says.  Times have four
groups at most, a channel message may leave out a status that repeats, and the
end of the track is the last event, with no byte after it.
-/

namespace ChipScribe.Midi

/-! ## Quantities -/

namespace Quantity

theorem encodeAbove_append (n : Nat) (bytes rest : List UInt8) :
    encodeAbove n bytes ++ rest = encodeAbove n (bytes ++ rest) := by
  fun_induction encodeAbove n bytes with
  | case1 bytes => simp [encodeAbove]
  | case2 n bytes positive ih =>
      rw [ih, encodeAbove.eq_def n (bytes ++ rest), if_neg positive]
      rfl

theorem group_eq {n : Nat} (h : n < 128) : n.toUInt8.toNat = n := by
  rw [Nat.toUInt8, UInt8.toNat_ofNat', Nat.mod_eq_of_lt (by omega)]

theorem continued_eq {n : Nat} (h : n < 128) : (continued n.toUInt8).toNat = n + 128 := by
  have table : ∀ group : Fin 128, (continued (UInt8.ofNat group)).toNat = group + 128 := by
    decide
  exact table ⟨n, h⟩

/-- The groups of a number, read from nothing, are the number. -/
theorem decodeFrom?_encodeAbove (n : Nat) (bytes : List UInt8) :
    decodeFrom? 0 (encodeAbove n bytes) = decodeFrom? n bytes := by
  fun_induction encodeAbove n bytes with
  | case1 => rfl
  | case2 n bytes positive ih =>
      have byte := continued_eq (Nat.mod_lt n (by decide : 128 > 0))
      have more : ¬continued (n % 128).toUInt8 < 0x80 := by
        rw [UInt8.lt_iff_toNat_lt, byte]
        exact Nat.not_lt.mpr (Nat.le_add_left 128 _)
      rw [ih, decodeFrom?, if_neg more, byte]
      congr 1
      omega

@[simp] theorem decode?_suffix (n : UInt32) (rest : List UInt8) :
    decode? (encode n ++ rest) = some (n.toNat, rest) := by
  have byte := group_eq (Nat.mod_lt n.toNat (by decide : 128 > 0))
  have last : (n.toNat % 128).toUInt8 < 0x80 := by
    rw [UInt8.lt_iff_toNat_lt, byte]
    exact Nat.mod_lt _ (by decide)
  rw [decode?, encode, encodeAbove_append, decodeFrom?_encodeAbove, List.singleton_append,
    decodeFrom?, if_pos last, byte]
  congr 2
  omega

theorem length_encodeAbove (groups n : Nat) (bytes : List UInt8) (h : n < 128 ^ groups) :
    (encodeAbove n bytes).length ≤ groups + bytes.length := by
  induction groups generalizing n bytes with
  | zero =>
      obtain rfl : n = 0 := by simpa using h
      simp [encodeAbove]
  | succ groups ih =>
      rw [encodeAbove]
      split
      · omega
      · have fewer : n / 128 < 128 ^ groups := by
          rw [Nat.div_lt_iff_lt_mul (by decide)]
          rwa [Nat.pow_succ] at h
        have shorter := ih (n / 128) (continued (n % 128).toUInt8 :: bytes) fewer
        rw [List.length_cons] at shorter
        omega

theorem length_encode {n : UInt32} (h : n.toNat ≤ File.maxDelta) : (encode n).length ≤ 4 :=
  length_encodeAbove 3 _ _ (by rw [File.maxDelta] at h; omega)

theorem encode_ne_nil (n : UInt32) : encode n ≠ [] := by
  intro empty
  have read := decode?_suffix n []
  rw [empty] at read
  cases read

end Quantity

/-! ## The reader -/

namespace Reader

/-- The number that bytes spell, highest first. -/
def number (bytes : List UInt8) : Nat :=
  bytes.foldl (fun n byte => n * 256 + byte.toNat) 0

def field? (count : Nat) (bytes : List UInt8) : Option (List UInt8 × List UInt8) :=
  if count ≤ bytes.length then some (bytes.splitAt count) else none

/-- A quantity of four groups at most. -/
def quantity? (bytes : List UInt8) : Option (Nat × List UInt8) := do
  let (value, rest) ← Quantity.decode? bytes
  if bytes.length ≤ rest.length + 4 then some (value, rest) else none

inductive TrackEvent where
  | channel (message : Message)
  | about (kind : UInt8) (data : List UInt8)
  | exclusive (data : List UInt8)
  deriving DecidableEq, Repr

def TrackEvent.tempo (microseconds : List UInt8) : TrackEvent :=
  .about 0x51 microseconds

def TrackEvent.endOfTrack : TrackEvent :=
  .about 0x2F []

/-- A data byte, which has bit 7 clear. -/
def data? : List UInt8 → Option (UInt8 × List UInt8)
  | [] => none
  | byte :: rest => if byte < 0x80 then some (byte, rest) else none

/-- A channel message after its status; program changes and channel pressure have one data byte. -/
def message? (status : UInt8) (bytes : List UInt8) : Option (Message × List UInt8) := do
  let (data1, bytes) ← data? bytes
  if status &&& 0xF0 = 0xC0 ∨ status &&& 0xF0 = 0xD0 then
    some (.short status data1 0, bytes)
  else do
    let (data2, bytes) ← data? bytes
    some (.short status data1 data2, bytes)

def sized? (bytes : List UInt8) : Option (List UInt8 × List UInt8) := do
  let (length, rest) ← quantity? bytes
  field? length rest

/-- An event, after a channel message of status `running`; with the status that now runs. -/
def event? (running : Option UInt8) :
    List UInt8 → Option ((TrackEvent × Option UInt8) × List UInt8)
  | [] => none
  | first :: rest =>
      if first < 0x80 then do
        let status ← running
        let (message, rest) ← message? status (first :: rest)
        some ((.channel message, running), rest)
      else if first < 0xF0 then do
        let (message, rest) ← message? first rest
        some ((.channel message, some first), rest)
      else if first = 0xFF then
        match rest with
        | [] => none
        | kind :: rest => do
            let (data, rest) ← sized? rest
            some ((.about kind data, none), rest)
      else if first = 0xF0 ∨ first = 0xF7 then do
        let (data, rest) ← sized? rest
        some ((.exclusive data, none), rest)
      else none

/-- At most `limit` events with their times, up to the end of the track. -/
def events? : (limit : Nat) → (running : Option UInt8) → List UInt8 →
    Option (List (Nat × TrackEvent) × List UInt8)
  | 0, _, _ => none
  | limit + 1, running, bytes => do
      let (delta, bytes) ← quantity? bytes
      let ((event, running), bytes) ← event? running bytes
      if event = .endOfTrack then some ([(delta, event)], bytes)
      else do
        let (events, rest) ← events? limit running bytes
        some ((delta, event) :: events, rest)

/-- A chunk of a name: its length field and its body. -/
def chunk? (name : String) (bytes : List UInt8) : Option ((Nat × List UInt8) × List UInt8) := do
  let (letters, bytes) ← field? 4 bytes
  let (size, bytes) ← field? 4 bytes
  let (body, rest) ← field? (number size) bytes
  if letters = name.toList.map (fun c => c.toNat.toUInt8) then some ((number size, body), rest)
  else none

structure Recording where
  format : Nat
  tracks : Nat
  division : Nat
  trackLength : Nat
  events : List (Nat × TrackEvent)
  deriving DecidableEq, Repr

/-- The time of an event, counted from the start of the track. -/
def Recording.time (r : Recording) (i : Nat) : Nat :=
  ((r.events.take (i + 1)).map Prod.fst).sum

/-- A whole file of format 0. -/
def file? (bytes : List UInt8) : Option Recording := do
  let ((_, head), bytes) ← chunk? "MThd" bytes
  let (format, head) ← field? 2 head
  let (tracks, head) ← field? 2 head
  let (division, head) ← field? 2 head
  let ((trackLength, body), bytes) ← chunk? "MTrk" bytes
  -- every event takes a byte, so there are no more events than bytes
  let (events, left) ← events? body.length none body
  if number format = 0 ∧ number tracks = 1 ∧ head = [] ∧ left = [] ∧ bytes = [] then
    some ⟨number format, number tracks, number division, trackLength, events⟩
  else none

/-! ## What it reads -/

variable {rest : List UInt8}

theorem bigEndian_succ (count n : Nat) :
    File.bigEndian (count + 1) n = (n / 256 ^ count).toUInt8 :: File.bigEndian count n := rfl

theorem number_bigEndian {count n : Nat} (h : n < 256 ^ count) :
    number (File.bigEndian count n) = n := by
  have after (count acc : Nat) :
      (File.bigEndian count n).foldl (fun n byte => n * 256 + byte.toNat) acc =
        acc * 256 ^ count + n % 256 ^ count := by
    induction count generalizing acc with
    | zero =>
        change acc = acc * 256 ^ 0 + n % 256 ^ 0
        rw [Nat.pow_zero, Nat.mul_one, Nat.mod_one, Nat.add_zero]
    | succ count ih =>
        have top : n % 256 ^ (count + 1) =
            n % 256 ^ count + 256 ^ count * (n / 256 ^ count % 256) := Nat.mod_pow_succ
        rw [bigEndian_succ, List.foldl_cons, ih, Nat.toUInt8, UInt8.toNat_ofNat', top]
        ring
  rw [number, after, Nat.zero_mul, Nat.zero_add, Nat.mod_eq_of_lt h]

@[simp] theorem length_bigEndian (count n : Nat) : (File.bigEndian count n).length = count := by
  induction count with
  | zero => rfl
  | succ count ih => rw [bigEndian_succ, List.length_cons, ih]

theorem field?_suffix {count : Nat} {bytes : List UInt8} (h : bytes.length = count) :
    field? count (bytes ++ rest) = some (bytes, rest) := by
  simp [field?, ← h]

theorem quantity?_suffix {n : UInt32} (h : n.toNat ≤ File.maxDelta) :
    quantity? (Quantity.encode n ++ rest) = some (n.toNat, rest) := by
  have few := Quantity.length_encode h
  simp [quantity?]
  omega

theorem chunk?_suffix (name : String) (body rest : List UInt8) (letters : name.toList.length = 4)
    (fits : body.length < 2 ^ 32) :
    chunk? name (File.chunk name body ++ rest) = some ((body.length, body), rest) := by
  have size : number (File.bigEndian 4 body.length) = body.length := number_bigEndian fits
  simp only [chunk?, File.chunk, List.append_assoc]
  rw [field?_suffix (by simpa using letters), Option.bind_eq_bind, Option.bind_some]
  dsimp only
  rw [field?_suffix (length_bigEndian 4 _), Option.bind_some]
  dsimp only
  rw [size, field?_suffix rfl, Option.bind_some]
  simp

theorem sized?_suffix {data : List UInt8} (h : data.length < 128) :
    sized? (data.length.toUInt8 :: (data ++ rest)) = some (data, rest) := by
  have byte := Quantity.group_eq h
  have last : data.length.toUInt8 < 0x80 := by
    rw [UInt8.lt_iff_toNat_lt, byte]
    exact h
  have read : quantity? (data.length.toUInt8 :: (data ++ rest)) =
      some (data.length, data ++ rest) := by
    have one : Quantity.decode? (data.length.toUInt8 :: (data ++ rest)) =
        some (data.length, data ++ rest) := by
      rw [Quantity.decode?, Quantity.decodeFrom?, if_pos last, byte, Nat.zero_mul, Nat.zero_add,
        Nat.mod_eq_of_lt h]
    simp [quantity?, one]
  rw [sized?, read]
  exact field?_suffix rfl

theorem event?_about (running : Option UInt8) (kind : UInt8) (data : List UInt8)
    (h : data.length < 128) :
    event? running (0xFF :: kind :: data.length.toUInt8 :: (data ++ rest)) =
      some ((.about kind data, none), rest) := by
  simp [event?, sized?_suffix h]

theorem event?_tempo (running : Option UInt8) :
    event? running (File.metaTempo ++ rest) =
      some ((.tempo (File.bigEndian 3 File.tempo), none), rest) :=
  event?_about running 0x51 (File.bigEndian 3 File.tempo) (by decide)

theorem event?_endOfTrack (running : Option UInt8) :
    event? running (File.endOfTrack ++ rest) = some ((.endOfTrack, none), rest) :=
  event?_about running 0x2F [] (by decide)

end Reader

/-- A pause, or a message of a kind that voices send. -/
def Message.Playable : Message → Prop
  | .short status data1 data2 =>
      status &&& 0xF0 ∈ [noteOff, noteOn, controlChange, programChange, pitchBend] ∧
        data1 < 0x80 ∧ data2 < 0x80 ∧ (status &&& 0xF0 = programChange → data2 = 0)
  | .delay => True

instance : DecidablePred Message.Playable
  | .short .. => inferInstanceAs (Decidable (_ ∧ _))
  | .delay => inferInstanceAs (Decidable True)

namespace Reader

variable {rest : List UInt8}

private theorem status_of_kind {status : UInt8}
    (kind : status &&& 0xF0 ∈ [Message.noteOff, Message.noteOn, Message.controlChange,
      Message.programChange, Message.pitchBend]) :
    ¬status < 0x80 ∧ status < 0xF0 ∧ status &&& 0xF0 ≠ 0xD0 := by
  have table : ∀ n : Fin 256, UInt8.ofNat n &&& 0xF0 ∈ [Message.noteOff, Message.noteOn,
      Message.controlChange, Message.programChange, Message.pitchBend] →
      ¬UInt8.ofNat n < 0x80 ∧ UInt8.ofNat n < 0xF0 ∧ UInt8.ofNat n &&& 0xF0 ≠ 0xD0 := by
    decide +kernel
  have here := table ⟨status.toNat, status.toNat_lt⟩
  rw [UInt8.ofNat_toNat] at here
  exact here kind

theorem event?_message {m : Message} (playable : m.Playable) (audible : m ≠ .delay)
    (running : Option UInt8) :
    ∃ running', ∀ more, event? running (m.bytes ++ more) = some ((.channel m, running'), more) := by
  cases m with
  | delay => exact absurd rfl audible
  | short status data1 data2 =>
      obtain ⟨kind, low1, low2, single⟩ := playable
      obtain ⟨high, channel, notPressure⟩ := status_of_kind kind
      refine ⟨some status, fun more => ?_⟩
      by_cases program : status &&& 0xF0 = Message.programChange
      · obtain rfl := single program
        have wire : (Message.short status data1 0).bytes = [status, data1] := by
          simp [Message.bytes, program]
        have read : message? status (data1 :: more) = some (.short status data1 0, more) := by
          have one : status &&& 0xF0 = 0xC0 := program
          simp [message?, data?, low1, one]
        simp [wire, event?, high, channel, read]
      · have wire : (Message.short status data1 data2).bytes = [status, data1, data2] := by
          simp [Message.bytes, program]
        have read : message? status (data1 :: data2 :: more) =
            some (.short status data1 data2, more) := by
          have two : status &&& 0xF0 ≠ 0xC0 := program
          simp [message?, data?, low1, low2, two, notPressure]
        simp [wire, event?, high, channel, read]

theorem toNat_toUInt32 {delta : Nat} (fits : delta ≤ File.maxDelta) :
    delta.toUInt32.toNat = delta := by
  rw [Nat.toUInt32, UInt32.toNat_ofNat', Nat.mod_eq_of_lt]
  rw [File.maxDelta] at fits
  omega

theorem events?_endOfTrack (limit : Nat) (running : Option UInt8) :
    events? (limit + 1) running (File.timed 0 File.endOfTrack ++ rest) =
      some ([(0, .endOfTrack)], rest) := by
  simp [events?, File.timed, quantity?_suffix (n := 0) (by decide), event?_endOfTrack]

/-- An event that does not end the track, and what comes after it. -/
theorem events?_cons {limit delta : Nat} {running running' : Option UInt8} {event : TrackEvent}
    {bytes : List UInt8} {events : List (Nat × TrackEvent)} (fits : delta ≤ File.maxDelta)
    (goesOn : event ≠ .endOfTrack)
    (read : ∀ more, event? running (bytes ++ more) = some ((event, running'), more))
    {tail : List UInt8} (later : events? limit running' tail = some (events, rest)) :
    events? (limit + 1) running (File.timed delta bytes ++ tail) =
      some ((delta, event) :: events, rest) := by
  have same := toNat_toUInt32 fits
  have time (more : List UInt8) :
      quantity? (Quantity.encode delta.toUInt32 ++ more) = some (delta, more) := by
    rw [quantity?_suffix (same.symm ▸ fits), same]
  simp [events?, File.timed, time, read, goesOn, later]

/-- A message with its time, as it can stand in a track. -/
structure Timed (entry : Nat × Message) : Prop where
  fits : entry.1 ≤ File.maxDelta
  audible : entry.2 ≠ .delay
  playable : entry.2.Playable

theorem events?_messages {entries : List (Nat × Message)} (timed : ∀ entry ∈ entries, Timed entry)
    {limit : Nat} (enough : entries.length < limit) (running : Option UInt8) :
    events? limit running
        (entries.flatMap (fun (delta, m) => File.timed delta m.bytes) ++
          (File.timed 0 File.endOfTrack ++ rest)) =
      some (entries.map (fun (delta, m) => (delta, .channel m)) ++ [(0, .endOfTrack)], rest) := by
  induction entries generalizing limit running with
  | nil =>
      obtain ⟨limit, rfl⟩ := Nat.exists_eq_add_of_lt enough
      exact events?_endOfTrack _ running
  | cons entry entries ih =>
      obtain ⟨delta, m⟩ := entry
      obtain ⟨first, others⟩ := List.forall_mem_cons.mp timed
      obtain ⟨limit, rfl⟩ : ∃ fewer, limit = fewer + 1 := Nat.exists_eq_add_of_le' (by omega)
      obtain ⟨running', read⟩ := event?_message first.playable first.audible running
      have later := ih others (Nat.lt_of_succ_lt_succ enough) running'
      have goesOn : TrackEvent.channel m ≠ .endOfTrack := nofun
      rw [List.flatMap_cons, List.append_assoc]
      exact events?_cons first.fits goesOn read later

theorem length_timed_pos (delta : Nat) (bytes : List UInt8) :
    0 < (File.timed delta bytes).length := by
  rw [File.timed, List.length_append]
  exact Nat.add_pos_left (List.length_pos_iff.mpr (Quantity.encode_ne_nil _)) _

/-- The whole track: the tempo, the messages, and the end. -/
theorem events?_track {hz : Float} {events : List Event}
    (timed : ∀ entry ∈ File.deltas hz events, Timed entry) :
    events? (File.track hz events).length none (File.track hz events) =
      some ((0, .tempo (File.bigEndian 3 File.tempo)) ::
        ((File.deltas hz events).map (fun (delta, m) => (delta, .channel m)) ++
          [(0, .endOfTrack)]), []) := by
  let messages := (File.deltas hz events).flatMap fun (delta, m) => File.timed delta m.bytes
  have shape : File.track hz events =
      File.timed 0 File.metaTempo ++ (messages ++ (File.timed 0 File.endOfTrack ++ [])) := by
    rw [List.append_nil, ← List.append_assoc]
    rfl
  have enough : ∃ limit, (File.track hz events).length = limit + 1 ∧
      (File.deltas hz events).length < limit := by
    have most : (File.deltas hz events).length ≤ messages.length := by
      rw [List.length_flatMap, ← List.length_map]
      refine List.length_le_sum_of_one_le _ (List.forall_mem_map.mpr ?_)
      rintro ⟨delta, m⟩ -
      exact length_timed_pos delta _
    have front := length_timed_pos 0 File.metaTempo
    have back := length_timed_pos 0 File.endOfTrack
    refine ⟨(File.track hz events).length - 1, ?_⟩
    rw [shape]
    simp only [List.length_append]
    omega
  obtain ⟨limit, length, more⟩ := enough
  have goesOn (data : List UInt8) : TrackEvent.tempo data ≠ .endOfTrack := by
    simp [TrackEvent.tempo, TrackEvent.endOfTrack]
  rw [length, shape]
  exact events?_cons (Nat.zero_le _) (goesOn _) (fun _ => event?_tempo none)
    (events?_messages timed more none)

theorem file?_encode {hz : Float} {events : List Event}
    (timed : ∀ entry ∈ File.deltas hz events, Timed entry)
    (fits : (File.track hz events).length < 2 ^ 32) :
    file? (File.encode hz events) = some
      { format := 0, tracks := 1, division := 480
        trackLength := (File.track hz events).length
        events := (0, .tempo (File.bigEndian 3 File.tempo)) ::
          ((File.deltas hz events).map (fun (delta, m) => (delta, .channel m)) ++
            [(0, .endOfTrack)]) } := by
  let head := File.bigEndian 2 0 ++ File.bigEndian 2 1 ++ File.bigEndian 2 File.division
  have front : chunk? "MThd" (File.encode hz events) =
      some ((6, head), File.chunk "MTrk" (File.track hz events)) :=
    chunk?_suffix "MThd" head _ (by decide) (by decide)
  have back : chunk? "MTrk" (File.chunk "MTrk" (File.track hz events)) =
      some (((File.track hz events).length, File.track hz events), []) := by
    have read := chunk?_suffix "MTrk" (File.track hz events) [] (by decide) fits
    rwa [List.append_nil] at read
  simp only [file?, front, back, Option.bind_eq_bind, Option.bind_some]
  rw [events?_track timed]
  rfl

end Reader

end ChipScribe.Midi
