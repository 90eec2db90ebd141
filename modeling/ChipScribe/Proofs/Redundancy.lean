import Mathlib.Logic.Function.Basic
import ChipScribe.Midi.Emitter

/-!
# What the emitter leaves out

A receiver keeps a program for each channel and a value for each controller of a
channel.  The emitter knows of some of these what was asked of it last, and drops
a message that would set what is so already.  A receiver behind it is therefore
at every moment where the requests themselves would have left it.
-/

namespace ChipScribe.Midi

/-! ## What a receiver stores -/

inductive ReceiverSlot where
  | program (chan : Fin 16)
  | controller (chan : Fin 16) (number : Fin 128)
  deriving DecidableEq, Repr

namespace Message

/-- The slot that a message sets, and the value. -/
def setting? : Message → Option (ReceiverSlot × UInt8)
  | .short status data1 data2 =>
      if status &&& 0xF0 == controlChange then
        some (.controller (Fin.ofNat 16 status.toNat) (Fin.ofNat 128 data1.toNat), data2)
      else if status &&& 0xF0 == programChange then
        some (.program (Fin.ofNat 16 status.toNat), data1)
      else none
  | .delay => none

/-- A table of values, or of what is known of them, after a message. -/
def put {α : Type} (entry : UInt8 → α) (table : ReceiverSlot → α) (m : Message) :
    ReceiverSlot → α :=
  match m.setting? with
  | some (slot, value) => Function.update table slot (entry value)
  | none => table

/-- The value that a message sets in a slot. -/
def value? (slot : ReceiverSlot) (m : Message) : Option UInt8 :=
  match m.setting? with
  | some (set, value) => if set = slot then some value else none
  | none => none

def isShort : Message → Bool
  | .short .. => true
  | .delay => false

variable {m : Message} {slot : ReceiverSlot} {value : UInt8}

theorem put_apply {α : Type} (entry : UInt8 → α) (table : ReceiverSlot → α) (m : Message)
    (slot : ReceiverSlot) :
    m.put entry table slot = ((m.value? slot).map entry).getD (table slot) := by
  unfold put value?
  cases m.setting? with
  | none => rfl
  | some setting =>
      obtain ⟨set, value⟩ := setting
      by_cases same : set = slot
      · simp [same]
      · simp [same, Function.update, Ne.symm same]

/-- Setting a slot to what it holds changes nothing. -/
theorem put_of_holds {α : Type} {entry : UInt8 → α} {table : ReceiverSlot → α}
    (sets : m.setting? = some (slot, value)) (holds : table slot = entry value) :
    m.put entry table = table := by
  rw [put, sets]
  exact Function.update_eq_iff.mpr ⟨holds.symm, fun _ _ => rfl⟩

end Message

/-- A receiver with a value in every slot. -/
abbrev Panel := ReceiverSlot → UInt8

def Panel.hear (panel : Panel) (ms : List Message) : Panel :=
  ms.foldl (Message.put id) panel

@[simp] theorem Panel.hear_append (panel : Panel) (ms more : List Message) :
    panel.hear (ms ++ more) = (panel.hear ms).hear more :=
  List.foldl_append

/-- The number of short messages; pauses do not count. -/
def shorts (ms : List Message) : Nat :=
  ms.countP Message.isShort

namespace Emitter

/-! ## What the emitter knows -/

def known (e : Emitter) : ReceiverSlot → Option UInt8
  | .program chan => e.programs[chan]
  | .controller chan number => e.controllers[chan.val * 128 + number.val]

variable (e : Emitter)

@[simp] theorem known_initial : initial.known = fun _ => none := by
  funext slot
  cases slot <;> simp [known, initial]

@[simp] theorem known_forget : e.forget.known = fun _ => none := by
  funext slot
  cases slot <;> simp [known, forget]

/-- A message is redundant where its value is known. -/
theorem redundant_iff (status data1 data2 : UInt8) :
    e.redundant status data1 data2 = true ↔
      ∃ slot value, (Message.short status data1 data2).setting? = some (slot, value) ∧
        e.known slot = some value := by
  have alone {slot : ReceiverSlot} {value : UInt8} :
      (∃ slot' value', some (slot, value) = some (slot', value') ∧ e.known slot' = some value') ↔
        e.known slot = some value := by
    constructor
    · rintro ⟨_, _, ⟨⟩, holds⟩
      exact holds
    · exact fun holds => ⟨_, _, rfl, holds⟩
  simp only [redundant, Message.setting?]
  split
  · rw [alone, beq_iff_eq]
    rfl
  · split
    · rw [alone, beq_iff_eq]
      rfl
    · simp

theorem known_learn (status data1 data2 : UInt8) :
    (e.learn status data1 data2).known =
      (Message.short status data1 data2).put some e.known := by
  funext slot
  simp only [learn, Message.put, Message.setting?]
  split
  next control =>
    cases slot with
    | program chan => simp [known, Function.update]
    | controller chan number =>
        have same : status.toNat % 16 * 128 + data1.toNat % 128 = chan.val * 128 + number.val ↔
            chan = Fin.ofNat 16 status.toNat ∧ number = Fin.ofNat 128 data1.toNat := by
          rw [Fin.ext_iff, Fin.ext_iff, Fin.val_ofNat, Fin.val_ofNat]
          omega
        simp [known, Function.update, controllerSlot, Vector.getElem_set, same]
  next =>
    split
    next program =>
      cases slot with
      | program chan =>
          have same : status.toNat % 16 = chan.val ↔ chan = Fin.ofNat 16 status.toNat := by
            rw [Fin.ext_iff, Fin.val_ofNat, eq_comm]
          simp [known, Function.update, programSlot, Vector.getElem_set, same]
      | controller chan number => simp [known, Function.update]
    next => rfl

/-- A message that is dropped sets a slot to its known value; any other is delivered, masked. -/
inductive Offered (m : Message) : Prop
  | dropped (slot : ReceiverSlot) (value : UInt8) (sets : m.masked.setting? = some (slot, value))
      (holds : e.known slot = some value) (offer : e.offer m = (e, []))
  | delivered (new : ∀ slot value, m.masked.setting? = some (slot, value) →
        e.known slot ≠ some value)
      (sent : (e.offer m).2 = [m.masked]) (known : (e.offer m).1.known = m.masked.put some e.known)

theorem offered (m : Message) : e.Offered m := by
  cases m with
  | delay => exact .delivered nofun rfl rfl
  | short status data1 data2 =>
      have redundant := e.redundant_iff status (data1 &&& 0x7F) (data2 &&& 0x7F)
      by_cases drops : e.redundant status (data1 &&& 0x7F) (data2 &&& 0x7F) = true
      · obtain ⟨slot, value, sets, holds⟩ := redundant.mp drops
        exact .dropped slot value sets holds (if_pos drops)
      · have passes : e.offer (.short status data1 data2) =
            ((e.learn status (data1 &&& 0x7F) (data2 &&& 0x7F)).tally,
              [(Message.short status data1 data2).masked]) := if_neg drops
        refine .delivered ?_ (congrArg Prod.snd passes) ?_
        · intro slot value sets holds
          exact drops (redundant.mpr ⟨slot, value, sets, holds⟩)
        · rw [passes]
          exact e.known_learn status _ _

theorem count_offer (m : Message) :
    (e.offer m).1.count = e.count + (shorts (e.offer m).2).toUInt32 ∧
      (e.offer m).1.reportCount = e.reportCount + (shorts (e.offer m).2).toUInt32 := by
  cases m with
  | delay => exact ⟨(UInt32.add_zero _).symm, (UInt32.add_zero _).symm⟩
  | short status data1 data2 =>
      simp only [offer]
      split
      · exact ⟨(UInt32.add_zero _).symm, (UInt32.add_zero _).symm⟩
      · simp only [tally, learn]
        split
        · exact ⟨rfl, rfl⟩
        · split <;> exact ⟨rfl, rfl⟩

/-! ## Calls -/

inductive Call where
  | emit (status data1 data2 : UInt8)
  | program (chan number : UInt8)
  | control (chan controller value : UInt8)
  | delay
  | forget
  | resetCount
  | takeReport
  deriving DecidableEq, Repr

namespace Call

/-- The message that a call asks to send. -/
def message? : Call → Option Message
  | .emit status data1 data2 => some (.short status data1 data2)
  | .program chan number => some (.program chan number)
  | .control chan controller value => some (.control chan controller value)
  | .delay => some .delay
  | .forget | .resetCount | .takeReport => none

/-- The message that a call asks for, as it would travel. -/
def request? (call : Call) : Option Message :=
  call.message?.map Message.masked

/-- The value that a call asks for in a slot. -/
def value? (slot : ReceiverSlot) (call : Call) : Option UInt8 :=
  call.request?.bind (Message.value? slot)

end Call

/-- The emitter after a call, and what the call delivers. -/
def obey (e : Emitter) : Call → Emitter × List Message
  | .emit status data1 data2 => e.offer (.short status data1 data2)
  | .program chan number => e.offer (.program chan number)
  | .control chan controller value => e.offer (.control chan controller value)
  | .delay => e.offer .delay
  | .forget => (e.forget, [])
  | .resetCount => (e.resetCount, [])
  | .takeReport => (e.takeReport.2, [])

theorem obey_of_message {call : Call} {m : Message} (h : call.message? = some m) :
    e.obey call = e.offer m := by
  cases call <;> cases h <;> rfl

/-! ## The history of an emitter -/

/-- A call and what it delivered. -/
structure Entry where
  call : Call
  sent : List Message

/-- An emitter with its history, latest first. -/
structure Logged where
  emitter : Emitter
  log : List Entry

def Logged.call (l : Logged) (call : Call) : Logged where
  emitter := (l.emitter.obey call).1
  log := ⟨call, (l.emitter.obey call).2⟩ :: l.log

/-- A new emitter after some calls. -/
def Logged.after (calls : List Call) : Logged :=
  calls.foldl call ⟨.initial, []⟩

def delivered (log : List Entry) : List Message :=
  log.reverse.flatMap (·.sent)

def requested (log : List Entry) : List Message :=
  log.reverse.filterMap (·.call.request?)

/-- What happened since the last call of a kind. -/
def since (mark : Call) (log : List Entry) : List Entry :=
  log.takeWhile (·.call ≠ mark)

/-- The value last asked for in a slot since the receiver was forgotten. -/
def lastRequest? (slot : ReceiverSlot) (log : List Entry) : Option UInt8 :=
  (since .forget log).findSome? fun entry => entry.call.value? slot

/-- A message that sets its slot to what was last asked for there. -/
def repeats (log : List Entry) (m : Message) : Bool :=
  match m.setting? with
  | some (slot, value) => lastRequest? slot log == some value
  | none => false

/-- The short messages delivered since the last call of a kind. -/
def shortsSince (mark : Call) (log : List Entry) : Nat :=
  shorts ((since mark log).flatMap (·.sent))

section Log

variable (entry : Entry) (log : List Entry)

theorem delivered_cons : delivered (entry :: log) = delivered log ++ entry.sent := by
  simp [delivered]

theorem requested_cons :
    requested (entry :: log) = requested log ++ entry.call.request?.toList := by
  cases asked : entry.call.request? <;> simp [requested, asked]

theorem shortsSince_cons (mark : Call) :
    shortsSince mark (entry :: log) =
      if entry.call = mark then 0 else shorts entry.sent + shortsSince mark log := by
  by_cases same : entry.call = mark
  · simp [shortsSince, since, same, shorts]
  · simp [shortsSince, since, same, shorts]

theorem lastRequest?_cons (slot : ReceiverSlot) :
    lastRequest? slot (entry :: log) =
      if entry.call = .forget then none
      else (entry.call.value? slot).or (lastRequest? slot log) := by
  by_cases same : entry.call = .forget
  · simp [lastRequest?, since, same]
  · cases asked : entry.call.value? slot <;> simp [lastRequest?, since, same, asked]

end Log

/-! ## Faithful histories -/

/-- What an emitter and its history are to a receiver that heard all it delivered. -/
structure Faithful (panel : Panel) (l : Logged) : Prop where
  same : panel.hear (delivered l.log) = panel.hear (requested l.log)
  known (slot : ReceiverSlot) : l.emitter.known slot = lastRequest? slot l.log
  held {slot : ReceiverSlot} {value : UInt8} :
    l.emitter.known slot = some value → panel.hear (requested l.log) slot = value
  sublist : (delivered l.log).Sublist (requested l.log)
  others : (delivered l.log).filter (·.setting?.isNone) =
    (requested l.log).filter (·.setting?.isNone)
  count : l.emitter.count = (shortsSince .resetCount l.log).toUInt32
  report : l.emitter.reportCount = (shortsSince .takeReport l.log).toUInt32

namespace Faithful

variable {panel : Panel} {l : Logged} {call : Call} {m : Message}

theorem new (panel : Panel) : Faithful panel ⟨.initial, []⟩ where
  same := rfl
  known slot := by simp [lastRequest?, since]
  held {slot value} holds := by simp at holds
  sublist := .refl _
  others := rfl
  count := rfl
  report := rfl

/-- A call that asks for a message. -/
theorem offer (h : Faithful panel l) (asks : call.message? = some m) :
    Faithful panel (l.call call) := by
  have request : call.request? = some m.masked := congrArg _ asks
  have obeyed := l.emitter.obey_of_message asks
  have sends : call ≠ .forget ∧ call ≠ .resetCount ∧ call ≠ .takeReport := by
    refine ⟨?_, ?_, ?_⟩ <;> rintro rfl <;> cases asks
  obtain ⟨count, report⟩ := l.emitter.count_offer m
  have delivers : delivered (l.call call).log = delivered l.log ++ (l.emitter.offer m).2 := by
    rw [Logged.call, delivered_cons, obeyed]
  have requests : requested (l.call call).log = requested l.log ++ [m.masked] := by
    rw [Logged.call, requested_cons, request]
    rfl
  have learns : (l.call call).emitter.known = m.masked.put some l.emitter.known := by
    rw [Logged.call, obeyed]
    rcases l.emitter.offered m with ⟨slot, value, sets, holds, dropped⟩ | ⟨-, -, known⟩
    · rw [dropped, Message.put_of_holds sets holds]
    · exact known
  refine ⟨?same, ?known, ?held, ?sublist, ?others, ?count, ?report⟩
  case same =>
    rw [delivers, requests, Panel.hear_append, Panel.hear_append, h.same]
    rcases l.emitter.offered m with ⟨slot, value, sets, holds, dropped⟩ | ⟨-, sent, -⟩
    · rw [dropped]
      exact (Message.put_of_holds sets (h.held holds)).symm
    · rw [sent]
  case known =>
    intro slot
    rw [learns, Logged.call, lastRequest?_cons, if_neg sends.1, Message.put_apply, h.known,
      Call.value?, request]
    change _ = (m.masked.value? slot).or _
    cases m.masked.value? slot <;> rfl
  case held =>
    intro slot value holds
    rw [learns, Message.put_apply] at holds
    rw [requests, Panel.hear_append]
    change m.masked.put id _ slot = value
    rw [Message.put_apply]
    cases asked : m.masked.value? slot with
    | none =>
        rw [asked] at holds
        exact h.held holds
    | some value' =>
        rw [asked] at holds
        exact Option.some.inj holds
  case sublist =>
    rw [delivers, requests]
    refine h.sublist.append ?_
    rcases l.emitter.offered m with ⟨slot, value, sets, holds, dropped⟩ | ⟨-, sent, -⟩
    · rw [dropped]
      exact List.nil_sublist _
    · exact sent ▸ List.Sublist.refl _
  case others =>
    rw [delivers, requests, List.filter_append, List.filter_append, h.others]
    rcases l.emitter.offered m with ⟨slot, value, sets, holds, dropped⟩ | ⟨-, sent, -⟩
    · simp [dropped, sets]
    · rw [sent]
  case count =>
    rw [Logged.call, shortsSince_cons, if_neg sends.2.1, obeyed, Nat.toUInt32, UInt32.ofNat_add,
      UInt32.add_comm]
    exact count.trans (congrArg (· + _) h.count)
  case report =>
    rw [Logged.call, shortsSince_cons, if_neg sends.2.2, obeyed, Nat.toUInt32, UInt32.ofNat_add,
      UInt32.add_comm]
    exact report.trans (congrArg (· + _) h.report)

/-- A call that asks for none starts something over, and delivers nothing. -/
theorem mark (h : Faithful panel l) (silent : call.message? = none) :
    Faithful panel (l.call call) := by
  have request : call.request? = none := congrArg _ silent
  have sent : (l.emitter.obey call).2 = [] := by
    cases call <;> first | rfl | cases silent
  have delivers : delivered (l.call call).log = delivered l.log := by
    rw [Logged.call, delivered_cons, sent, List.append_nil]
  have requests : requested (l.call call).log = requested l.log := by
    rw [Logged.call, requested_cons, request]
    exact List.append_nil _
  have counts (mark : Call) : shortsSince mark (l.call call).log =
      if call = mark then 0 else shortsSince mark l.log := by
    rw [Logged.call, shortsSince_cons, sent, shorts, List.countP_nil, Nat.zero_add]
  have keeps (slot : ReceiverSlot) : (l.call call).emitter.known slot =
      if call = .forget then none else l.emitter.known slot := by
    cases call with
    | forget => exact congrFun l.emitter.known_forget slot
    | resetCount => rfl
    | takeReport => rfl
    | emit | program | control | delay => cases silent
  refine ⟨?same, ?known, ?held, ?sublist, ?others, ?count, ?report⟩
  case same =>
    rw [delivers, requests]
    exact h.same
  case known =>
    intro slot
    have value : call.value? slot = none := by rw [Call.value?, request, Option.bind_none]
    rw [keeps, Logged.call, lastRequest?_cons, value, Option.none_or, h.known]
  case held =>
    intro slot value holds
    rw [keeps] at holds
    rw [requests]
    split at holds
    next => cases holds
    next => exact h.held holds
  case sublist =>
    rw [delivers, requests]
    exact h.sublist
  case others =>
    rw [delivers, requests]
    exact h.others
  case count =>
    rw [counts]
    cases call with
    | resetCount => rfl
    | forget => exact h.count
    | takeReport => exact h.count
    | emit | program | control | delay => cases silent
  case report =>
    rw [counts]
    cases call with
    | takeReport => rfl
    | forget => exact h.report
    | resetCount => exact h.report
    | emit | program | control | delay => cases silent

theorem step (h : Faithful panel l) (call : Call) : Faithful panel (l.call call) := by
  cases asks : call.message? with
  | none => exact h.mark asks
  | some m => exact h.offer asks

theorem after (panel : Panel) (calls : List Call) : Faithful panel (.after calls) :=
  List.foldlRecOn calls Logged.call (new panel) fun _ h call _ => h.step call

/-- What repeats the last request for its slot would change nothing. -/
theorem holds_of_repeats (h : Faithful panel l) (again : repeats l.log m = true) :
    ∃ slot value, m.setting? = some (slot, value) ∧
      panel.hear (delivered l.log) slot = value := by
  unfold repeats at again
  split at again
  next slot value sets =>
    refine ⟨slot, value, sets, ?_⟩
    rw [h.same]
    exact h.held ((h.known slot).trans (beq_iff_eq.mp again))
  next => cases again

/-- A call delivers what it asks for, unless that repeats the last request for its slot. -/
theorem sends (h : Faithful panel l) (call : Call) :
    (l.emitter.obey call).2 = call.request?.toList.filter (!repeats l.log ·) := by
  cases asks : call.message? with
  | none =>
      have request : call.request? = none := congrArg _ asks
      rw [request]
      cases call <;> first | rfl | cases asks
  | some m =>
      have request : call.request? = some m.masked := congrArg _ asks
      rw [request, l.emitter.obey_of_message asks]
      rcases l.emitter.offered m with ⟨slot, value, sets, holds, dropped⟩ | ⟨new, sent, -⟩
      · have again : repeats l.log m.masked = true := by
          simp [repeats, sets, ← h.known, holds]
        simp [dropped, again]
      · have fresh : repeats l.log m.masked = false := by
          unfold repeats
          split
          next slot value sets => simpa [← h.known] using new slot value sets
          next => rfl
        simp [sent, fresh]

end Faithful

theorem requested_after (calls : List Call) :
    requested (Logged.after calls).log = calls.filterMap Call.request? := by
  have logged (l : Logged) : requested (calls.foldl Logged.call l).log =
      requested l.log ++ calls.filterMap Call.request? := by
    induction calls generalizing l with
    | nil => simp
    | cons call rest ih =>
        rw [List.foldl_cons, ih, Logged.call, requested_cons]
        cases asked : call.request? <;> simp [asked]
  exact logged _

/--
After any calls, a receiver that heard what was delivered is where the requests
would have left it.  What is missing from the requests are the control and program
changes that repeat the last request for their slot since the receiver was
forgotten; each of these the receiver held already when it was left out.
-/
theorem transparent (panel : Panel) (calls : List Call) :
    let l := Logged.after calls
    let requests := calls.filterMap Call.request?
    panel.hear (delivered l.log) = panel.hear requests ∧
      (delivered l.log).Sublist requests ∧
      (delivered l.log).filter (·.setting?.isNone) = requests.filter (·.setting?.isNone) ∧
      (∀ call, (l.emitter.obey call).2 =
          call.request?.toList.filter (!repeats l.log ·)) ∧
      (∀ call, ∀ m ∈ call.request?, m ∈ (l.emitter.obey call).2 ∨
          ∃ slot value, m.setting? = some (slot, value) ∧
            panel.hear (delivered l.log) slot = value) ∧
      l.emitter.count = (shortsSince .resetCount l.log).toUInt32 ∧
      l.emitter.takeReport.1 = (shortsSince .takeReport l.log).toUInt32 := by
  intro l requests
  have faithful : Faithful panel l := .after panel calls
  have asked : requested l.log = requests := requested_after calls
  refine ⟨?same, ?sublist, ?others, faithful.sends, ?held, faithful.count, faithful.report⟩
  case same => rw [← asked, faithful.same]
  case sublist => exact asked ▸ faithful.sublist
  case others => exact asked ▸ faithful.others
  case held =>
    intro call m asks
    by_cases again : repeats l.log m = true
    · exact .inr (faithful.holds_of_repeats again)
    · rw [faithful.sends, Option.mem_def.mp asks]
      exact .inl (by simpa using again)

end Emitter

end ChipScribe.Midi
