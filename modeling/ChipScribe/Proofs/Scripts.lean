import Mathlib.Data.List.Perm.Basic
import ChipScribe.Proofs.Numerals
import ChipScribe.Proofs.Records

/-!
# What a script says

A script is read if each of its records is that of an access within the register
window.  What comes of it are the accesses sorted by their clocks, where those on one
clock stay in order.
-/

namespace ChipScribe

open Json

namespace Access

/-! ## Records of accesses -/

def fieldNames : List String := ["cycle", "addr", "data"]

theorem nodup_fieldNames : fieldNames.Nodup := by decide

/-- A number within a limit, plain or as text. -/
inductive Number (limit : Nat) : Json → Nat → Prop
  | plain {n : Nat} (fits : n ≤ limit) : Number limit (.int n) n
  | text {text : String} {n : Nat} (literal : Text.Literal marks text n) (fits : n ≤ limit) :
      Number limit (.str text) n

/-- The record says of which access it is; without data it is a read. -/
structure Written (j : Json) (a : Access) : Prop where
  record : IsRecord fieldNames j
  cycle : Requires fieldNames j "cycle" (fun value (n : Nat) => value = .int n ∧ n < 2 ^ 64) a.cycle
  address : Requires fieldNames j "addr" (Number 0xFFFF) a.address.toNat
  data : Allows fieldNames j "data"
    (fun value data => ∃ byte : UInt8, data = some byte ∧ Number 0xFF value byte.toNat) none a.data

theorem Number.le {limit n : Nat} {j : Json} (number : Number limit j n) : n ≤ limit := by
  cases number <;> assumption

theorem asNumber?_eq_some_iff {limit : Nat} (j : Json) (n : Nat) :
    asNumber? limit j = some n ↔ Number limit j n := by
  have plain (read : j.asNat? limit = some n) : Number limit j n := by
    obtain ⟨rfl, fits⟩ := asNat?_eq_some_iff.mp read
    exact .plain fits
  constructor
  · intro read
    cases j with
    | str text =>
        obtain ⟨found, fits⟩ := Option.filter_eq_some_iff.mp read
        exact .text (numeral?_eq_some_iff.mp found) (of_decide_eq_true fits)
    | _ => exact plain read
  · rintro (fits | ⟨literal, fits⟩)
    · exact asNat?_eq_some_iff.mpr ⟨rfl, fits⟩
    · exact Option.filter_eq_some_iff.mpr
        ⟨numeral?_eq_some_iff.mpr literal, decide_eq_true fits⟩

theorem asCycle?_eq_some_iff (j : Json) (n : Nat) :
    j.asNat? maxCycle = some n ↔ j = .int n ∧ n < 2 ^ 64 := by
  rw [asNat?_eq_some_iff, maxCycle]
  exact and_congr_right fun _ => Nat.lt_succ_iff.symm

theorem asData?_eq_some_iff (j : Json) (data : Option UInt8) :
    ((asNumber? 0xFF j).map fun n => some n.toUInt8) = some data ↔
      ∃ byte : UInt8, data = some byte ∧ Number 0xFF j byte.toNat := by
  rw [Option.map_eq_some_iff]
  constructor
  · rintro ⟨n, read, rfl⟩
    have number := (asNumber?_eq_some_iff j n).mp read
    refine ⟨n.toUInt8, rfl, ?_⟩
    rwa [Nat.toUInt8, UInt8.toNat_ofNat', Nat.mod_eq_of_lt (Nat.lt_succ_of_le number.le)]
  · rintro ⟨byte, rfl, number⟩
    exact ⟨byte.toNat, (asNumber?_eq_some_iff j _).mpr number, congrArg some UInt8.ofNat_toNat⟩

/-- A record is read as the access that it says it is of. -/
theorem ofJson?_eq_some_iff (j : Json) (a : Access) : ofJson? j = some a ↔ Written j a := by
  constructor
  · intro read
    simp only [ofJson?, Option.bind_eq_bind, Option.bind_eq_some_iff, Option.pure_def] at read
    obtain ⟨found, fields, cycle, read_cycle, address, read_address, data, read_data, same⟩ := read
    obtain rfl := Option.some.inj same
    have number := (need_eq_some_iff nodup_fieldNames fields (by decide)
      asNumber?_eq_some_iff).mp read_address
    refine ⟨isRecord_iff.mpr ⟨found, fields⟩, ?cycle, ?address, ?data⟩
    case cycle =>
      exact (need_eq_some_iff nodup_fieldNames fields (by decide) asCycle?_eq_some_iff).mp
        read_cycle
    case address =>
      obtain ⟨value, given, fits⟩ := number
      rw [Nat.toUInt16, UInt16.toNat_ofNat', Nat.mod_eq_of_lt (Nat.lt_succ_of_le fits.le)]
      exact ⟨value, given, fits⟩
    case data =>
      exact (want_eq_some_iff nodup_fieldNames fields (by decide) asData?_eq_some_iff).mp read_data
  · rintro ⟨record, cycle, address, data⟩
    obtain ⟨found, fields⟩ := isRecord_iff.mp record
    simp only [ofJson?, Option.bind_eq_bind, Option.bind_eq_some_iff, Option.pure_def]
    refine ⟨found, fields, a.cycle, ?_, a.address.toNat, ?_, a.data, ?_,
      congrArg (fun address => some (Access.mk a.cycle address a.data)) UInt16.ofNat_toNat⟩
    · exact (need_eq_some_iff nodup_fieldNames fields (by decide) asCycle?_eq_some_iff).mpr cycle
    · exact (need_eq_some_iff nodup_fieldNames fields (by decide) asNumber?_eq_some_iff).mpr address
    · exact (want_eq_some_iff nodup_fieldNames fields (by decide) asData?_eq_some_iff).mpr data

end Access

namespace Script

/-! ## The order of a script -/

/-- The accesses by ascending clocks; those on one clock are in the order of the file. -/
structure Sorts (file script : List Access) : Prop where
  perm : script.Perm file
  ascending : script.Pairwise fun a b => a.cycle ≤ b.cycle
  in_order (cycle : Nat) : script.filter (·.cycle = cycle) = file.filter (·.cycle = cycle)

theorem sorts_byCycle (file : List Access) : Sorts file (byCycle file) := by
  have trans (a b c : Access) (ab : decide (a.cycle ≤ b.cycle)) (bc : decide (b.cycle ≤ c.cycle)) :
      decide (a.cycle ≤ c.cycle) :=
    decide_eq_true (Nat.le_trans (of_decide_eq_true ab) (of_decide_eq_true bc))
  have total (a b : Access) : decide (a.cycle ≤ b.cycle) || decide (b.cycle ≤ a.cycle) := by
    simpa using Nat.le_total a.cycle b.cycle
  have perm : (byCycle file).Perm file := List.mergeSort_perm _ _
  refine ⟨perm, ?ascending, fun cycle => ?in_order⟩
  case ascending =>
    simpa only [byCycle, decide_eq_true_eq] using List.pairwise_mergeSort trans total file
  case in_order =>
    -- those of one clock are sorted as they stand, so the sort keeps their order
    have level : (file.filter (·.cycle = cycle)).Pairwise fun a b =>
        decide (a.cycle ≤ b.cycle) := by
      refine List.pairwise_of_forall_mem_list fun a here b there => ?_
      have here := of_decide_eq_true (List.mem_filter.mp here).2
      have there := of_decide_eq_true (List.mem_filter.mp there).2
      exact decide_eq_true (here.trans there.symm).le
    have kept : (file.filter (·.cycle = cycle)).Sublist (byCycle file) :=
      List.sublist_mergeSort trans total level List.filter_sublist
    have inside := kept.filter (·.cycle = cycle)
    rw [List.filter_filter] at inside
    simp only [Bool.and_self] at inside
    exact (inside.eq_of_length (perm.filter _).length_eq.symm).symm

/-! ## Reading -/

/-- The window that a script may touch. -/
def InWindow (a : Access) : Prop :=
  0x4000 ≤ a.address ∧ a.address ≤ 0x4017

instance : DecidablePred InWindow :=
  fun a => inferInstanceAs (Decidable (0x4000 ≤ a.address ∧ a.address ≤ 0x4017))

theorem ofAccesses_eq_ok_iff {file script : List Access} :
    ofAccesses file = .ok script ↔ (∀ a ∈ file, InWindow a) ∧ script = byCycle file := by
  have inside (a : Access) : ¬(!Register.inWindow a.address) = true ↔ InWindow a := by
    simp [Register.inWindow, InWindow]
  rw [ofAccesses, stray?]
  split
  next a found =>
    have stray := List.find?_some found
    refine iff_of_false nofun fun read => ?_
    exact (inside a).mpr (read.1 a (List.mem_of_find?_eq_some found)) stray
  next none =>
    have all : ∀ a ∈ file, InWindow a := fun a member =>
      (inside a).mp (List.find?_eq_none.mp none a member)
    rw [Except.ok.injEq, eq_comm]
    exact ⟨fun same => ⟨all, same⟩, And.right⟩

/-- A text that holds a list is read as the accesses of its records, sorted. -/
theorem parse_eq_ok_iff {text : String} {items : List Json}
    (list : Json.parse? text = some (.arr items)) {script : List Access} :
    parse text = .ok script ↔ ∃ file, List.Forall₂ Access.Written items file ∧
      (∀ a ∈ file, InWindow a) ∧ script = byCycle file := by
  have reads (file : List Access) : (Json.arr items).asListOf? Access.ofJson? = some file ↔
      List.Forall₂ Access.Written items file := by
    rw [asListOf?_eq_some_iff Access.ofJson?_eq_some_iff]
    simp
  rw [parse, list, Option.bind_some]
  split
  next file read =>
    rw [ofAccesses_eq_ok_iff]
    constructor
    · exact fun sorted => ⟨file, (reads file).mp read, sorted⟩
    · rintro ⟨other, written, sorted⟩
      rwa [Option.some.inj (read.symm.trans ((reads other).mpr written))]
  next none =>
    refine iff_of_false nofun ?_
    rintro ⟨file, written, -⟩
    cases none.symm.trans ((reads file).mpr written)

/-- A script is read if its records are those of accesses within the window. -/
theorem parse_isOk_iff {text : String} {items : List Json}
    (list : Json.parse? text = some (.arr items)) :
    (∃ script, parse text = .ok script) ↔
      ∀ j ∈ items, ∃ a, Access.Written j a ∧ InWindow a := by
  simp only [parse_eq_ok_iff list]
  rw [exists_comm]
  simp only [exists_and_left, exists_eq, and_true]
  clear list
  induction items with
  | nil => simp
  | cons j items ih =>
      rw [List.forall_mem_cons, ← ih]
      constructor
      · rintro ⟨_, _ | ⟨here, later⟩, inside⟩
        obtain ⟨first, rest⟩ := List.forall_mem_cons.mp inside
        exact ⟨⟨_, here, first⟩, _, later, rest⟩
      · rintro ⟨⟨a, here, first⟩, file, later, rest⟩
        exact ⟨a :: file, .cons here later, List.forall_mem_cons.mpr ⟨first, rest⟩⟩

end Script

end ChipScribe
