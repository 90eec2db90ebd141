import Mathlib
import ChipScribe.Proofs.Deeds
import ChipScribe.Proofs.Scripts
import ChipScribe.Disk
import ChipScribe.Session

/-!
# Playing a script

The loop over the clocks takes the accesses of a script from its front as they fall due.
On a sorted script that comes to the plan that can be read off the file: before each
clock the accesses of that clock, in the order of the file, and none of a later one.
-/

namespace ChipScribe

namespace Player

/-! ## What a file asks for -/

/-- The accesses of a clock, in the order of the file, and the clock. -/
def turn (file : List Access) (cycle : Nat) : List Deed :=
  (file.filter (·.cycle = cycle)).map .access ++ [.clock]

/-- What a file asks for in its first clocks. -/
def plan (file : List Access) (n : Nat) : List Deed :=
  (List.range n).flatMap (turn file)

theorem plan_succ (file : List Access) (n : Nat) :
    plan file (n + 1) = plan file n ++ turn file n := by
  rw [plan, List.range_succ, List.flatMap_append, List.flatMap_singleton]
  rfl

/-- Each access of an earlier clock is planned once, and no other. -/
theorem count_plan (file : List Access) (n : Nat) (a : Access) :
    (plan file n).count (.access a) = if a.cycle < n then file.count a else 0 := by
  have own (cycle : Nat) : (turn file cycle).count (.access a) =
      if a.cycle = cycle then file.count a else 0 := by
    have inj : Function.Injective Deed.access := fun _ _ => Deed.access.inj
    rw [turn, List.count_append, List.count_map_of_injective _ _ inj,
      List.count_singleton, if_neg (by simp)]
    split
    next same => exact List.count_filter (decide_eq_true same)
    next other =>
      exact List.count_eq_zero_of_not_mem fun member =>
        other (of_decide_eq_true (List.mem_filter.mp member).2)
  induction n with
  | zero => rfl
  | succ n ih =>
      rw [plan_succ, List.count_append, ih, own]
      split_ifs <;> omega

theorem count_clock_plan (file : List Access) (n : Nat) : (plan file n).count .clock = n := by
  have single (cycle : Nat) : (turn file cycle).count .clock = 1 := by
    have none : Deed.clock ∉ (file.filter (·.cycle = cycle)).map Deed.access := by simp
    rw [turn, List.count_append, List.count_eq_zero_of_not_mem none]
    rfl
  induction n with
  | zero => rfl
  | succ n ih => rw [plan_succ, List.count_append, ih, single]

/-! ## The script and the clock -/

theorem accessDue_eq (p : Player) (script : List Access) :
    { p with script }.accessDue =
      { p with script := script.dropWhile (·.cycle ≤ p.cycle) }.accessAll
        (script.takeWhile (·.cycle ≤ p.cycle)) := by
  cases script with
  | nil => rfl
  | cons a rest =>
      by_cases due : a.cycle ≤ p.cycle
      · simp only [accessDue, if_pos due, List.span_eq_takeWhile_dropWhile]
      · simp [accessDue, due, accessAll]

theorem span_of_ascending {script : List Access}
    (ascending : script.Pairwise fun a b => a.cycle ≤ b.cycle) (cycle : Nat) :
    script.takeWhile (·.cycle ≤ cycle) = script.filter (·.cycle ≤ cycle) ∧
      script.dropWhile (·.cycle ≤ cycle) = script.filter (cycle < ·.cycle) := by
  induction script with
  | nil => exact ⟨rfl, rfl⟩
  | cons a rest ih =>
      obtain ⟨first, ascending⟩ := List.pairwise_cons.mp ascending
      by_cases due : a.cycle ≤ cycle
      · have early : ¬cycle < a.cycle := Nat.not_lt.mpr due
        simp [due, early, ih ascending]
      · have late : cycle < a.cycle := Nat.lt_of_not_le due
        have later : ∀ b ∈ rest, cycle < b.cycle := fun b member =>
          Nat.lt_of_lt_of_le late (first b member)
        have none : rest.filter (·.cycle ≤ cycle) = [] :=
          List.filter_eq_nil_iff.mpr fun b member => by simpa using later b member
        have all : rest.filter (cycle < ·.cycle) = rest :=
          List.filter_eq_self.mpr fun b member => decide_eq_true (later b member)
        simp [due, late, none, all]

/-- What is due next in a script that has been played up to some clock. -/
theorem span_of_sorts {file script : List Access} (sorts : Script.Sorts file script) (n : Nat) :
    (script.filter (n ≤ ·.cycle)).takeWhile (·.cycle ≤ n) = file.filter (·.cycle = n) ∧
      (script.filter (n ≤ ·.cycle)).dropWhile (·.cycle ≤ n) =
        script.filter (n + 1 ≤ ·.cycle) := by
  obtain ⟨due, later⟩ := span_of_ascending (sorts.ascending.filter (n ≤ ·.cycle)) n
  rw [due, later, List.filter_filter, List.filter_filter, ← sorts.in_order]
  constructor
  · exact List.filter_congr fun a _ => by grind
  · exact List.filter_congr fun a _ => by grind

theorem clock_of_sorts {file script : List Access} (sorts : Script.Sorts file script)
    (p : Player) : { p with script := script.filter (p.cycle ≤ ·.cycle) }.clock =
      keep (script.filter (p.cycle + 1 ≤ ·.cycle)) (p.performAll (turn file p.cycle)) := by
  obtain ⟨due, later⟩ := span_of_sorts sorts p.cycle
  rw [clock_eq, accessDue_eq, due, later, accessAll_eq, ← performAll_append, performAll_keep]
  rfl

/-! ## Clock after clock -/

/-- Some clocks, and all that they put out. -/
def run (p : Player) : Nat → Player × List Effect
  | 0 => (p, [])
  | n + 1 => andThen p.clock (run · n)

theorem run_succ (p : Player) (n : Nat) : p.run (n + 1) = andThen (p.run n) clock := by
  induction n generalizing p with
  | zero => simp only [run, andThen, List.append_nil, List.nil_append]
  | succ n ih =>
      rw [run, run, andThen_assoc]
      exact congrArg _ (funext fun q => ih q)

/-- A sorted script is played as its file asks; what is left of it is due later. -/
theorem run_of_sorts {file script : List Access} (sorts : Script.Sorts file script) (p : Player)
    (n : Nat) : { p with script, cycle := 0 }.run n =
      keep (script.filter (n ≤ ·.cycle))
        ({ p with script := [], cycle := 0 }.performAll (plan file n)) := by
  induction n with
  | zero =>
      have whole : script.filter (0 ≤ ·.cycle) = script := by simp
      rw [whole]
      rfl
  | succ n ih =>
      have now := cycle_performAll { p with script := [], cycle := 0 } (plan file n)
      rw [count_clock_plan] at now
      rw [run_succ, ih, plan_succ, performAll_append]
      generalize { p with script := [], cycle := 0 }.performAll (plan file n) = done at now ⊢
      rw [Nat.zero_add] at now
      subst now
      have clocked := clock_of_sorts sorts done.1
      rw [andThen, keep]
      dsimp only
      rw [clocked]
      rfl

/-- The loop stops to report, and goes on with the clocks that are left. -/
theorem run_of_runQuiet {p q : Player} {n left : Nat} {effects : List Effect}
    (quiet : p.runQuiet n = (left, q, effects)) :
    p.run n = andThen (q, effects) (run · left) ∧ (effects = [] → left = 0) := by
  induction n generalizing p with
  | zero =>
      obtain ⟨rfl, rfl, rfl⟩ := quiet
      exact ⟨rfl, fun _ => rfl⟩
  | succ n ih =>
      rw [runQuiet] at quiet
      split at quiet
      next next clocked =>
        rw [run, clocked, andThen_nil]
        exact ih quiet
      next next heard loud clocked =>
        cases quiet
        refine ⟨?_, fun silent => (loud silent).elim⟩
        rw [run, clocked]

end Player

/-! ## The loop of a session -/

section Loop

variable {m : Type → Type} [Monad m] [LawfulMonad m] [Files m]

theorem Files.settle_append (k : Log.Console) (effects later : List Effect) :
    (settle k (effects ++ later) : m Log.Console) =
      settle k effects >>= fun k => settle k later := by
  induction effects generalizing k with
  | nil => rw [List.nil_append, settle, pure_bind]
  | cons effect effects ih =>
      cases effect with
      | notice n => exact ih (k.report n)
      | dump d =>
          rw [List.cons_append, settle, settle, bind_assoc]
          refine congrArg _ (funext fun stored => ?_)
          cases stored <;> exact ih _

namespace Session

theorem run_report (k : Log.Console) (effects : List Effect) :
    (report effects : Work m Unit).run.run k =
      Files.settle k effects >>= fun k => pure (.ok (), k) := by
  have got : (get : Work m Log.Console).run.run k = pure (.ok k, k) := by
    change (Except.ok <$> (get : StateT Log.Console m Log.Console)).run k = _
    simp
  have put (k' : Log.Console) : (set k' : Work m Unit).run.run k = pure (.ok (), k') := by
    change (Except.ok <$> (set k' : StateT Log.Console m Unit)).run k = _
    simp
  simp [report, Session.run, ExceptT.run_bind, got, put]

theorem report_nil : (report [] : Work m Unit) = pure () := by
  refine ExceptT.ext (StateT.ext fun k => ?_)
  simp [run_report, Files.settle]

theorem report_append (effects later : List Effect) :
    (report (effects ++ later) : Work m Unit) = (do report effects; report later) := by
  refine ExceptT.ext (StateT.ext fun k => ?_)
  simp [run_report, ExceptT.run_bind, Files.settle_append]

/-- Nothing comes back from what is reported, so it may as well be reported in the end. -/
theorem play_eq_run (n : Nat) (p : Player) :
    (play n p : Work m Player) = (do report (p.run n).2; return (p.run n).1) := by
  induction n using Nat.strong_induction_on generalizing p with
  | h n ih =>
    rw [play]
    split
    next q quiet =>
      obtain ⟨whole, all⟩ := Player.run_of_runQuiet quiet
      rw [whole, all rfl]
      simp [Player.andThen, Player.run, report_nil]
    next left q effect effects quiet =>
      obtain ⟨whole, -⟩ := Player.run_of_runQuiet quiet
      rw [whole, ih left (Player.runQuiet_lt quiet), Player.andThen, report_append, bind_assoc]

end Session

end Loop

namespace Script

/--
A text that holds a list is a script if each of its records says which access within the
window it is of; the script is then these accesses sorted by their clocks, with those on
one clock in the order of the file.  Played for some clocks, it does what the file asks
for: before each clock the accesses of that clock, each once, and no access of a clock
that is not reached.  To the chip this is a run of just those writes, reads and clocks,
with only the bytes that it asks for between them.
-/
theorem replays_file {text : String} {items : List Json}
    (list : Json.parse? text = some (.arr items)) :
    ((∃ script, parse text = .ok script) ↔
        ∀ j ∈ items, ∃ a, Access.Written j a ∧ InWindow a) ∧
      ∀ script, parse text = .ok script →
        ∃ file, List.Forall₂ Access.Written items file ∧ Sorts file script ∧
          (∀ (n : Nat) (a : Access),
            (Player.plan file n).count (.access a) = if a.cycle < n then file.count a else 0) ∧
          ∀ (p : Player) (n : Nat),
            let start := { p with script := [], cycle := 0 }
            let done := start.performAll (Player.plan file n)
            (∀ (m : Type → Type) [Monad m] [LawfulMonad m] [Files m],
              (Session.play n { p with script, cycle := 0 } : Session.Work m Player) = (do
                Session.report done.2
                return { done.1 with script := script.filter (n ≤ ·.cycle) })) ∧
              ∃ calls : List Operation,
                calls.filter (!·.isSupply) =
                    (Player.plan file n).map (·.operation p.host.memory) ∧
                  Player.CameBy calls start done := by
  refine ⟨parse_isOk_iff list, fun script read => ?_⟩
  obtain ⟨file, written, -, rfl⟩ := (parse_eq_ok_iff list).mp read
  have sorts := sorts_byCycle file
  refine ⟨file, written, sorts, fun n a => Player.count_plan file n a, fun p n => ⟨?loop, ?run⟩⟩
  case loop =>
    intro m _ _ _
    rw [Session.play_eq_run, Player.run_of_sorts sorts]
    rfl
  case run =>
    let start := { p with script := [], cycle := 0 }
    exact start.exists_cameBy_performAll (Player.plan file n)

/-- Two accesses on one clock, and before them in time one that is written as a list. -/
def unsortedText : String :=
  "[\x7b\"cycle\": 10, \"addr\": \"0x4003\", \"data\": 8\x7d, [0, 16405, \" $0F \"], " ++
    "\x7b\"addr\": \"$4015\", \"cycle\": 10, \"note\": null\x7d]"

/-- The file is played from its second access on. -/
theorem replays_file_unsorted :
    let items : List Json := [
      .obj [("cycle", .int 10), ("addr", .str "0x4003"), ("data", .int 8)],
      .arr [.int 0, .int 16405, .str " $0F "],
      .obj [("addr", .str "$4015"), ("cycle", .int 10), ("note", .null)]]
    let deeds : List Player.Deed := .access ⟨0, 0x4015, some 0x0F⟩ :: List.replicate 10 .clock ++
      [.access ⟨10, 0x4003, some 8⟩, .access ⟨10, 0x4015, none⟩, .clock]
    Json.parse? unsortedText = some (.arr items) ∧
      ∃ script, parse unsortedText = .ok script ∧ ∀ p : Player,
        let start := { p with script := [], cycle := 0 }
        let done := start.performAll deeds
        (Session.play 11 { p with script, cycle := 0 } : Session.Work (StateM Disk) Player) = (do
          Session.report done.2
          return { done.1 with script := [] }) ∧
        ∃ calls : List Operation,
          calls.filter (!·.isSupply) =
              .write 0x4015 0x0F :: List.replicate 10 (.clock p.host.memory) ++
                [.write 0x4003 8, .read 0x4015 CartridgeHost.openBus, .clock p.host.memory] ∧
            Player.CameBy calls start done := by
  intro items deeds
  let file : List Access := [⟨10, 0x4003, some 8⟩, ⟨0, 0x4015, some 0x0F⟩, ⟨10, 0x4015, none⟩]
  have parsed : Json.parse? unsortedText = some (.arr items) := by cbv
  have reads : items.mapM Access.ofJson? = some file := by rfl
  have written : List.Forall₂ Access.Written items file :=
    (Json.mapM_eq_some_iff Access.ofJson?_eq_some_iff).mp reads
  have inside : ∀ a ∈ file, InWindow a := by decide
  obtain ⟨-, plays⟩ := replays_file parsed
  have read : parse unsortedText = .ok (byCycle file) :=
    (parse_eq_ok_iff parsed).mpr ⟨file, written, inside, rfl⟩
  obtain ⟨other, accesses, sorts, -, play⟩ := plays _ read
  obtain rfl : other = file :=
    Option.some.inj
      (((Json.mapM_eq_some_iff Access.ofJson?_eq_some_iff).mpr accesses).symm.trans reads)
  have later : (byCycle file).filter (11 ≤ ·.cycle) = [] := by
    have none : file.filter (11 ≤ ·.cycle) = [] := by decide
    exact List.Perm.eq_nil (none ▸ sorts.perm.filter _)
  have planned : Player.plan file 11 = deeds := by decide
  refine ⟨parsed, _, read, fun p => ?_⟩
  obtain ⟨loop, run⟩ := play p 11
  have played := loop (StateM Disk)
  rw [planned] at run played
  rw [later] at played
  exact ⟨played, run⟩

end Script

end ChipScribe
