import ChipScribe.Text.Numeral
import ChipScribe.Text.Lines

/-!
The log: levels, categories, and which lines get through.  A category follows
its own level, or the global one while its own is off.  A category may write a
limited number of lines; the first line beyond the limit is replaced by a
warning, later ones are only counted.
-/

namespace ChipScribe.Log

inductive Level where
  | off
  | error
  | warn
  | info
  | debug
  | trace
  deriving DecidableEq, Repr, Inhabited

namespace Level

def all : List Level := [off, error, warn, info, debug, trace]

/-- From silent to everything. -/
def rank : Level → Nat
  | off => 0
  | error => 1
  | warn => 2
  | info => 3
  | debug => 4
  | trace => 5

def ofRank? (n : Nat) : Option Level :=
  all[n]?

def ofWord? : String → Option Level
  | "off" => some off
  | "error" | "err" => some error
  | "warn" | "warning" => some warn
  | "info" => some info
  | "debug" => some debug
  | "trace" => some trace
  | _ => none

/-- A level is named by its word or its rank, in any case and between blanks. -/
def ofText? (s : String) : Option Level :=
  let cs := (Text.trim s.toList).map Char.toLower
  match Text.decimal64? cs with
  | some n => ofRank? n
  | none => ofWord? (String.ofList cs)

@[simp] theorem ofRank?_rank (l : Level) : ofRank? l.rank = some l := by
  cases l <;> rfl

end Level

inductive Category where
  | chip
  | frame
  | dmc
  | midi
  | bus
  deriving DecidableEq, Repr, Inhabited

namespace Category

def all : List Category := [chip, frame, dmc, midi, bus]

def title : Category → String
  | chip => "APU"
  | frame => "FrameCounter"
  | dmc => "DMC"
  | midi => "MIDI"
  | bus => "Bus"

def ofWord? : String → Option Category
  | "apu" => some chip
  | "frame" | "framecounter" | "frame_counter" => some frame
  | "dmc" => some dmc
  | "midi" => some midi
  | "bus" => some bus
  | _ => none

/-- A category is named in any case and between blanks. -/
def ofText? (s : String) : Option Category :=
  ofWord? (String.ofList ((Text.trim s.toList).map Char.toLower))

end Category

/-! ## Levels in force -/

structure Levels where
  overall : Level := .off
  own : Category → Level := fun _ => .off

namespace Levels

instance : Inhabited Levels := ⟨{}⟩

def setOverall (s : Levels) (l : Level) : Levels :=
  { s with overall := l }

def set (s : Levels) (c : Category) (l : Level) : Levels :=
  { s with own := fun c' => if c' = c then l else s.own c' }

def effective (s : Levels) (c : Category) : Level :=
  if s.own c = .off then s.overall else s.own c

/-- Nothing is logged at the level `off`. -/
def admits (s : Levels) (c : Category) (l : Level) : Bool :=
  l != .off && l.rank ≤ (s.effective c).rank

@[simp] theorem own_set_self (s : Levels) (c : Category) (l : Level) : (s.set c l).own c = l := by
  simp [set]

theorem own_set_other (s : Levels) {c c' : Category} (h : c' ≠ c) (l : Level) :
    (s.set c l).own c' = s.own c' := by
  simp [set, h]

@[simp] theorem admits_off (s : Levels) (c : Category) : s.admits c .off = false := rfl

end Levels

/-! ## The limit -/

/-- What one category has written and lost. -/
structure Window where
  written : Nat := 0
  dropped : Nat := 0
  warned : Bool := false
  deriving DecidableEq, Repr, Inhabited

structure Console where
  levels : Levels := {}
  limit : Nat := 60
  windows : Category → Window := fun _ => {}
  lines : Array String := #[]

namespace Console

instance : Inhabited Console := ⟨{}⟩

def warning (c : Category) (dropped : Nat) : String :=
  "[" ++ c.title ++ "] WARNING: rate limit exceeded, " ++ toString dropped ++
    " log message(s) dropped"

def setWindow (k : Console) (c : Category) (w : Window) : Console :=
  { k with windows := fun c' => if c' = c then w else k.windows c' }

def write (k : Console) (line : String) : Console :=
  { k with lines := k.lines.push line }

def text (k : Console) : String :=
  Text.ofLines k.lines.toList

/-- Account for a line: whether it may be written, and how many lost lines to report first. -/
def Window.admit (limit : Nat) (w : Window) : Window × Bool × Nat :=
  if w.written < limit then
    ({ w with written := w.written + 1, dropped := 0, warned := w.warned || w.dropped > 0 },
      true, w.dropped)
  else if w.warned then ({ w with dropped := w.dropped + 1 }, false, 0)
  else ({ w with dropped := 0, warned := true }, false, w.dropped + 1)

/-- Log a line; the result also says whether it was written. -/
def log (k : Console) (c : Category) (l : Level) (line : String) : Console × Bool :=
  if k.levels.admits c l then
    let (w, allowed, dropped) := Window.admit k.limit (k.windows c)
    let k := k.setWindow c w
    let k := if dropped > 0 then k.write (warning c dropped) else k
    if allowed then (k.write line, true) else (k, false)
  else (k, false)

end Console

end ChipScribe.Log
