/-!
The length counter: a note's duration in half frames.  A write that lands on
the clock of a half frame is held back and takes effect after that clock, so
each write is kept in a pending slot until `commit`.
-/

namespace ChipScribe

structure LengthCounter where
  count : UInt8 := 0
  halt : Bool := false
  enabled : Bool := false
  haltPending : Bool := false
  nextHalt : Bool := false
  loadPending : Bool := false
  nextIndex : UInt8 := 0
  deriving DecidableEq, Repr, Inhabited

namespace LengthCounter

def table : Vector UInt8 32 :=
  #v[10, 254, 20, 2, 40, 4, 80, 6, 160, 8, 60, 10, 14, 12, 26, 14,
     12, 16, 24, 18, 48, 20, 96, 22, 192, 24, 72, 26, 16, 28, 32, 30]

/-- The duration that a five-bit index stands for; higher bits are ignored. -/
def duration (index : UInt8) : UInt8 :=
  table[index.toNat % 32]

def power (_ : LengthCounter) : LengthCounter :=
  {}

def active (c : LengthCounter) : Bool :=
  c.count > 0

def clock (c : LengthCounter) : LengthCounter :=
  if !c.halt && c.enabled && c.count > 0 then { c with count := c.count - 1 } else c

/-- A disabled counter ignores a load. -/
def load (c : LengthCounter) (index : UInt8) : LengthCounter :=
  if c.enabled then { c with count := duration index } else c

/-- Disabling empties the counter at once. -/
def setEnabled (c : LengthCounter) (enabled : Bool) : LengthCounter :=
  if enabled then { c with enabled := true } else { c with enabled := false, count := 0 }

/-- `clocking` says that a half frame is due on this clock. -/
def writeHalt (c : LengthCounter) (clocking halt : Bool) : LengthCounter :=
  if clocking then { c with haltPending := true, nextHalt := halt } else { c with halt := halt }

def writeIndex (c : LengthCounter) (clocking : Bool) (index : UInt8) : LengthCounter :=
  if !c.enabled then c
  else if clocking then { c with loadPending := true, nextIndex := index &&& 0x1F }
  else c.load index

def commitHalt (c : LengthCounter) : LengthCounter :=
  if c.haltPending then { c with haltPending := false, halt := c.nextHalt } else c

def commitLoad (c : LengthCounter) : LengthCounter :=
  if c.loadPending then ({ c with loadPending := false }).load c.nextIndex else c

/-- The held-back writes land, once per clock and after any half frame. -/
def commit (c : LengthCounter) : LengthCounter :=
  c.commitHalt.commitLoad

@[simp] theorem enabled_clock (c : LengthCounter) : c.clock.enabled = c.enabled := by
  unfold clock; split <;> rfl

@[simp] theorem enabled_load (c : LengthCounter) (i : UInt8) : (c.load i).enabled = c.enabled := by
  unfold load; split <;> rfl

@[simp] theorem enabled_setEnabled (c : LengthCounter) (b : Bool) :
    (c.setEnabled b).enabled = b := by
  cases b <;> rfl

@[simp] theorem enabled_writeHalt (c : LengthCounter) (k h : Bool) :
    (c.writeHalt k h).enabled = c.enabled := by
  unfold writeHalt; split <;> rfl

@[simp] theorem enabled_writeIndex (c : LengthCounter) (k : Bool) (i : UInt8) :
    (c.writeIndex k i).enabled = c.enabled := by
  unfold writeIndex; split
  · rfl
  · split
    · rfl
    · simp

@[simp] theorem enabled_commit (c : LengthCounter) : c.commit.enabled = c.enabled := by
  unfold commit commitLoad commitHalt; split <;> split <;> simp

@[simp] theorem pending_commit (c : LengthCounter) :
    c.commit.haltPending = false ∧ c.commit.loadPending = false := by
  unfold commit commitLoad commitHalt load
  repeat' split
  all_goals simp_all

end LengthCounter

end ChipScribe
