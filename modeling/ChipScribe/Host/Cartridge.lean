import ChipScribe.Chip

/-!
A host with a program image in the upper half of its memory.  It only remembers
whether a request is waiting, and counts how often the interrupt line rises.
-/

namespace ChipScribe

structure CartridgeHost where
  memory : Memory := .zero
  pending : Bool := false
  irq : Bool := false
  edges : Nat := 0

namespace CartridgeHost

instance : Inhabited CartridgeHost := ⟨{}⟩

/-- An image that is neither 16 nor 32 KiB long. -/
structure SizeError where
  size : Nat
  deriving DecidableEq, Repr

def SizeError.message (e : SizeError) : String :=
  "PRG image must be 16 or 32 KiB, got " ++ toString e.size ++ " bytes"

/-- A 16 KiB image is mapped twice. -/
def insert (h : CartridgeHost) (image : List UInt8) : Except SizeError CartridgeHost :=
  if image.length = 0x4000 then
    .ok { h with memory := (h.memory.load 0x8000 image).load 0xC000 image }
  else if image.length = 0x8000 then .ok { h with memory := h.memory.load 0x8000 image }
  else .error ⟨image.length⟩

/-- Nothing is left on the bus by this host. -/
def openBus : UInt8 := 0

def drive (h : CartridgeHost) (level : Bool) : CartridgeHost :=
  { h with irq := level, edges := if level && !h.irq then h.edges + 1 else h.edges }

def request (h : CartridgeHost) : CartridgeHost :=
  { h with pending := true }

def obey (h : CartridgeHost) : Option Bool → CartridgeHost
  | some level => h.drive level
  | none => h

/-- Read the waiting byte for the chip, if there is one. -/
def serve (h : CartridgeHost) (c : Chip) : CartridgeHost × Chip :=
  if h.pending then
    let (c, report) := c.supply (h.memory.read c.dmaAddress)
    ({ h with pending := false }.obey report.irq, c)
  else (h, c)

def clock (h : CartridgeHost) (c : Chip) : CartridgeHost × Chip × Cycle :=
  let (c, cycle) := c.clock h.memory
  let h := h.obey cycle.irq
  let h := if cycle.requests > 0 then h.request else h
  let (h, c) := h.serve c
  (h, c, cycle)

end CartridgeHost

end ChipScribe
