import ChipScribe.Chip

/-!
A host that counts the chip's requests and writes down every level the
interrupt line was driven to.  It may serve the requests right after the clock
that made them, or leave them to its owner.
-/

namespace ChipScribe

structure CountingHost where
  memory : Memory := .zero
  requests : Nat := 0
  irq : Bool := false
  history : Array Bool := #[]
  openBus : UInt8 := 0

namespace CountingHost

instance : Inhabited CountingHost := ⟨{}⟩

def load (h : CountingHost) (address : UInt16) (bytes : List UInt8) : CountingHost :=
  { h with memory := h.memory.load address bytes }

def drive (h : CountingHost) (level : Bool) : CountingHost :=
  { h with irq := level, history := h.history.push level }

def request (h : CountingHost) (count : Nat) : CountingHost :=
  { h with requests := h.requests + count }

/-- Take note of what an operation of the chip did to the interrupt line. -/
def obey (h : CountingHost) : Option Bool → CountingHost
  | some level => h.drive level
  | none => h

def clock (h : CountingHost) (c : Chip) : CountingHost × Chip × Cycle :=
  let (c, cycle) := c.clock h.memory
  ((h.obey cycle.irq).request cycle.requests, c, cycle)

def serveOne (h : CountingHost) (c : Chip) : CountingHost × Chip :=
  let (c, report) := c.supply (h.memory.read c.dmaAddress)
  (h.obey report.irq, c)

def serveTimes : Nat → CountingHost → Chip → CountingHost × Chip
  | 0, h, c => (h, c)
  | n + 1, h, c =>
      let (h, c) := h.serveOne c
      serveTimes n h c

def serve (h : CountingHost) (c : Chip) : CountingHost × Chip :=
  serveTimes h.requests { h with requests := 0 } c

end CountingHost

end ChipScribe
