import ChipScribe.Scribe

/-!
The whole chip: the audible half and the half that writes down what it plays.
Every operation gives the next state and a report of what went out with it.
-/

namespace ChipScribe

open Midi

structure Chip where
  synth : Synth
  scribe : Scribe

/-- What an operation puts out: the interrupt level it drives, messages, and effects. -/
structure Report where
  irq : Option Bool := none
  midi : List Message := []
  effects : List Effect := []
  deriving DecidableEq, Repr, Inhabited

/-- A clock also puts out a sample, and asks for bytes of the playing recording. -/
structure Cycle extends Report where
  sample : Nat
  requests : Nat
  deriving DecidableEq, Repr

structure Settings where
  region : Region := .ntsc
  tuning : Tuning := {}
  dumpDirectory : Option String := none
  deriving Repr, Inhabited

namespace Chip

/-- A chip that has not been powered on. -/
def ofSettings (s : Settings) : Chip where
  synth := .initial s.region
  scribe := {
    library := Library.empty.dumpingTo s.dumpDirectory
    tuning := s.tuning
    dumpDirectory := s.dumpDirectory }

instance : Inhabited Chip := ⟨ofSettings {}⟩

/-! ## Running -/

def power (c : Chip) : Chip × Report :=
  let synth := c.synth.power
  let powered := c.scribe.power
  ({ synth := synth, scribe := powered.1 },
    { irq := some synth.irqLine
      midi := powered.2
      effects := [.notice (.powered synth.region c.scribe.library.size)] })

/-- Bring the transcription up to the present state of the channels. -/
def transcribe (m : Memory) (c : Chip) : Chip × Report :=
  let followed := c.scribe.follow m c.synth
  let transmitted := followed.1.transmit
  ({ c with scribe := transmitted.1 }, { midi := transmitted.2, effects := followed.2 })

def clock (m : Memory) (c : Chip) : Chip × Cycle :=
  let synth := c.synth.clock
  let followed := c.scribe.follow m synth
  let transmitted := followed.1.transmit
  let metered := transmitted.1.meter
  ({ synth := synth, scribe := metered.1 },
    { sample := c.synth.sample
      requests := c.synth.requests
      irq := c.synth.drive synth
      midi := transmitted.2
      effects := followed.2 ++ metered.2 })

/-! ## Registers -/

def writeNotices (register : Register) (data : UInt8) : List Effect :=
  match register with
  | .frame => [.notice (.frameMode (data &&& 0x80 != 0) (data &&& 0x40 != 0))]
  | _ => []

def writeRegister (c : Chip) (register : Register) (data : UInt8) : Chip × Report :=
  let synth := c.synth.write register data
  let scribe := c.scribe.watchWrite c.synth register data
  (⟨synth, scribe⟩, { irq := c.synth.drive synth, effects := writeNotices register data })

/-- A write to an address that names no register does nothing. -/
def write (c : Chip) (address : UInt16) (data : UInt8) : Chip × Report :=
  match Register.ofAddress? address with
  | some register => c.writeRegister register data
  | none => (c, { effects := [.notice (.ignoredWrite address data)] })

/-- Only the status register can be read; elsewhere the bus keeps its last value. -/
def read (c : Chip) (address : UInt16) (openBus : UInt8) : UInt8 × Chip × Report :=
  if address == Register.statusAddress then
    let synth := c.synth.acknowledge
    (c.synth.status, { c with synth := synth }, { irq := c.synth.drive synth })
  else (openBus, c, { effects := [.notice (.writeOnlyRead address)] })

/-! ## Serving the delta channel -/

def dmaAddress (c : Chip) : UInt16 :=
  c.synth.dmc.address

def supply (c : Chip) (data : UInt8) : Chip × Report :=
  let synth := c.synth.supply data
  ({ c with synth := synth }, { irq := c.synth.drive synth })

/-! ## The receiver -/

def silence (c : Chip) : Chip × Report :=
  let reset := c.scribe.reset
  ({ c with scribe := reset.1 }, { midi := reset.2 })

def setUpReceiver (c : Chip) : Chip × Report :=
  let set := c.scribe.setUp
  ({ c with scribe := set.1 }, { midi := set.2 })

/-! ## Settings -/

def withTuning (c : Chip) (t : Tuning) : Chip :=
  { c with scribe := { c.scribe with tuning := t } }

/-- The dump directory of the chip carries over to the new library. -/
def withLibrary (c : Chip) (l : Library) : Chip :=
  { c with scribe := { c.scribe with library := l.dumpingTo c.scribe.dumpDirectory } }

/-- Take the outcome of loading a library; without one the delta channel plays unwritten. -/
def loadLibrary (c : Chip) (path : String) : Except Library.Error Library → Chip × Report
  | .ok l => (c.withLibrary l, { effects := [.notice (.libraryLoaded path l.size)] })
  | .error e => (c.withLibrary .empty, { effects := [.notice (.libraryMissing path e)] })

end Chip

end ChipScribe
