import ChipScribe.Options
import ChipScribe.Player
import ChipScribe.Snapshot
import ChipScribe.Files
import ChipScribe.Sample.LibraryFile

/-!
A session is one run of the program: read what the options name, play, and write
what they ask for.  The work is done in a fixed order, and the first failure ends
it.  Log lines are gathered; they go to the log file if there is one.
-/

namespace ChipScribe

namespace Session

inductive Failure where
  | logLevel (word : String)
  | logEntry (entry : String)
  | logCategory (word : String)
  | openingLog (path : String) (cause : FileError)
  | readingTuning (path : String) (cause : FileError)
  | parsingTuning (path : String)
  | dumpDirectory (path : String) (cause : FileError)
  | readingImage (path : String) (cause : FileError)
  | image (cause : CartridgeHost.SizeError)
  | readingScript (path : String) (cause : FileError)
  | parsingScript (path : String) (cause : Script.Error)
  | readingState (path : String) (cause : FileError)
  | parsingState
  | loadingState (path : String) (cause : Snapshot.Error)
  | writing (cause : FileError)
  | creating (path : String) (cause : FileError)
  deriving DecidableEq, Repr

def Failure.message : Failure → String
  | .logLevel word => "unknown log level " ++ Text.quoted word
  | .logEntry entry => "expected CATEGORY=LEVEL, got " ++ Text.quoted entry
  | .logCategory word => "unknown log category " ++ Text.quoted word
  | .openingLog path _ => "opening log file " ++ path
  | .readingTuning path _ => "reading tuning " ++ path
  | .parsingTuning path => "parsing tuning " ++ path
  | .dumpDirectory path _ => "creating sample dump dir " ++ path
  | .readingImage path _ => "reading PRG " ++ path
  | .image cause => cause.message
  | .readingScript path _ => "reading script " ++ path
  | .parsingScript path _ => "parsing script " ++ path
  | .readingState path _ => "reading state " ++ path
  | .parsingState => "malformed state"
  | .loadingState path _ => "loading state " ++ path
  | .writing cause => cause.message
  | .creating path _ => "creating " ++ path

/-! ## Log levels -/

def overallLevel (o : Options) : Except Failure Log.Levels :=
  match Log.Level.ofText? o.logLevel with
  | some level => .ok { overall := level }
  | none => .error (.logLevel o.logLevel)

/-- Apply one entry of the form category, equals sign, level. -/
def applyEntry (levels : Log.Levels) (entry : String) : Except Failure Log.Levels :=
  match Options.splitEquals entry.toList with
  | (_, none) => .error (.logEntry entry)
  | (before, some after) =>
      let category := String.ofList before
      let level := String.ofList after
      match Log.Category.ofText? category, Log.Level.ofText? level with
      | none, _ => .error (.logCategory category)
      | some _, none => .error (.logLevel level)
      | some c, some l => .ok (levels.set c l)

def levels (o : Options) : Except Failure Log.Levels := do
  o.logs.foldlM applyEntry (← overallLevel o)

/-! ## The work -/

variable {m : Type → Type} [Monad m] [Files m]

abbrev Work (m : Type → Type) := ExceptT Failure (StateT Log.Console m)

def run {α : Type} (x : m α) : Work m α :=
  ExceptT.lift (StateT.lift x)

def require {α : Type} (failure : FileError → Failure) (x : m (Except FileError α)) :
    Work m α := do
  match ← run x with
  | .ok a => return a
  | .error cause => throw (failure cause)

def demand {ε α : Type} (failure : ε → Failure) : Except ε α → Work m α
  | .ok a => return a
  | .error e => throw (failure e)

def ifNamed {α : Type} (fallback : α) (path : Option String) (read : String → Work m α) :
    Work m α :=
  match path with
  | some path => read path
  | none => return fallback

def report (effects : List Effect) : Work m Unit := do
  let console ← get
  set (← run (Files.settle console effects))

def setUpLog (o : Options) : Work m Unit := do
  let levels ← demand id (levels o)
  set { (default : Log.Console) with levels := levels }
  ifNamed () o.logFile fun path => require (.openingLog path) (Files.append path [])

def readTuning (path : String) : Work m Tuning := do
  let text ← require (.readingTuning path) (Files.readText path)
  match (Json.parse? text).bind Tuning.ofJson? with
  | some t => return t
  | none => throw (.parsingTuning path)

def readImage (path : String) : Work m CartridgeHost := do
  let bytes ← require (.readingImage path) (Files.read path)
  demand .image ((default : CartridgeHost).insert bytes)

def readScript (path : String) : Work m (List Access) := do
  let text ← require (.readingScript path) (Files.readText path)
  demand (.parsingScript path) (Script.parse text)

/-- Let the chip act, and settle what that puts out. -/
def act (p : Player) (step : Chip → Chip × Report) : Work m Player := do
  let (c, r) := step p.chip
  let (p, effects) := p.absorb c r
  report effects
  return p

def loadSamples (p : Player) (path : String) : Work m Player := do
  let text ← run (Files.readText path)
  act p (·.loadLibrary path (Library.ofFile text))

def loadState (p : Player) (path : String) : Work m Player := do
  let text ← require (.readingState path) (Files.readText path)
  match (Json.parse? text).bind Json.canonical? with
  | none => throw .parsingState
  | some j =>
      let snapshot ← demand (.loadingState path) (Snapshot.ofJson j)
      act p (·.restore snapshot)

def play (n : Nat) (p : Player) : Work m Player := do
  match h : p.runQuiet n with
  | (_, p, []) => return p
  | (left, p, e :: effects) =>
      have : left < n := Player.runQuiet_lt h
      report (e :: effects)
      play left p
termination_by n

/-- The clocks of a session of unstated length: a second beyond the last access. -/
def defaultCycles (r : Region) (script : List Access) : Nat :=
  (script.getLast?.map (·.cycle)).getD 0 + r.clockHz

def writeResults (o : Options) (p : Player) : Work m Unit := do
  ifNamed () o.save fun path =>
    require .writing (Files.write path (Files.textBytes p.chip.snapshot.text))
  ifNamed () o.pcmOut fun path =>
    require .writing (Files.write path ((p.resampler.map (·.bytes)).getD []))
  require (.creating o.midiOut)
    (Files.write o.midiOut (Midi.File.encode o.region.clockHz.toFloat p.events.toList))

def prepare (o : Options) : Work m Player := do
  let tuning ← ifNamed {} o.tuning readTuning
  ifNamed () o.dumpDirectory fun path =>
    require (.dumpDirectory path) (Files.makeDirectories path)
  let host ← ifNamed default o.image readImage
  let script ← ifNamed [] o.script readScript
  return {
    host := host
    chip := .ofSettings { region := o.region, tuning, dumpDirectory := o.dumpDirectory }
    script := script
    resampler := o.pcmOut.map fun _ => .ofClock o.region.clockHz.toFloat }

def work (o : Options) : Work m Unit := do
  setUpLog o
  let p ← prepare o
  let cycles := o.cycles.getD (defaultCycles o.region p.script)
  let p ← ifNamed p o.samples (loadSamples p)
  let p ← act p (·.power)
  let p ← ifNamed p o.load (loadState p)
  let p ← play cycles p
  let p ← act p (·.silence)
  writeResults o p

/-! ## Sessions -/

/-- How a session ended, and the log lines that went to no file. -/
structure Outcome where
  result : Except Failure Unit
  lines : List String

namespace Outcome

def exitCode (o : Outcome) : Nat :=
  if o.result.isOk then 0 else 1

def shown (o : Outcome) : String :=
  Text.ofLines <| o.lines ++
    match o.result with
    | .ok () => []
    | .error failure => ["Error: " ++ failure.message]

end Outcome

/-- Put the lines where they belong. -/
def deliverLog (o : Options) (lines : List String) : m (List String) := do
  match o.logFile, lines with
  | some path, _ :: _ =>
      match ← Files.append path (Files.textBytes (Text.ofLines lines)) with
      | .ok () => return []
      | .error _ => return lines
  | _, _ => return lines

def perform (o : Options) : m Outcome := do
  let (result, console) ← (work o).run.run default
  return { result, lines := ← deliverLog o console.lines.toList }

end Session

end ChipScribe
