import ChipScribe.Region
import ChipScribe.Text.Numeral
import ChipScribe.Text.Lines

/-!
The command line.  Every option has a value, given after it or joined to it by
an equals sign; all but the log categories may be given once.  A double dash
ends the options, and nothing may follow it.  Arguments are taken from left to
right, so a call for help counts if nothing before it is at fault.
-/

namespace ChipScribe

structure Options where
  script : Option String := none
  image : Option String := none
  cycles : Option Nat := none
  region : Region := .ntsc
  samples : Option String := none
  tuning : Option String := none
  load : Option String := none
  midiOut : String := "out.mid"
  pcmOut : Option String := none
  save : Option String := none
  dumpDirectory : Option String := none
  logLevel : String := "warn"
  logs : List String := []
  logFile : Option String := none
  deriving DecidableEq, Repr, Inhabited

namespace Options

inductive Error where
  | unexpected (argument : String)
  | missingValue (option : String)
  | repeated (option : String)
  | invalidValue (option value : String)
  deriving DecidableEq, Repr

namespace Error

def message : Error → String
  | .unexpected argument => "unexpected argument '" ++ argument ++ "' found"
  | .missingValue option => "a value is required for '" ++ option ++ "' but none was supplied"
  | .repeated option => "the argument '" ++ option ++ "' cannot be used multiple times"
  | .invalidValue option value => "invalid value '" ++ value ++ "' for '" ++ option ++ "'"

end Error

def names : List String :=
  ["--script", "--prg", "--cycles", "--timing", "--samples", "--tuning", "--load",
    "--midi-out", "--pcm-out", "--save", "--sample-dump-dir", "--log-level", "--log",
    "--log-file"]

def repeatable (name : String) : Bool :=
  name == "--log"

/-- A path has at least one character. -/
def path? (value : String) : Option String :=
  if value.isEmpty then none else some value

/-- Set one option; a value of the wrong kind is refused. -/
def set? (o : Options) (name value : String) : Option Options :=
  match name with
  | "--script" => (path? value).map fun p => { o with script := some p }
  | "--prg" => (path? value).map fun p => { o with image := some p }
  | "--cycles" => (Text.decimal64? value.toList).map fun n => { o with cycles := some n }
  | "--timing" => (Region.ofName? value).map fun r => { o with region := r }
  | "--samples" => (path? value).map fun p => { o with samples := some p }
  | "--tuning" => (path? value).map fun p => { o with tuning := some p }
  | "--load" => (path? value).map fun p => { o with load := some p }
  | "--midi-out" => (path? value).map fun p => { o with midiOut := p }
  | "--pcm-out" => (path? value).map fun p => { o with pcmOut := some p }
  | "--save" => (path? value).map fun p => { o with save := some p }
  | "--sample-dump-dir" => (path? value).map fun p => { o with dumpDirectory := some p }
  | "--log-level" => some { o with logLevel := value }
  | "--log" => some { o with logs := o.logs ++ [value] }
  | "--log-file" => (path? value).map fun p => { o with logFile := some p }
  | _ => none

/-- The part before the first equals sign, and the part after it. -/
def splitEquals : List Char → List Char × Option (List Char)
  | [] => ([], none)
  | '=' :: rest => ([], some rest)
  | c :: rest =>
      let (before, after) := splitEquals rest
      (c :: before, after)

/-- An argument that begins with a dash is no value, unless it is the dash alone. -/
def isValue (argument : String) : Bool :=
  !argument.startsWith "-" || argument == "-"

inductive Request where
  | help
  | session (options : Options)
  deriving DecidableEq, Repr

def isHelp (argument : String) : Bool :=
  argument == "--help" || argument.startsWith "-h"

def usage : List String :=
  "Usage: chipscribe [OPTIONS]" :: "" :: "Options:" ::
    (names.map fun name => "  " ++ name ++ " <VALUE>") ++ ["  -h, --help"]

/-- Options with the names already given. -/
structure Partial where
  options : Options := {}
  given : List String := []

def Partial.add (p : Partial) (name value : String) : Except Error Partial :=
  if p.given.contains name && !repeatable name then .error (.repeated name)
  else
    match p.options.set? name value with
    | some o => .ok { options := o, given := name :: p.given }
    | none => .error (.invalidValue name value)

def parseFrom (p : Partial) : List String → Except Error Request
  | [] => .ok (.session p.options)
  | argument :: rest =>
      if isHelp argument then .ok .help
      else if argument == "--" then
        match rest with
        | [] => .ok (.session p.options)
        | extra :: _ => .error (.unexpected extra)
      else
        let (before, after) := splitEquals argument.toList
        let name := String.ofList before
        if !names.contains name then .error (.unexpected argument)
        else
          match after, rest with
          | some value, rest =>
              match p.add name (String.ofList value) with
              | .ok p => parseFrom p rest
              | .error e => .error e
          | none, [] => .error (.missingValue name)
          | none, value :: rest =>
              if isValue value then
                match p.add name value with
                | .ok p => parseFrom p rest
                | .error e => .error e
              else .error (.missingValue name)

def parse (arguments : List String) : Except Error Request :=
  parseFrom {} arguments

end Options

end ChipScribe
