import ChipScribe.Files
import ChipScribe.Text.Utf8

/-!
A file system held in memory: a directory tree as a list of paths, seen from its
root.  Paths are resolved step by step, so that a path through a missing
directory and one through a plain file fail in different ways.
-/

namespace ChipScribe

inductive Node where
  | file (bytes : List UInt8)
  | directory
  deriving DecidableEq, Repr

namespace Node

/-- A directory has no bytes of its own. -/
def bytes : Node → List UInt8
  | file bytes => bytes
  | directory => []

/-- The bytes shown as text, whatever they are. -/
def text (n : Node) : String :=
  Text.ofUtf8 n.bytes

end Node

/-- Steps from a place up to the root. -/
abbrev Place := List String

structure Disk where
  nodes : List (Place × Node) := []
  deriving DecidableEq, Repr, Inhabited

namespace Disk

/-- The root is always a directory. -/
def node? (d : Disk) : Place → Option Node
  | [] => some .directory
  | place => d.nodes.lookup place

def put (d : Disk) (place : Place) (node : Node) : Disk :=
  { nodes := (place, node) :: d.nodes.filter (·.1 != place) }

/-! ## Paths -/

def maxPathBytes : Nat := 4095

def maxStepBytes : Nat := 255

/-- The steps of a path that can be used at all. -/
def steps (path : String) : Except FileError (List String) :=
  if path.contains '\x00' then .error .nulInName
  else if path.utf8ByteSize > maxPathBytes then .error .nameTooLong
  else .ok ((path.splitOn "/").filter (!·.isEmpty))

/-- A path that ends in a slash can only name a directory. -/
def namesDirectory (path : String) : Bool :=
  path.endsWith "/"

def stepFrom (place : Place) (step : String) : Place :=
  if step == "." then place else if step == ".." then place.tail else step :: place

/-- Walk through existing directories; the last step may lead to nothing. -/
def walk (d : Disk) (place : Place) : List String → Except FileError Place
  | [] => .ok place
  | step :: rest =>
      match d.node? place with
      | none => .error .notFound
      | some (.file _) => .error .notDirectory
      | some .directory =>
          if step.utf8ByteSize > maxStepBytes then .error .nameTooLong
          else d.walk (stepFrom place step) rest

def locate (d : Disk) (path : String) : Except FileError Place :=
  if path.isEmpty then .error .notFound else (steps path).bind (d.walk [])

/-! ## Files -/

def read (d : Disk) (path : String) : Except FileError (List UInt8) :=
  match d.locate path with
  | .error e => .error e
  | .ok place =>
      match d.node? place with
      | none => .error .notFound
      | some .directory => .error .isDirectory
      | some (.file bytes) =>
          if namesDirectory path then .error .notDirectory else .ok bytes

/-- Where a file may be put.  Of a path that ends in a slash only the way to its last step is
looked at, which must lead to a directory. -/
def locateNew (d : Disk) (path : String) : Except FileError Place :=
  if namesDirectory path then
    match (steps path).bind fun steps => d.walk [] (steps.dropLast ++ ["."]) with
    | .error e => .error e
    | .ok _ => .error .isDirectory
  else d.locate path

/-- Put the bytes that `change` makes of the old ones, or of none. -/
def update (d : Disk) (path : String) (change : List UInt8 → List UInt8) :
    Except FileError Disk :=
  match d.locateNew path with
  | .error e => .error e
  | .ok place =>
      match d.node? place with
      | some .directory => .error .isDirectory
      | some (.file bytes) => .ok (d.put place (.file (change bytes)))
      | none => .ok (d.put place (.file (change [])))

def remove (d : Disk) (path : String) : Disk :=
  match d.read path, d.locate path with
  | .ok _, .ok place => { nodes := d.nodes.filter (·.1 != place) }
  | _, _ => d

/-! ## Directories -/

/-- Make one directory, or leave it if it is there. -/
def ensureDirectory (d : Disk) (steps : List String) : Except FileError Disk :=
  match d.walk [] steps with
  | .error e => .error e
  | .ok place =>
      match d.node? place with
      | none => .ok (d.put place .directory)
      | some .directory => .ok d
      | some (.file _) => .error .exists

/-- Make the first of several directories, each the parent of the one before it; what is
made on the way stays, whatever comes of the rest. -/
def makeTree (d : Disk) : List (List String) → Except FileError Unit × Disk
  | [] => (.ok (), d)
  | steps :: parents =>
      match d.ensureDirectory steps with
      | .ok d => (.ok (), d)
      | .error .notFound =>
          match d.makeTree parents with
          | (.error e, d) => (.error e, d)
          | (.ok (), d) =>
              match d.ensureDirectory steps with
              | .ok d => (.ok (), d)
              | .error e => (.error e, d)
      | .error e => (.error e, d)

/-- A path and its parents, which have no dots in them. -/
def lineage (steps : List String) : List (List String) :=
  let named := steps.filter (· != ".")
  steps :: (List.range named.length).tail.reverse.map named.take

def makeDirectories (d : Disk) (path : String) : Except FileError Unit × Disk :=
  match steps path with
  | .error e => (.error e, d)
  | .ok [] => (.ok (), d)
  | .ok steps => d.makeTree (lineage steps)

def list (d : Disk) (path : String) : List (String × Node) :=
  match d.locate path with
  | .error _ => []
  | .ok place =>
      let entries := d.nodes.filterMap fun
        | (step :: up, node) => if up == place then some (step, node) else none
        | _ => none
      entries.mergeSort fun a b => a.1 ≤ b.1

/-! ## As a file system -/

def attempt (f : Disk → Except FileError Disk) : StateM Disk (Except FileError Unit) := do
  match f (← get) with
  | .ok d =>
      set d
      return .ok ()
  | .error e => return .error e

instance : Files (StateM Disk) where
  read path := do return (← get).read path
  write path bytes := attempt (·.update path fun _ => bytes)
  append path bytes := attempt (·.update path (· ++ bytes))
  makeDirectories path := modifyGet (·.makeDirectories path)

end Disk

end ChipScribe
