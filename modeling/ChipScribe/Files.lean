import ChipScribe.FileError
import ChipScribe.Notice

/-!
What the program asks of a file system, and the two things it does with one on
behalf of the chip: storing dumped samples, and settling the effects of an
operation in their order.
-/

namespace ChipScribe

class Files (m : Type → Type) where
  read : String → m (Except FileError (List UInt8))
  /-- Replaces the file or creates it. -/
  write : String → List UInt8 → m (Except FileError Unit)
  /-- Extends the file or creates it. -/
  append : String → List UInt8 → m (Except FileError Unit)
  /-- Creates what is missing of a path of directories. -/
  makeDirectories : String → m (Except FileError Unit)

namespace Files

variable {m : Type → Type} [Monad m] [Files m]

def textBytes (s : String) : List UInt8 :=
  s.toUTF8.toList

def textOf (bytes : List UInt8) : Except FileError String :=
  match String.fromUTF8? ⟨bytes.toArray⟩ with
  | some s => .ok s
  | none => .error .notText

def readText (path : String) : m (Except FileError String) := do
  return (← read path).bind textOf

def join (directory name : String) : String :=
  if directory.isEmpty || directory.endsWith "/" then directory ++ name
  else directory ++ "/" ++ name

/-- Both files of a dump, in a directory that is made if need be. -/
def store (d : Waveform.Dump) : m (Except FileError Unit) := do
  match ← makeDirectories d.directory with
  | .error e => return .error e
  | .ok () =>
      match ← write (join d.directory d.name) d.content with
      | .error e => return .error e
      | .ok () => write (join d.directory d.sidecarName) (textBytes d.sidecar)

/-- Log the notices and store the dumps; a dump that fails is logged where it stands. -/
def settle (k : Log.Console) : List Effect → m Log.Console
  | [] => return k
  | .notice n :: rest => settle (k.report n) rest
  | .dump d :: rest => do
      match ← store d with
      | .ok () => settle k rest
      | .error cause => settle (k.report (.dumpFailed d.hash d.rate cause)) rest

end Files

end ChipScribe
