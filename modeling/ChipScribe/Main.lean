import ChipScribe.Session

/-!
The program: options from the command line, files from the file system, log lines
and the failure that ended the session to standard error.
-/

namespace ChipScribe.Main

def fileError : IO.Error → FileError
  | .noFileOrDirectory .. => .notFound
  | .alreadyExists .. => .exists
  | .inappropriateType _ 20 _ => .notDirectory
  | .inappropriateType _ 21 _ => .isDirectory
  | .invalidArgument _ 36 _ => .nameTooLong
  | e => .other (toString e)

def guarded {α : Type} (x : IO α) : IO (Except FileError α) := do
  try return .ok (← x)
  catch e => return .error (fileError e)

def appendTo (path : String) (bytes : ByteArray) : IO Unit := do
  let handle ← IO.FS.Handle.mk path .append
  handle.write bytes

instance : Files IO where
  read path := guarded do return (← IO.FS.readBinFile path).toList
  write path bytes := guarded (IO.FS.writeBinFile path ⟨bytes.toArray⟩)
  append path bytes := guarded (appendTo path ⟨bytes.toArray⟩)
  makeDirectories path := guarded (if path.isEmpty then pure () else IO.FS.createDirAll path)

def runSession (o : Options) : IO UInt32 := do
  let outcome ← Session.perform o
  IO.eprint outcome.shown
  return outcome.exitCode.toUInt32

end ChipScribe.Main

def main (arguments : List String) : IO UInt32 :=
  match ChipScribe.Options.parse arguments with
  | .ok (.session o) => ChipScribe.Main.runSession o
  | .ok .help => do
      IO.print (ChipScribe.Text.ofLines ChipScribe.Options.usage)
      return 0
  | .error e => do
      IO.eprintln ("error: " ++ e.message)
      return 2
