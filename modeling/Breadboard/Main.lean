import Breadboard.Program.Execute

/-!
# The program

The outermost layer: the real disk and the standard streams. What a command
line asks for and what comes of it is decided by `Invocation.perform`, which
this layer runs with files on disk and a log on the standard error.
-/

namespace Breadboard

/-- **Disk**: the access to files and the log that a process has. Events that
pass the filter are written to the standard error. -/
abbrev Disk := ReaderT Filter IO

namespace Disk

/-- What the system's answer means. -/
def cause : IO.Error → FileError
  | .noFileOrDirectory .. => .notFound
  | .alreadyExists .. => .alreadyExists
  | .inappropriateType _ 20 _ => .notADirectory
  | .inappropriateType .. => .isADirectory
  | .noSuchThing _ 6 _ => .noDevice
  | .invalidArgument _ 36 _ => .nameTooLong
  | e => .other (toString e)

/-- An action on the disk with its failure as a value. -/
def attempt {α : Type} (action : IO α) : Disk (Except FileError α) := fun _ => do
  match ← action.toBaseIO with
  | .ok a => return .ok a
  | .error e => return .error (cause e)

instance : MonadFiles Disk where
  readFile path := attempt do return (← IO.FS.readBinFile path.text).toList
  writeFile path content := attempt (IO.FS.writeBinFile path.text ⟨content.toArray⟩)
  touchFile path := attempt do discard (IO.FS.Handle.mk path.text .append)
  makeDirectory path := attempt (IO.FS.createDir path.text)
  isDirectory path := return (← attempt (IO.FS.realPath (path.text ++ "/."))).isOk
  pathExists path := return (← attempt (IO.FS.realPath path.text)).isOk

instance : MonadLog Disk where
  log e := fun filter => do
    if filter.passes e then IO.eprintln (e.level.name ++ " " ++ e.text)

end Disk

/-- The variables of the environment that options are taken from. -/
def environment : IO (List (String × String)) := do
  let names := ["L1_CONFIG", "L1_ROM", "L1_PORT", "L1_BAUD", "L1_TABLE"]
  names.filterMapM fun name => do return (← IO.getEnv name).map (name, ·)

end Breadboard

open Breadboard in
/-- Runs the program with its arguments. -/
def main (args : List String) : IO UInt32 := do
  let env ← environment
  let run : Disk Invocation.Outcome := Invocation.perform [] env args
  let outcome ← run.run (Invocation.logFilter env args)
  IO.print outcome.output
  if let some complaint := outcome.complaint then IO.eprintln complaint
  return outcome.code.toUInt32
