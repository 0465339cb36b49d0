import Breadboard.Files.Session
import Breadboard.Memory.Listing

/-!
# Program and break point files

A program image is read from a file. Its break points are kept beside it, in a
hidden file named after it, so they survive a session. A memory without a
program file keeps its break points to itself.
-/

namespace Breadboard

/-- **Why a file of the memory cannot be used.** -/
inductive MemoryError where
  /-- The program cannot be read. -/
  | program (path : Path) (cause : FileError)
  /-- The program reaches beyond the address space. -/
  | tooLarge (length : Nat) (origin : UInt16)
  /-- The break points cannot be read or written. -/
  | breakPoints (path : Path) (cause : FileError)
  deriving DecidableEq

namespace MemoryError

/-- The text of an error. -/
def message : MemoryError → String
  | program path cause => "Failed to read ROM " ++ path.text ++ ": " ++ cause.message
  | tooLarge length origin =>
    "ROM of " ++ toString length ++ " bytes does not fit at " ++ Memory.showAddress origin
  | breakPoints path cause =>
    "Failed to access break points " ++ path.text ++ ": " ++ cause.message

end MemoryError

namespace Path

/-- The name of a program whose path names no file. -/
def unnamedProgram : List Char := ['r', 'o', 'm']

/-- **The break point file** of a program: hidden, in the same place, and named
after it. -/
def breakPoints (program : Path) : Path :=
  let stem := (program.fileName?.map stem).getD unnamedProgram
  program.withFileName (String.ofList ('.' :: stem ++ ['.', 'b', 'p']))

end Path

namespace Memory

variable {m : Type → Type} [Monad m] [MonadFiles m] [MonadLog m]

/-- **Loading a program**, with its length. -/
def loadProgram (mem : Memory) (path : Path) (origin : UInt16) :
    m (Except MemoryError (Memory × Nat)) := do
  match ← MonadFiles.readFile path with
  | .error cause => return .error (.program path cause)
  | .ok image =>
    match mem.loadImage? image origin with
    | none => return .error (.tooLarge image.length origin)
    | some mem =>
      MonadLog.log
        (.info .memory "ROM loaded" [("bytes", toString image.length), ("path", path.text)])
      return .ok ({ mem with breakPointFile := some path.breakPoints }, image.length)

/-- **Loading the saved break points**, with the number loaded. None were saved
if there is no file. -/
def loadBreakPoints (mem : Memory) (t : OpcodeTable) : m (Except MemoryError (Memory × Nat)) := do
  match mem.breakPointFile with
  | none => return .ok (mem, 0)
  | some path =>
    match ← MonadFiles.readFile path with
    | .error .notFound => return .ok (mem, 0)
    | .error cause => return .error (.breakPoints path cause)
    | .ok bytes =>
      let breakPoints := mem.savedBreakPoints t bytes
      let count := breakPoints.addresses.length
      MonadLog.log
        (.info .memory "Break points loaded" [("count", toString count), ("path", path.text)])
      return .ok ({ mem with breakPoints := breakPoints }, count)

/-- **Saving the break points**, if there is a place for them. -/
def saveBreakPoints (mem : Memory) : m (Except MemoryError Unit) := do
  match mem.breakPointFile with
  | none => return .ok ()
  | some path =>
    match ← MonadFiles.writeFile path mem.breakPoints.toBytes with
    | .error cause => return .error (.breakPoints path cause)
    | .ok () => return .ok ()

end Memory

end Breadboard
