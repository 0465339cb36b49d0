import Breadboard.Files.FileTree
import Breadboard.Log.Event

/-!
# Access to files and the log

Operations that read or write files are written once, for any monad that gives
access to files and takes log events. A *session* is the access that needs no
disk: a file tree and the events logged so far. A program puts the real disk
in its place.
-/

namespace Breadboard

/-- **File access.** Every operation reports its own failure. -/
class MonadFiles (m : Type → Type) where
  /-- Reads a whole file. -/
  readFile : Path → m (Except FileError (List UInt8))
  /-- Writes a whole file. -/
  writeFile : Path → List UInt8 → m (Except FileError Unit)
  /-- Creates a file if it is missing. -/
  touchFile : Path → m (Except FileError Unit)
  /-- Creates a directory in one that is there. -/
  makeDirectory : Path → m (Except FileError Unit)
  /-- Whether there is a directory at a path. -/
  isDirectory : Path → m Bool
  /-- Whether there is anything at a path. -/
  pathExists : Path → m Bool

namespace MonadFiles

variable {m : Type → Type} [Monad m] [MonadFiles m]

/-- Creates a directory in one that is there, unless it exists itself. -/
def ensureDirectory (path : Path) : m (Except FileError Unit) := do
  match ← makeDirectory path with
  | .error .alreadyExists =>
    return if ← isDirectory path then .ok () else .error .alreadyExists
  | result => return result

/-- Creates the first of some directories, each of which is in the next one.
Only what turns out to be missing is created, the outermost first; what was
created stays, also if the rest fails. -/
def ensureNested : List Path → m (Except FileError Unit)
  | [] => return .ok ()
  | path :: outer => do
    match ← ensureDirectory path with
    | .error .notFound =>
      match ← ensureNested outer with
      | .ok () => ensureDirectory path
      | failure => return failure
    | result => return result

/-- **Creating a directory** and those it is in. -/
def makeDirectories (path : Path) : m (Except FileError Unit) := ensureNested path.ancestors

end MonadFiles

/-- **Log access.** -/
class MonadLog (m : Type → Type) where
  /-- Takes an event. -/
  log : Event → m Unit

/-- **Session**: files, and the events logged, oldest first. -/
structure Session where
  /-- The files. -/
  files : FileTree
  /-- The events. -/
  events : List Event

namespace Session

/-- A session that has done nothing yet. -/
def start (files : FileTree) : Session := ⟨files, []⟩

/-- Runs an operation that changes the tree or fails. -/
def change (f : FileTree → Except FileError FileTree) : StateM Session (Except FileError Unit) :=
  fun s =>
    match f s.files with
    | .ok files => (.ok (), { s with files := files })
    | .error e => (.error e, s)

instance : MonadFiles (StateM Session) where
  readFile path := fun s => (s.files.read path, s)
  writeFile path content := change (·.write path content)
  touchFile path := change (·.touch path)
  makeDirectory path := change (·.makeDirectory path)
  isDirectory path := fun s => (s.files.isDirectory path, s)
  pathExists path := fun s => (s.files.contains path, s)

instance : MonadLog (StateM Session) where
  log e := fun s => ((), { s with events := s.events ++ [e] })

end Session

end Breadboard
