import Breadboard.Files.FileError
import Breadboard.Files.Path

/-!
# A tree of files

The files that a run can see, as a value: directories and files below one root
directory, which relative paths start from. A path can also climb out of the
root. The directories it then gets to are there, but nothing is known to be in
them. The operations answer as a file system does, down to which of two errors
is reported.

A tree is used wherever a run has to be a function of its input. The same
operations on a real disk belong to the outermost layer of a program.
-/

namespace Breadboard

/-- **File tree**: what stands at each place. Missing places are empty, and the
root is always a directory, as are those above it. -/
structure FileTree where
  /-- Places, each as the way there from the root, and what stands there. -/
  nodes : List (List (List Char) × Option (List UInt8))

namespace FileTree

/-- What can stand at a place. -/
inductive Node where
  | directory
  | file (content : List UInt8)
  deriving DecidableEq

/-- The tree with nothing in it. -/
def empty : FileTree := ⟨[]⟩

/-- The step out of a directory to the one it is in. -/
def up : List Char := ['.', '.']

/-- Whether a place is the root or above it. A place that the root does not hold
begins with the steps out of it. -/
def isRootOrAbove (place : List (List Char)) : Bool := place.all (· == up)

/-- What stands at a place. -/
def node? (t : FileTree) (place : List (List Char)) : Option Node :=
  if isRootOrAbove place then some .directory
  else (t.nodes.lookup place).map fun
    | none => .directory
    | some content => .file content

/-- The tree with something put at a place. -/
def put (t : FileTree) (place : List (List Char)) (content : Option (List UInt8)) : FileTree :=
  ⟨(place, content) :: t.nodes.filter (·.1 != place)⟩

/-- The longest name a directory can hold, in bytes. -/
def maxNameBytes : Nat := 255

/-- The longest path that is looked at, in bytes. -/
def maxPathBytes : Nat := 4095

/-- Follows one piece of a path from a directory. -/
def enter (t : FileTree) (place : List (List Char)) (piece : List Char) :
    Except FileError (List (List Char)) :=
  if !Path.counts piece then pure place
  else if piece == up then pure (if isRootOrAbove place then place ++ [up] else place.dropLast)
  else if maxNameBytes < (String.ofList piece).utf8ByteSize then throw .nameTooLong
  else
    match t.node? (place ++ [piece]) with
    | none => throw .notFound
    | some (.file _) => throw .notADirectory
    | some .directory => pure (place ++ [piece])

/-- Checks that a path can be asked for at all, and gives its pieces. -/
def piecesOf (path : Path) : Except FileError (List (List Char)) :=
  if path.text.toList.contains '\x00' then throw .nulInName
  else if path.text.isEmpty then throw .notFound
  else if maxPathBytes < path.text.utf8ByteSize then throw .nameTooLong
  else if path.text.toList.head? = some '/' then
    -- of the absolute paths only the one to a directory above all is known
    if path.pieces.all fun piece => !Path.counts piece || piece == up then pure []
    else throw .notFound
  else pure path.pieces

/-- The place a path leads to. Everything before its last piece has to be a
directory, the last piece need not exist. -/
def locate (t : FileTree) (path : Path) : Except FileError (List (List Char)) := do
  let pieces ← piecesOf path
  let place ← pieces.dropLast.foldlM t.enter []
  match pieces.getLast? with
  | none => pure place
  | some last =>
    if Path.counts last && last != up then
      if maxNameBytes < (String.ofList last).utf8ByteSize then throw .nameTooLong
      else pure (place ++ [last])
    else t.enter place last

/-- The place a path leads to, for a file that is created if it is missing. A
name with a separator behind it can only be that of a directory. -/
def locateFile (t : FileTree) (path : Path) : Except FileError (List (List Char)) := do
  let pieces ← piecesOf path
  match pieces.reverse.dropWhile (·.isEmpty) with
  | last :: before =>
    if (pieces.getLast?.any (·.isEmpty)) && Path.counts last && last != up then
      let _ ← before.reverse.foldlM t.enter []
      throw .isADirectory
    else t.locate path
  | [] => t.locate path

/-- Whether there is anything at a path. -/
def contains (t : FileTree) (path : Path) : Bool :=
  match t.locate path with
  | .ok place => (t.node? place).isSome
  | .error _ => false

/-- **Reading** a whole file. -/
def read (t : FileTree) (path : Path) : Except FileError (List UInt8) := do
  match t.node? (← t.locate path) with
  | none => throw .notFound
  | some .directory => throw .isADirectory
  | some (.file content) => pure content

/-- **Writing** a whole file, which is created if it is missing. -/
def write (t : FileTree) (path : Path) (content : List UInt8) : Except FileError FileTree := do
  let place ← t.locateFile path
  match t.node? place with
  | some .directory => throw .isADirectory
  | _ => pure (t.put place (some content))

/-- Opens a file for appending: creates it if it is missing and keeps it
otherwise. -/
def touch (t : FileTree) (path : Path) : Except FileError FileTree := do
  let place ← t.locateFile path
  match t.node? place with
  | some .directory => throw .isADirectory
  | some (.file _) => pure t
  | none => pure (t.put place (some []))

/-- Whether there is a directory at a path. -/
def isDirectory (t : FileTree) (path : Path) : Bool :=
  match t.locate path with
  | .ok place => t.node? place == some .directory
  | .error _ => false

/-- **Creating a directory** in one that is there. A path whose last piece is a
dot or two names a directory that exists already, if those before it do. -/
def makeDirectory (t : FileTree) (path : Path) : Except FileError FileTree := do
  match (← piecesOf path).reverse.dropWhile (·.isEmpty) with
  | [] => throw .alreadyExists
  | last :: before =>
    let place ← before.reverse.foldlM t.enter []
    if !Path.counts last || last == up then throw .alreadyExists
    else if maxNameBytes < (String.ofList last).utf8ByteSize then throw .nameTooLong
    else if (t.node? (place ++ [last])).isSome then throw .alreadyExists
    else pure (t.put (place ++ [last]) none)

/-- Whether a place comes no later than another: places are compared name by name
and names character by character. -/
def noLater (a b : List (List Char)) : Bool :=
  !b.lex a fun x y => x.lex y fun c d => c.toNat < d.toNat

/-- The entries below the root, each directory before its contents and names in
order within a directory. -/
def listing (t : FileTree) : List (List (List Char) × Node) :=
  let below := t.nodes.filter (·.1.head? != some up)
  (below.mergeSort fun a b => noLater a.1 b.1).map fun (place, content) =>
    (place, match content with | none => .directory | some bytes => .file bytes)

end FileTree

end Breadboard
