/-!
# Paths

A path is a text in which `/` separates names. What counts as the file a path
names is decided by its pieces: empty pieces and single dots do not count,
except a dot that begins a relative path, and two dots name no file.
-/

namespace Breadboard

/-- **Path** to a file or directory. -/
structure Path where
  /-- The path as it was given and is shown. -/
  text : String
  deriving DecidableEq, Inhabited

namespace Path

/-- The pieces between separators. An absolute path begins with an empty one. -/
def pieces (p : Path) : List (List Char) := split p.text.toList
where
  /-- Cuts at every separator. -/
  split : List Char → List (List Char)
    | [] => [[]]
    | c :: rest =>
      if c == '/' then [] :: split rest
      else
        match split rest with
        | [] => [[c]]
        | piece :: more => (c :: piece) :: more

/-- The path of a list of pieces. -/
def ofPieces (pieces : List (List Char)) : Path :=
  match pieces with
  | [[]] => ⟨"/"⟩
  | pieces => ⟨String.ofList (['/'].intercalate pieces)⟩

/-- Whether a piece that is not the first counts. -/
def counts (piece : List Char) : Bool := piece != [] && piece != ['.']

/-- The pieces without those at the end that do not count. The first piece
always stays. -/
def significant (pieces : List (List Char)) : List (List Char) :=
  match pieces with
  | [] => []
  | first :: rest => first :: (rest.reverse.dropWhile (!counts ·)).reverse

/-- The name of the file a path ends in, if it ends in one. -/
def fileName? (p : Path) : Option (List Char) :=
  match (significant p.pieces).getLast? with
  | none => none
  | some name => if counts name && name != ['.', '.'] then some name else none

/-- A name without its extension: what stands before the last dot, unless
nothing does. -/
def stem (name : List Char) : List Char :=
  let before := ((name.reverse.dropWhile (· != '.')).drop 1).reverse
  if before.isEmpty then name else before

/-- The path that a path's last name is in, as it is written. A path of one
name is in the path of no pieces. -/
def directory (p : Path) : Path :=
  ofPieces (significant (significant p.pieces).dropLast)

/-- **The path and those it is in**, the longest first. Neither the root nor the
place that relative paths start from is among them. -/
def ancestors (p : Path) : List Path :=
  if p.text.isEmpty then []
  else
    let pieces := significant p.pieces
    let outer := (List.range pieces.length).reverse.map pieces.take
    p :: (outer.filter (·.getLast?.any counts)).map ofPieces

/-- **Joining**: a name within a path. An absolute name stands alone. -/
def join (p : Path) (name : String) : Path :=
  if name.toList.head? = some '/' ∨ p.text.isEmpty then ⟨name⟩
  else if p.text.toList.getLast? = some '/' then ⟨p.text ++ name⟩
  else ⟨p.text ++ "/" ++ name⟩

/-- **Another file in the same place**: the path with its file name replaced,
or with the name added if it ends in none. -/
def withFileName (p : Path) (name : String) : Path :=
  if p.fileName?.isSome then p.directory.join name else p.join name

end Path

end Breadboard
