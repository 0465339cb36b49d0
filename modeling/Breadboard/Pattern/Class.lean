import Breadboard.Pattern.Escape

/-!
# Classes

A class lists characters, ranges of them, sets with a name and further classes
between brackets. Two such lists can be combined: into what both hold, what only
the first holds, or what one of them holds. The marks for that all bind alike
and to the left.

Reading does not only give the set but also how deeply the class is nested.
-/

namespace Breadboard

namespace Pattern

namespace Class

/-- **Content** of a class, and how deeply it is nested. -/
structure Content where
  /-- The characters. -/
  set : CharSet
  /-- The depth, zero for a single entry without entries of its own. -/
  depth : Nat
  deriving DecidableEq, Repr

/-- **Entries** of a class that stand one after the other. -/
structure Entries where
  /-- Their characters. -/
  set : CharSet := .empty
  /-- How many there are. -/
  count : Nat := 0
  /-- The depth of the deepest. -/
  depth : Nat := 0
  deriving DecidableEq, Repr

/-- Entries with another behind them. -/
def Entries.push (e : Entries) (set : CharSet) (depth : Nat) : Entries :=
  ⟨.union e.set set, e.count + 1, max e.depth depth⟩

/-- What entries make up. Several of them are one level deeper than one. -/
def Entries.content (e : Entries) : Content :=
  ⟨e.set, if e.count ≤ 1 then e.depth else e.depth + 1⟩

/-- **Operation** on two lists of entries. -/
inductive Operation where
  | both
  | onlyFirst
  | eitherAlone
  deriving DecidableEq, Repr

/-- The set that an operation makes of two. -/
def Operation.apply : Operation → CharSet → CharSet → CharSet
  | both => .inter
  | onlyFirst => .diff
  | eitherAlone => .symmDiff

/-- Combines entries with what stands before them, if an operation does. -/
def combine (m : Mode) (pending : Option (Operation × Content)) (e : Entries) : Content :=
  match pending with
  | none => e.content
  | some (operation, first) =>
    let second := e.content
    ⟨operation.apply (m.folded first.set) (m.folded second.set),
      max first.depth second.depth + 1⟩

/-- Reads the name of a set from behind the opening bracket in front of it: whether
it stands for all other characters, and the set that is named. -/
def named? (text : List Char) : Option (Bool × CharSet × List Char) :=
  match text with
  | ':' :: rest =>
    let negated := rest.head? == some '^'
    let rest := if negated then rest.drop 1 else rest
    match CharSet.ofName? (rest.takeWhile (· != ':')), rest.dropWhile (· != ':') with
    | some set, ':' :: ']' :: rest => some (negated, set, rest)
    | _, _ => none
  | _ => none

/-- Reads what can begin or end a range. -/
def item? (m : Mode) : List Char → Option (Item × List Char)
  | [] => none
  | '\\' :: rest => Item.ofEscape? m rest
  | c :: rest => some (.letter c false, rest)

/-- The set of an item that stands alone. -/
def alone? (m : Mode) : Item → Option CharSet
  | .letter c _ => m.range? c c
  | .shorthand letter => (m.shorthand? letter).bind m.member?
  | .place _ => none

/-- The set of the range between two items. -/
def between? (m : Mode) : Item → Item → Option CharSet
  | .letter first _, .letter last _ => m.range? first last
  | _, _ => none

/-- Reads an entry that is no class: an item or a range. A dash in front of
another one, or of the end of the class, makes no range. -/
def entry? (m : Mode) (text : List Char) : Option (CharSet × List Char) := do
  let (first, rest) ← item? m text
  match m.skip rest with
  | [] => none
  | '-' :: more =>
    if [some ']', some '-'].contains (m.peek? more) then
      return (← alone? m first, '-' :: more)
    else
      let (last, rest) ← item? m (m.skip more)
      return (← between? m first last, rest)
  | rest => return (← alone? m first, rest)

/-- Reads the dashes that begin a class, which stand for themselves. -/
def dashes? (m : Mode) (e : Entries) (text : List Char) : Option (Entries × List Char) :=
  match text with
  | '-' :: rest => (m.range? '-' '-').bind fun dash => dashes? m (e.push dash 0) (m.skip rest)
  | text => some (e, text)
termination_by text.length
decreasing_by exact Nat.lt_succ_of_le (m.length_skip_le rest)

/-- Reads the beginning of a class from behind its bracket: whether it stands for
all other characters, and the entries that stand for themselves only here. These
are dashes or, if there are none, a closing bracket. -/
def opening? (m : Mode) (text : List Char) : Option (Bool × Entries × List Char) := do
  let text := m.skip text
  let negated := text.head? == some '^'
  let (e, rest) ← dashes? m {} (if negated then m.skip (text.drop 1) else text)
  match rest with
  | ']' :: more =>
    if e.count == 0 then return (negated, e.push (← m.range? ']' ']') 0, m.skip more)
    else return (negated, e, rest)
  | rest => return (negated, e, rest)

/-- Reads a class from behind its beginning up to the closing bracket. The first
number bounds the entries. -/
def content? (m : Mode) :
    Nat → Option (Operation × Content) → Entries → List Char → Option (Content × List Char)
  | 0, _, _, _ => none
  | bound + 1, pending, e, text =>
    match m.skip text with
    | [] => none
    | ']' :: rest => some (combine m pending e, rest)
    | '&' :: '&' :: rest => content? m bound (some (.both, combine m pending e)) {} rest
    | '-' :: '-' :: rest => content? m bound (some (.onlyFirst, combine m pending e)) {} rest
    | '~' :: '~' :: rest => content? m bound (some (.eitherAlone, combine m pending e)) {} rest
    | '[' :: rest =>
      match named? rest with
      | some (negated, set, rest) => do
        content? m bound pending (e.push (← m.member? (← m.class? negated set)) 0) rest
      | none => do
        let (negated, inner, rest) ← opening? m rest
        let (content, rest) ← content? m bound none inner rest
        content? m bound pending (e.push (← m.class? negated content.set) (content.depth + 1)) rest
    | text => do
      let (set, rest) ← entry? m text
      content? m bound pending (e.push set 0) rest

/-- **Reads a class** from behind its opening bracket: the set, and the depth with
the class itself. -/
def ofText? (m : Mode) (text : List Char) : Option (Content × List Char) := do
  let (negated, e, rest) ← opening? m text
  let (content, rest) ← content? m (text.length + 1) none e rest
  return (⟨← m.class? negated content.set, content.depth + 1⟩, rest)

end Class

end Pattern

end Breadboard
