import Breadboard.Pattern.Class
import Breadboard.Text.Alphanumeric

/-!
# Reading patterns

In writing, most characters of a pattern stand for themselves. A dot stands for
any character, brackets make a class, `^` and `$` stand for the beginning and the
end, `|` separates alternatives, parentheses make groups, and `?`, `*` and `+`
say how often what stands before them may be repeated; with another `?` behind
it, a repetition prefers less.

A group can have a name, which must not be given twice and has no other use, and
can begin with letters that switch the mode. Counted repetitions are not part of
the notation here: where patterns are written, nothing can hold a closing brace.
A pattern that is nested too deeply is refused.
-/

namespace Breadboard

namespace Pattern

/-- **Part** of a pattern that has been read. -/
structure Part where
  /-- What it stands for. -/
  pattern : Pattern
  /-- How deeply it is nested, zero for a single mark. -/
  depth : Nat := 0
  /-- Whether it only switches the mode, so that it cannot be repeated. -/
  isSwitch : Bool := false
  deriving DecidableEq, Repr

namespace Part

/-- The part that some parts make up one after the other. -/
def sequence : List Part → Part
  | [] => { pattern := .empty }
  | [part] => part
  | parts =>
    { pattern := Pattern.sequence (parts.map (·.pattern))
      depth := (parts.map (·.depth)).foldl max 0 + 1 }

/-- The part that alternatives make up. -/
def choice : List Part → Part
  | [part] => part
  | parts =>
    { pattern := Pattern.choice (parts.map (·.pattern))
      depth := (parts.map (·.depth)).foldl max 0 + 1 }

/-- What stands between two parentheses. Groups that are counted are kept apart. -/
def group (part : Part) (counts : Bool) : Part :=
  { pattern := if counts then .group part.pattern else part.pattern
    depth := part.depth + 1 }

/-- The repetition of a part that a mark asks for, if there is one that can be
repeated. -/
def repeated? (mark : Char) (eager : Bool) : Option Part → Option Part
  | none => none
  | some part =>
    if part.isSwitch then none
    else
      let pattern :=
        match mark with
        | '?' => maybe eager part.pattern
        | '*' => anyNumber eager part.pattern
        | _ => repeated eager part.pattern
      some { pattern := pattern, depth := part.depth + 1 }

/-- The part that an item stands for. -/
def ofItem? (m : Mode) : Item → Option Part
  | .letter c byNumber => (m.letter? c byNumber).map fun set => { pattern := .one set }
  | .shorthand letter => (m.shorthand? letter).map fun set => { pattern := .one set }
  | .place boundary => some { pattern := .place boundary }

/-- Reads a mark or a character that stands for itself. -/
def ofMark? (m : Mode) (c : Char) (rest : List Char) : Option (Part × List Char) :=
  match c with
  | '\\' => (Item.ofEscape? m rest).bind fun (item, rest) => (ofItem? m item).map (·, rest)
  | '.' => m.dot?.map fun set => ({ pattern := .one set }, rest)
  | '^' => some ({ pattern := .place m.beginning }, rest)
  | '$' => some ({ pattern := .place m.ending }, rest)
  | c => (ofItem? m (.letter c false)).map (·, rest)

end Part

/-! ## Groups -/

/-- **Beginning of a group**, or what stands in its place. -/
inductive Opening where
  /-- A group that is not counted, with the mode that holds in it. -/
  | plain (mode : Mode)
  /-- A group that is counted. -/
  | counted
  /-- A group that is counted and has a name. -/
  | named (name : List Char)
  /-- Letters that switch the mode from there on. -/
  | switch (mode : Mode)
  deriving DecidableEq, Repr

/-- Whether a text can be the name of a group. -/
def isName : List Char → Bool
  | [] => false
  | first :: rest =>
    (first == '_' || Text.isAlphabetic first)
      && rest.all fun c => ['_', '.', '[', ']'].contains c || Text.isAlphanumeric c

/-- Reads the name of a group up to its closing bracket. -/
def name? (text : List Char) : Option (Opening × List Char) :=
  let name := text.takeWhile (· != '>')
  match text.dropWhile (· != '>') with
  | [] => none
  | _ :: rest => if isName name then some (.named name, rest) else none

/-- Reads the letters that switch the mode for a group, or without one. -/
def letters? (m : Mode) (text : List Char) : Option (Opening × List Char) := do
  let letters := text.takeWhile fun c => c != ':' && c != ')'
  let mode ← m.switch? letters
  match text.dropWhile fun c => c != ':' && c != ')' with
  | ':' :: rest => return (.plain mode, rest)
  | _ :: rest => if letters.isEmpty then none else return (.switch mode, rest)
  | [] => none

/-- Reads the beginning of a group from behind its parenthesis. What would look
at text around a place without taking it is refused. -/
def opening? (m : Mode) (text : List Char) : Option (Opening × List Char) :=
  match m.skip text with
  | '?' :: '<' :: rest =>
    if [some '=', some '!'].contains rest.head? then none else name? rest
  | '?' :: 'P' :: '<' :: rest => name? rest
  | '?' :: rest => letters? m rest
  | rest => some (.counted, rest)

/-! ## Whole patterns -/

/-- Reads a pattern up to a closing parenthesis or the end of the text. The first
number bounds the parts. Besides the text there are the mode, the names of groups
so far, the alternatives before the one that is read, and the parts of that
one, the latest first. What is left begins with the parenthesis. -/
def part? : Nat → Mode → List (List Char) → List Part → List Part → List Char →
    Option (Part × List (List Char) × List Char)
  | 0, _, _, _, _, _ => none
  | bound + 1, m, names, before, parts, text =>
    match m.skip text with
    | [] => some (.choice (before ++ [.sequence parts.reverse]), names, [])
    | ')' :: rest => some (.choice (before ++ [.sequence parts.reverse]), names, ')' :: rest)
    | '|' :: rest => part? bound m names (before ++ [.sequence parts.reverse]) [] rest
    | '(' :: rest => do
      let group (m' : Mode) (counts : Bool) (names : List (List Char)) (rest : List Char) := do
        match ← part? bound m' names [] [] rest with
        | (inner, names, _ :: rest) =>
          part? bound m names before (inner.group counts :: parts) rest
        | _ => none
      match ← opening? m rest with
      | (.switch m', rest) =>
        part? bound m' names before ({ pattern := .empty, isSwitch := true } :: parts) rest
      | (.plain m', rest) => group m' false names rest
      | (.counted, rest) => group m true names rest
      | (.named name, rest) =>
        if names.contains name then none else group m true (name :: names) rest
    | '[' :: rest => do
      let (content, rest) ← Class.ofText? m rest
      part? bound m names before ({ pattern := .one content.set, depth := content.depth } :: parts)
        rest
    | '\x7b' :: _ => none
    | c :: rest =>
      if ['?', '*', '+'].contains c then do
        let prefersLess := rest.head? == some '?'
        let part ← Part.repeated? c (prefersLess == m.swapped) parts.head?
        part? bound m names before (part :: parts.drop 1)
          (if prefersLess then rest.drop 1 else rest)
      else do
        let (part, rest) ← Part.ofMark? m c rest
        part? bound m names before (part :: parts) rest

/-- The depth to which parts of a pattern can be nested. -/
def maxDepth : Nat := 250

/-- **The pattern that a text writes**, if it is one. -/
def ofText? (text : List Char) : Option Pattern :=
  match part? (text.length + 1) {} [] [] [] text with
  | some (part, _, []) => if part.depth ≤ maxDepth then some part.pattern else none
  | _ => none

end Pattern

end Breadboard
