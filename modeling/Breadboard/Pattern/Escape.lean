import Breadboard.Pattern.Mode
import Breadboard.Text.Hex

/-!
# Escapes

A backslash takes its meaning from a mark, gives one to a letter, or stands
before the number of a character. Outside a class an escape can stand for a
place in the text, inside it has to be about characters.
-/

namespace Breadboard

namespace Pattern

/-- **Item**: what stands for characters or a place, in a class or outside. -/
inductive Item where
  /-- A character, perhaps given by the two digits of a byte. -/
  | letter (c : Char) (byNumber : Bool)
  /-- A common class, by its letter. -/
  | shorthand (letter : Char)
  /-- A kind of place. -/
  | place (boundary : Boundary)
  deriving DecidableEq, Repr

namespace Item

/-- Whether a character behind a backslash stands for itself: it is in ASCII,
but neither a letter, a digit nor an angle bracket. -/
def isEscapable (c : Char) : Bool :=
  c.toNat ≤ 0x7F && !c.isAlphanum && c != '<' && c != '>'

/-- Reads as many hexadecimal digits as are asked for, onto those already read. -/
def hexDigits (m : Mode) : Nat → List Char → Nat → Option (Nat × List Char)
  | 0, text, n => some (n, text)
  | count + 1, text, n =>
    match m.skip text with
    | [] => none
    | c :: rest => (Hex.digitValue? c).bind fun digit => hexDigits m count rest (n * 16 + digit)

/-- Reads the number of a character in as many digits. -/
def byNumber? (m : Mode) (count : Nat) (text : List Char) : Option (Item × List Char) := do
  let (n, rest) ← hexDigits m count text 0
  if h : n.isValidChar then some (letter (Char.ofNatAux n h) (count == 2), m.skip rest) else none

/-- **Reads an escape** from behind its backslash. -/
def ofEscape? (m : Mode) : List Char → Option (Item × List Char)
  | [] => none
  | c :: rest =>
    match c with
    | 'x' => byNumber? m 2 rest
    | 'u' => byNumber? m 4 rest
    | 'U' => byNumber? m 8 rest
    | 'a' => some (letter '\x07' false, rest)
    | 'f' => some (letter '\x0C' false, rest)
    | 't' => some (letter '\t' false, rest)
    | 'n' => some (letter '\n' false, rest)
    | 'r' => some (letter '\r' false, rest)
    | 'v' => some (letter '\x0B' false, rest)
    | 'A' => some (place .textStart, rest)
    | 'z' => some (place .textEnd, rest)
    | 'b' => (m.words? .wordEdge).map fun b => (place b, rest)
    | 'B' => (m.words? .noWordEdge).map fun b => (place b, rest)
    | '<' => (m.words? .wordStart).map fun b => (place b, rest)
    | '>' => (m.words? .wordEnd).map fun b => (place b, rest)
    | _ =>
      if (m.shorthand? c).isSome then some (shorthand c, rest)
      else if isEscapable c then some (letter c false, rest)
      else none

end Item

end Pattern

end Breadboard
