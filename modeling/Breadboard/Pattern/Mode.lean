import Breadboard.Pattern.Basic
import Breadboard.Text.Blank

/-!
# Modes

A pattern is read in a mode, which says what its marks stand for. Letters in the
pattern switch the mode; a change holds up to the end of the group it is in.

Usually the characters of a pattern are those of any script. What depends on
tables about scripts is refused then: both cases of a letter, words, and the
classes of digits, blanks and word characters. In a mode for `bytes` these mean
ASCII characters, and what could take a part of another character is refused.
-/

namespace Breadboard

namespace Pattern

/-- **Mode** in which a pattern is read. -/
structure Mode where
  /-- Letters stand for both cases. -/
  anyCase : Bool := false
  /-- The marks for begin and end are about lines and not about the text. -/
  byLine : Bool := false
  /-- A dot stands for any character, also one that ends a line. -/
  dotTakesAll : Bool := false
  /-- Repetitions prefer less, and more with a mark behind them. -/
  swapped : Bool := false
  /-- Classes are about bytes. -/
  bytes : Bool := false
  /-- Carriage returns end lines, too. -/
  returns : Bool := false
  /-- Blanks and comments do not count. -/
  spaced : Bool := false
  deriving DecidableEq, Repr

namespace Mode

/-! ## Switching -/

/-- Switches what a letter is about, if it is about something. -/
def set? (m : Mode) (letter : Char) (on : Bool) : Option Mode :=
  match letter with
  | 'i' => some { m with anyCase := on }
  | 'm' => some { m with byLine := on }
  | 's' => some { m with dotTakesAll := on }
  | 'U' => some { m with swapped := on }
  | 'u' => some { m with bytes := !on }
  | 'R' => some { m with returns := on }
  | 'x' => some { m with spaced := on }
  | _ => none

/-- **The mode that letters ask for**: those in front of a dash are switched on,
those behind it off. None may be repeated, and the dash may not be the last. -/
def switch? (m : Mode) (letters : List Char) : Option Mode :=
  if letters.eraseDups != letters || letters.getLast? == some '-' then none
  else do
    let m ← (letters.takeWhile (· != '-')).foldlM (·.set? · true) m
    ((letters.dropWhile (· != '-')).drop 1).foldlM (·.set? · false) m

/-! ## Blanks and comments -/

/-- What is left behind blanks and comments, which run from a hash to the end of
a line. -/
def skipSpace (inComment : Bool) : List Char → List Char
  | [] => []
  | c :: rest =>
    if inComment then skipSpace (c != '\n') rest
    else if c == '#' then skipSpace true rest
    else if Text.isBlank c then skipSpace false rest
    else c :: rest

/-- What is left behind all that does not count. -/
def skip (m : Mode) (text : List Char) : List Char :=
  if m.spaced then skipSpace false text else text

theorem length_skipSpace_le (text : List Char) (inComment : Bool) :
    (skipSpace inComment text).length ≤ text.length := by
  induction text generalizing inComment with
  | nil => simp [skipSpace]
  | cons c rest ih =>
    simp only [skipSpace, List.length_cons]
    split
    · exact Nat.le_succ_of_le (ih _)
    · split
      · exact Nat.le_succ_of_le (ih _)
      · split
        · exact Nat.le_succ_of_le (ih _)
        · simp

theorem length_skip_le (m : Mode) (text : List Char) : (m.skip text).length ≤ text.length := by
  unfold skip
  split
  · exact length_skipSpace_le text false
  · exact Nat.le_refl _

/-- The character that is looked at ahead of a dash in a class. Of a comment it
is the first character that is not blank. -/
def peek? (m : Mode) (text : List Char) : Option Char :=
  if m.spaced then
    match text.dropWhile Text.isBlank with
    | '#' :: rest => (rest.dropWhile Text.isBlank).head?
    | rest => rest.head?
  else text.head?

/-! ## What marks stand for -/

/-- The set for one character. With `byNumber` it is a byte that is given by its
two digits. -/
def letter? (m : Mode) (c : Char) (byNumber : Bool) : Option CharSet :=
  if m.bytes then
    if byNumber && 0x7F < c.toNat then none
    else some (if m.anyCase then .bothCases (.single c) else .single c)
  else if m.anyCase then none
  else some (.single c)

/-- What a set adds to a class. Both cases of it are taken only when the class is
complete, but whether they can be is known before. -/
def member? (m : Mode) (set : CharSet) : Option CharSet :=
  if m.anyCase && !m.bytes then none else some set

/-- The range of characters that stands in a class. -/
def range? (m : Mode) (first last : Char) : Option CharSet :=
  if last < first || (m.bytes && 0x7F < last.toNat) then none
  else m.member? (.range first.toNat last.toNat)

/-- Both cases of a set, if they are asked for. -/
def folded (m : Mode) (set : CharSet) : CharSet :=
  if m.anyCase && m.bytes then set.folded else set

/-- The set that a complete class stands for. -/
def class? (m : Mode) (negated : Bool) (set : CharSet) : Option CharSet :=
  let set := if negated then .compl (m.folded set) else m.folded set
  if m.bytes && !set.isAscii then none else some set

/-- The set that the letter of a common class stands for. -/
def shorthand? (m : Mode) (letter : Char) : Option CharSet :=
  if m.bytes then
    match letter with
    | 'd' => CharSet.ofName? ['d', 'i', 'g', 'i', 't']
    | 's' => CharSet.ofName? ['s', 'p', 'a', 'c', 'e']
    | 'w' => CharSet.ofName? ['w', 'o', 'r', 'd']
    | _ => none
  else none

/-- The set that a dot stands for. -/
def dot? (m : Mode) : Option CharSet :=
  if m.bytes then none
  else if m.dotTakesAll then some .full
  else if m.returns then some (.compl (.union (.single '\r') (.single '\n')))
  else some (.compl (.single '\n'))

/-- The kind of place that the mark for a beginning stands for. -/
def beginning (m : Mode) : Boundary := if m.byLine then .lineStart m.returns else .textStart

/-- The kind of place that the mark for an end stands for. -/
def ending (m : Mode) : Boundary := if m.byLine then .lineEnd m.returns else .textEnd

/-- A kind of place that is about words. -/
def words? (m : Mode) (boundary : Boundary) : Option Boundary :=
  if m.bytes then some boundary else none

end Mode

end Pattern

end Breadboard
