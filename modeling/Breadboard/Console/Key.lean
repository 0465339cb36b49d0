import Breadboard.Editing.Editor
import Breadboard.Text.Quoted

/-!
# Keys

The console knows a few keys by name and takes every other one as the
character it types. A letter typed with the control key is told from the
letter alone, and a change of the terminal's size arrives as a key as well.
-/

namespace Breadboard

/-- **Key.** -/
inductive Key where
  /-- A character. -/
  | char (c : Char)
  | up
  | down
  | left
  | right
  | backspace
  | enter
  | escape
  /-- A character typed with the control key. -/
  | control (c : Char)
  /-- The terminal has a new size. -/
  | resize (cols rows : Nat)
  /-- A key the console does not know. -/
  | other
  deriving DecidableEq, Repr

/-- **Key code**: what a terminal calls a key, as far as the console knows
it. -/
inductive KeyCode where
  | char (c : Char)
  | up
  | down
  | left
  | right
  | backspace
  | delete
  | enter
  | escape
  | other
  deriving DecidableEq, Repr

namespace Key

/-- **The key that was pressed**, with or without the control key. Which of
the two cases a letter has does not count beside the control key. -/
def ofPress (code : KeyCode) (control : Bool) : Key :=
  match code with
  | .char c => if control then .control c.toLower else .char c
  | .up => up
  | .down => down
  | .left => left
  | .right => right
  | .backspace | .delete => backspace
  | .enter => enter
  | .escape => escape
  | .other => other

/-- The direction of an arrow key. -/
def direction? : Key → Option Direction
  | up => some .up
  | down => some .down
  | left => some .left
  | right => some .right
  | _ => none

/-- A key in words. -/
def describe : Key → String
  | char c => "Char(" ++ Text.quotedAlone c ++ ")"
  | control c => "Ctrl(" ++ Text.quotedAlone c ++ ")"
  | resize cols rows => "Resize(" ++ toString cols ++ ", " ++ toString rows ++ ")"
  | up => "Up"
  | down => "Down"
  | left => "Left"
  | right => "Right"
  | backspace => "Backspace"
  | enter => "Enter"
  | escape => "Escape"
  | other => "Other"

end Key

end Breadboard
