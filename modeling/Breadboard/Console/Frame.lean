import Breadboard.Text.Blank

/-!
# Frames

What the console shows is a list of drawing operations, and a frame is such a
list for a screen of some size. Text that begins outside the screen is left
out and text that would run over the right edge is cut. Columns and rows count
from one.
-/

namespace Breadboard

/-- **Colour** of a text. -/
inductive Color where
  | default
  | grey
  | white
  | red
  | green
  | yellow
  | blue
  | magenta
  | cyan
  | brightRed
  | brightGreen
  deriving DecidableEq, Repr

namespace Color

/-- The name of a colour. -/
def name : Color → String
  | default => "Default"
  | grey => "Grey"
  | white => "White"
  | red => "Red"
  | green => "Green"
  | yellow => "Yellow"
  | blue => "Blue"
  | magenta => "Magenta"
  | cyan => "Cyan"
  | brightRed => "BrightRed"
  | brightGreen => "BrightGreen"

/-- Every colour. -/
def all : List Color :=
  [default, grey, white, red, green, yellow, blue, magenta, cyan, brightRed, brightGreen]

/-- The colour of a name. -/
def ofName? (name : String) : Option Color := all.find? (·.name == name)

end Color

/-- **Drawing operation.** -/
inductive DrawOp where
  /-- Blanks the screen. -/
  | clear
  /-- Writes a text from a place on. -/
  | text (col row : Nat) (color : Color) (content : List Char)
  /-- Shows the cursor at a place, or hides it. -/
  | cursor (place : Option (Nat × Nat))
  /-- Rings the bell. -/
  | bell
  deriving DecidableEq

namespace DrawOp

/-- Writes a text. -/
def print (col row : Nat) (color : Color) (content : String) : DrawOp :=
  text col row color content.toList

/-- What a screen of some size makes of an operation. -/
def clip? (cols rows : Nat) : DrawOp → Option DrawOp
  | text col row color content =>
    if row = 0 ∨ rows < row ∨ col = 0 ∨ cols < col then none
    else some (text col row color (content.take (cols - col + 1)))
  | op => some op

end DrawOp

/-- **Frame**: the operations that show something on a screen. -/
structure Frame where
  cols : Nat
  rows : Nat
  ops : List DrawOp
  deriving DecidableEq

namespace Frame

/-- A screen that nothing was drawn on. -/
def blank (cols rows : Nat) : Frame := ⟨cols, rows, []⟩

/-- Draws on a frame. -/
def draw (f : Frame) (ops : List DrawOp) : Frame :=
  { f with ops := f.ops ++ ops.filterMap (DrawOp.clip? f.cols f.rows) }

/-- Draws a frame's operations on a screen of another size. -/
def replay (f : Frame) (cols rows : Nat) : Frame := (blank cols rows).draw f.ops

/-! ## Reading a frame -/

/-- Writes one character into a line, which grows by blanks if it is too
short. -/
def putChar (line : Array Char) (i : Nat) (c : Char) : Array Char :=
  if h : i < line.size then line.set i c
  else (line ++ Array.replicate (i - line.size) ' ').push c

/-- Writes a text into a line. -/
def putText (line : Array Char) (i : Nat) : List Char → Array Char
  | [] => line
  | c :: rest => putText (putChar line i c) (i + 1) rest

/-- What an operation does to the line of a row. -/
def putOp (row : Nat) (line : Array Char) : DrawOp → Array Char
  | .clear => #[]
  | .text col place _ content => if place = row then putText line (col - 1) content else line
  | _ => line

/-- **The text on a row**, without the blanks at its end. -/
def rowText (f : Frame) (row : Nat) : String :=
  Text.trimEnd (String.ofList (f.ops.foldl (putOp row) #[]).toList)

/-- Whether some row shows a text. -/
def shows (f : Frame) (content : String) : Bool :=
  (List.range f.rows).any fun i => Text.occurs content.toList (f.rowText (i + 1)).toList

end Frame

end Breadboard
