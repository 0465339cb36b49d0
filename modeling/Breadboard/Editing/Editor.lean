import Breadboard.Editing.Edit

/-!
# The line editor

The dashboard shows the microcode of one opcode as a matrix of bits: a column
for each line, highest bit first, and two rows for each step. The editor is
the cursor on that matrix, together with the bus selector, which takes over
the vertical arrows while bus mode is on.

Rows are counted in bytes, and so is twice the number of steps; for the eight
steps an opcode has at most nothing comes near the end of that range.
-/

namespace Breadboard

/-- A direction of the arrow keys. -/
inductive Direction where
  | up
  | down
  | left
  | right
  deriving DecidableEq, Repr

/-- **Cursor**: a place in the displayed matrix. -/
structure Cursor where
  /-- The column from the left, which shows the highest bit. -/
  column : Fin Line.count
  /-- The row, two for each step. -/
  row : UInt8
  deriving DecidableEq, Repr

namespace Cursor

/-- The upper left corner. -/
def home : Cursor := ⟨0, 0⟩

/-- The line under the cursor. -/
def line (c : Cursor) : Line := .ofBit c.column.rev

/-- The position of that line in the word. -/
def bit (c : Cursor) : UInt8 := UInt8.ofNat c.column.rev.val

/-- The column as it is counted on the dashboard, from one. -/
def columnNumber (c : Cursor) : Nat := c.column.val + 1

/-- The step under the cursor. -/
def step (c : Cursor) : UInt8 := c.row / 2

/-- The phase under the cursor. -/
def phase (c : Cursor) : Phase := .ofLevel (c.row % 2 == 1)

end Cursor

/-- **Line editor**: the cursor, the number of steps it moves over, and the
bus selector. -/
structure LineEditor where
  /-- The cursor. -/
  cursor : Cursor
  /-- Steps of the opcode on display. -/
  steps : UInt8
  /-- Whether the arrows move the bus selector and step sources. -/
  busMode : Bool
  /-- The selected bus, by its place among the routed ones. -/
  bus : Fin 4
  deriving DecidableEq

namespace LineEditor

/-- The editor before any opcode was bound. -/
def start : LineEditor := ⟨.home, 1, false, 0⟩

/-- The number of rows. -/
def rows (e : LineEditor) : UInt8 := e.steps * 2

/-- **Binding**: takes over the step count of another opcode. The cursor goes
home if the count changes, and there is no new editor if it does not. -/
def bind? (e : LineEditor) (steps : UInt8) : Option LineEditor :=
  let steps := max steps 1
  if steps = e.steps then none else some { e with steps := steps, cursor := .home }

/-- Moves the cursor by one, if it is not at the edge. -/
def navigate? (e : LineEditor) (direction : Direction) : Option LineEditor :=
  let c := e.cursor
  match direction with
  | .up => if c.row = 0 then none else some { e with cursor := { c with row := c.row - 1 } }
  | .down =>
    if c.row + 1 < e.rows then some { e with cursor := { c with row := c.row + 1 } } else none
  | .left =>
    if h : 0 < c.column.val then
      some { e with cursor := { c with column := ⟨c.column.val - 1, by omega⟩ } }
    else none
  | .right =>
    if h : c.column.val + 1 < Line.count then
      some { e with cursor := { c with column := ⟨c.column.val + 1, h⟩ } }
    else none

/-- Puts the cursor on the row of a step and phase, if there is such a row. -/
def follow (e : LineEditor) (step : UInt8) (phase : Phase) : LineEditor :=
  let row := step * 2 + UInt8.ofNat phase.index.val
  if row < e.rows then { e with cursor := { e.cursor with row := row } } else e

/-- Switches bus mode on or off. -/
def toggleBusMode (e : LineEditor) : LineEditor := { e with busMode := !e.busMode }

/-- The selected bus. -/
def selectedBus (e : LineEditor) : Bus := Bus.routed[e.bus]

/-- Moves the bus selector by one, if it is not at the end. -/
def selectBus? (e : LineEditor) (direction : Direction) : Option LineEditor :=
  match direction with
  | .up => if h : 0 < e.bus.val then some { e with bus := ⟨e.bus.val - 1, by omega⟩ } else none
  | .down => if h : e.bus.val + 1 < 4 then some { e with bus := ⟨e.bus.val + 1, h⟩ } else none
  | .left | .right => none

/-- Edits the bit under the cursor. -/
def setAtCursor (e : LineEditor) (op : Opcode) (flags : UInt8) (mode : SetMode) :
    Except LineRejection (Opcode × Edit) :=
  op.setLine flags e.cursor.step e.cursor.phase e.cursor.bit mode

/-- Steps the source of the selected bus in the cell under the cursor. -/
def cycleBus? (e : LineEditor) (op : Opcode) (flags : UInt8) (offset : Int) :
    Option (Opcode × Edit) :=
  op.cycleBus? e.selectedBus flags e.cursor.step e.cursor.phase offset

/-- The cell under the cursor in one flags slot. -/
def cell (e : LineEditor) (flags : UInt8) : Cell :=
  .wrap flags e.cursor.step e.cursor.phase

/-- The sources of all buses in the cell under the cursor. -/
def projections (e : LineEditor) (op : Opcode) (flags : UInt8) : List (Bus × String) :=
  Bus.displayed.map fun bus => (bus, bus.sourceName (op.word (e.cell flags)))

/-- What the line under the cursor does. -/
def lineHelp (e : LineEditor) : String := e.cursor.line.description e.cursor.phase

/-- The timing label of a row. An instruction begins on `T2`, because the
previous one still finishes on its first two cycles; its last phi-2 is the
next one's `T1`. -/
def rowLabel (step : UInt8) (phase : Phase) (steps : UInt8) : String :=
  match phase with
  | .phi1 => "T" ++ toString (step + 2).toNat
  | .phi2 => if step + 1 = steps then "T1" else toString step.toNat

end LineEditor

end Breadboard
