import Breadboard.Console.Frame
import Breadboard.Console.State
import Breadboard.Control.Bus
import Breadboard.Instruction.Description

/-!
# Drawing

Each page is a list of drawing operations that depends on the state and the
size of the screen, and on nothing else. Operations that have no room are
written down all the same: the frame leaves them out.

The dashboard shows, from the top, the opcode, the memory around the address
bus beside the processor's state, the matrix of the opcode beside the buses,
and below whatever notifications there is room for.
-/

namespace Breadboard.Console

open DrawOp (print)

/-! ## Layout -/

/-- The first row of the memory, and of what stands beside it. -/
def memoryRow : Nat := 3

/-- How many lines of memory the dashboard shows. -/
def memoryLines : Nat := 16

/-- The column of what stands beside the memory. -/
def sideCol : Nat := 58

/-- The row of the heading of the matrix. -/
def linesRow : Nat := 20

/-- The first of the rows that name the lines. -/
def namesRow : Nat := linesRow + 1

/-- The first row of the matrix. -/
def matrixRow : Nat := namesRow + 4

/-- The first column of the matrix. -/
def matrixCol : Nat := 7

/-- The column of the buses. -/
def busCol : Nat := 64

/-- The screen column of a line's column in the matrix. Lines stand in groups
of eight. -/
def bitCol (column : Fin Line.count) : Nat := matrixCol + column.val + column.val / 8

/-- The screen column of a byte on the memory page. -/
def byteCol (column : Nat) : Nat := 7 + column * 3

/-- The colour of a bit. -/
def stateColor : BitState → Color
  | .baseline => .blue
  | .preset => .yellow
  | .override => .brightRed
  | .reverted => .magenta

/-- The colour of a notification. -/
def levelColor : Level → Color
  | .error => .brightRed
  | .warn => .yellow
  | _ => .white

/-- Texts below each other. -/
def below (col row : Nat) (color : Color) (lines : List String) : List DrawOp :=
  lines.mapIdx fun i line => print col (row + i) color line

/-- Notifications below each other, each over the whole width. -/
def notes (row cols : Nat) (entries : List Notification) : List DrawOp :=
  entries.mapIdx fun i n => print 1 (row + i) (levelColor n.level) (Text.padEnd cols n.text)

/-! ## The dashboard -/

/-- The running opcode. -/
def title (c : Console) : String :=
  match c.opcode? with
  | none => "No opcode loaded"
  | some op => op.name ++ " (" ++ Hex.byte op.code ++ ") " ++ op.assembly
      ++ " [" ++ op.mode.name ++ "]"

/-- The first row: the link and the opcode. -/
def titleOps (c : Console) (connected : Bool) : List DrawOp :=
  [if connected then print 1 1 .brightGreen " CONNECTED    "
    else print 1 1 .brightRed " DISCONNECTED ",
    print 16 1 .white (Text.padEnd 40 c.title)]

/-- The memory around the address on the bus, whose line is marked. -/
def nearbyOps (c : Console) : List DrawOp :=
  (List.range memoryLines).map fun i =>
    let base := ((c.live.address - 0x40) &&& 0xFFF0) + UInt16.ofNat (16 * i)
    let marked := base == c.live.address &&& 0xFFF0
    print 1 (memoryRow + i) (if marked then .yellow else .grey) (c.memory.dumpRow base)

/-- The flags by their bits in the status byte. -/
def statusFlags : List (String × UInt8) :=
  [("N", 0x80), ("V", 0x40), ("I", 0x20), ("Z", 0x10), ("C", 0x08)]

/-- The phase. -/
def phaseText : Phase → String
  | .phi1 => "Phase 1"
  | .phi2 => "Phase 2"

/-- The instructions from the latest one on. -/
def upcoming (c : Console) : List String :=
  c.memory.disassemble c.table c.live.instructionAddress 8

/-- The state of the processor. -/
def processorOps (c : Console) : List DrawOp :=
  let live := c.live
  let flags := statusFlags.mapIdx fun i (name, mask) =>
    print (sideCol + 8 + 2 * i) memoryRow
      (if live.status &&& mask != 0 then .brightGreen else .grey) name
  let steps := (List.range c.editor.steps.toNat).map fun step =>
    print (sideCol + 8 + 2 * step) (memoryRow + 1)
      (if step == live.step.toNat then .cyan else .grey) (toString step)
  let pins := [("IRQ", live.irq), ("NMI", live.nmi), ("RST", live.reset)].mapIdx
    fun i (name, high) =>
      print (sideCol + 5 * i) (memoryRow + 3) (if high then .grey else .brightRed) name
  let listing := c.upcoming.mapIdx fun i line =>
    print sideCol (memoryRow + 7 + i) (if i == 0 then .brightGreen else .grey)
      (Text.padEnd 24 line)
  print sideCol memoryRow .white "Status" :: flags
    ++ print sideCol (memoryRow + 1) .white "Step" :: steps
    ++ print sideCol (memoryRow + 2) .white (phaseText live.phase) :: pins
    ++ [print sideCol (memoryRow + 4) .white ("Address $" ++ Hex.padded 4 live.address.toNat
        ++ "  Data $" ++ Hex.byte (c.memory.read live.address)),
      print sideCol (memoryRow + 6) .white "Instructions"]
    ++ listing

/-- The heading of the matrix. -/
def headingOp (c : Console) : DrawOp :=
  let bit (mask : UInt8) : String := if c.flagsSlot &&& mask != 0 then "1" else "0"
  print 1 linesRow .white (Text.padEnd 40
    (if c.ignoresFlags then "Control Lines (Ignoring flags)"
      else "Control Lines (Flags " ++ bit 8 ++ bit 4 ++ bit 2 ++ bit 1 ++ ")"))

/-- The names of the lines, written downwards. -/
def namesOps (phase : Phase) : List DrawOp :=
  (List.range 4).flatMap fun i =>
    (List.finRange Line.count).map fun column =>
      let name := (Line.ofBit column.rev).mnemonic phase
      print (bitCol column) (namesRow + i) .cyan ((name.toList[i]?).getD ' ').toString

/-- One row of the matrix. -/
def rowOps (c : Console) (op : Opcode) (step : UInt8) (phase : Phase) : List DrawOp :=
  let row := matrixRow + 2 * step.toNat + phase.index.val
  let isLive := step == c.live.step && phase == c.live.phase
  let label := LineEditor.rowLabel step phase c.editor.steps
  let bits := (op.classify (.wrap c.flagsSlot step phase)).zip (List.finRange Line.count)
  print 1 row (if isLive then .brightGreen else .white) (Text.padEnd 5 label)
    :: bits.map fun ((set, state), column) =>
      print (bitCol column) row (stateColor state) (if set then "1" else "0")

/-- The row behind the matrix. -/
def behindMatrix (c : Console) : Nat := matrixRow + 2 * c.editor.steps.toNat

/-- What the line under the cursor does. -/
def helpLine (c : Console) : String :=
  let cursor := c.editor.cursor
  cursor.line.mnemonic cursor.phase ++ ": " ++ c.editor.lineHelp

/-- The matrix and what the line under the cursor does. -/
def matrixOps (c : Console) (op : Opcode) : List DrawOp :=
  let cursor := c.editor.cursor
  let rows := (List.range c.editor.steps.toNat).flatMap fun step =>
    Phase.all.flatMap fun phase => c.rowOps op (UInt8.ofNat step) phase
  namesOps cursor.phase ++ rows
    ++ [print 1 (c.behindMatrix + 1) .white (Text.padEnd (busCol - 2) c.helpLine)]

/-- The lines of the cell under the cursor, in groups. -/
def lineGroups (c : Console) (op : Opcode) : List String :=
  op.describe (c.editor.cell c.flagsSlot) {}

/-- The buses and the lines of the cell under the cursor. -/
def busOps (c : Console) (op : Opcode) : List DrawOp :=
  let buses := (c.editor.projections op c.flagsSlot).mapIdx fun i (bus, name) =>
    let selected := c.editor.busMode && bus == c.editor.selectedBus
    print busCol (namesRow + i) (if selected then .cyan else .grey)
      (Text.padEnd 30 (Text.padEnd 6 bus.label ++ name))
  print busCol linesRow .white
      (if c.editor.busMode then "Buses (bus mode)" else "Buses           ")
    :: buses ++ below busCol (namesRow + 9) .yellow ((c.lineGroups op).map (Text.padEnd 40))

/-- The notifications that there is room for. -/
def noteOps (c : Console) (cols rows : Nat) : List DrawOp :=
  let first := c.behindMatrix + 3
  if first < rows then notes first cols (c.notices.history.recent 0 (rows - first + 1)) else []

/-- The dashboard. -/
def dashboardOps (c : Console) (cols rows : Nat) (connected : Bool) : List DrawOp :=
  let cursor := c.editor.cursor
  c.titleOps connected ++ c.nearbyOps ++ c.processorOps ++ c.headingOp ::
    match c.opcode? with
    | none => [.cursor none]
    | some op => c.matrixOps op ++ c.busOps op ++ c.noteOps cols rows
        ++ [.cursor (some (bitCol cursor.column, matrixRow + cursor.row.toNat))]

/-! ## The memory page -/

/-- The keys of the memory page. -/
def memoryHint : String :=
  "Arrows move, enter/backspace edit, esc cancels, ctrl-z undoes, b break point, "
    ++ "[ ] change block, q returns"

/-- One line of the block on show. -/
def blockLineOps (c : Console) (base : UInt16) (row : Nat) : List DrawOp :=
  let line := base + UInt16.ofNat (16 * row)
  print 1 (3 + row) .yellow (Hex.padded 4 line.toNat ++ ":")
    :: (List.range 16).map fun column =>
      let a := line + UInt16.ofNat column
      let color :=
        if c.memory.breakPoints.contains a then .red
        else if a == c.live.address then .brightGreen
        else .grey
      print (byteCol column) (3 + row) color (Hex.byte (c.memory.read a))

/-- The memory page. -/
def memoryOps (c : Console) (cols rows : Nat) (cursor : MemoryCursor) : List DrawOp :=
  let place := (byteCol cursor.column.toNat, 3 + cursor.row.toNat)
  let typed := match cursor.input with
    | none => []
    | some digits => [print place.1 place.2 .brightRed
        (String.ofList (digits ++ List.replicate (2 - digits.length) '_'))]
  let listing := match c.memory.instructionStart? c.table cursor.address with
    | some start => String.join (c.memory.disassemble c.table start 1)
    | none => "Data"
  let marks := c.memory.breakPoints.addresses.map fun a => "$" ++ Hex.padded 4 a.toNat
  [print 1 1 .white (Text.padEnd cols ("Memory $" ++ Hex.padded 4 cursor.base.toNat)),
    print 1 2 .yellow "      0  1  2  3  4  5  6  7  8  9  A  B  C  D  E  F"]
    ++ (List.range 16).flatMap (c.blockLineOps cursor.base)
    ++ typed
    ++ [print 1 20 .white
        (Text.padEnd cols ("$" ++ Hex.padded 4 cursor.address.toNat ++ "  " ++ listing)),
      print 1 21 .red (Text.padEnd cols ("Break points: "
        ++ if marks.isEmpty then "none" else " ".intercalate marks)),
      print 1 rows .grey memoryHint,
      .cursor (some place)]

/-! ## The other pages -/

/-- The keys of the dashboard and what they do. -/
def keyHints : List (String × String) := [
  ("arrows", "Move the cursor, or pick and cycle a bus in bus mode"),
  ("0 / 1", "Clear / set the line under the cursor"),
  ("backspace", "Put the line back to its preset"),
  ("space", "Toggle the line"),
  ("b", "Bus mode"),
  ("f", "Use the flags dimension"),
  ("c / C", "Log the cell's lines without / with addressing lines"),
  ("d / D", "Debug logging on / off"),
  ("h", "This page"),
  ("l", "Notification history"),
  ("m", "Memory page: enter edits a byte, ctrl-z undoes, b toggles a break point"),
  ("p", "Serial ports"),
  ("w", "Save the opcode table"),
  ("e", "Export EPROM images"),
  ("q", "Quit")]

/-- The help page. -/
def helpOps (rows : Nat) : List DrawOp :=
  let top := 3 + keyHints.length
  let keys := (keyHints.mapIdx fun i (key, hint) =>
    [print 3 (2 + i) .cyan key, print 15 (2 + i) .grey hint]).flatten
  let buses := (Bus.routed.toList.mapIdx fun i bus =>
    let col := 1 + 28 * i
    print col top .white bus.label
      :: below col (top + 1) .grey (bus.sources.mapIdx fun j source =>
        toString j ++ " " ++ source.name)).flatten
  print 1 1 .white "Keys" :: keys ++ buses
    ++ [print 1 rows .grey "Press any key to return", .cursor none]

/-- The keys of the history page, and whether the bell keeps silent. -/
def historyHint (silenced : Bool) : String :=
  "Arrows scroll, q/a page up/down, c clears, s toggles the bell ("
    ++ (if silenced then "off" else "on") ++ "), any other key returns"

/-- The history page. -/
def historyOps (c : Console) (cols rows offset : Nat) : List DrawOp :=
  let entries := c.notices.history.recent offset (c.rows - 3)
  print 1 1 .white
      (Text.padEnd cols ("Notifications (" ++ toString c.notices.history.length ++ ")"))
    :: notes 2 cols (entries.take (rows - 2))
    ++ [print 1 rows .grey (historyHint c.silenced), .cursor none]

/-- The message page. -/
def errorOps (rows : Nat) (message : String) : List DrawOp :=
  [print 1 1 .white "Something went wrong", print 1 3 .brightRed message,
    print 1 rows .grey "Press any key to continue", .cursor none]

/-- The page of the serial ports. -/
def portsOps (rows : Nat) (names : List String) : List DrawOp :=
  print 1 1 .white "Serial ports"
    :: (if names.isEmpty then [print 3 3 .grey "No ports found"] else below 3 3 .cyan names)
    ++ [print 1 rows .grey "Press any key to return", .cursor none]

/-! ## Frames -/

/-- What is on show, for a screen of some size. -/
def pageOps (c : Console) (cols rows : Nat) (connected : Bool) : List DrawOp :=
  match c.view with
  | .dashboard => c.dashboardOps cols rows connected
  | .page .help => helpOps rows
  | .page (.history offset) => c.historyOps cols rows offset
  | .page (.error message) => errorOps rows message
  | .page (.ports names) => portsOps rows names
  | .page (.memory cursor) => c.memoryOps cols rows cursor

/-- **Drawing** on a screen of some size, which is cleared first or not. A bell
that is due rings once. -/
def draw (c : Console) (cols rows : Nat) (connected clear : Bool) : Console × Frame :=
  let ops := (if clear then [.clear] else []) ++ (if c.ringing then [.bell] else [])
    ++ c.pageOps cols rows connected
  ({ c with ringing := false }, (Frame.blank cols rows).draw ops)

end Breadboard.Console
