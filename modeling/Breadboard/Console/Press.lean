import Breadboard.Console.Key
import Breadboard.Console.State
import Breadboard.Instruction.Description
import Breadboard.Instruction.TableFile
import Breadboard.Memory.RomFile

/-!
# Key presses

A key goes to the view on show. Most pages are closed by any key; the history
and the memory have keys of their own. The session ends by a key on the
dashboard, or when no view is left. An edit of the cell that the board is in is
pushed to the board at once.

What the board says to a word that is pushed has to be known when a key is
pressed, so every operation that can push takes it as `reply`. None pushes
more than one word.
-/

namespace Breadboard.Console

/-! ## Editing -/

/-- Takes over an edited opcode. If the edit touches the live cell and there is
a link, the cell's word is pushed. -/
def applyEdit (c : Console) (code : UInt8) (edited : Opcode × Edit)
    (reply : Except LinkError Unit) : Console :=
  let c := { c with table := c.table.setLines code edited.1.lines }
  if c.connected && edited.2.touches c.live.step c.live.phase then
    let word := (c.table.lookup code).word (.wrap c.flagsSlot c.live.step c.live.phase)
    let c := c.call (.drive word)
    match reply with
    | .ok () => c
    | .error e => c.log (.warn .console "Failed to push edited lines" [("err", e.message)])
  else c

/-- Edits the line under the cursor. -/
def editLine (c : Console) (mode : SetMode) (reply : Except LinkError Unit) : Console :=
  match c.live.opCode with
  | none => c.log (.warn .keys "No opcode loaded yet")
  | some code =>
    match c.editor.setAtCursor (c.table.lookup code) c.flagsSlot mode with
    | .ok edited => (c.applyEdit code edited reply).redraw false
    | .error rejection => (c.log (.warn .keys rejection.message)).ring

/-- Steps the source of the selected bus, if that is possible. -/
def cycleBus? (c : Console) (offset : Int) (reply : Except LinkError Unit) : Option Console :=
  c.live.opCode.bind fun code =>
    (c.editor.cycleBus? (c.table.lookup code) c.flagsSlot offset).map fun edited =>
      c.applyEdit code edited reply

/-- An arrow key on the dashboard. -/
def arrow (c : Console) (d : Direction) (reply : Except LinkError Unit) : Console :=
  let moved? : Option Console :=
    if c.editor.busMode then
      match d with
      | .left => c.cycleBus? (-1) reply
      | .right => c.cycleBus? 1 reply
      | d => (c.editor.selectBus? d).map fun e => { c with editor := e }
    else (c.editor.navigate? d).map fun e => { c with editor := e }
  match moved? with
  | some c => c.redraw false
  | none => c.ring

/-! ## The log -/

/-- Logs the lines of the cell under the cursor. -/
def logSummary (c : Console) (skipAddressing : Bool) : Console :=
  match c.opcode? with
  | none => c.log (.warn .keys "No opcode loaded yet")
  | some op =>
    let cell := c.editor.cell c.flagsSlot
    c.log (.info .keys (match op.summary? cell skipAddressing, skipAddressing with
      | some summary, true => "Mnemonics without addressing lines: " ++ summary
      | some summary, false => "Mnemonics: " ++ summary
      | none, true => "No lines set outside of addressing lines"
      | none, false => "No lines set"))

/-- Switches debug output, if that is possible. -/
def setDebug (c : Console) (debug : Bool) : Console :=
  match c.notices.setDebug? debug with
  | none => c
  | some notices =>
    ({ c with notices := notices }).log
      (.info .keys (if debug then "Debug logging on" else "Debug logging off"))

/-! ## Files -/

/-- Saves the table. -/
def saveTable (c : Console) : Console :=
  match c.withFiles (c.table.save c.tableFile) with
  | (.ok _, c) => c.log (.info .keys "Opcode table saved" [("path", c.tableFile.text)])
  | (.error e, c) => c.showError e.message

/-- Exports the EPROM images. -/
def exportImages (c : Console) : Console :=
  match c.withFiles (c.table.exportEproms c.exportDir) with
  | (.ok paths, c) => c.log (.info .keys "EPROM images exported"
      [("files", toString paths.length), ("dir", c.exportDir.text)])
  | (.error e, c) => c.showError e.message

/-! ## The dashboard -/

/-- **A key on the dashboard**, and whether it ends the session. -/
def dashboardKey (c : Console) (key : Key) (reply : Except LinkError Unit) : Console × Bool :=
  match key.direction? with
  | some d => (c.arrow d reply, false)
  | none =>
    match key with
    | .char 'q' => (c, true)
    | .char '0' => (c.editLine .clear reply, false)
    | .char '1' => (c.editLine .set reply, false)
    | .backspace => (c.editLine .preset reply, false)
    | .char ' ' => (c.editLine .toggle reply, false)
    | .char 'b' => (({ c with editor := c.editor.toggleBusMode }).redraw true, false)
    | .char 'f' => (({ c with ignoresFlags := !c.ignoresFlags }).redraw true, false)
    | .char 'c' => (c.logSummary true, false)
    | .char 'C' => (c.logSummary false, false)
    | .char 'd' => (c.setDebug true, false)
    | .char 'D' => (c.setDebug false, false)
    | .char 'h' => (c.pushPage .help, false)
    | .char 'l' => (c.pushPage (.history 0), false)
    | .char 'm' => (c.pushPage (.memory (.start c.live.address)), false)
    | .char 'p' =>
      (match c.ports with
        | .ok names => c.pushPage (.ports names)
        | .error e => c.showError e.message, false)
    | .char 'w' => (c.saveTable, false)
    | .char 'e' => (c.exportImages, false)
    | key => (c.log (.warn .keys "Unmapped key" [("key", key.describe)]), false)

/-! ## The history page -/

/-- How many entries fit on the history page. -/
def historyRows (c : Console) : Nat := c.rows - 3

/-- A key on the history page: the new offset and what else changes, or nothing
if the page is closed. -/
def historyKey? (c : Console) (offset : Nat) (key : Key) : Option (Console × Nat) :=
  let page := max c.historyRows 1
  let last := c.notices.history.length - page
  match key with
  | .up => some (c.redraw true, offset - 1)
  | .down => some (c.redraw true, min (offset + 1) last)
  | .char 'q' => some (c.redraw true, offset - page)
  | .char 'a' => some (c.redraw true, min (offset + page) last)
  | .char 'c' =>
    some (({ c with notices := { c.notices with history := c.notices.history.clear } }).redraw
      true, 0)
  | .char 's' =>
    let c := { c with silenced := !c.silenced }
    some (c.log (.info .keys "Bell toggled" [("silenced", toString c.silenced)]), offset)
  | _ => none

/-! ## The memory page -/

/-- Flips the break point of an address, and says whether there can be one. -/
def toggleBreakPoint (c : Console) (a : UInt16) : Console × Bool :=
  match c.memory.toggleBreakPoint? c.table a with
  | none =>
    (c.log (.warn .keys "Selected value is data, not an opcode"
      [("address", Memory.showAddress a)]), false)
  | some (memory, start, on) =>
    let c := ({ c with memory := memory }).log (.info .keys "Break point toggled"
      [("address", Memory.showAddress start), ("set", toString on)])
    match c.withFiles c.memory.saveBreakPoints with
    | (.ok (), c) => (c, true)
    | (.error e, c) =>
      (c.log (.warn .keys "Failed to save break points" [("err", e.message)]), true)

/-- Whether a character is a digit of base sixteen. -/
def isHexDigit (ch : Char) : Bool := (Hex.digitValue? ch).isSome

/-- A key while a byte is being typed: what changes, and whether the key meant
anything. -/
def typingKey (c : Console) (cursor : MemoryCursor) (key : Key) :
    Console × MemoryCursor × Bool :=
  match key with
  | .escape => (c, cursor.closeInput, true)
  | .char ch =>
    if isHexDigit ch then
      match cursor.type ch with
      | (cursor, none) => (c, cursor, true)
      | (cursor, some byte) =>
        (({ c with memory := c.memory.edit cursor.address byte }).log
          (Memory.editEvent cursor.address byte), cursor, true)
    else (c, cursor, false)
  | _ => (c, cursor, false)

/-- A key on the memory page while nothing is being typed; nothing if the page
is closed. -/
def browsingKey? (c : Console) (cursor : MemoryCursor) (key : Key) :
    Option (Console × MemoryCursor × Bool) :=
  match key with
  | .enter | .backspace => some (c, cursor.openInput, true)
  | .control 'z' =>
    match c.memory.undo? with
    | none => some (c, cursor, false)
    | some (memory, a) =>
      some (({ c with memory := memory }).log (Memory.undoEvent a), { cursor with address := a },
        true)
  | .char 'b' =>
    let (c, done) := c.toggleBreakPoint cursor.address
    some (c, cursor, done)
  | .char '[' => some (c, { cursor with address := cursor.address - 0x100 }, true)
  | .char ']' => some (c, { cursor with address := cursor.address + 0x100 }, true)
  | .escape | .char 'q' => none
  | key =>
    match key.direction?.bind cursor.step? with
    | some cursor => some (c, cursor, true)
    | none => some (c, cursor, false)

/-- A key on the memory page; nothing if the page is closed. -/
def memoryKey? (c : Console) (cursor : MemoryCursor) (key : Key) :
    Option (Console × MemoryCursor) :=
  let result? :=
    if cursor.input.isSome then some (c.typingKey cursor key) else c.browsingKey? cursor key
  result?.map fun (c, cursor, meant) => (if meant then c.redraw false else c.ring, cursor)

/-! ## All views -/

/-- Takes the view on show away. -/
def popView (c : Console) (below : List View) : Console :=
  ({ c with views := below }).redraw true

/-- What a key on a page comes to: the session ends if no view is left. -/
def orEnd (c : Console) : Console × Bool := (c, c.views.isEmpty)

/-- **A key press**, and whether it ends the session. -/
def press (c : Console) (key : Key) (reply : Except LinkError Unit) : Console × Bool :=
  match key with
  | .resize cols rows => (({ c with cols := cols, rows := rows }).redraw true, false)
  | key =>
    match c.views with
    | [] => (c, true)
    | .dashboard :: _ => c.dashboardKey key reply
    | .page (.history offset) :: below =>
      match c.historyKey? offset key with
      | some (c, offset) => ({ c with views := .page (.history offset) :: below }).orEnd
      | none => (c.popView below).orEnd
    | .page (.memory cursor) :: below =>
      match c.memoryKey? cursor key with
      | some (c, cursor) => ({ c with views := .page (.memory cursor) :: below }).orEnd
      | none => (c.popView below).orEnd
    | .page _ :: below => (c.popView below).orEnd

end Breadboard.Console
