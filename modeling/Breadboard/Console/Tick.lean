import Breadboard.Console.State

/-!
# Ticks

On every clock edge that is accepted the console asks the board where it is,
drives the control word of that cell, waits until the lines have settled and
then moves the byte at the reported address: to the board, or from it where
the word says that the board writes. Whatever fails ends the tick, and the
link is reset because a late response would be taken for another one.

The wait divides a tick into two halves. Nothing of the console changes in
between, but the board may.
-/

namespace Breadboard

/-- **Replies**: what the board answers during one tick, to whatever it is
asked. -/
structure BoardReplies where
  status : Except LinkError UInt8
  opCode : Except LinkError UInt8
  address : Except LinkError UInt16
  data : Except LinkError UInt8
  /-- The outcome of driving the control lines. -/
  drive : Except LinkError Unit
  /-- The outcome of putting a byte on the data bus. -/
  write : Except LinkError Unit

namespace Console

/-- What the events of a tick come from. -/
def tickOrigin (phase : Phase) : Origin :=
  { Origin.console with activity := some ⟨"tick", .debug, [("phase", phase.name)]⟩ }

/-- Gives up a tick. -/
def abort (c : Console) (phase : Phase) (what : String) (e : LinkError) : Console :=
  (c.log (.error (tickOrigin phase) what [("err", e.message)])).call .reset

/-- Takes over the opcode that has begun to run. -/
def bind (c : Console) (code : UInt8) : Console :=
  let op := c.table.lookup code
  let c :=
    if c.live.opCode = some code then c
    else { c with
      live := { c.live with opCode := some code }
      editor := (c.editor.bind? op.steps).getD c.editor }
  if op.isVirtual then c
  else { c with live := { c.live with instructionAddress := c.live.address } }

/-- Takes over the status of the tick. -/
def setStatus (c : Console) (status : UInt8) (phase : Phase) : Console :=
  { c with live := { c.live with status := status, phase := phase } }

/-- Whether the opcode has to be read: at the beginning of an instruction, or
when none is known. -/
def needsOpcode (c : Console) : Bool :=
  c.live.opCode.isNone || (c.live.step == 0 && c.live.phase == .phi1)

/-- Reads the opcode, if that has to be. -/
def readOpcode (c : Console) (r : BoardReplies) : Console × Bool :=
  if c.needsOpcode then
    let c := c.call .opCode
    match r.opCode with
    | .error e => (c.abort c.live.phase "Failed to read opcode during tick" e, false)
    | .ok code => (c.bind code, true)
  else (c, true)

/-- Drives the word of the live cell, and gives that word if the tick goes
on. -/
def driveLive (c : Console) (r : BoardReplies) : Console × Option ControlWord :=
  match c.opcode? with
  | none => (c, none)
  | some op =>
    let step := c.live.step
    if op.steps < step then
      (c.log (.error (tickOrigin c.live.phase) "Invalid state"
        [("step", toString step.toNat), ("steps", toString op.steps.toNat)]), none)
    else
      let word := op.word (.wrap c.flagsSlot step c.live.phase)
      let c := c.call (.drive word)
      match r.drive with
      | .error e => (c.abort c.live.phase "Failed to set control lines" e, none)
      | .ok () => (c, some word)

/-- **The first half of a tick**: reads where the board is and drives the
lines. The driven word is given if there is a second half. -/
def beginTick (c : Console) (phase : Phase) (r : BoardReplies) : Console × Option ControlWord :=
  let c := c.call .status
  match r.status with
  | .error e => (c.abort phase "Failed to read status during tick" e, none)
  | .ok status =>
    match (c.setStatus status phase).readOpcode r with
    | (c, false) => (c, none)
    | (c, true) => c.driveLive r

/-- Whether the host gives the byte on the bus while a word is driven. -/
def hostGives (word : ControlWord) (phase : Phase) : Bool := phase == .phi1 || word.has .dbrw

/-- Moves the byte at the address on the bus, and says whether that worked. -/
def moveByte (c : Console) (word : ControlWord) (r : BoardReplies) : Console × Bool :=
  let address := c.live.address
  if hostGives word c.live.phase then
    let c := c.call (.write (c.memory.read address))
    match r.write with
    | .error e => (c.abort c.live.phase "Failed to send data during tick" e, false)
    | .ok () => (c, true)
  else
    let c := c.call .data
    match r.data with
    | .error e => (c.abort c.live.phase "Failed to read data during tick" e, false)
    | .ok byte => ({ c with memory := c.memory.write address byte }, true)

/-- **The second half of a tick**: reads the address and moves the byte. -/
def finishTick (c : Console) (word : ControlWord) (r : BoardReplies) : Console :=
  let c := c.call .address
  match r.address with
  | .error e => c.abort c.live.phase "Failed to retrieve address" e
  | .ok address =>
    match ({ c with live := { c.live with address := address } }).moveByte word r with
    | (c, false) => c
    | (c, true) =>
      ({ c with editor := c.editor.follow c.live.step c.live.phase }).redraw false

/-- **A tick** during which the board does not change. -/
def tick (c : Console) (phase : Phase) (r : BoardReplies) : Console :=
  match c.beginTick phase r with
  | (c, none) => c
  | (c, some word) => c.finishTick word r

end Console

end Breadboard
