import Breadboard.Clocking.Hub
import Breadboard.Control.Word
import Breadboard.Editing.Editor
import Breadboard.Files.Session
import Breadboard.Instruction.Table
import Breadboard.Log.History
import Breadboard.Memory.Cursor
import Breadboard.Memory.Listing
import Breadboard.Wire.LinkError

/-!
# The state of the console

The console shows the running board, edits the microcode while it runs and
serves the host memory. It acts on the world in four ways: it asks things of
the board, asks for the screen to be drawn, logs events and writes files. The
first three are recorded as *deeds*, in order; files are part of the state.

What is shown are *views*: the dashboard and the pages that are opened from
it. They lie on each other as a stack, which begins with the dashboard alone.
A session is over when no view is left.
-/

namespace Breadboard

/-- **Live state**: what the board last reported. The lines beside the clock
are active low. -/
structure LiveState where
  /-- The address bus. -/
  address : UInt16 := 0
  /-- Where the last defined instruction was fetched. -/
  instructionAddress : UInt16 := 0
  /-- The opcode that is running, once one has been read. -/
  opCode : Option UInt8 := none
  /-- The status byte. -/
  status : UInt8 := 0
  /-- The phase of the last tick. -/
  phase : Phase := .phi1
  irq : Bool := true
  nmi : Bool := true
  reset : Bool := true
  deriving DecidableEq

namespace LiveState

/-- The step, which the low three bits of the status tell. -/
def step (s : LiveState) : UInt8 := s.status &&& 0x07

/-- The flags N, V, Z and C as a nibble. -/
def flags (s : LiveState) : UInt8 := ((s.status &&& 0xC0) >>> 4) ||| ((s.status &&& 0x18) >>> 3)

end LiveState

/-- **Page** that is opened from the dashboard. -/
inductive Page where
  /-- The keys and the bus sources. -/
  | help
  /-- The notifications, without the newest `offset`. -/
  | history (offset : Nat)
  /-- A message. -/
  | error (message : String)
  /-- The serial ports of the machine. -/
  | ports (names : List String)
  /-- A block of the memory. -/
  | memory (cursor : MemoryCursor)
  deriving DecidableEq

/-- **View**: the dashboard, or a page. -/
inductive View where
  /-- The running opcode and its control lines. -/
  | dashboard
  | page (p : Page)
  deriving DecidableEq

/-- The page that a view is. -/
def View.page? : View → Option Page
  | .dashboard => none
  | .page p => some p

/-- **Board call**: something asked of the board. -/
inductive BoardCall where
  | status
  | opCode
  | address
  | data
  /-- Drive the control lines. -/
  | drive (word : ControlWord)
  /-- Put a byte on the data bus. -/
  | write (byte : UInt8)
  /-- Drop responses in flight and close the port. -/
  | reset
  /-- Open the port again. -/
  | reconnect
  deriving DecidableEq

/-- **Deed** of the console. -/
inductive Deed where
  | called (call : BoardCall)
  /-- Asked for the screen to be drawn, cleared first or not. -/
  | redraw (clear : Bool)
  /-- Logged an event that the filter let through. -/
  | told (note : Notification)
  deriving DecidableEq

/-- **Console.** -/
structure Console where
  table : OpcodeTable
  editor : LineEditor := .start
  memory : Memory := .fresh
  notices : Notices := ⟨.upTo .info, .fixed, .ofCapacity History.defaultCapacity⟩
  live : LiveState := {}
  /-- Whether words are looked up and edited for no flags at all. -/
  ignoresFlags : Bool := true
  /-- Whether the link is connected, as last reported. -/
  connected : Bool := false
  /-- The views, the one on show first. -/
  views : List View := [.dashboard]
  /-- Whether the bell keeps silent. -/
  silenced : Bool := false
  /-- Whether the bell rings with the next frame. -/
  ringing : Bool := false
  /-- The size of the screen. -/
  cols : Nat := 100
  rows : Nat := 40
  /-- Where the opcode table is saved. -/
  tableFile : Path := ⟨"microcode.json"⟩
  /-- Where EPROM images go. -/
  exportDir : Path := ⟨"."⟩
  /-- The serial ports of the machine. -/
  ports : Except LinkError (List String) := .ok []
  files : FileTree := .empty
  /-- What was done, oldest first. -/
  deeds : List Deed := []

namespace Console

/-! ## Deeds -/

/-- Records a deed. -/
def record (c : Console) (d : Deed) : Console := { c with deeds := c.deeds ++ [d] }

/-- Asks something of the board. -/
def call (c : Console) (b : BoardCall) : Console := c.record (.called b)

/-- Asks for the screen to be drawn. -/
def redraw (c : Console) (clear : Bool) : Console := c.record (.redraw clear)

/-- Logs an event. One that is kept has to be shown. -/
def log (c : Console) (e : Event) : Console :=
  if c.notices.keeps e then
    (({ c with notices := c.notices.tell e }).record (.told ⟨e.level, e.text⟩)).redraw false
  else c

/-- Runs an operation on files and logs what it logs. -/
def withFiles {α : Type} (c : Console) (f : StateM Session α) : α × Console :=
  let (a, s) := f (.start c.files)
  (a, s.events.foldl log { c with files := s.files })

/-- Rings the bell, unless it keeps silent. -/
def ring (c : Console) : Console :=
  if c.silenced then c else ({ c with ringing := true }).redraw false

/-- What was asked of the board. -/
def calls (c : Console) : List BoardCall :=
  c.deeds.filterMap fun
    | .called call => some call
    | _ => none

/-- How the screen was asked to be drawn. -/
def redraws (c : Console) : List Bool :=
  c.deeds.filterMap fun
    | .redraw clear => some clear
    | _ => none

/-- What was logged. -/
def told (c : Console) : List Notification :=
  c.deeds.filterMap fun
    | .told note => some note
    | _ => none

/-- Forgets the deeds, which somebody has taken care of. -/
def forget (c : Console) : Console := { c with deeds := [] }

/-! ## Looking up -/

/-- The flags for which words are looked up and edited. -/
def flagsSlot (c : Console) : UInt8 := if c.ignoresFlags then 0 else c.live.flags

/-- The running opcode. -/
def opcode? (c : Console) : Option Opcode := c.live.opCode.map c.table.lookup

/-! ## Views -/

/-- The view on show. -/
def view (c : Console) : View := c.views.head?.getD .dashboard

/-- The pages among the views. -/
def pages (c : Console) : List Page := c.views.filterMap View.page?

/-- Lays a page on top. -/
def pushPage (c : Console) (p : Page) : Console :=
  ({ c with views := .page p :: c.views }).redraw true

/-- Shows a message. -/
def showError (c : Console) (message : String) : Console := c.pushPage (.error message)

/-! ## Status -/

/-- **Takes a status change.** -/
def status (c : Console) : StatusChange → Console
  | .connected up => ({ c with connected := up }).redraw true
  | .irq high => ({ c with live := { c.live with irq := high } }).redraw false
  | .nmi high => ({ c with live := { c.live with nmi := high } }).redraw false
  | .reset high => ({ c with live := { c.live with reset := high } }).redraw false

end Console

end Breadboard
