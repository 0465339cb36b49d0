import Breadboard.Log.Event
import Breadboard.Wire.Demux
import Breadboard.Wire.LinkError
import Breadboard.Wire.Request

/-!
# The link to the board

A link owns at most one writer and any number of readers. Every opening and
every reset begins a new *generation*: a reader belongs to the generation that
started it and counts only while that generation is the present one, so bytes
that were on their way when the link was reset are dropped. Ports are told
apart by the generation that opened them.

The operations below are the steps between which other activities can run. A
link is opened by two of them, because the board needs time to come out of its
reset before the link counts as connected, and a request is one step that
sends it and one that takes the reply or gives up.

Replies wait in the order of their arrival and are taken by tag.
-/

namespace Breadboard

/-- **Reader**: the activity that takes bytes from a port. -/
structure Reader where
  /-- The generation that started it. -/
  generation : Nat
  /-- What it has received of a response. -/
  demux : Demux
  deriving DecidableEq

/-- **Report** of a link to whoever uses it. -/
inductive LinkReport where
  /-- The link became connected, or ceased to be. -/
  | connection (up : Bool)
  /-- The board reported an event. -/
  | hardware (e : HardwareEvent)
  /-- There is something to log. -/
  | logged (e : Event)
  deriving DecidableEq

/-- **Link** to the board. -/
structure Link where
  /-- The name of the port. -/
  portName : String
  /-- Whether the link counts as connected. -/
  connected : Bool
  /-- The present generation. -/
  generation : Nat
  /-- The readers that have not ended. -/
  readers : List Reader
  /-- The port that requests are written to. -/
  writer : Option Nat
  /-- Replies that nobody has taken, oldest first. -/
  replies : List Response
  /-- What has been reported, oldest first. -/
  reports : List LinkReport

namespace Link

/-- A link that has not been opened yet. -/
def closed (portName : String) : Link := ⟨portName, false, 0, [], none, [], []⟩

/-- Adds a report. -/
def report (l : Link) (r : LinkReport) : Link := { l with reports := l.reports ++ [r] }

/-- The changes of the connection that were reported. -/
def edges (l : Link) : List Bool :=
  l.reports.filterMap fun
    | .connection up => some up
    | _ => none

/-- Records whether the link is connected and reports it when that is new. -/
def transition (l : Link) (up : Bool) : Link :=
  if l.connected = up then l else { l with connected := up }.report (.connection up)

/-! ## Opening and resetting -/

/-- An attempt to open the port failed. Only the first attempt of an operator
is worth an entry in the log. -/
def failToOpen (l : Link) (e : LinkError) (again : Bool) : Link :=
  if again then l
  else l.report (.logged (.error .link "Failed to open serial port"
    [("err", e.message), ("port", l.portName)]))

/-- The port was opened: a new generation with a reader and a writer of its
own, and no replies. -/
def start (l : Link) : Link :=
  { l with
    generation := l.generation + 1
    replies := []
    readers := ⟨l.generation + 1, .idle⟩ :: l.readers
    writer := some (l.generation + 1) }

/-- The board has come out of its reset. -/
def settle (l : Link) : Link :=
  let l := if l.connected then l
    else l.report (.logged (.info .link "Opened serial port" [("port", l.portName)]))
  l.transition true

/-- Drops the replies and closes the port. -/
def reset (l : Link) : Link :=
  { l with generation := l.generation + 1, writer := none, replies := [] }.transition false

/-! ## Reading -/

/-- The reader of a generation, if it has not ended. -/
def reader? (l : Link) (generation : Nat) : Option Reader :=
  l.readers.find? (·.generation = generation)

/-- A reader ends. -/
def dismiss (l : Link) (generation : Nat) : Link :=
  { l with readers := l.readers.filter (·.generation ≠ generation) }

/-- A reader's stream has come to its end or failed. The link is lost if the
reader was the present one. -/
def lose (l : Link) (generation : Nat) : Link :=
  match l.reader? generation with
  | none => l
  | some _ =>
    let l := l.dismiss generation
    if generation = l.generation then
      (l.report (.logged (.info .link "Lost serial port"))).transition false
    else l

/-- A reader looks whether it is still the present one. -/
def check (l : Link) (generation : Nat) : Link :=
  if generation = l.generation then l else l.dismiss generation

/-- Hands a unit to whom it is for. -/
def deliver (l : Link) : Inbound → Link
  | .response r => { l with replies := l.replies ++ [r] }
  | .event e => l.report (.hardware e)
  | .unknown byte =>
    l.report (.logged (.warn .link "Unknown byte" [("byte", "0x" ++ Hex.byte byte)]))

/-- **A reader takes a byte.** One that is no longer the present one drops it
and ends. -/
def receive (l : Link) (generation : Nat) (byte : UInt8) : Link :=
  match l.reader? generation with
  | none => l
  | some r =>
    if generation = l.generation then
      let (demux, unit?) := r.demux.push byte
      let l := { l with readers := l.readers.map fun other =>
        if other.generation = generation then { other with demux := demux } else other }
      unit?.elim l l.deliver
    else l.dismiss generation

/-! ## Requests -/

/-- The port that a request would be written to now. -/
def target? (l : Link) : Option Nat := if l.connected then l.writer else none

/-- **Sends a request.** `failure?` is what the port said when its frame was
written. -/
def send (l : Link) (r : Request) (failure? : Option LineFailure) :
    Link × Except LinkError Unit :=
  match l.target?, failure? with
  | none, _ => (l, .error .notConnected)
  | some _, none => (l, .ok ())
  | some _, some cause =>
    (l.report (.logged (.error .link "Failed to send request"
      [("err", cause.message), ("request", r.describe)])), .error (.io cause))

/-- Takes the oldest reply with a tag. -/
def takeReply? (l : Link) (tag : Tag) : Option (Response × Link) :=
  (l.replies.find? (·.tag = tag)).map fun r => (r, { l with replies := l.replies.erase r })

/-- No reply came in time. -/
def giveUp (l : Link) (tag : Tag) (milliseconds : Nat) : Link × LinkError :=
  (l.report (.logged (.warn .link "Response not received" [("tag", tag.letter.toString)])),
    .timeout tag.letter milliseconds)

end Link

/-- What a reply says, unless it refuses a write. -/
def Response.outcome : Response → Except LinkError UInt16
  | .writeAck code =>
    if code = 0 then .ok 0 else .error (.refused Tag.writeAck.letter code)
  | r => .ok r.value

end Breadboard
