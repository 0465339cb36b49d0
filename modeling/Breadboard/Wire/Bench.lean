import Breadboard.Wire.Link
import Breadboard.Wire.SimBoard

/-!
# A link on a simulated board

A bench joins a link and a simulated board by a pair of pipes and runs every
operation to its end: the bytes written are answered, and the answers are read,
before the next operation begins. Pipes can fail in the ways that ports do.
-/

namespace Breadboard

/-- **Bench**: a link wired to a simulated board. -/
structure Bench where
  /-- The link. -/
  link : Link
  /-- The board. -/
  board : SimBoard
  /-- The port that the board's bytes go to. -/
  plugged : Option Nat
  /-- How long a request waits for its reply, in milliseconds. -/
  patience : Nat
  /-- How many attempts to open will fail. -/
  absences : Nat
  /-- How often the port was opened. -/
  opens : Nat
  /-- What writing a frame fails with, and whether the frame got through. -/
  writeFailure : Option (LineFailure × Bool)

namespace Bench

/-- A bench on which nothing has happened. -/
def fresh (patience : Nat) : Bench := ⟨.closed "sim", .fresh, none, patience, 0, 0, none⟩

/-- Sends bytes to the host, and says whether a port was open to take them. No
bytes at all are read as the end of the stream. -/
def inject (b : Bench) (bytes : List UInt8) : Bench × Bool :=
  match b.plugged with
  | none => (b, false)
  | some port =>
    if (b.link.reader? port).isNone then (b, false)
    else if bytes.isEmpty then ({ b with link := b.link.lose port }, true)
    else ({ b with link := bytes.foldl (·.receive port ·) b.link }, true)

/-- Pulls the cable. -/
def unplug (b : Bench) : Bench :=
  match b.plugged with
  | none => b
  | some port => { b with link := b.link.lose port, plugged := none }

/-- The read that is waiting fails. A reader that tries again first looks
whether it is still the present one. -/
def failRead (b : Bench) (cause : LineFailure) : Bench :=
  let fail (l : Link) (r : Reader) : Link :=
    if cause.retries then l.check r.generation else l.lose r.generation
  { b with link := b.link.readers.foldl fail b.link }

/-- Opens the port and waits until the board has come out of its reset. The
reader of a port that was open before ends without being noticed. -/
def connect (b : Bench) (again : Bool) : Bench × Except LinkError Unit :=
  if 0 < b.absences then
    let e := LinkError.io (.other "simulated port is absent")
    ({ b with absences := b.absences - 1, link := b.link.failToOpen e again }, .error e)
  else
    let old := b.link.readers
    let link := old.foldl (fun l r => l.lose r.generation) b.link.start
    ({ b with
      link := link.settle
      plugged := some link.generation
      board := { b.board with inbound := [] }
      opens := b.opens + 1 }, .ok ())

/-- Closes the port. A reader that is blocked notices only when it is woken;
otherwise it ends at once. -/
def reset (b : Bench) (blocked : Bool) : Bench :=
  let link := b.link.reset
  { b with link := if blocked then link
      else link.readers.foldl (fun l r => l.check r.generation) link }

/-- Writes a frame, which the board answers if it gets through. -/
def send (b : Bench) (r : Request) : Bench × Except LinkError Unit :=
  let (link, result) := b.link.send r (b.writeFailure.map (·.1))
  let sent := b.link.target?.isSome && b.writeFailure.all (·.2)
  let b := { b with link := link }
  if sent then
    let (board, responses) := b.board.receive r.frame
    let b := { b with board := board }
    (responses.foldl (fun b response => (b.inject response.wire).1) b, result)
  else (b, result)

/-- **A request** and the wait for its reply. -/
def request (b : Bench) (r : Request) : Bench × Except LinkError UInt16 :=
  match b.send r with
  | (b, .error e) => (b, .error e)
  | (b, .ok ()) =>
    match r.response? with
    | none => (b, .ok 0)
    | some tag =>
      match b.link.takeReply? tag with
      | some (response, link) => ({ b with link := link }, response.outcome)
      | none =>
        let (link, e) := b.link.giveUp tag b.patience
        ({ b with link := link }, .error e)

end Bench

end Breadboard
