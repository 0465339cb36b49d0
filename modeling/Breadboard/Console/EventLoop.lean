import Breadboard.Clocking.Interval
import Breadboard.Clocking.RedrawSlot
import Breadboard.Console.Draw
import Breadboard.Console.FrameWatch
import Breadboard.Console.Press
import Breadboard.Console.Tick

/-!
# The event loop

The loop owns the console and takes what happens one thing at a time, in
*rounds*. When several things are ready the first of these is taken: a status
change, a tick, a key, a redraw request, the reconnect timer, the end of an
attempt to reconnect. The loop ends when the operator quits, when no more keys
can come, or when nobody reads its frames.

A tick keeps the loop busy until the lines have settled. An attempt to
reconnect does not: it runs beside the loop. Whether the loop listens to the
reconnect timer is decided when a round begins, so a link that is lost without
a status change is noticed only when something else happens.

Time is counted in milliseconds. Within one millisecond the loop runs until
nothing is ready any more. What is due when a stretch of time ends belongs to
the next one, so it meets whatever comes at that moment.
-/

namespace Breadboard

/-- **Attempt** to reconnect. -/
inductive Attempt where
  /-- It ends at a time. -/
  | running (ends : Nat)
  /-- It has ended, and nobody has taken notice. -/
  | ended
  deriving DecidableEq

/-- **Board behaviour**: how the board answers, for as long as it is not
changed. -/
structure BoardBehavior where
  replies : BoardReplies
  /-- Whether there is a link. -/
  connected : Bool
  /-- How long an attempt to reconnect takes. -/
  delay : Nat
  /-- What comes of it. -/
  reconnect : Except LinkError Unit

/-- **Event loop.** -/
structure EventLoop where
  console : Console
  board : BoardBehavior
  hub : Hub
  /-- Keys that were pressed, oldest first. -/
  keys : List Key
  /-- Whether more keys can come. -/
  keysOpen : Bool
  slot : RedrawSlot
  frames : FrameWatch
  timer : Interval
  /-- How long driven lines take to settle. -/
  settle : Nat
  attempt : Option Attempt
  /-- Whether the round that has begun listens to the timer. -/
  listening : Option Bool
  /-- The word that is settling, and until when. -/
  settling : Option (ControlWord × Nat)
  now : Nat
  stopped : Bool
  /-- What was done, oldest first. -/
  deeds : List Deed

namespace EventLoop

/-- A loop that has not run: its first frame has been asked for. -/
def start (console : Console) (board : BoardBehavior) (settle period : Nat) : EventLoop where
  console := console.forget
  board := board
  hub := .start
  keys := []
  keysOpen := true
  slot := RedrawSlot.start.request true
  frames := .start
  timer := .start period 0
  settle := settle
  attempt := none
  listening := none
  settling := none
  now := 0
  stopped := false
  deeds := console.deeds

/-- Takes the console back after it has done something. -/
def after (s : EventLoop) (c : Console) : EventLoop :=
  { s with
    console := c.forget
    slot := c.redraws.foldl RedrawSlot.request s.slot
    deeds := s.deeds ++ c.deeds }

/-- Begins the next round. -/
def again (s : EventLoop) : EventLoop := { s with listening := none }

/-- Ends the loop. -/
def stop (s : EventLoop) : EventLoop :=
  { s with stopped := true, attempt := none }.after
    (s.console.log (.info .console "Event loop stopped"))

/-! ## Attempts to reconnect -/

/-- Begins an attempt. -/
def beginAttempt (s : EventLoop) : EventLoop :=
  { s with
    attempt := some (.running (s.now + s.board.delay))
    deeds := s.deeds ++ [.called .reconnect] }

/-- Ends the attempt whose time has come. -/
def endAttempt (s : EventLoop) : EventLoop :=
  match s.attempt with
  | some (.running ends) =>
    if s.now < ends then s
    else
      let connected := s.board.connected || s.board.reconnect.isOk
      { s with attempt := some .ended, board := { s.board with connected := connected } }
  | _ => s

/-! ## Ticks -/

/-- The tick has been run. -/
def completeTick (s : EventLoop) : EventLoop :=
  { s with settling := none, hub := { s.hub with ticker := s.hub.ticker.complete } }.again

/-- Begins a tick, and ends it unless the lines have to settle. -/
def runTick (s : EventLoop) (phase : Phase) : EventLoop :=
  match s.console.beginTick phase s.board.replies with
  | (c, none) => (s.after c).completeTick
  | (c, some word) =>
    if s.settle = 0 then (s.after (c.finishTick word s.board.replies)).completeTick
    else { s.after c with settling := some (word, s.now + s.settle) }

/-! ## Rounds -/

/-- Whether a round that begins now listens to the timer. -/
def listens (s : EventLoop) : Bool := s.attempt.isNone && !s.board.connected

/-- Draws the screen. -/
def drawFrame (s : EventLoop) (clear : Bool) : EventLoop :=
  let (c, frame) := s.console.draw s.console.cols s.console.rows s.console.connected clear
  let s := s.after c
  match s.frames.send? frame with
  | some frames => { s with frames := frames }.again
  | none => s.stop

/-- What is left of a round when neither a status change nor a tick is ready. -/
def calmRound? (s : EventLoop) (listening : Bool) : Option EventLoop :=
  match s.keys, s.slot.pending with
  | key :: rest, _ =>
    let (c, quit) := s.console.press key s.board.replies.drive
    let s := { s with keys := rest }.after c
    some (if quit then s.stop else s.again)
  | [], pending =>
    if !s.keysOpen then some s.stop
    else
      match pending with
      | some clear => some ({ s with slot := s.slot.take.1 }.drawFrame clear)
      | none =>
        match if listening then s.timer.fire? s.now else none with
        | some timer => some { s with timer := timer }.beginAttempt.again
        | none =>
          if s.attempt = some .ended then some { s with attempt := none }.again else none

/-- **A round**, if anything is ready. -/
def round? (s : EventLoop) : Option EventLoop :=
  match s.hub.takeStatus, s.hub.takeTick with
  | (hub, some change), _ => some ({ s with hub := hub }.after (s.console.status change)).again
  | _, (hub, some phase) => some ({ s with hub := hub }.runTick phase)
  | _, _ => s.calmRound? (s.listening.getD s.listens)

/-- Runs rounds until nothing is ready, the loop is busy or has ended; `fuel`
bounds their number. -/
def runRounds (s : EventLoop) : Nat → EventLoop
  | 0 => s
  | fuel + 1 =>
    let s := s.endAttempt
    if s.stopped || s.settling.isSome then s
    else
      match s.round? with
      | some s => s.runRounds fuel
      | none => { s with listening := some (s.listening.getD s.listens) }

/-- As many rounds as one millisecond can have: one for each thing that waits
already, two for each firing of the timer that is made up for, its attempt and
the end of it, and one for each thing that can become ready only once. -/
def roundLimit (s : EventLoop) : Nat :=
  s.hub.statuses.length + s.keys.length + 2 * (Interval.tolerance + 1) + 10

/-- Ends the tick whose lines have settled. -/
def endTick (s : EventLoop) : EventLoop :=
  match s.settling with
  | some (word, ends) =>
    if s.now < ends then s
    else (s.after (s.console.finishTick word s.board.replies)).completeTick
  | none => s

/-- **One millisecond**, or what is left of it. -/
def instant (s : EventLoop) : EventLoop :=
  if s.stopped then s
  else
    let s := s.endAttempt.endTick
    s.runRounds s.roundLimit

/-- **Lets time pass**, up to the moment when it ends. -/
def advance (s : EventLoop) : Nat → EventLoop
  | 0 => s
  | ms + 1 =>
    let s := s.instant
    ({ s with now := s.now + 1 } : EventLoop).advance ms

/-- No more keys can come; the loop runs until it has ended. -/
def close (s : EventLoop) : EventLoop :=
  let s := ({ s with keysOpen := false } : EventLoop).instant
  (s.advance (s.settling.elim 0 fun (_, ends) => ends - s.now)).instant

end EventLoop

end Breadboard
