import Breadboard.Clocking.Ticker
import Breadboard.Wire.HardwareEvent

/-!
# From the link to the console

Everything the link reports takes one of two ways. Clock edges go to the
ticker, which may drop them; all other changes are queued and none is lost.
-/

namespace Breadboard

/-- **Status change**: of the link or of one of the lines beside the clock. -/
inductive StatusChange where
  | connected (up : Bool)
  | irq (high : Bool)
  | nmi (high : Bool)
  | reset (high : Bool)
  deriving DecidableEq, Repr

/-- **Hub**: the queue of status changes, oldest first, and the ticker. -/
structure Hub where
  statuses : List StatusChange
  ticker : Ticker
  deriving DecidableEq

namespace Hub

/-- A hub that nothing has been reported to. -/
def start : Hub := ⟨[], .start⟩

/-- Queues a status change. -/
def push (h : Hub) (s : StatusChange) : Hub := { h with statuses := h.statuses ++ [s] }

/-- **Takes a hardware event.** -/
def hardware (h : Hub) (e : HardwareEvent) : Hub :=
  match e.signal with
  | .clock => { h with ticker := (h.ticker.trigger (.ofLevel e.high)).1 }
  | .irq => h.push (.irq e.high)
  | .nmi => h.push (.nmi e.high)
  | .reset => h.push (.reset e.high)

/-- Takes a change of the connection. -/
def connection (h : Hub) (up : Bool) : Hub := h.push (.connected up)

/-- Takes the oldest status change. -/
def takeStatus (h : Hub) : Hub × Option StatusChange :=
  match h.statuses with
  | [] => (h, none)
  | s :: rest => ({ h with statuses := rest }, some s)

/-- Takes the tick that waits. -/
def takeTick (h : Hub) : Hub × Option Phase :=
  let (ticker, phase?) := h.ticker.take
  ({ h with ticker := ticker }, phase?)

end Hub

end Breadboard
