/-!
# Redraw requests

Requests to draw the screen are not queued. Those made before the screen is
drawn merge into one, which clears the screen first if any of them asked for
that. Each request leaves a wake-up for whoever waits for the next one; one
wake-up is kept when nobody waits.
-/

namespace Breadboard

/-- **Redraw slot**: at most one request, and at most one wake-up. -/
structure RedrawSlot where
  /-- The request that has not been served: whether it clears the screen. -/
  pending : Option Bool
  /-- Whether a wake-up is kept. -/
  wakeUp : Bool
  deriving DecidableEq

namespace RedrawSlot

/-- Nothing has been asked for. -/
def start : RedrawSlot := ⟨none, false⟩

/-- Merges a request into the pending one. -/
def mark (s : RedrawSlot) (clear : Bool) : RedrawSlot :=
  { s with pending := some (s.pending.getD false || clear) }

/-- Leaves a wake-up. -/
def wake (s : RedrawSlot) : RedrawSlot := { s with wakeUp := true }

/-- **Asks for the screen to be drawn.** -/
def request (s : RedrawSlot) (clear : Bool) : RedrawSlot := (s.mark clear).wake

/-- Takes the pending request. -/
def take (s : RedrawSlot) : RedrawSlot × Option Bool := ({ s with pending := none }, s.pending)

/-- One look of somebody who waits for the next request. A wake-up that was
kept is used up by looking again. -/
def next (s : RedrawSlot) : RedrawSlot × Option Bool :=
  match s.take with
  | (s, some clear) => (s, some clear)
  | (s, none) => if s.wakeUp then { s with wakeUp := false }.take else (s, none)

end RedrawSlot

end Breadboard
