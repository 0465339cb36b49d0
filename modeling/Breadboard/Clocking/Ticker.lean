import Breadboard.Control.Phase

/-!
# Ticks

A clock edge asks for a tick. Ticks take time, so an edge is accepted only
while no accepted tick is unfinished; all others are dropped, and a slow board
never leaves a backlog of stale edges.

Accepting a tick is two steps, because the one who hands ticks out and the one
who runs them are different activities: the ticker is *claimed*, and then the
tick is *handed over*.
-/

namespace Breadboard

/-- **Ticker**: at most one tick between its acceptance and its end. -/
structure Ticker where
  /-- Whether a tick has been accepted and not finished. -/
  busy : Bool
  /-- The tick that waits to be run. -/
  waiting : Option Phase
  /-- Whether there is still somebody to run ticks. -/
  attended : Bool
  deriving DecidableEq

namespace Ticker

/-- A ticker that has not ticked. -/
def start : Ticker := ⟨false, none, true⟩

/-- Claims the ticker, if no tick is unfinished. -/
def claim? (t : Ticker) : Option Ticker := if t.busy then none else some { t with busy := true }

/-- Hands a tick over, and says whether it could be. If not, the claim is given
up. -/
def handOver (t : Ticker) (phase : Phase) : Ticker × Bool :=
  if t.attended && t.waiting.isNone then ({ t with waiting := some phase }, true)
  else ({ t with busy := false }, false)

/-- **Asks for a tick**, and says whether it was accepted. -/
def trigger (t : Ticker) (phase : Phase) : Ticker × Bool :=
  match t.claim? with
  | none => (t, false)
  | some t => t.handOver phase

/-- Takes the tick that waits. -/
def take (t : Ticker) : Ticker × Option Phase := ({ t with waiting := none }, t.waiting)

/-- The tick that was taken is finished. -/
def complete (t : Ticker) : Ticker := { t with busy := false }

/-- Nobody runs ticks any more. -/
def close (t : Ticker) : Ticker := { t with attended := false, waiting := none }

end Ticker

end Breadboard
