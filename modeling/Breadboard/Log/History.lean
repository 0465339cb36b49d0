import Breadboard.Log.Filter

/-!
# The notification history

The dashboard shows recent events. They are kept newest first and up to a
capacity, so that a new entry pushes the oldest one out. Only events that the
filter lets through and that are at least informational are kept, and every
one that is kept asks for the screen to be drawn again.
-/

namespace Breadboard

/-- **Notification**: a kept event. -/
structure Notification where
  /-- Its level. -/
  level : Level
  /-- Its text. -/
  text : String
  deriving DecidableEq, Inhabited

/-- **History**: the kept notifications, newest first. -/
structure History where
  /-- How many are kept. -/
  capacity : Nat
  /-- The notifications, newest first. -/
  entries : List Notification
  deriving DecidableEq

namespace History

/-- An empty history; it keeps one notification at least. -/
def ofCapacity (capacity : Nat) : History := ⟨max capacity 1, []⟩

/-- The capacity of a history when nothing else is asked for. -/
def defaultCapacity : Nat := 1000

/-- Adds a notification, dropping the oldest one if there is no room. -/
def push (h : History) (n : Notification) : History :=
  { h with entries := (n :: h.entries).take h.capacity }

/-- The number of notifications kept. -/
def length (h : History) : Nat := h.entries.length

/-- Drops all notifications. -/
def clear (h : History) : History := { h with entries := [] }

/-- Up to `count` notifications, newest first, without the `skip` newest. -/
def recent (h : History) (skip count : Nat) : List Notification :=
  (h.entries.drop skip).take count

end History

/-- **Notices**: the history with the filter in front of it. -/
structure Notices where
  /-- The filter in force. -/
  filter : Filter
  /-- What it can be switched to. -/
  control : LogControl
  /-- What was kept. -/
  history : History
  deriving DecidableEq

namespace Notices

/-- Whether an event is kept. -/
def keeps (n : Notices) (e : Event) : Bool :=
  n.filter.passes e && e.level.rank ≤ Level.info.rank

/-- **Telling an event.** If it is kept, the screen has to be drawn again. -/
def tell (n : Notices) (e : Event) : Notices :=
  if n.keeps e then { n with history := n.history.push ⟨e.level, e.text⟩ } else n

/-- Switches debug output, if that is possible. -/
def setDebug? (n : Notices) (debug : Bool) : Option Notices :=
  (n.control.filterFor? debug).map fun filter => { n with filter := filter }

end Notices

end Breadboard
