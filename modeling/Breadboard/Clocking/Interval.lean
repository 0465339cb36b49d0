/-!
# Intervals

An interval fires at once and then at every multiple of its period. Nobody
need be listening when a firing is due: one that was missed happens as soon as
somebody listens again. If that is late by more than a little, the firings in
between are skipped; otherwise the next one follows a period after the last
one was due.
-/

namespace Breadboard

/-- **Interval**, in milliseconds. -/
structure Interval where
  /-- The time between firings. -/
  period : Nat
  /-- When the next firing is due. -/
  due : Nat
  deriving DecidableEq

namespace Interval

/-- By how much a firing can be late without others being skipped. -/
def tolerance : Nat := 5

/-- An interval that begins at a time. -/
def start (period now : Nat) : Interval := ⟨period, now⟩

/-- Fires, if a firing is due. -/
def fire? (i : Interval) (now : Nat) : Option Interval :=
  if now < i.due then none
  else if i.due + tolerance < now then
    some { i with due := now + i.period - (now - i.due) % i.period }
  else some { i with due := i.due + i.period }

end Interval

end Breadboard
