import Breadboard.Log.Directive

/-!
# The log filter

A filter is a list of directives. An event passes if the narrowest directive
about it lets it pass, or if a directive about the activity does in whose
course it arises. Of directives about the same the latest holds, though those
before it still say down to which level activities are followed at all.

The operator can switch debug output on and off while a session runs: on means
the level `debug` for all, off means the directives the session was started
with. A session without such a control keeps its filter.
-/

namespace Breadboard

/-- **Filter**: the directives in force. -/
structure Filter where
  /-- The directives, in the order in which they were given. -/
  directives : List Directive
  deriving DecidableEq, Repr

namespace Filter

/-- Lets nothing through. -/
def nothing : Filter := ⟨[]⟩

/-- Lets events of a level and of more severe ones through. -/
def upTo (level : Level) : Filter := ⟨[{ limit := some level }]⟩

/-- The directive that decides about an event as such. -/
def decisive? (f : Filter) (e : Event) : Option Directive :=
  (f.directives.filter (·.concerns e)).foldl (fun best? d =>
    if best?.all (·.yieldsTo d) then some d else best?) none

/-- Whether activities of a level are followed at all: if some directive reaches
down to that level, or asks for a value, which cannot be known beforehand. -/
def follows (f : Filter) (level : Level) : Bool :=
  f.directives.any fun d => d.allows level || d.asksForValue

/-- Those of some directives that no later one about the same replaces. -/
def holding : List Directive → List Directive
  | [] => []
  | d :: later => if later.any d.sameSubject then holding later else d :: holding later

/-- Whether an event passes for the sake of an activity. -/
def passesInCourse (f : Filter) (e : Event) : Bool :=
  e.origin.activity.any fun a =>
    f.follows a.level
      && (holding f.directives).any fun d => d.covers e.origin && d.allows e.level

/-- **Whether an event passes.** -/
def passes (f : Filter) (e : Event) : Bool :=
  f.passesInCourse e || (f.decisive? e).any (·.allows e.level)

/-- **The filter that a text asks for**: directives between commas. -/
def ofText? (text : String) : Option Filter :=
  (((text.splitOn ",").filter (!·.isEmpty)).mapM fun part =>
    Directive.ofText? part.toList).map Filter.mk

theorem passes_upTo (level : Level) (e : Event) :
    (upTo level).passes e = decide (e.level.rank ≤ level.rank) := by
  cases h : e.origin.activity <;>
    simp [passes, passesInCourse, holding, h, upTo, decisive?, Directive.covers, Directive.concerns,
      Directive.isAboutActivities, Directive.asksForValue, Directive.inArea, Directive.allows]

theorem passes_nothing (e : Event) : nothing.passes e = false := by
  cases h : e.origin.activity <;>
    simp [passes, passesInCourse, holding, h, nothing, decisive?, follows]

end Filter

/-- **Log control**: whether, and to what, the filter can be switched. -/
inductive LogControl where
  /-- The filter stays as it is. -/
  | fixed
  /-- Debug output can be switched on, and off to the given directives. -/
  | switchable (base : String)
  deriving DecidableEq, Repr

namespace LogControl

/-- The directive that the flags of a command line ask for. -/
def directive (debug verbose : Bool) : String :=
  if verbose then "trace" else if debug then "debug" else "info"

/-- The filter that switching debug output on or off asks for, if it can be
switched. -/
def filterFor? (control : LogControl) (debug : Bool) : Option Filter :=
  match control with
  | fixed => none
  | switchable base => if debug then some (.upTo .debug) else Filter.ofText? base

end LogControl

end Breadboard
