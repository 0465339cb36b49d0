import Breadboard.Control.Matrix

/-!
# Strokes

Instructions are declared by the lines in which they depart from the default
words. One such departure is a *stroke*: a step, a phase and a set of lines,
each of which is flipped there. A declaration is a list of strokes for each
flags slot, and the order of strokes does not matter, since flipping is
exclusive or. A stroke outside the eight steps touches no cell.

The timer is reset on every phi-2 from an instruction's last step on; that is
part of the blank matrix the strokes are applied to, so a stroke that flips the
timer reset on such a step would undo it.
-/

namespace Breadboard

/-- **Stroke**: lines flipped in one step and phase. -/
structure Stroke where
  /-- The step. -/
  step : Nat
  /-- The half of the step. -/
  phase : Phase
  /-- The lines to flip. -/
  lines : ControlWord
  deriving DecidableEq

namespace Stroke

/-- A stroke on the first half of a step. -/
def phi1 (step : Nat) (lines : ControlWord) : Stroke := ⟨step, .phi1, lines⟩

/-- A stroke on the second half of a step. -/
def phi2 (step : Nat) (lines : ControlWord) : Stroke := ⟨step, .phi2, lines⟩

/-- Whether a stroke falls on a step and phase. -/
def hits (s : Stroke) (step : Fin 8) (phase : Phase) : Bool :=
  s.step == step.val && s.phase == phase

/-- What a list of strokes flips in one step and phase. -/
def contribution (strokes : List Stroke) (step : Fin 8) (phase : Phase) : ControlWord :=
  (strokes.filter (·.hits step phase)).foldr (fun s w => s.lines ^^^ w) .empty

end Stroke

namespace Matrix

/-- The matrix of what each flags slot's strokes flip, nothing else set. -/
def ofStrokes (strokes : Fin 16 → List Stroke) : Matrix :=
  let slots := Vector.ofFn strokes
  ofFn fun c => Stroke.contribution slots[c.flags] c.step c.phase

/-- The word an instruction of no operation holds in a cell: the default of
the phase, with the timer reset from the last step on. -/
def blankWord (lastStep : Nat) (c : Cell) : ControlWord :=
  if c.phase = .phi2 ∧ lastStep ≤ c.step.val then .default c.phase ^^^ .ofLine .ctmr
  else .default c.phase

/-- The blank matrix with strokes applied to it. -/
def declared (lastStep : Nat) (strokes : Fin 16 → List Stroke) : Matrix :=
  let flips := ofStrokes strokes
  ofFn fun c => blankWord lastStep c ^^^ flips.get c

end Matrix

end Breadboard
