/-!
# The two half cycles of the clock

The board's clock has two phases, and every microcode step drives one control
word in each. The clock wire is low during phi-1 and high during phi-2.
-/

namespace Breadboard

/-- **Clock phase**: phi-1 is the half cycle with the clock low, phi-2 the one
with the clock high. -/
inductive Phase where
  | phi1
  | phi2
  deriving DecidableEq, Repr, Inhabited

namespace Phase

/-- Both phases, in the order in which they run. -/
def all : List Phase := [.phi1, .phi2]

/-- Position of a phase within its step. -/
def index : Phase → Fin 2
  | .phi1 => 0
  | .phi2 => 1

/-- The phase at a position within a step. -/
def ofIndex (i : Fin 2) : Phase := if i = 0 then .phi1 else .phi2

/-- The other half of the same step. -/
def other : Phase → Phase
  | .phi1 => .phi2
  | .phi2 => .phi1

/-- The name of a phase. -/
def name : Phase → String
  | .phi1 => "Phi1"
  | .phi2 => "Phi2"

/-- The phase a clock level announces. -/
def ofLevel (high : Bool) : Phase := if high then .phi2 else .phi1

@[simp]
theorem other_other (p : Phase) : p.other.other = p := by cases p <;> rfl

theorem other_ne (p : Phase) : p.other ≠ p := by cases p <;> decide

@[simp]
theorem ofIndex_index (p : Phase) : ofIndex p.index = p := by cases p <;> rfl

@[simp]
theorem index_ofIndex (i : Fin 2) : (ofIndex i).index = i := by
  revert i
  decide

end Phase

end Breadboard
