import Breadboard.Instruction.Shape

/-!
# Describing a cell

A cell is described by the names of the lines it asserts, that is, in which it
differs from the default word of its phase. The names come highest bit first
and in groups: the forty-eight positions are cut into runs of equal length, and
each run with a line asserted makes one group.

The lines of the addressing skeleton and the trailer can be left out. They are
cancelled, not removed: a skeleton line that the cell does not assert shows up
as asserted.
-/

namespace Breadboard

/-- **Style** of a description. -/
structure DescriptionStyle where
  /-- Line positions in a group; zero counts as one. -/
  groupSize : Nat := 8
  /-- What stands between two names of a group. -/
  joiner : String := " "
  /-- What stands in front of every name. -/
  lead : String := ""
  /-- Whether the skeleton's lines are cancelled. -/
  skipAddressing : Bool := false

/-- A list cut into runs of `n`, the last one perhaps shorter. -/
def runs {α : Type} (n : Nat) (xs : List α) : List (List α) :=
  if xs.length ≤ n ∨ n = 0 then (if xs.isEmpty then [] else [xs])
  else xs.take n :: runs n (xs.drop n)
termination_by xs.length
decreasing_by
  simp only [List.length_drop]
  omega

namespace Opcode

/-- The lines a cell asserts, those of the skeleton cancelled if asked for. -/
def asserted (op : Opcode) (c : Cell) (skipAddressing : Bool) : ControlWord :=
  let word := op.word c ^^^ .default c.phase
  if skipAddressing then word ^^^ op.skeleton.get c else word

/-- **Description of a cell**: one text for each group with a line asserted. -/
def describe (op : Opcode) (c : Cell) (style : DescriptionStyle) : List String :=
  let word := op.asserted c style.skipAddressing
  let groups := (runs (max style.groupSize 1) Line.descending).map (·.filter word.has)
  (groups.filter (!·.isEmpty)).map fun group =>
    style.joiner.intercalate (group.map fun line => style.lead ++ line.mnemonic c.phase)

/-- **Summary of a cell** for pasting into a source text: the asserted lines
without the timer reset, in one line. There is none if nothing is left. -/
def summary? (op : Opcode) (c : Cell) (skipAddressing : Bool) : Option String :=
  let lines := (op.asserted c skipAddressing).lines.filter (· != .ctmr)
  if lines.isEmpty then none
  else some (" | ".intercalate (lines.map fun line => "CL_" ++ line.mnemonic c.phase))

end Opcode

end Breadboard
