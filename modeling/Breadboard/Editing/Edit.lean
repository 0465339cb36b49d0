import Breadboard.Control.Bus
import Breadboard.Control.LineRule
import Breadboard.Instruction.Opcode

/-!
# Editing one line

An edit puts one line of one cell to a level. The line rules decide whether it
is allowed at all; what is refused changes nothing.

One line is special. The direction of the data bus has to agree in both halves
of a step, so an edit of `dbrw` puts the same level into the other phase of the
step. That other phase is not checked against the rules, nor need it be: no
rule restricts `dbrw`.
-/

namespace Breadboard

/-- **How an edit changes its bit.** -/
inductive SetMode where
  /-- To low. -/
  | clear
  /-- To high. -/
  | set
  /-- Back to the declared level. -/
  | preset
  /-- To the other level. -/
  | toggle
  deriving DecidableEq, Repr

namespace SetMode

/-- The level an edit puts its bit to. -/
def level (mode : SetMode) (current preset : Bool) : Bool :=
  match mode with
  | .clear => false
  | .set => true
  | .preset => preset
  | .toggle => !current

end SetMode

/-- **Edit**: the place an accepted edit changed. -/
structure Edit where
  /-- The step. -/
  step : UInt8
  /-- The phase the edit was addressed to. -/
  phase : Phase
  /-- Whether the other phase of the step was changed too. -/
  mirrored : Bool
  deriving DecidableEq, Repr

/-- Whether an edit changed the word of a step and phase. -/
def Edit.touches (e : Edit) (step : UInt8) (phase : Phase) : Bool :=
  e.step == step && (e.phase == phase || e.mirrored)

/-- **Bit state**: a bit compared with its preset and with the default word. -/
inductive BitState where
  /-- As in both. -/
  | baseline
  /-- As in the preset, which departs from the default. -/
  | preset
  /-- Changed away from a preset that was the default. -/
  | override
  /-- Changed back to the default from a preset that departs from it. -/
  | reverted
  deriving DecidableEq, Repr

/-- The state of a bit. -/
def BitState.classify (current preset default : Bool) : BitState :=
  match current == default, preset == default with
  | true, true => .baseline
  | false, false => .preset
  | false, true => .override
  | true, false => .reverted

namespace Opcode

/-- **Editing a line.** -/
def setLine (op : Opcode) (flags step : UInt8) (phase : Phase) (bit : UInt8) (mode : SetMode) :
    Except LineRejection (Opcode × Edit) := do
  let (stepIndex, line) ← LineRule.accept step phase bit
  let c : Cell := { Cell.wrap flags step phase with step := stepIndex }
  let level := mode.level ((op.word c).has line) ((op.preset c).has line)
  let op := op.setWord c ((op.word c).put line level)
  let mirrored := line == .dbrw
  let op := if mirrored then op.setWord c.mirror ((op.word c.mirror).put line level) else op
  return (op, ⟨step, phase, mirrored⟩)

/-- **Stepping a bus's source** in one cell. There is none past either end of
the bus's list. -/
def cycleBus? (op : Opcode) (bus : Bus) (flags step : UInt8) (phase : Phase) (offset : Int) :
    Option (Opcode × Edit) := do
  let c := Cell.wrap flags step phase
  let word ← bus.cycle? (op.word c) offset
  return (op.setWord c word, ⟨step, phase, false⟩)

/-- The bits of a cell, highest first: their levels and states. -/
def classify (op : Opcode) (c : Cell) : List (Bool × BitState) :=
  Line.descending.map fun line =>
    let level := (op.word c).has line
    (level, .classify level ((op.preset c).has line) ((ControlWord.default c.phase).has line))

end Opcode

end Breadboard
