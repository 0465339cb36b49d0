import Breadboard.Control.Matrix

/-!
# Which lines may be edited

The wiring decides when a line can take effect: latches that are clocked on
phi-1 cannot be loaded on phi-2 and the other way round, the timer reset ends
an instruction and stays where it is, and the pause line belongs to the break
points. `LineRule.accept` checks an edit's address against these rules and, if
it passes, gives back the step and the line it names.
-/

namespace Breadboard

/-- **Why an edit is refused.** -/
inductive LineRejection where
  /-- The step number is past the last step a matrix has. -/
  | noSuchStep
  /-- The bit number is past the last line. -/
  | noSuchLine
  /-- The line can never be edited. -/
  | reserved (line : Line)
  /-- The line takes effect in the other phase only. -/
  | wrongPhase (line : Line)
  deriving DecidableEq, Repr

namespace LineRejection

/-- What a line does in the one phase in which it takes effect, as the message
says it. -/
private def duty : Line → String
  | .alld => "Address bus low can only be loaded on phi-1"
  | .ahld => "Address bus high can only be loaded on phi-1"
  | .aula => "ALU A register can only be loaded on phi-1"
  | .aulb => "ALU B register can only be loaded on phi-1"
  | .spld => "Stack pointer can only be loaded on phi-1"
  | .pcin => "Program counter can only be incremented on phi-2"
  | .pcll => "Program counter low can only be loaded on phi-2"
  | .pclh => "Program counter high can only be loaded on phi-2"
  | .sbla => "Accumulator can only be loaded on phi-2"
  | .sblx => "X register can only be loaded on phi-2"
  | .sbly => "Y register can only be loaded on phi-2"
  | _ => "Flag updates can only be performed on phase 2"

/-- The text shown for a refusal. -/
def message : LineRejection → String
  | noSuchStep => "No such step"
  | noSuchLine => "No such control line"
  | reserved .paus => "Break points are set with 'b' on the memory page"
  | reserved _ => "Timer reset cannot be changed"
  | wrongPhase line => duty line

end LineRejection

namespace LineRule

/-- **When a line may be edited.** -/
inductive Window where
  | never
  | only (phase : Phase)
  | always
  deriving DecidableEq, Repr

/-- The editing window of each line: latches in the phase that clocks them,
the pause line and the timer reset never, everything else always. -/
def window : Line → Window
  | .paus | .ctmr => .never
  | .alld | .ahld | .aula | .aulb | .spld => .only .phi1
  | .pcin | .pcll | .pclh | .sbla | .sblx | .sbly
  | .fsca | .fscb | .fsia | .fsib | .fsva | .fsvb => .only .phi2
  | _ => .always

/-- Checks a line against its window. -/
def check (phase : Phase) (line : Line) : Except LineRejection Unit :=
  match window line with
  | .never => throw (.reserved line)
  | .only home => if phase = home then pure () else throw (.wrongPhase line)
  | .always => pure ()

/-- **Checking an edit's address.** The step is looked at first, then the bit,
then the line's window. -/
def accept (step : UInt8) (phase : Phase) (bit : UInt8) : Except LineRejection (Fin 8 × Line) :=
  if h : step.toNat < Cell.maxSteps then
    match Line.ofByte? bit with
    | none => throw .noSuchLine
    | some line => do
      check phase line
      return (⟨step.toNat, h⟩, line)
  else throw .noSuchStep

end LineRule

end Breadboard
