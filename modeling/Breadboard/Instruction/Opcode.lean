import Breadboard.Control.Matrix
import Breadboard.Instruction.AddressMode

/-!
# Opcodes

An opcode is one instruction of the processor: what the assembler calls it,
how many operand bytes and steps it takes, and the control word of each of its
cells. Two matrices are kept. The *lines* are what the EPROMs hold and what the
operator edits; the *presets* are what the instruction was declared with, and
no edit touches them.
-/

namespace Breadboard

/-- **Opcode**: one instruction and its microcode. -/
structure Opcode where
  /-- The mnemonic. -/
  name : String
  /-- The opcode byte. -/
  code : UInt8
  /-- How the instruction is written in assembly. -/
  assembly : String
  /-- How its operand is found. -/
  mode : AddressMode
  /-- Operand bytes after the opcode. -/
  operands : UInt8
  /-- Steps, the extra one of a page crossing included. -/
  steps : UInt8
  /-- Whether crossing a page takes one more step. -/
  pageCross : Bool
  /-- The bit of the flags nibble a conditional branch looks at. -/
  branchBit : UInt8
  /-- Whether the branch is taken when that bit is set. -/
  branchSet : Bool
  /-- Whether programs never contain this opcode. -/
  isVirtual : Bool
  /-- The words the EPROMs hold. -/
  lines : Matrix
  /-- The words the instruction was declared with. -/
  presets : Matrix
  /-- Whether the declaration began with an addressing skeleton. -/
  usesAddressing : Bool
  /-- Whether the declaration ends by fetching the next opcode. -/
  usesTrailer : Bool
  deriving DecidableEq

namespace Opcode

/-- Index of the last step. -/
def lastStep (op : Opcode) : Nat := op.steps.toNat - 1

/-- The word of a cell. -/
def word (op : Opcode) (c : Cell) : ControlWord := op.lines.get c

/-- The declared word of a cell. -/
def preset (op : Opcode) (c : Cell) : ControlWord := op.presets.get c

/-- The opcode with the word of one cell replaced. -/
def setWord (op : Opcode) (c : Cell) (w : ControlWord) : Opcode :=
  { op with lines := op.lines.set c w }

/-- The lines of a cell that differ from the declaration. -/
def overrides (op : Opcode) (c : Cell) : ControlWord := op.word c ^^^ op.preset c

/-- Whether a conditional branch is taken for a value of the flags. -/
def branchTaken (op : Opcode) (flags : UInt8) : Bool :=
  flags &&& op.branchBit == (if op.branchSet then op.branchBit else 0)

end Opcode

end Breadboard
