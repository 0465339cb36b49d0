import Breadboard.Instruction.Shape
import Breadboard.Text.Hex

/-!
# The instruction set

Every documented instruction, as rows of a data sheet: the addressing mode, how
the operand is written, the opcode byte, the length in bytes, the cycles and
whether crossing a page costs one more. To these come the three
pseudo-instructions the board injects for reset and interrupts. Opcode bytes
that have no row are undefined: they fetch and reset the timer.
-/

namespace Breadboard

/-- **Declaration**: everything an opcode is made from. -/
structure Declaration where
  /-- The mnemonic. -/
  name : String
  /-- The opcode byte. -/
  code : UInt8
  /-- How the instruction is written in assembly. -/
  assembly : String
  /-- The addressing mode. -/
  mode : AddressMode
  /-- Operand bytes. -/
  operands : UInt8
  /-- Steps, the extra one of a page crossing included. -/
  steps : UInt8
  /-- Whether crossing a page takes one more step. -/
  pageCross : Bool
  /-- Whether programs never contain this opcode. -/
  isVirtual : Bool
  /-- What the instruction does. -/
  operation : Operation
  deriving DecidableEq

namespace Declaration

/-- The form of the declared instruction. -/
def form (d : Declaration) : Form := ⟨d.mode, d.steps.toNat, d.pageCross⟩

/-- The matrix of the declared instruction. -/
def matrix (d : Declaration) : Matrix :=
  .declared d.form.last (d.operation.allStrokes d.form)

/-- **The declared opcode.** Its lines begin equal to its presets. -/
def opcode (d : Declaration) : Opcode :=
  let matrix := d.matrix
  { name := d.name, code := d.code, assembly := d.assembly, mode := d.mode
    operands := d.operands, steps := d.steps, pageCross := d.pageCross
    branchBit := match d.operation with | .branch bit _ => bit | _ => 0
    branchSet := match d.operation with | .branch _ wanted => wanted | _ => false
    isVirtual := d.isVirtual
    lines := matrix, presets := matrix
    usesAddressing := d.operation.usesAddressing
    usesTrailer := d.operation.usesTrailer }

/-! ## Rows -/

/-- A row of the data sheet: one instruction in one addressing mode. -/
structure Row where
  /-- The addressing mode. -/
  mode : AddressMode
  /-- How the operand is written. -/
  operand : String
  /-- The opcode byte. -/
  code : UInt8
  /-- Length in bytes. -/
  length : UInt8
  /-- Cycles without a page crossing. -/
  cycles : UInt8
  /-- Whether a page crossing takes one more. -/
  pageCross : Bool

/-- One instruction in each of the listed modes. -/
def family (name : String) (operation : Operation) (rows : List Row) : List Declaration :=
  rows.map fun row => {
    name, code := row.code, operation, mode := row.mode, pageCross := row.pageCross
    assembly := if row.operand.isEmpty then name else name ++ " " ++ row.operand
    operands := row.length - 1
    steps := row.cycles + if row.pageCross then 1 else 0
    isVirtual := false }

/-- An instruction without operand bytes that is written as its name. -/
def plain (name : String) (code steps : UInt8) (operation : Operation) : Declaration where
  name := name
  code := code
  assembly := name
  mode := .imp
  operands := 0
  steps := steps
  pageCross := false
  isVirtual := false
  operation := operation

/-- A conditional branch. -/
def branch (name : String) (code bit : UInt8) (wanted : Bool) : Declaration where
  name := name
  code := code
  assembly := name ++ " Label (Displacement: -128 to +127)"
  mode := .rel
  operands := 1
  steps := 4
  pageCross := true
  isVirtual := false
  operation := .branch bit wanted

/-- BRK, or a pseudo-instruction the board injects. -/
def interrupt (name : String) (code : UInt8) (kind : Interrupt) : Declaration :=
  { plain name code 7 (.interrupt kind) with isVirtual := kind != .brk }

/-- A jump. -/
def jump (mode : AddressMode) (operand : String) (code steps : UInt8) : Declaration where
  name := "JMP"
  code := code
  assembly := "JMP " ++ operand
  mode := mode
  operands := 2
  steps := steps
  pageCross := false
  isVirtual := false
  operation := .jump

/-- An opcode byte without an instruction. -/
def undefined (code : UInt8) : Declaration where
  name := "x" ++ Hex.byte code
  code := code
  assembly := ""
  mode := .imp
  operands := 0
  steps := 1
  pageCross := false
  isVirtual := true
  operation := .undefined

end Declaration

namespace Catalogue

open ControlWord (ofLines)
open Declaration Line

/-- All driver lines of the special bus; flipped from idle they choose its
first source. -/
private def specialAll : ControlWord := ofLines [sbd0, sbd1, sbd2]

/-- Where an addition takes the accumulator's side from. -/
private def add : ControlWord := specialAll

/-- The same for a subtraction, which also inverts the byte from the data bus. -/
private def subtract : ControlWord := ofLines [auib] ||| specialAll

/-- The lines that take sum and overflow in: the accumulator's load and the
overflow flag's. -/
private def storeA : ControlWord := ofLines [sbla, fsva]

/-- How a logic operation loads the accumulator into the ALU. -/
private def logicA : ControlWord := ofLines [aula] ||| specialAll

/-- The lines that put the ALU's result on the data bus. -/
private def resultOut : ControlWord := ofLines [dbd0, dbd2]

/-- A flag instruction: nothing on phi-1, flag lines on phi-2. Decimal mode
has no hardware, so its two instructions move the manual line alone. -/
private def flag (name : String) (code : UInt8) (lines : List Line) : Declaration :=
  plain name code 2 (.implied .empty (ofLines lines))

/-- Instructions with an operand, and those that share their shapes. -/
def families : List Declaration := List.flatten [
  family "ADC" (.arithmetic add storeA) [
    ⟨.imm, "#$44", 0x69, 2, 2, false⟩,
    ⟨.zpg, "$44", 0x65, 2, 3, false⟩,
    ⟨.zpx, "$44,X", 0x75, 2, 4, false⟩,
    ⟨.abs, "$4400", 0x6D, 3, 4, false⟩,
    ⟨.abx, "$4400,X", 0x7D, 3, 4, true⟩,
    ⟨.aby, "$4400,Y", 0x79, 3, 4, true⟩,
    ⟨.izx, "($44,X)", 0x61, 2, 6, false⟩,
    ⟨.izy, "($44),Y", 0x71, 2, 5, true⟩],
  family "AND" (.logic (ofLines [auo2]) logicA) [
    ⟨.imm, "#$44", 0x29, 2, 2, false⟩,
    ⟨.zpg, "$44", 0x25, 2, 3, false⟩,
    ⟨.zpx, "$44,X", 0x35, 2, 4, false⟩,
    ⟨.abs, "$4400", 0x2D, 3, 4, false⟩,
    ⟨.abx, "$4400,X", 0x3D, 3, 4, true⟩,
    ⟨.aby, "$4400,Y", 0x39, 3, 4, true⟩,
    ⟨.izx, "($44,X)", 0x21, 2, 6, false⟩,
    ⟨.izy, "($44),Y", 0x31, 2, 5, true⟩],
  family "ASL" (.shift (ofLines [aus1, aus2]) .empty) [
    ⟨.acc, "A", 0x0A, 1, 2, false⟩,
    ⟨.zpg, "$44", 0x06, 2, 5, false⟩,
    ⟨.zpx, "$44,X", 0x16, 2, 6, false⟩,
    ⟨.abs, "$4400", 0x0E, 3, 6, false⟩,
    ⟨.abx, "$4400,X", 0x1E, 3, 7, false⟩],
  family "BIT" (.bitTest) [
    ⟨.zpg, "$44", 0x24, 2, 3, false⟩,
    ⟨.abs, "$4400", 0x2C, 3, 4, false⟩],
  family "CMP" (.arithmetic subtract .empty) [
    ⟨.imm, "#$44", 0xC9, 2, 2, false⟩,
    ⟨.zpg, "$44", 0xC5, 2, 3, false⟩,
    ⟨.zpx, "$44,X", 0xD5, 2, 4, false⟩,
    ⟨.abs, "$4400", 0xCD, 3, 4, false⟩,
    ⟨.abx, "$4400,X", 0xDD, 3, 4, true⟩,
    ⟨.aby, "$4400,Y", 0xD9, 3, 4, true⟩,
    ⟨.izx, "($44,X)", 0xC1, 2, 6, false⟩,
    ⟨.izy, "($44),Y", 0xD1, 2, 5, true⟩],
  family "CPX" (.arithmetic (ofLines [auib, sbd0, sbd2]) .empty) [
    ⟨.imm, "#$44", 0xE0, 2, 2, false⟩,
    ⟨.zpg, "$44", 0xE4, 2, 3, false⟩,
    ⟨.abs, "$4400", 0xEC, 3, 4, false⟩],
  family "CPY" (.arithmetic (ofLines [auib, sbd1, sbd2]) .empty) [
    ⟨.imm, "#$44", 0xC0, 2, 2, false⟩,
    ⟨.zpg, "$44", 0xC4, 2, 3, false⟩,
    ⟨.abs, "$4400", 0xCC, 3, 4, false⟩],
  family "DEC" (.modify .empty) [
    ⟨.zpg, "$44", 0xC6, 2, 5, false⟩,
    ⟨.zpx, "$44,X", 0xD6, 2, 6, false⟩,
    ⟨.abs, "$4400", 0xCE, 3, 6, false⟩,
    ⟨.abx, "$4400,X", 0xDE, 3, 6, true⟩],
  family "EOR" (.logic (ofLines [auo2, auo1]) logicA) [
    ⟨.imm, "#$44", 0x49, 2, 2, false⟩,
    ⟨.zpg, "$44", 0x45, 2, 3, false⟩,
    ⟨.zpx, "$44,X", 0x55, 2, 4, false⟩,
    ⟨.abs, "$4400", 0x4D, 3, 4, false⟩,
    ⟨.abx, "$4400,X", 0x5D, 3, 4, true⟩,
    ⟨.aby, "$4400,Y", 0x59, 3, 4, true⟩,
    ⟨.izx, "($44,X)", 0x41, 2, 6, false⟩,
    ⟨.izy, "($44),Y", 0x51, 2, 5, true⟩],
  family "INC" (.modify (ofLines [ahc1])) [
    ⟨.zpg, "$44", 0xE6, 2, 5, false⟩,
    ⟨.zpx, "$44,X", 0xF6, 2, 6, false⟩,
    ⟨.abs, "$4400", 0xEE, 3, 6, false⟩,
    ⟨.abx, "$4400,X", 0xFE, 3, 7, false⟩],
  family "LDA" (.load (ofLines [sbla])) [
    ⟨.imm, "#$44", 0xA9, 2, 2, false⟩,
    ⟨.zpg, "$44", 0xA5, 2, 3, false⟩,
    ⟨.zpx, "$44,X", 0xB5, 2, 4, false⟩,
    ⟨.abs, "$4400", 0xAD, 3, 4, false⟩,
    ⟨.abx, "$4400,X", 0xBD, 3, 4, true⟩,
    ⟨.aby, "$4400,Y", 0xB9, 3, 4, true⟩,
    ⟨.izx, "($44,X)", 0xA1, 2, 6, false⟩,
    ⟨.izy, "($44),Y", 0xB1, 2, 5, true⟩],
  family "LDX" (.load (ofLines [sblx])) [
    ⟨.imm, "#$44", 0xA2, 2, 2, false⟩,
    ⟨.zpg, "$44", 0xA6, 2, 3, false⟩,
    ⟨.zpy, "$44,Y", 0xB6, 2, 4, false⟩,
    ⟨.abs, "$4400", 0xAE, 3, 4, false⟩,
    ⟨.aby, "$4400,Y", 0xBE, 3, 4, true⟩],
  family "LDY" (.load (ofLines [sbly])) [
    ⟨.imm, "#$44", 0xA0, 2, 2, false⟩,
    ⟨.zpg, "$44", 0xA4, 2, 3, false⟩,
    ⟨.zpx, "$44,X", 0xB4, 2, 4, false⟩,
    ⟨.abs, "$4400", 0xAC, 3, 4, false⟩,
    ⟨.abx, "$4400,X", 0xBC, 3, 4, true⟩],
  family "LSR" (.shift (ofLines [aus1, aus2]) (ofLines [aulr])) [
    ⟨.acc, "A", 0x4A, 1, 2, false⟩,
    ⟨.zpg, "$44", 0x46, 2, 5, false⟩,
    ⟨.zpx, "$44,X", 0x56, 2, 6, false⟩,
    ⟨.abs, "$4400", 0x4E, 3, 6, false⟩,
    ⟨.abx, "$4400,X", 0x5E, 3, 7, false⟩],
  family "NOP" (.noOperation) [
    ⟨.imp, "", 0xEA, 1, 2, false⟩],
  family "ORA" (.logic (ofLines [auo1]) logicA) [
    ⟨.imm, "#$44", 0x09, 2, 2, false⟩,
    ⟨.zpg, "$44", 0x05, 2, 3, false⟩,
    ⟨.zpx, "$44,X", 0x15, 2, 4, false⟩,
    ⟨.abs, "$4400", 0x0D, 3, 4, false⟩,
    ⟨.abx, "$4400,X", 0x1D, 3, 4, true⟩,
    ⟨.aby, "$4400,Y", 0x19, 3, 4, true⟩,
    ⟨.izx, "($44,X)", 0x01, 2, 6, false⟩,
    ⟨.izy, "($44),Y", 0x11, 2, 5, true⟩],
  family "ROL" (.shift (ofLines [aus2]) .empty) [
    ⟨.acc, "A", 0x2A, 1, 2, false⟩,
    ⟨.zpg, "$44", 0x26, 2, 5, false⟩,
    ⟨.zpx, "$44,X", 0x36, 2, 6, false⟩,
    ⟨.abs, "$4400", 0x2E, 3, 6, false⟩,
    ⟨.abx, "$4400,X", 0x3E, 3, 7, false⟩],
  family "ROR" (.shift (ofLines [aus2]) (ofLines [aulr])) [
    ⟨.acc, "A", 0x6A, 1, 2, false⟩,
    ⟨.zpg, "$44", 0x66, 2, 5, false⟩,
    ⟨.zpx, "$44,X", 0x76, 2, 6, false⟩,
    ⟨.abs, "$4400", 0x6E, 3, 6, false⟩,
    ⟨.abx, "$4400,X", 0x7E, 3, 7, false⟩],
  family "RTI" (.returnInterrupt) [
    ⟨.imp, "", 0x40, 1, 6, false⟩],
  family "RTS" (.returnSubroutine) [
    ⟨.imp, "", 0x60, 1, 5, false⟩],
  family "SBC" (.arithmetic subtract storeA) [
    ⟨.imm, "#$44", 0xE9, 2, 2, false⟩,
    ⟨.zpg, "$44", 0xE5, 2, 3, false⟩,
    ⟨.zpx, "$44,X", 0xF5, 2, 4, false⟩,
    ⟨.abs, "$4400", 0xED, 3, 4, false⟩,
    ⟨.abx, "$4400,X", 0xFD, 3, 4, true⟩,
    ⟨.aby, "$4400,Y", 0xF9, 3, 4, true⟩,
    ⟨.izx, "($44,X)", 0xE1, 2, 6, false⟩,
    ⟨.izy, "($44),Y", 0xF1, 2, 5, true⟩],
  family "STA" (.store (ofLines [dbd0, dbd1, dbd2])) [
    ⟨.zpg, "$44", 0x85, 2, 3, false⟩,
    ⟨.zpx, "$44,X", 0x95, 2, 4, false⟩,
    ⟨.abs, "$4400", 0x8D, 3, 4, false⟩,
    ⟨.abx, "$4400,X", 0x9D, 3, 4, true⟩,
    ⟨.aby, "$4400,Y", 0x99, 3, 4, true⟩,
    ⟨.izx, "($44,X)", 0x81, 2, 6, false⟩,
    ⟨.izy, "($44),Y", 0x91, 2, 5, true⟩],
  family "STX" (.store (ofLines [dbd0, dbd2, sbd0, sbd2])) [
    ⟨.zpg, "$44", 0x86, 2, 3, false⟩,
    ⟨.zpy, "$44,Y", 0x96, 2, 4, false⟩,
    ⟨.abs, "$4400", 0x8E, 3, 4, false⟩],
  family "STY" (.store (ofLines [dbd0, dbd2, sbd1, sbd2])) [
    ⟨.zpg, "$44", 0x84, 2, 3, false⟩,
    ⟨.zpx, "$44,X", 0x94, 2, 4, false⟩,
    ⟨.abs, "$4400", 0x8C, 3, 4, false⟩]
]

/-- Branches, interrupts, jumps and the instructions without an operand. -/
def singles : List Declaration := [
  branch "BPL" 0x10 Flag.negative false,
  branch "BMI" 0x30 Flag.negative true,
  branch "BVC" 0x50 Flag.overflow false,
  branch "BVS" 0x70 Flag.overflow true,
  branch "BCC" 0x90 Flag.carry false,
  branch "BCS" 0xB0 Flag.carry true,
  branch "BNE" 0xD0 Flag.zero false,
  branch "BEQ" 0xF0 Flag.zero true,
  interrupt "BRK" 0x00 .brk,
  interrupt "RST" 0x02 .reset,
  interrupt "NMI" 0x12 .nonMaskable,
  interrupt "IRQ" 0x22 .request,
  flag "CLC" 0x18 [fscb],
  flag "CLD" 0xD8 [],
  flag "CLI" 0x58 [fsib],
  flag "CLV" 0xB8 [fsvb],
  flag "SEC" 0x38 [fscb, fman],
  flag "SED" 0xF8 [fman],
  flag "SEI" 0x78 [fsib, fman],
  jump .abs "$5597" 0x4C 3,
  jump .ind "($5597)" 0x6C 5,
  { jump .abs "$5597" 0x20 6 with
    name := "JSR", assembly := "JSR $5597", operation := .jumpSubroutine },
  plain "DEX" 0xCA 2 (.implied (ofLines [aulb, aula, ausb] ||| Form.xIndex)
    (resultOut ||| ofLines [sblx, sbd2, fsia])),
  plain "DEY" 0x88 2 (.implied (ofLines [aulb, aula, ausb] ||| Form.yIndex)
    (resultOut ||| ofLines [sbly, sbd2, fsia])),
  plain "INX" 0xE8 2 (.implied (resultOut ||| ofLines [aulb, aula, ausa] ||| Form.xIndex)
    (resultOut ||| ofLines [aula, sblx, sbd2, cenb, fsia])),
  plain "INY" 0xC8 2 (.implied (resultOut ||| ofLines [aulb, aula, ausa] ||| Form.yIndex)
    (resultOut ||| ofLines [aula, sbly, sbd2, cenb, fsia])),
  plain "TAX" 0xAA 2 (.implied .empty (resultOut ||| ofLines [sblx, fsia] ||| specialAll)),
  plain "TXA" 0x8A 2 (.implied .empty (resultOut ||| ofLines [sbla, fsia] ||| Form.xIndex)),
  plain "TAY" 0xA8 2 (.implied .empty (resultOut ||| ofLines [sbly, fsia] ||| specialAll)),
  plain "TYA" 0x98 2 (.implied .empty (resultOut ||| ofLines [sbla, fsia] ||| Form.yIndex)),
  plain "TXS" 0x9A 2 (.stack .fromX),
  plain "TSX" 0xBA 2 (.stack .toX),
  plain "PHA" 0x48 3 (.stack (.push (resultOut ||| specialAll))),
  plain "PLA" 0x68 4 (.stack (.pull (ofLines [sbla, fsia]))),
  plain "PHP" 0x08 3 (.stack (.push (ofLines [dbd2]))),
  plain "PLP" 0x28 4 (.stack (.pull (ofLines [fsva, fsib, fsvb, fscb, fsca, fsia])))]

/-- **The instruction set**: every declared opcode. -/
def all : List Declaration := families ++ singles

/-- The declaration of an opcode byte, undefined if there is none. -/
def declaration (code : UInt8) : Declaration :=
  (all.find? (·.code == code)).getD (.undefined code)

/-- What holds of the declared opcodes and of the undefined ones holds of the declaration of
every byte. -/
theorem declaration_of_all {p : Declaration → Prop} (hall : ∀ d ∈ all, p d)
    (hundefined : ∀ code, p (.undefined code)) (code : UInt8) : p (declaration code) := by
  unfold declaration
  cases h : all.find? (·.code == code) with
  | none => exact hundefined code
  | some d => exact hall d (List.mem_of_find?_eq_some h)

theorem declaration_code (code : UInt8) : (declaration code).code = code := by
  unfold declaration
  cases h : all.find? (·.code == code) with
  | none => rfl
  | some d => simpa using List.find?_some h

end Catalogue

end Breadboard
