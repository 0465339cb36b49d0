import Breadboard.Instruction.Table
import Breadboard.Memory.Basic

/-!
# The program listing

Read from its origin, the image falls into items: an instruction with its
operand bytes, or a single byte whose opcode is undefined. Which item an
address belongs to depends on all items before it, so it is found by walking
the listing. The last instruction may reach beyond the image.

Disassembly starts anywhere, goes round at the end of the address space and
stops at an undefined opcode.
-/

namespace Breadboard

namespace Opcode

/-- How many bytes of a program an opcode takes. -/
def length (op : Opcode) : Nat := if op.isVirtual then 1 else 1 + op.operands.toNat

theorem length_pos (op : Opcode) : 0 < op.length := by
  unfold length
  split <;> omega

/-- The operand text of an instruction at `pc` with the bytes `low` and `high`
behind its opcode. A branch shows where it leads. -/
def operandText (op : Opcode) (pc : UInt16) (low high : UInt8) : String :=
  let byte := "$" ++ Hex.byte low
  let word := "$" ++ Hex.padded 4 (high.toNat * 256 + low.toNat)
  match op.mode with
  | .imm => "#" ++ byte
  | .zpg => byte
  | .zpx => byte ++ ",X"
  | .zpy => byte ++ ",Y"
  | .izx => "(" ++ byte ++ ",X)"
  | .izy => "(" ++ byte ++ "),Y"
  | .abs => word
  | .abx => word ++ ",X"
  | .aby => word ++ ",Y"
  | .ind => "(" ++ word ++ ")"
  | .rel => "$" ++ Hex.padded 4 (pc + 2 + low.toInt8.toInt16.toUInt16).toNat
  | .acc => "A"
  | .imp => ""

end Opcode

/-- **Listing item**: an instruction, or a byte of data. -/
structure ListingItem where
  /-- Where it begins. -/
  start : Nat
  /-- How many bytes it takes. -/
  length : Nat
  /-- Whether it is an instruction. -/
  isCode : Bool
  deriving DecidableEq

namespace ListingItem

/-- Whether an item takes the byte at an address. -/
def takes (item : ListingItem) (a : Nat) : Bool :=
  item.start ≤ a && a < item.start + item.length

end ListingItem

namespace Memory

/-- The opcode at an address. -/
def opcodeAt (m : Memory) (t : OpcodeTable) (pc : Nat) : Opcode :=
  t.lookup (m.read (UInt16.ofNat pc))

/-- The items of the image from an address on. -/
def itemsFrom (m : Memory) (t : OpcodeTable) (pc : Nat) : List ListingItem :=
  if pc < m.stop then
    let op := m.opcodeAt t pc
    ⟨pc, op.length, !op.isVirtual⟩ :: m.itemsFrom t (pc + op.length)
  else []
termination_by m.stop - pc
decreasing_by
  have := Opcode.length_pos (m.opcodeAt t pc)
  omega

/-- **The listing**: the items of the whole image. -/
def listing (m : Memory) (t : OpcodeTable) : List ListingItem := m.itemsFrom t m.origin.toNat

/-- Walks from `pc` to the item that takes `target`. -/
def walkTo (m : Memory) (t : OpcodeTable) (target pc : Nat) : Option UInt16 :=
  if pc < m.stop then
    let op := m.opcodeAt t pc
    if target < pc + op.length then
      if op.isVirtual then none else some (UInt16.ofNat pc)
    else m.walkTo t target (pc + op.length)
  else none
termination_by m.stop - pc
decreasing_by
  have := Opcode.length_pos (m.opcodeAt t pc)
  omega

/-- **The instruction an address belongs to**, by the address of its opcode.
Data and addresses outside the image belong to none. -/
def instructionStart? (m : Memory) (t : OpcodeTable) (a : UInt16) : Option UInt16 :=
  if m.covers a then m.walkTo t a.toNat m.origin.toNat else none

/-! ## Disassembly -/

/-- One instruction as a line. -/
def instructionLine (m : Memory) (op : Opcode) (pc : UInt16) : String :=
  Text.trimEnd ("$" ++ Hex.padded 4 pc.toNat ++ ": " ++ op.name ++ " "
    ++ op.operandText pc (m.read (pc + 1)) (m.read (pc + 2)))

/-- **Disassembly**: up to `count` instructions from an address on, as far as
their opcodes are defined. -/
def disassemble (m : Memory) (t : OpcodeTable) (pc : UInt16) : Nat → List String
  | 0 => []
  | count + 1 =>
    let op := t.lookup (m.read pc)
    if op.isVirtual then []
    else m.instructionLine op pc :: m.disassemble t (pc + 1 + op.operands.toUInt16) count

/-! ## Break points -/

/-- **Flips the break point** of the instruction an address belongs to, with
the instruction's address and whether it has a break point now. -/
def toggleBreakPoint? (m : Memory) (t : OpcodeTable) (a : UInt16) :
    Option (Memory × UInt16 × Bool) :=
  (m.instructionStart? t a).map fun start =>
    let breakPoints := m.breakPoints.toggle start
    ({ m with breakPoints := breakPoints }, start, breakPoints.contains start)

/-- The break points that saved bytes stand for: of the addresses in them,
those of instructions. -/
def savedBreakPoints (m : Memory) (t : OpcodeTable) (bytes : List UInt8) : BreakPoints :=
  .ofList ((BreakPoints.addressesOf bytes).filter fun a => m.instructionStart? t a = some a)

end Memory

end Breadboard
