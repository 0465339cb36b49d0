/-!
# Addressing modes

How an instruction finds its operand. The three-letter names are both what the
dashboard shows and what a saved table contains.
-/

namespace Breadboard

/-- **Addressing mode**: the strategy by which an operand is fetched. -/
inductive AddressMode where
  /-- The operand is the byte after the opcode. -/
  | imm
  /-- There is no operand. -/
  | imp
  /-- Through a zero-page pointer at the operand plus X. -/
  | izx
  /-- Through a zero-page pointer, plus Y. -/
  | izy
  /-- A zero-page address. -/
  | zpg
  /-- A zero-page address plus X. -/
  | zpx
  /-- A zero-page address plus Y. -/
  | zpy
  /-- A displacement from the next instruction. -/
  | rel
  /-- A full address. -/
  | abs
  /-- A full address plus X. -/
  | abx
  /-- A full address plus Y. -/
  | aby
  /-- Through a pointer at a full address. -/
  | ind
  /-- The accumulator. -/
  | acc
  deriving DecidableEq, Repr, Inhabited

namespace AddressMode

/-- Every mode. -/
def all : List AddressMode :=
  [.imm, .imp, .izx, .izy, .zpg, .zpx, .zpy, .rel, .abs, .abx, .aby, .ind, .acc]

/-- The name of a mode. -/
def name : AddressMode → String
  | imm => "IMM"
  | imp => "IMP"
  | izx => "IZX"
  | izy => "IZY"
  | zpg => "ZPG"
  | zpx => "ZPX"
  | zpy => "ZPY"
  | rel => "REL"
  | abs => "ABS"
  | abx => "ABX"
  | aby => "ABY"
  | ind => "IND"
  | acc => "ACC"

/-- The mode of a name. -/
def ofName? (name : String) : Option AddressMode := all.find? (·.name == name)

@[simp]
theorem ofName?_name (mode : AddressMode) : ofName? mode.name = some mode := by
  cases mode <;> decide

end AddressMode

end Breadboard
