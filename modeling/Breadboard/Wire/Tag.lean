/-!
# Response tags

The board answers on the line that it also reports events on. An answer
therefore begins with a letter that says what it answers, its *tag*, and the
tag fixes how many payload bytes follow. The letters are those of the
requests.
-/

namespace Breadboard

/-- **Tag**: what a response answers. -/
inductive Tag where
  /-- The address bus. -/
  | address
  /-- The opcode register. -/
  | opCode
  /-- The status nibble. -/
  | status
  /-- The data bus. -/
  | data
  /-- The outcome of putting a byte on the data bus. -/
  | writeAck
  deriving DecidableEq, Repr

namespace Tag

/-- Every tag, in order. -/
def all : List Tag := [address, opCode, status, data, writeAck]

/-- Position of a tag in that order. -/
def index : Tag → Fin 5
  | address => 0
  | opCode => 1
  | status => 2
  | data => 3
  | writeAck => 4

/-- The name of a tag. -/
def name : Tag → String
  | address => "Address"
  | opCode => "OpCode"
  | status => "Status"
  | data => "Data"
  | writeAck => "WriteAck"

/-- The letter on the wire. -/
def letter : Tag → Char
  | address => 'a'
  | opCode => 'o'
  | status => 's'
  | data => 'd'
  | writeAck => 'D'

/-- The letter as a byte. -/
def byte (t : Tag) : UInt8 := UInt8.ofNat t.letter.toNat

/-- The tag that a byte stands for. -/
def ofByte? (b : UInt8) : Option Tag := all.find? (·.byte = b)

/-- How many payload bytes follow a tag. -/
def payloadLength : Tag → Nat
  | address => 2
  | _ => 1

@[simp]
theorem ofByte?_byte (t : Tag) : ofByte? t.byte = some t := by cases t <;> rfl

theorem ofByte?_eq_some_iff {b : UInt8} {t : Tag} : ofByte? b = some t ↔ b = t.byte := by
  constructor
  · intro h
    have hb : t.byte = b := by simpa using List.find?_some h
    exact hb.symm
  · rintro rfl
    simp

end Tag

end Breadboard
