import Breadboard.Instruction.Table
import Breadboard.Json.Decode

/-!
# Saved opcodes

An opcode is saved as a JSON object, its matrices as sixteen lists of eight
steps of two words. Reading one back is strict: a matrix of any other shape, a
word that uses more than the forty-eight lines, a number out of range or a
missing field is refused. The two flags of the skeleton came later and may be
missing.
-/

namespace Breadboard

namespace Matrix

/-- The saved form of a matrix. -/
def toJson (m : Matrix) : Json :=
  .array ((List.finRange 16).map fun flags =>
    .array ((List.finRange 8).map fun step =>
      .array (Phase.all.map fun phase => .nat (m.get ⟨flags, step, phase⟩).toNat)))

/-- A saved word. -/
def wordOfJson? (v : Json) : Option ControlWord :=
  (v.natBelow? (1 <<< Line.count)).map ControlWord.ofNat

/-- A list of exactly `n` items. -/
def exactly? {α : Type} (n : Nat) (item : Json → Option α) (v : Json) :
    Option (List α) := do
  let items ← v.list? item
  if items.length = n then some items else none

/-- **Reading a matrix.** -/
def ofJson? (v : Json) : Option Matrix := do
  let slots ← exactly? 16 (exactly? 8 (exactly? 2 wordOfJson?)) v
  let words := (slots.flatten.flatten).toArray
  if h : words.size = 256 then some ⟨⟨words, h⟩⟩ else none

end Matrix

namespace Opcode

/-- The names of an opcode's fields, in the order in which they are saved. -/
def fieldNames : List String :=
  ["name", "opCode", "syntax", "addrMode", "operands", "steps", "pageCross", "branchBit",
    "branchSet", "virtual", "lines", "presets", "usesAddressing", "usesTrailer"]

/-- **The saved form of an opcode.** -/
def toJson (op : Opcode) : Json :=
  .record [
    ("name", .text op.name),
    ("opCode", .nat op.code.toNat),
    ("syntax", .text op.assembly),
    ("addrMode", .text op.mode.name),
    ("operands", .nat op.operands.toNat),
    ("steps", .nat op.steps.toNat),
    ("pageCross", .bool op.pageCross),
    ("branchBit", .nat op.branchBit.toNat),
    ("branchSet", .bool op.branchSet),
    ("virtual", .bool op.isVirtual),
    ("lines", op.lines.toJson),
    ("presets", op.presets.toJson),
    ("usesAddressing", .bool op.usesAddressing),
    ("usesTrailer", .bool op.usesTrailer)]

/-- **Reading an opcode.** -/
def ofJson? (v : Json) : Option Opcode := do
  let fields ← v.record? fieldNames
  return {
    name := ← fields.field? "name" Json.text?
    code := ← fields.field? "opCode" Json.byte?
    assembly := ← fields.field? "syntax" Json.text?
    mode := ← fields.field? "addrMode" (Json.choice? AddressMode.ofName?)
    operands := ← fields.field? "operands" Json.byte?
    steps := ← fields.field? "steps" Json.byte?
    pageCross := ← fields.field? "pageCross" Json.bool?
    branchBit := ← fields.field? "branchBit" Json.byte?
    branchSet := ← fields.field? "branchSet" Json.bool?
    isVirtual := ← fields.field? "virtual" Json.bool?
    lines := ← fields.field? "lines" Matrix.ofJson?
    presets := ← fields.field? "presets" Matrix.ofJson?
    usesAddressing := ← fields.fieldOr? "usesAddressing" false Json.bool?
    usesTrailer := ← fields.fieldOr? "usesTrailer" false Json.bool? }

/-- The opcode a document holds. -/
def parse? (bytes : List UInt8) : Option Opcode := Json.parse? bytes >>= ofJson?

end Opcode

end Breadboard
