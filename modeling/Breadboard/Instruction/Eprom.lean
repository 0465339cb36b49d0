import Breadboard.Instruction.Table

/-!
# EPROM images

The microcode is burnt into three pairs of EPROMs, each pair holding sixteen of
the forty-eight lines. An address is made of the opcode, the step, the phase
and the flags, from most to least significant, and holds two bytes, the higher
lines first. The sockets are wired the wrong way round, so the bits of every
byte are reversed.
-/

namespace Breadboard.OpcodeTable

/-- The bits of a byte in reverse. -/
def reverseBits (b : UInt8) : UInt8 := UInt8.ofBitVec b.toBitVec.reverse

/-- The two bytes a pair of EPROMs holds for a word, `shift` being the position
of the pair's lowest line. -/
def pairBytes (shift : Nat) (w : ControlWord) : List UInt8 :=
  [reverseBits (UInt8.ofBitVec (w.bits.extractLsb' (shift + 8) 8)),
    reverseBits (UInt8.ofBitVec (w.bits.extractLsb' shift 8))]

/-- The words of one opcode in the order of their EPROM addresses. -/
def addressed (op : Opcode) : List ControlWord :=
  (List.finRange 8).flatMap fun step =>
    Phase.all.flatMap fun phase =>
      (List.finRange 16).map fun flags => op.word ⟨flags, step, phase⟩

/-- The positions of the lowest line of each pair, highest pair first. -/
def pairShifts : Vector Nat 3 := #v[32, 16, 0]

/-- **The image of a pair of EPROMs.** -/
def epromImage (t : OpcodeTable) (pair : Fin 3) : List UInt8 :=
  t.entries.toList.flatMap fun op => (addressed op).flatMap (pairBytes pairShifts[pair])

/-- The file an image is exported to. -/
def imageName (pair : Fin 3) : String := "microcode" ++ toString pair.val ++ ".bin"

end Breadboard.OpcodeTable
