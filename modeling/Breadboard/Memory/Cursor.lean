import Breadboard.Editing.Editor
import Breadboard.Text.Hex

/-!
# The memory cursor

The memory page shows one block of 256 bytes. Its cursor moves within the
block and takes the two digits of a new byte; while digits are being typed the
cursor holds them.
-/

namespace Breadboard

/-- **Memory cursor.** -/
structure MemoryCursor where
  /-- Where it is. -/
  address : UInt16
  /-- What has been typed of a new byte, if one is being typed. -/
  input : Option (List Char)
  deriving DecidableEq

namespace MemoryCursor

/-- A cursor at an address, with nothing being typed. -/
def start (a : UInt16) : MemoryCursor := ⟨a, none⟩

/-- The first address of the block on show. -/
def base (c : MemoryCursor) : UInt16 := c.address &&& 0xFF00

/-- The row within the block. -/
def row (c : MemoryCursor) : UInt16 := (c.address >>> 4) &&& 0x0F

/-- The column within the block. -/
def column (c : MemoryCursor) : UInt16 := c.address &&& 0x0F

/-- **Moves the cursor** by one byte or one row, but not out of the block. -/
def step? (c : MemoryCursor) (d : Direction) : Option MemoryCursor :=
  match d with
  | .up => if 0 < c.row then some { c with address := c.address - 0x10 } else none
  | .down => if c.row < 15 then some { c with address := c.address + 0x10 } else none
  | .left => if 0 < c.column then some { c with address := c.address - 1 } else none
  | .right => if c.column < 15 then some { c with address := c.address + 1 } else none

/-- Begins to type a byte. -/
def openInput (c : MemoryCursor) : MemoryCursor := { c with input := some [] }

/-- Gives up what was typed. -/
def closeInput (c : MemoryCursor) : MemoryCursor := { c with input := none }

/-- The byte that typed characters write: digits, behind a plus sign or not. -/
def inputByte? (typed : List Char) : Option UInt8 :=
  let digits := match typed with
    | '+' :: rest@(_ :: _) => rest
    | digits => digits
  (Hex.number? digits).bind fun n => if n < 256 then some (UInt8.ofNat n) else none

/-- **Types a character.** Once what was typed takes two bytes, the input is
closed and gives a byte if it is one. -/
def type (c : MemoryCursor) (typed : Char) : MemoryCursor × Option UInt8 :=
  match c.input with
  | none => (c, none)
  | some digits =>
    let digits := digits ++ [typed.toUpper]
    if (String.ofList digits).utf8ByteSize < 2 then ({ c with input := some digits }, none)
    else (c.closeInput, inputByte? digits)

end MemoryCursor

end Breadboard
