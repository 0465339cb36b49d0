import Breadboard.Files.Path
import Breadboard.Log.Event
import Breadboard.Memory.BreakPoints
import Breadboard.Memory.Store
import Breadboard.Text.Hex

/-!
# Host memory

The board has no memory of its own: the host keeps sixty-four kilobytes for it
and lends it one byte a tick. Over them lies a program image, which the
operator can edit and set break points in.

The image lies within the address space. This is part of the type, and an
image that would reach beyond its end is refused as a whole.
-/

namespace Breadboard

/-- **Host memory.** -/
structure Memory where
  /-- The bytes. -/
  store : Store
  /-- Where the program image begins. -/
  origin : UInt16
  /-- The length of the image. -/
  loaded : Nat
  /-- The image ends within the address space. -/
  fits : origin.toNat + loaded ≤ Store.size
  /-- Where the latest edit was and what it replaced, until it is undone. -/
  lastEdit : Option (UInt16 × UInt8)
  /-- The break points. -/
  breakPoints : BreakPoints
  /-- Where break points are saved. -/
  breakPointFile : Option Path

namespace Memory

/-- An address as four digits behind `0x`. -/
def showAddress (a : UInt16) : String := "0x" ++ Hex.padded 4 a.toNat

/-- Where the vectors of a fresh memory point. -/
def defaultVector : UInt16 := 0x0200

/-- The addresses of the interrupt and reset vectors. -/
def vectors : List UInt16 := [0xFFFA, 0xFFFC, 0xFFFE]

/-- A memory without an image: zeros, but for the vectors. -/
def fresh : Memory where
  store := vectors.foldl (fun s a =>
    s.overlay a [defaultVector.toUInt8, (defaultVector >>> 8).toUInt8])
    .zero
  origin := 0
  loaded := 0
  fits := by decide
  lastEdit := none
  breakPoints := .empty
  breakPointFile := none

/-- The byte at an address. -/
def read (m : Memory) (a : UInt16) : UInt8 := m.store.get a

/-- The memory with the byte at an address replaced. -/
def write (m : Memory) (a : UInt16) (v : UInt8) : Memory := { m with store := m.store.set a v }

/-- The first address behind the image. -/
def stop (m : Memory) : Nat := m.origin.toNat + m.loaded

/-- Whether an address lies in the image. -/
def covers (m : Memory) (a : UInt16) : Bool := m.origin.toNat ≤ a.toNat && a.toNat < m.stop

/-- **Lays an image over the memory.** One that does not fit is refused. The
break points stay. -/
def loadImage? (m : Memory) (image : List UInt8) (origin : UInt16) : Option Memory :=
  if fits : origin.toNat + image.length ≤ Store.size then
    some { m with
      store := m.store.overlay origin image
      origin := origin
      loaded := image.length
      fits := fits }
  else none

/-! ## Edits -/

/-- **An edit by the operator.** It can be undone until the next one. -/
def edit (m : Memory) (a : UInt16) (v : UInt8) : Memory :=
  { m.write a v with lastEdit := some (a, m.read a) }

/-- What is logged about an edit. -/
def editEvent (a : UInt16) (v : UInt8) : Event :=
  .info .memory "Memory edited" [("address", showAddress a), ("value", "0x" ++ Hex.byte v)]

/-- Takes the latest edit back, with the address it was at. -/
def undo? (m : Memory) : Option (Memory × UInt16) :=
  m.lastEdit.map fun (a, v) => ({ m.write a v with lastEdit := none }, a)

/-- What is logged about an edit taken back. -/
def undoEvent (a : UInt16) : Event :=
  .info .memory "Memory edit undone" [("address", showAddress a)]

/-! ## Dump -/

/-- The sixteen bytes from an address on, as a line. -/
def dumpRow (m : Memory) (base : UInt16) : String :=
  Hex.padded 4 base.toNat ++ ":" ++ String.join ((List.range 16).map fun i =>
    " " ++ Hex.byte (m.read (base + UInt16.ofNat i)))

/-- Lines of sixteen bytes, beginning with the line an address is in. -/
def dump (m : Memory) (a : UInt16) (rows : Nat) : List String :=
  (List.range rows).map fun row => m.dumpRow ((a &&& 0xFFF0) + UInt16.ofNat (16 * row))

end Memory

end Breadboard
