import Breadboard.Control.Word
import Breadboard.Text.Hex
import Breadboard.Wire.Tag

/-!
# Requests

What the host can ask of the board, and the frame that asks it: a letter, the
bytes that go with it and a newline. The letter fixes the length of its frame,
so frames need no separator between them; the newline is for human readers.

Of a control word only the six bytes that drive lines are sent, most
significant first.
-/

namespace Breadboard

/-- **Request** to the board. -/
inductive Request where
  /-- Report the address bus. -/
  | address
  /-- Report the opcode register. -/
  | opCode
  /-- Report the status nibble. -/
  | status
  /-- Report the data bus. -/
  | data
  /-- Put a byte on the data bus. -/
  | write (byte : UInt8)
  /-- Drive the control lines. The board does not answer. -/
  | drive (word : ControlWord)
  deriving DecidableEq

namespace ControlWord

/-- The six bytes that drive lines, most significant first. -/
def wire (w : ControlWord) : List UInt8 :=
  [40, 32, 24, 16, 8, 0].map fun shift => UInt8.ofNat (w.toNat >>> shift)

/-- The word of its wire bytes. -/
def ofWire (bytes : List UInt8) : ControlWord :=
  .ofNat (bytes.foldl (fun acc b => acc * 256 + b.toNat) 0)

/-- A word as the names of its lines, bit 0 first. Bits beyond the lines are
shown together as one number. -/
def listing (w : ControlWord) : String :=
  let names := w.lines.reverse.map (·.mnemonic .phi1)
  let rest := w.toNat >>> Line.count <<< Line.count
  let shown := if rest = 0 then names else names ++ ["0x" ++ Hex.lower rest]
  if shown.isEmpty then "0x0" else " | ".intercalate shown

end ControlWord

namespace Request

/-- The letter of a request. -/
def letter : Request → Char
  | address => 'a'
  | opCode => 'o'
  | status => 's'
  | data => 'd'
  | write _ => 'D'
  | drive _ => 'L'

/-- The bytes that go with the letter. -/
def payload : Request → List UInt8
  | write byte => [byte]
  | drive word => word.wire
  | _ => []

/-- **The frame** of a request. -/
def frame (r : Request) : List UInt8 :=
  UInt8.ofNat r.letter.toNat :: r.payload ++ [0x0A]

/-- The tag of the response, if the board answers at all. -/
def response? : Request → Option Tag
  | address => some .address
  | opCode => some .opCode
  | status => some .status
  | data => some .data
  | write _ => some .writeAck
  | drive _ => none

/-- A request in words. -/
def describe : Request → String
  | address => "Address"
  | opCode => "OpCode"
  | status => "Status"
  | data => "Data"
  | write byte => "WriteData(" ++ toString byte.toNat ++ ")"
  | drive word => "SetLines(ControlWord(" ++ word.listing ++ "))"

end Request

end Breadboard
