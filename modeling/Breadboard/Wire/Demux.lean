import Breadboard.Wire.HardwareEvent
import Breadboard.Wire.Tag

/-!
# Splitting the inbound stream

Responses and events arrive on one line. The demultiplexer takes it byte by
byte: a tag byte opens a response, the payload that follows is taken as it is,
and every other byte is an event or unknown. A byte that would be an event is
data while a payload is due.

The state is what has been received of an open response, so it never holds
more than its tag and, for an address, the low byte.
-/

namespace Breadboard

/-- **Response** of the board to a request. -/
inductive Response where
  | address (value : UInt16)
  | opCode (value : UInt8)
  | status (value : UInt8)
  | data (value : UInt8)
  /-- Zero acknowledges a byte put on the data bus, any other code refuses it. -/
  | writeAck (code : UInt8)
  deriving DecidableEq, Repr

namespace Response

/-- The tag in front of a response. -/
def tag : Response → Tag
  | address _ => .address
  | opCode _ => .opCode
  | status _ => .status
  | data _ => .data
  | writeAck _ => .writeAck

/-- What a response says, as a number. -/
def value : Response → UInt16
  | address v => v
  | opCode v | status v | data v | writeAck v => v.toUInt16

/-- The payload behind the tag. An address is sent low byte first. -/
def payload : Response → List UInt8
  | address v => [v.toUInt8, (v >>> 8).toUInt8]
  | opCode v | status v | data v | writeAck v => [v]

/-- The bytes of a response. -/
def wire (r : Response) : List UInt8 := r.tag.byte :: r.payload

/-- The response of a tag whose payload is one byte. For the address tag this
is the address below 256. -/
def ofByte : Tag → UInt8 → Response
  | .address, v => address v.toUInt16
  | .opCode, v => opCode v
  | .status, v => status v
  | .data, v => data v
  | .writeAck, v => writeAck v

/-- The address of its two bytes. -/
def ofAddressBytes (low high : UInt8) : Response :=
  address (low.toUInt16 ||| (high.toUInt16 <<< 8))

end Response

/-- **Inbound unit**: one response, one event, or a byte that is neither. -/
inductive Inbound where
  | response (r : Response)
  | event (e : HardwareEvent)
  | unknown (byte : UInt8)
  deriving DecidableEq, Repr

namespace Inbound

/-- The bytes of a unit. -/
def wire : Inbound → List UInt8
  | response r => r.wire
  | event e => [e.byte]
  | unknown byte => [byte]

end Inbound

/-- **Demultiplexer**: what has been received of an open response. -/
inductive Demux where
  /-- No response is open. -/
  | idle
  /-- A tag has arrived. -/
  | tagged (tag : Tag)
  /-- An address tag and the low byte have arrived. -/
  | halfAddress (low : UInt8)
  deriving DecidableEq, Repr

namespace Demux

/-- The bytes of the open response. -/
def pending : Demux → List UInt8
  | idle => []
  | tagged tag => [tag.byte]
  | halfAddress low => [Tag.address.byte, low]

/-- The unit that a byte is on its own. -/
def single (b : UInt8) : Inbound :=
  match HardwareEvent.ofByte? b with
  | some e => .event e
  | none => .unknown b

/-- **Takes a byte**, with the unit that it completes. -/
def push (d : Demux) (b : UInt8) : Demux × Option Inbound :=
  match d with
  | idle =>
    match Tag.ofByte? b with
    | some tag => (tagged tag, none)
    | none => (idle, some (single b))
  | tagged .address => (halfAddress b, none)
  | tagged tag => (idle, some (.response (.ofByte tag b)))
  | halfAddress low => (idle, some (.response (.ofAddressBytes low b)))

/-- Takes bytes in order, with the units that they complete. -/
def pushAll (d : Demux) : List UInt8 → Demux × List Inbound
  | [] => (d, [])
  | b :: rest =>
    let (d, unit?) := d.push b
    let (d, units) := d.pushAll rest
    (d, unit?.toList ++ units)

end Demux

end Breadboard
