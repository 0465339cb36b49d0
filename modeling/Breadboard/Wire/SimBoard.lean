import Breadboard.Wire.Demux
import Breadboard.Wire.Request

/-!
# A simulated board

The board's side of the wire: it collects bytes, takes a frame as soon as it
is complete, notes what was asked and answers from a set of fixed values.
Bytes that begin no frame are skipped. A mute board notes everything and
answers nothing.
-/

namespace Breadboard

namespace Request

/-- The request whose frame is a letter and nothing else but its end. -/
def ofLetter? (letter : UInt8) : Option Request :=
  [address, opCode, status, data].find? fun r => UInt8.ofNat r.letter.toNat = letter

/-- Whether a byte begins a frame. -/
def begins (letter : UInt8) : Bool :=
  (ofLetter? letter).isSome || letter = 0x44 || letter = 0x4C

/-- The request of the frame that some bytes begin with, if it is complete, and
the bytes behind it. A frame is told by its letter; the byte that ends it is
not looked at. -/
def take? (bytes : List UInt8) : Option (Request × List UInt8) :=
  match bytes with
  | [] => none
  | letter :: rest =>
    match ofLetter? letter with
    | some r =>
      match rest with
      | _ :: more => some (r, more)
      | _ => none
    | none =>
      if letter = 0x44 then
        match rest with
        | byte :: _ :: more => some (write byte, more)
        | _ => none
      else if letter = 0x4C then
        match rest with
        | b0 :: b1 :: b2 :: b3 :: b4 :: b5 :: _ :: more =>
          some (drive (.ofWire [b0, b1, b2, b3, b4, b5]), more)
        | _ => none
      else none

theorem length_take?_lt {bytes rest : List UInt8} {r : Request}
    (h : take? bytes = some (r, rest)) : rest.length < bytes.length := by
  unfold take? at h
  repeat' split at h
  all_goals
    simp only [Option.some.injEq, Prod.mk.injEq, reduceCtorEq] at h
  all_goals
    obtain ⟨-, rfl⟩ := h
    simp only [List.length_cons]
    omega

end Request

/-- **Board values**: what a board answers. -/
structure BoardValues where
  status : UInt8
  opCode : UInt8
  address : UInt16
  data : UInt8
  /-- The code that answers a write. -/
  ack : UInt8
  /-- Whether nothing is answered at all. -/
  mute : Bool
  deriving DecidableEq

/-- **Simulated board.** -/
structure SimBoard where
  /-- What it answers. -/
  values : BoardValues
  /-- Bytes of a frame that is not complete yet. -/
  inbound : List UInt8
  /-- The requests received, oldest first. -/
  requests : List Request

namespace SimBoard

/-- A board that has not been asked anything and answers zeros. -/
def fresh : SimBoard := ⟨⟨0, 0, 0, 0, 0, false⟩, [], []⟩

/-- The control words received. -/
def driven (b : SimBoard) : List ControlWord :=
  b.requests.filterMap fun
    | .drive word => some word
    | _ => none

/-- The bytes put on the data bus. -/
def written (b : SimBoard) : List UInt8 :=
  b.requests.filterMap fun
    | .write byte => some byte
    | _ => none

/-- The answer to a request of a board that is not mute. -/
def response? (v : BoardValues) : Request → Option Response
  | .address => some (.address v.address)
  | .opCode => some (.opCode v.opCode)
  | .status => some (.status v.status)
  | .data => some (.data v.data)
  | .write _ => some (.writeAck v.ack)
  | .drive _ => none

/-- Notes a request, with the answer to it. -/
def answer (b : SimBoard) (r : Request) : SimBoard × Option Response :=
  ({ b with requests := b.requests ++ [r] },
    if b.values.mute then none else response? b.values r)

/-- The bytes collected, from the first that begins a frame on. -/
def aligned (b : SimBoard) : List UInt8 := b.inbound.dropWhile (!Request.begins ·)

theorem length_aligned_le (b : SimBoard) : b.aligned.length ≤ b.inbound.length :=
  (List.dropWhile_suffix _).length_le

/-- Answers all complete frames among the bytes collected. -/
def serve (b : SimBoard) : SimBoard × List Response :=
  match _taken : Request.take? b.aligned with
  | none => ({ b with inbound := b.aligned }, [])
  | some (r, rest) =>
    let (b', response?) := b.answer r
    let (b'', more) := SimBoard.serve { b' with inbound := rest }
    (b'', response?.toList ++ more)
termination_by b.inbound.length
decreasing_by
  exact Nat.lt_of_lt_of_le (Request.length_take?_lt _taken) b.length_aligned_le

/-- **Receives** bytes, however the stream was cut, and answers what has become
complete. -/
def receive (b : SimBoard) (bytes : List UInt8) : SimBoard × List Response :=
  { b with inbound := b.inbound ++ bytes }.serve

end SimBoard

end Breadboard
