import Breadboard.Files.FileTree
import Breadboard.Text.Hex

/-!
# What can go wrong on the link

None of these failures ends a session: the work in hand is given up, pending
responses are dropped and the next clock edge tries again.
-/

namespace Breadboard

/-- **Line failure**: why bytes could not be read or written. -/
inductive LineFailure where
  | notFound
  | permissionDenied
  | brokenPipe
  | wouldBlock
  | timedOut
  | interrupted
  | unspecified
  /-- Any other cause, by its text. -/
  | other (text : String)
  deriving DecidableEq, Repr

namespace LineFailure

/-- The text of a failure. -/
def message : LineFailure → String
  | notFound => "entity not found"
  | permissionDenied => "permission denied"
  | brokenPipe => "broken pipe"
  | wouldBlock => "operation would block"
  | timedOut => "timed out"
  | interrupted => "operation interrupted"
  | unspecified => "other error"
  | other text => text

/-- Whether a read that failed so can be tried again. Any other failure ends
the stream. -/
def retries : LineFailure → Bool
  | wouldBlock | timedOut | interrupted => true
  | _ => false

end LineFailure

/-- **Link error**: why a request was not answered, or a port not opened. The
letters are those of response tags. -/
inductive LinkError where
  | notConnected
  | timeout (letter : Char) (milliseconds : Nat)
  | closed (letter : Char)
  | refused (letter : Char) (code : UInt8)
  | noPort
  | io (cause : LineFailure)
  | port (cause : String)
  deriving DecidableEq, Repr

namespace LinkError

/-- The text of an error. -/
def message : LinkError → String
  | notConnected => "Serial port is not connected"
  | timeout letter milliseconds =>
    "No '" ++ letter.toString ++ "' response within " ++ toString milliseconds ++ "ms"
  | closed letter => "Response channel for '" ++ letter.toString ++ "' closed"
  | refused letter code =>
    "Board rejected '" ++ letter.toString ++ "' with code 0x" ++ Hex.byte code
  | noPort => "No serial port configured"
  | io cause => "Serial I/O failed: " ++ cause.message
  | port cause => "Serial port error: " ++ cause

/-- What opening a port says when there is no device of that name: what opening
a file says where there are none. The empty name stands for no port at all. -/
def ofAbsentDevice (portName : String) : LinkError :=
  if portName.isEmpty then noPort
  else
    match FileTree.empty.read ⟨portName⟩ with
    | .error .nulInName => port "Invalid argument"
    | .error cause => port cause.reason
    | .ok _ => port FileError.noDevice.reason

end LinkError

end Breadboard
