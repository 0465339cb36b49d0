import Breadboard.Files.Path

/-!
# Configuration

The settings of a session: the serial line, the delays and the files. Every
setting has a default, so a configuration only says what differs from it. Some
values are possible to write down but not to work with: a character has five
to eight data bits, and three of the delays must not be zero.
-/

namespace Breadboard

/-- **Parity** of the serial line. -/
inductive Parity where
  | none
  | odd
  | even
  deriving DecidableEq, Repr

/-- **Stop bits** of the serial line. -/
inductive StopBits where
  | one
  | two
  deriving DecidableEq, Repr

/-- **Serial settings.** -/
structure SerialSettings where
  /-- The device. The empty name means that there is none. -/
  portName : String := ""
  baudRate : UInt32 := 9600
  dataBits : UInt8 := 8
  stopBits : StopBits := .one
  parity : Parity := .none
  deriving DecidableEq

/-- **Delays**, in milliseconds. -/
structure Delays where
  /-- How long a request waits for its response. -/
  response : UInt64 := 5000
  /-- How long the board takes to come out of its reset. -/
  connect : UInt64 := 1000
  /-- How long driven lines take to settle within a tick. -/
  tick : UInt64 := 50
  /-- The time between attempts to reconnect. -/
  reconnect : UInt64 := 200
  /-- How long a read blocks at most. -/
  poll : UInt64 := 50
  deriving DecidableEq

/-- **Configuration.** -/
structure Config where
  serial : SerialSettings := {}
  delays : Delays := {}
  /-- The program, if there is one. -/
  romFile : Option Path := none
  /-- Where the program begins. -/
  romOrigin : UInt16 := 0x8000
  /-- The saved opcode table. -/
  tableFile : Path := ⟨"microcode.json"⟩
  /-- Where EPROM images go. -/
  exportDir : Path := ⟨"."⟩
  /-- The log. -/
  logFile : Path := ⟨"logic-ctl.log"⟩
  deriving DecidableEq

/-- **Flaw**: why a configuration cannot be worked with. -/
inductive ConfigFlaw where
  /-- A number of data bits no character has. -/
  | dataBits (count : UInt8)
  /-- A delay, by its name, that must not be zero. -/
  | zeroDelay (name : String)
  deriving DecidableEq

namespace ConfigFlaw

/-- The text of a flaw. -/
def message : ConfigFlaw → String
  | dataBits count => "Unsupported data bits: " ++ toString count.toNat ++ " (expected 5-8)"
  | zeroDelay name => name ++ " must be greater than zero"

end ConfigFlaw

namespace Config

/-- The first flaw of a configuration: the data bits, then the delays. -/
def flaw? (c : Config) : Option ConfigFlaw :=
  if c.serial.dataBits < 5 ∨ 8 < c.serial.dataBits then some (.dataBits c.serial.dataBits)
  else if c.delays.response = 0 then some (.zeroDelay "response_timeout_ms")
  else if c.delays.reconnect = 0 then some (.zeroDelay "reconnect_interval_ms")
  else if c.delays.poll = 0 then some (.zeroDelay "read_poll_ms")
  else none

end Config

end Breadboard
