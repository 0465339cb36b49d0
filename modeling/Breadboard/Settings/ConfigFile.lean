import Breadboard.Files.Session
import Breadboard.Json.Decode
import Breadboard.Settings.Config

/-!
# Configuration files

A configuration is read from a JSON object. Keys that are absent keep their
defaults, unknown keys are ignored, and what is present has to have its type.
-/

namespace Breadboard

/-- **Why a configuration file cannot be used.** -/
inductive ConfigError where
  /-- The file cannot be read. -/
  | file (path : Path) (cause : FileError)
  /-- The file holds no configuration. -/
  | malformed (path : Path)
  /-- The configuration cannot be worked with. -/
  | flawed (flaw : ConfigFlaw)
  deriving DecidableEq

namespace ConfigError

/-- The text of an error. -/
def message : ConfigError → String
  | file path cause => "Failed to read config file " ++ path.text ++ ": " ++ cause.message
  | malformed path => "Malformed config file " ++ path.text ++ ":"
  | flawed flaw => flaw.message

end ConfigError

namespace Parity

/-- The name of a parity in a file. -/
def name : Parity → String
  | none => "none"
  | odd => "odd"
  | even => "even"

/-- The parity of a name. -/
def ofName? (name : String) : Option Parity := [none, odd, even].find? (·.name == name)

end Parity

namespace StopBits

/-- The name of a number of stop bits in a file. -/
def name : StopBits → String
  | one => "one"
  | two => "two"

/-- The stop bits of a name. -/
def ofName? (name : String) : Option StopBits := [one, two].find? (·.name == name)

end StopBits

namespace SerialSettings

/-- The names of the fields, in the order in which they are saved. -/
def fieldNames : List String := ["port_name", "baud_rate", "data_bits", "stop_bits", "parity"]

/-- The saved form. -/
def toJson (s : SerialSettings) : Json :=
  .record [
    ("port_name", .text s.portName),
    ("baud_rate", .nat s.baudRate.toNat),
    ("data_bits", .nat s.dataBits.toNat),
    ("stop_bits", .text s.stopBits.name),
    ("parity", .text s.parity.name)]

/-- Reads serial settings. -/
def ofJson? (v : Json) : Option SerialSettings := do
  let absent : SerialSettings := {}
  let fields ← v.record? fieldNames
  return {
    portName := ← fields.fieldOr? "port_name" absent.portName Json.text?
    baudRate := ← fields.fieldOr? "baud_rate" absent.baudRate fun v =>
      (v.natBelow? UInt32.size).map UInt32.ofNat
    dataBits := ← fields.fieldOr? "data_bits" absent.dataBits Json.byte?
    stopBits := ← fields.fieldOr? "stop_bits" absent.stopBits (Json.choice? StopBits.ofName?)
    parity := ← fields.fieldOr? "parity" absent.parity (Json.choice? Parity.ofName?) }

end SerialSettings

namespace Delays

/-- The names of the fields, in the order in which they are saved. -/
def fieldNames : List String :=
  ["response_timeout_ms", "connect_settle_ms", "tick_settle_ms", "reconnect_interval_ms",
    "read_poll_ms"]

/-- The delays in that order. -/
def toList (d : Delays) : List UInt64 := [d.response, d.connect, d.tick, d.reconnect, d.poll]

/-- The saved form. -/
def toJson (d : Delays) : Json :=
  .record (fieldNames.zip (d.toList.map fun ms => .nat ms.toNat))

/-- Reads delays. -/
def ofJson? (v : Json) : Option Delays := do
  let absent : Delays := {}
  let fields ← v.record? fieldNames
  let milliseconds? (v : Json) : Option UInt64 :=
    (v.natBelow? UInt64.size).map UInt64.ofNat
  return {
    response := ← fields.fieldOr? "response_timeout_ms" absent.response milliseconds?
    connect := ← fields.fieldOr? "connect_settle_ms" absent.connect milliseconds?
    tick := ← fields.fieldOr? "tick_settle_ms" absent.tick milliseconds?
    reconnect := ← fields.fieldOr? "reconnect_interval_ms" absent.reconnect milliseconds?
    poll := ← fields.fieldOr? "read_poll_ms" absent.poll milliseconds? }

end Delays

namespace Config

/-- The names of the fields, in the order in which they are saved. -/
def fieldNames : List String :=
  ["serial", "timing", "rom_file", "rom_origin", "microcode_file", "export_dir", "log_file"]

/-- The saved form. -/
def toJson (c : Config) : Json :=
  .record [
    ("serial", c.serial.toJson),
    ("timing", c.delays.toJson),
    ("rom_file", c.romFile.elim .null fun path => .text path.text),
    ("rom_origin", .nat c.romOrigin.toNat),
    ("microcode_file", .text c.tableFile.text),
    ("export_dir", .text c.exportDir.text),
    ("log_file", .text c.logFile.text)]

/-- Reads a configuration. -/
def ofJson? (v : Json) : Option Config := do
  let absent : Config := {}
  let fields ← v.record? fieldNames
  let path? (v : Json) : Option Path := v.text?.map Path.mk
  return {
    serial := ← fields.fieldOr? "serial" absent.serial SerialSettings.ofJson?
    delays := ← fields.fieldOr? "timing" absent.delays Delays.ofJson?
    romFile := ← fields.fieldOr? "rom_file" absent.romFile (Json.nullable? path?)
    romOrigin := ← fields.fieldOr? "rom_origin" absent.romOrigin fun v =>
      (v.natBelow? UInt16.size).map UInt16.ofNat
    tableFile := ← fields.fieldOr? "microcode_file" absent.tableFile path?
    exportDir := ← fields.fieldOr? "export_dir" absent.exportDir path?
    logFile := ← fields.fieldOr? "log_file" absent.logFile path? }

/-- The configuration that the bytes of a file hold. They have to be text
before they can be a document. -/
def parse (path : Path) (bytes : List UInt8) : Except ConfigError Config :=
  match Text.ofUtf8? bytes with
  | none => .error (.file path .invalidText)
  | some _ =>
    match Json.parse? bytes >>= ofJson? with
    | none => .error (.malformed path)
    | some c => c.flaw?.elim (.ok c) fun flaw => .error (.flawed flaw)

variable {m : Type → Type} [Monad m] [MonadFiles m]

/-- **Loading a configuration.** -/
def load (path : Path) : m (Except ConfigError Config) := do
  match ← MonadFiles.readFile path with
  | .error cause => return .error (.file path cause)
  | .ok bytes => return parse path bytes

/-- Loads a configuration, or takes the defaults if no file is given. -/
def loadOrDefault : Option Path → m (Except ConfigError Config)
  | none => return .ok {}
  | some path => load path

end Config

end Breadboard
