import Breadboard.Instruction.TableFile
import Breadboard.Log.Filter
import Breadboard.Memory.RomFile
import Breadboard.Program.Arguments
import Breadboard.Settings.ConfigFile

/-!
# Carrying out a command

An invocation ends with lines on the standard output, or with a failure. A
failure is a chain of causes: what could not be done, why, and why that in
turn. A session on the dashboard needs a terminal; everything up to taking
hold of it is decided here.
-/

namespace Breadboard

/-- **Failure**: what could not be done, and the causes, each the cause of the
one before it. -/
structure Failure where
  what : String
  causes : List String := []
  deriving DecidableEq

namespace Failure

/-- A text whose lines after the first are indented. -/
def indented (width : Nat) (s : String) : String :=
  String.ofList (s.toList.flatMap fun c =>
    if c = '\n' then c :: List.replicate width ' ' else [c])

/-- The text of a failure. Several causes are numbered. -/
def message (f : Failure) : String :=
  let causes := match f.causes with
    | [] => ""
    | [cause] => "\n\nCaused by:\n    " ++ indented 4 cause
    | causes => "\n\nCaused by:" ++ String.join (causes.mapIdx fun i cause =>
        "\n    " ++ toString i ++ ": " ++ indented 7 cause)
  "Error: " ++ f.what ++ causes

end Failure

/-- A table error and what caused it. -/
def TableError.chain (e : TableError) : List String :=
  e.message :: match e with
    | .file _ cause => [cause.message]
    | _ => []

/-- A memory error and what caused it. -/
def MemoryError.chain (e : MemoryError) : List String :=
  e.message :: match e with
    | .program _ cause | .breakPoints _ cause => [cause.message]
    | .tooLarge .. => []

/-- A configuration error and what caused it. -/
def ConfigError.chain (e : ConfigError) : List String :=
  e.message :: match e with
    | .file _ cause => [cause.message]
    | _ => []

namespace Overrides

/-- **The settings that count**: those of the command line, then those of the
configuration. -/
def apply (o : Overrides) (c : Config) : Config :=
  { c with
    romFile := o.rom.orElse fun _ => c.romFile
    serial := { c.serial with
      portName := o.port.getD c.serial.portName
      baudRate := o.baud.getD c.serial.baudRate }
    tableFile := o.table.getD c.tableFile }

end Overrides

namespace Invocation

variable {m : Type → Type} [Monad m] [MonadFiles m] [MonadLog m]

/-- The lines a command writes, or its failure. -/
abbrev Result := Except Failure (List String)

/-- Writes the built-in table. -/
def dump (out : Path) : m Result := do
  match ← OpcodeTable.builtin.save out with
  | .error e => return .error ⟨"Failed to write " ++ out.text, e.chain⟩
  | .ok () => return .ok [out.text]

/-- The table whose images are written. One that was asked for by name has to
be there. -/
def exportTable (config : Config) : Option Path → m (Except Failure OpcodeTable)
  | none => .ok <$> OpcodeTable.loadOrBuiltin config.tableFile
  | some path => do
    match ← OpcodeTable.load path with
    | .error e => return .error ⟨"Failed to load opcode table " ++ path.text, e.chain⟩
    | .ok t => return .ok t

/-- Writes EPROM images. -/
def exportImages (config : Config) (table out : Option Path) : m Result := do
  match ← exportTable config table with
  | .error f => return .error f
  | .ok t =>
    let dir := out.getD config.exportDir
    match ← MonadFiles.makeDirectories dir with
    | .error cause => return .error ⟨"Failed to create " ++ dir.text, [cause.message]⟩
    | .ok () =>
      match ← t.exportEproms dir with
      | .error e => return .error ⟨"Failed to export EPROM images", e.chain⟩
      | .ok paths => return .ok (paths.map (·.text))

/-- Opens a session on the dashboard, as far as that goes without a terminal. -/
def session (config : Config) : m Result := do
  match config.romFile with
  | none => return .error ⟨"No ROM file given (use --rom or set rom_file in the config)", []⟩
  | some rom =>
    if config.serial.portName.isEmpty then
      return .error
        ⟨"No serial port configured (use --port or set serial.port_name in the config)", []⟩
    match ← MonadFiles.touchFile config.logFile with
    | .error cause =>
      return .error ⟨"Failed to open log file " ++ config.logFile.text, [cause.message]⟩
    | .ok () =>
      match ← Memory.fresh.loadProgram rom config.romOrigin with
      | .error e => return .error ⟨"Failed to load ROM " ++ rom.text, e.chain⟩
      | .ok (memory, _) =>
        let table ← OpcodeTable.loadOrBuiltin config.tableFile
        if let .error e ← memory.loadBreakPoints table then
          MonadLog.log (.warn .commandLine "Break points not loaded" [("err", e.message)])
        return .error ⟨"Terminal unavailable", [FileError.noDevice.message]⟩

/-- **Carries out an invocation** on a machine with the given serial ports. -/
def execute (ports : List String) (i : Invocation) : m Result := do
  match ← Config.loadOrDefault i.config with
  | .error e => return .error ⟨"Failed to load configuration", e.chain⟩
  | .ok config =>
    match i.command with
    | .run overrides =>
      let config := overrides.apply config
      match config.flaw? with
      | some flaw => return .error ⟨"Invalid configuration", [flaw.message]⟩
      | none => session config
    | .ports => return .ok (if ports.isEmpty then ["No serial ports found"] else ports)
    | .images table out => exportImages config table out
    | .dump out => dump out

/-- The filter for what a run logs. Nothing is logged before the arguments are
understood. -/
def logFilter (env : List (String × String)) (args : List String) : Filter :=
  match parse env args with
  | .error _ => .nothing
  | .ok i => (Filter.ofText? (LogControl.directive i.debug i.verbose)).getD (.upTo .error)

/-! ## What a run leaves -/

/-- **Outcome** of a run of the program. -/
structure Outcome where
  /-- The exit code. -/
  code : UInt8
  /-- The standard output. -/
  output : String
  /-- What is said about a failure. -/
  complaint : Option String

/-- **A run of the program.** -/
def perform (ports : List String) (env : List (String × String)) (args : List String) :
    m Outcome := do
  match parse env args with
  | .error (.help subject) => return ⟨0, help subject, none⟩
  | .error .version => return ⟨0, version, none⟩
  | .error (.misuse reason) => return ⟨2, "", some ("error: " ++ reason)⟩
  | .ok i =>
    match ← execute ports i with
    | .ok lines => return ⟨0, String.join (lines.map (· ++ "\n")), none⟩
    | .error f => return ⟨1, "", some f.message⟩

end Invocation

end Breadboard
