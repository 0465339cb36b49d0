import Breadboard.Files.Path
import Breadboard.Program.Options
import Breadboard.Text.Decimal

/-!
# The command line

The program opens the dashboard, lists serial ports, writes EPROM images or
writes the built-in table. Three options can be given before the subcommand as
well as behind it; what stands behind it counts. Environment variables stand
in for options that were not given. They are looked at for the words before
the subcommand and for those behind it separately, so that a variable that
cannot be used is refused unless its option is given in both places.
-/

namespace Breadboard

/-- **Overrides**: settings from the command line. They go before those of the
configuration file. -/
structure Overrides where
  rom : Option Path := none
  port : Option String := none
  baud : Option UInt32 := none
  table : Option Path := none
  deriving DecidableEq

/-- **Command** to carry out. -/
inductive Command where
  /-- Connect to the board and open the dashboard. -/
  | run (overrides : Overrides)
  /-- List the serial ports. -/
  | ports
  /-- Write the EPROM images of a table into a directory. -/
  | images (table out : Option Path)
  /-- Write the built-in table. -/
  | dump (out : Path)
  deriving DecidableEq

/-- **Invocation** of the program. -/
structure Invocation where
  debug : Bool
  verbose : Bool
  config : Option Path
  command : Command
  deriving DecidableEq

namespace Invocation

/-- The value of a decimal integer: digits, perhaps behind a sign. -/
def integer? (text : String) : Option Int :=
  match text.toList with
  | '-' :: cs => (Text.digits? cs).map fun n => -Int.ofNat n
  | cs => (Text.number? cs).map Int.ofNat

/-- The baud rate of a text. -/
def baud? (text : String) : Option UInt32 :=
  (integer? text).bind fun n =>
    if 0 ≤ n ∧ n < UInt32.size then some (UInt32.ofNat n.toNat) else none

/-- A flag. -/
def flag (name hint : String) : OptionSpec := ⟨name, none, fun _ => true, none, hint⟩

/-- An option that takes the path of something. -/
def path (name placeholder hint : String) (envName? : Option String) : OptionSpec :=
  ⟨name, some placeholder, (!·.isEmpty), envName?, hint⟩

/-- The options of every scope. -/
def everywhere : List OptionSpec := [
  flag "debug" "Log at debug level",
  flag "verbose" "Log at trace level",
  path "config" "FILE" "JSON configuration file" (some "L1_CONFIG")]

/-- The option that names a saved table. -/
def tableOption : OptionSpec := path "table" "FILE" "Saved opcode table" (some "L1_TABLE")

/-- The subcommands, what they are for and their own options. -/
def subcommands : List (String × String × List OptionSpec) := [
  ("run", "Connect to the board and open the dashboard", [
    path "rom" "PATH" "Program image served to the board" (some "L1_ROM"),
    ⟨"port", some "NAME", fun _ => true, some "L1_PORT", "Serial device the board is attached to"⟩,
    ⟨"baud", some "N", fun text => (baud? text).isSome, some "L1_BAUD", ""⟩,
    tableOption]),
  ("ports", "List the serial ports on this machine", []),
  ("export", "Write the three EPROM images", [
    tableOption,
    path "out" "DIR" "Output directory" none]),
  ("dump", "Write the built-in opcode table as JSON", [
    path "out" "FILE" "" none])]

/-- The command of a subcommand and its options. -/
def commandOf (name : String) (given : GivenOptions) : Command :=
  let path? (option : String) : Option Path := (given.lookup option).map Path.mk
  match name with
  | "run" => .run ⟨path? "rom", given.lookup "port", (given.lookup "baud").bind baud?,
      path? "table"⟩
  | "ports" => .ports
  | "export" => .images (path? "table") (path? "out")
  | _ => .dump ((path? "out").getD ⟨"microcode.json"⟩)

/-- What is asked by the words behind the subcommand `help`. -/
def helpAbout : List String → Interruption
  | [] => .help none
  | [name] =>
    if (subcommands.lookup name).isSome then .help (some name)
    else .misuse ("unrecognized subcommand '" ++ name ++ "'")
  | _ => .misuse "unexpected arguments"

/-- **The invocation that a command line asks for**, in an environment. -/
def parse (env : List (String × String)) (args : List String) :
    Except Interruption Invocation := do
  let (outer, rest?) ←
    OptionScope.scan ⟨everywhere, "help" :: subcommands.map (·.1), none⟩ [] args
  match rest? with
  | none => .error (.misuse "a subcommand is required")
  | some ("help", words) => .error (helpAbout words)
  | some (name, words) =>
    let own := ((subcommands.lookup name).map (·.2)).getD []
    let (inner, _) ← OptionScope.scan ⟨everywhere ++ own, [], some name⟩ [] words
    let innerEnv ← inner.standIns env (everywhere ++ own)
    let outerEnv ← outer.standIns env everywhere
    let given : GivenOptions := inner ++ outer ++ innerEnv ++ outerEnv
    return {
      debug := given.has "debug"
      verbose := given.has "verbose"
      config := (given.lookup "config").map Path.mk
      command := commandOf name given }

/-! ## Help -/

/-- An option in a help text. -/
def optionLine (spec : OptionSpec) : String :=
  let value := spec.placeholder.elim "" fun name => " <" ++ name ++ ">"
  let env := spec.envName?.elim "" fun name => " [env: " ++ name ++ "]"
  "      --" ++ spec.name ++ value ++ "  " ++ spec.hint ++ env ++ "\n"

/-- The help text about a subcommand, or about all. -/
def help (subject : Option String) : String :=
  let about := (subject.bind fun name => subcommands.lookup name).getD
    ("Microcode console for a breadboard 6502", everywhere)
  let commands := if subject.isSome then ""
    else "Commands:\n" ++ String.join (subcommands.map fun (name, hint, _) =>
      "  " ++ name ++ "  " ++ hint ++ "\n") ++ "\n"
  about.1 ++ "\n\n" ++ commands ++ "Options:\n" ++ String.join (about.2.map optionLine)

/-- The version text. -/
def version : String := "cli 0.1.0\n"

end Invocation

end Breadboard
