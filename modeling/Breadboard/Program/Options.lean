/-!
# Command line options

A command line is read from left to right. Options begin with two dashes and
stand at most once; some take a value, which follows them or is joined by an
equals sign. The first word that is no option names a subcommand, whose own
words follow. The first thing that cannot be read ends the reading, and so
does a question for help, whichever comes first.
-/

namespace Breadboard

/-- **Option**: its name and what it takes. -/
structure OptionSpec where
  /-- The name behind the two dashes. -/
  name : String
  /-- The placeholder of its value, for an option that takes one. -/
  placeholder : Option String
  /-- Whether a value can be used. -/
  accepts : String → Bool
  /-- The environment variable that stands in for the option. -/
  envName? : Option String
  /-- What the option is for. -/
  hint : String

/-- **Interruption**: why a command line gives nothing to carry out. -/
inductive Interruption where
  /-- Help was asked for, about a subcommand or about all. -/
  | help (subcommand : Option String)
  /-- The version was asked for. -/
  | version
  /-- The command line cannot be read. -/
  | misuse (reason : String)
  deriving DecidableEq

/-- **Given options**: names and values, the last one first. A flag has the
empty value. -/
abbrev GivenOptions := List (String × String)

namespace GivenOptions

/-- Whether a flag was given. -/
def has (g : GivenOptions) (name : String) : Bool := (g.lookup name).isSome

/-- Adds an option, which must not stand twice and whose value must be one that
can be used. -/
def add (g : GivenOptions) (spec : OptionSpec) (value : String) :
    Except Interruption GivenOptions :=
  if g.has spec.name then
    .error (.misuse ("--" ++ spec.name ++ " cannot be used multiple times"))
  else if spec.accepts value then .ok ((spec.name, value) :: g)
  else .error (.misuse ("invalid value for --" ++ spec.name))

/-- **What the environment says** about options that were not given. Each value
must be one that can be used. -/
def standIns (g : GivenOptions) (env : List (String × String)) :
    List OptionSpec → Except Interruption GivenOptions
  | [] => .ok []
  | spec :: rest =>
    match spec.envName?.bind fun name => env.lookup name with
    | some value =>
      if g.has spec.name then g.standIns env rest
      else (g.standIns env rest).bind (·.add spec value)
    | none => g.standIns env rest

end GivenOptions

/-- **Word** of a command line. -/
inductive Word where
  /-- Two dashes alone: all that follows is no option. -/
  | dashes
  /-- An option with two dashes, and the value joined to it. -/
  | long (name : String) (value? : Option String)
  /-- Options with one dash. -/
  | short (letters : List Char)
  /-- Anything else. -/
  | plain (text : String)
  deriving DecidableEq

namespace Word

/-- What a word is. -/
def ofText (text : String) : Word :=
  match text.toList with
  | ['-', '-'] => .dashes
  | '-' :: '-' :: rest =>
    let name := rest.takeWhile (· != '=')
    match rest.drop name.length with
    | '=' :: value => long (String.ofList name) (some (String.ofList value))
    | _ => long (String.ofList name) none
  | '-' :: letter :: rest => short (letter :: rest)
  | _ => plain text

end Word

/-- **Scope** of options: the program itself, or one of its subcommands. -/
structure OptionScope where
  /-- The options. -/
  specs : List OptionSpec
  /-- The names of the subcommands. -/
  subcommands : List String
  /-- The subcommand, if the scope is that of one. -/
  subject : Option String

namespace OptionScope

/-- A refusal. -/
def refuse {α : Type} (text : String) : Except Interruption α :=
  .error (.misuse ("unexpected argument '" ++ text ++ "'"))

/-- What a word stands for that asks about the program: the help option, by
its name or its letter, and outside of subcommands the version option. -/
def question? (scope : OptionScope) : Word → Option Interruption
  | .long "help" none | .short ('h' :: _) => some (.help scope.subject)
  | .long "version" none | .short ('V' :: _) =>
    if scope.subject.isNone then some .version else none
  | _ => none

/-- **Reads words** up to a subcommand: the options given, and the subcommand
with the words behind it. -/
def scan (scope : OptionScope) (given : GivenOptions) :
    List String → Except Interruption (GivenOptions × Option (String × List String))
  | [] => .ok (given, none)
  | text :: rest =>
    match Word.ofText text with
    | .dashes =>
      match rest with
      | [] => .ok (given, none)
      | text :: _ => refuse text
    | .short letters => (scope.question? (.short letters)).elim (refuse text) .error
    | .plain name =>
      if scope.subcommands.contains name then .ok (given, some (name, rest)) else refuse text
    | .long name value? =>
      match scope.specs.find? (·.name == name), value? with
      | none, value? => (scope.question? (.long name value?)).elim (refuse text) .error
      | some spec, some value =>
        if spec.placeholder.isSome then (given.add spec value).bind (scope.scan · rest)
        else refuse text
      | some spec, none =>
        if spec.placeholder.isNone then (given.add spec "").bind (scope.scan · rest)
        else
          match rest with
          | [] => .error (.misuse ("a value is required for --" ++ name))
          | value :: rest =>
            match Word.ofText value with
            | .plain value => (given.add spec value).bind (scope.scan · rest)
            | _ => .error (.misuse ("a value is required for --" ++ name))

end OptionScope

end Breadboard
