import Breadboard.Log.Origin
import Breadboard.Text.Blank

/-!
# Log events

An event has a level, a message, named fields and an origin. Its text is the
message followed by the fields, each behind a blank as `name=value`; without a
message, or with an empty one, the text begins with the first field.
-/

namespace Breadboard

/-- **Event**: something worth telling the operator or the log file. -/
structure Event where
  /-- How severe it is. -/
  level : Level
  /-- What happened, if there are words for it. -/
  message : Option String
  /-- Names and values that say more. -/
  fields : List (String × String)
  /-- Where it comes from. -/
  origin : Origin
  deriving DecidableEq

namespace Event

/-- An error. -/
def error (origin : Origin) (message : String) (fields : List (String × String) := []) : Event :=
  ⟨.error, some message, fields, origin⟩

/-- A warning. -/
def warn (origin : Origin) (message : String) (fields : List (String × String) := []) : Event :=
  ⟨.warn, some message, fields, origin⟩

/-- Something to know. -/
def info (origin : Origin) (message : String) (fields : List (String × String) := []) : Event :=
  ⟨.info, some message, fields, origin⟩

/-- The names of all that an event says. The message counts as a field. -/
def fieldNames (e : Event) : List String :=
  (if e.message.isSome then ["message"] else []) ++ e.fields.map (·.1)

/-- The fields, each behind a blank. -/
def fieldText (e : Event) : String :=
  String.join (e.fields.map fun (name, value) => " " ++ name ++ "=" ++ value)

/-- **The text of an event.** -/
def text (e : Event) : String :=
  let message := e.message.getD ""
  if message.isEmpty then Text.trimStart e.fieldText else message ++ e.fieldText

end Event

end Breadboard
