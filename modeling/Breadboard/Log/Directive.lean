import Breadboard.Log.Event
import Breadboard.Log.ValueTest

/-!
# Directives

A directive says down to which level events pass, and which events it is
about: all, or those of the areas whose path begins with a given text, or those
that have a given field. A directive can also be about an activity; then it
lets the events pass that arise in its course, wherever they come from.

In writing, a directive is `area[activity{field=value}]=level`. Every part of
this can be left out, but not all of them, and a single word is a level if it
names one. Without a level, everything passes.
-/

namespace Breadboard

/-- The limit that a text names: the least severe level that passes, or that
none does. A level has a name, in either case, and a number. -/
def Level.limit? (text : List Char) : Option (Option Level) :=
  match Text.number? text with
  | some number =>
    [none, some .error, some .warn, some .info, some .debug, some .trace][number]?
  | none =>
    match String.ofList (text.map Char.toLower) with
    | "off" => some none
    | "error" => some (some .error)
    | "warn" => some (some .warn)
    | "info" => some (some .info)
    | "debug" => some (some .debug)
    | "trace" => some (some .trace)
    | _ => none

/-- **Directive.** -/
structure Directive where
  /-- The least severe level that passes, if any does. -/
  limit : Option Level := some .trace
  /-- What the path of the area has to begin with. -/
  area : Option (List Char) := none
  /-- The name of the activity. -/
  activity : Option (List Char) := none
  /-- The name of a field, and what is asked of its value, if that matters. -/
  field : Option (List Char × Option ValueTest) := none
  deriving DecidableEq, Repr

namespace Directive

/-! ## Meaning -/

/-- Whether events of a level pass. -/
def allows (d : Directive) (level : Level) : Bool :=
  d.limit.any fun limit => level.rank ≤ limit.rank

/-- Whether the area of an event is one that the directive is about. -/
def inArea (d : Directive) (o : Origin) : Bool :=
  d.area.all fun area => area.isPrefixOf o.area.toList

/-- Whether the directive can be about activities. -/
def isAboutActivities (d : Directive) : Bool := d.activity.isSome || d.field.isSome

/-- Whether a value of the field matters. -/
def asksForValue (d : Directive) : Bool := d.field.any (·.2.isSome)

/-- **Whether the directive is about an event** as such. It is not if it names
an activity or asks for a value. -/
def concerns (d : Directive) (e : Event) : Bool :=
  d.activity.isNone && !d.asksForValue && d.inArea e.origin
    && d.field.all fun field => e.fieldNames.contains (String.ofList field.1)

/-- **Whether the directive is about the activity** in whose course an event
arises. -/
def covers (d : Directive) (o : Origin) : Bool :=
  d.isAboutActivities && d.inArea o && o.activity.any fun a =>
    d.activity.all (String.ofList · == a.name) && d.field.all fun (name, test?) =>
      (a.fields.lookup (String.ofList name)).any fun value => test?.all (·.accepts value)

/-- Whether two directives are about the same. -/
def sameSubject (d e : Directive) : Bool :=
  d.area == e.area && d.activity == e.activity && d.field == e.field

/-- How narrowly a directive says which events it is about: by the length of the
path, then by the field. -/
def precision (d : Directive) : Nat × List String :=
  (d.area.elim 0 fun area => (String.ofList area).utf8ByteSize,
    d.field.toList.map fun field => String.ofList field.1)

/-- Whether one directive goes before another that is about the same event: the
narrower one does, and of two equal ones the later. -/
def yieldsTo (d later : Directive) : Bool :=
  let (length, field) := d.precision
  let (laterLength, laterField) := later.precision
  length < laterLength || (length == laterLength && !(laterField < field))

/-! ## Reading

The marks that separate the pieces of a directive are looked for without the
blanks around it, but the pieces are cut out with these blanks in place. So a
blank in front becomes part of the first piece and shifts the others, and one
behind belongs to the last. Places are counted in bytes, so a wide blank shifts
the pieces further than a narrow one. -/

/-- How many bytes characters take. -/
def width (text : List Char) : Nat := (String.ofList text).utf8ByteSize

/-- Cuts a text at a place, if no character stands across it. -/
def cut? (text : List Char) (place : Nat) : Option (List Char × List Char) :=
  match place, text with
  | 0, text => some ([], text)
  | _, [] => none
  | place, c :: rest =>
    if place < c.utf8Size then none
    else (cut? rest (place - c.utf8Size)).map fun (front, back) => (c :: front, back)

/-- The piece between two places. -/
def piece? (text : List Char) (start stop : Nat) : Option (List Char) := do
  let (front, _) ← cut? text stop
  let (_, piece) ← cut? front start
  return piece

/-- Goes on to the first of some marks: its place, and the marks from there. -/
def seek (marks : List Char) (start : Nat) (ends : List Char) : Nat × List Char :=
  let (passed, rest) := marks.span (!ends.contains ·)
  (start + width passed, rest)

/-- Reads the end of a directive: nothing, or an equals sign with a limit behind
it or nothing. -/
def readLimit? (text marks : List Char) (start : Nat) (d : Directive) : Option Directive :=
  match marks with
  | [] => some d
  | '=' :: _ => do
    match ← cut? text (start + 1) with
    | (_, []) => return d
    | (_, limit) => return { d with limit := ← Level.limit? limit }
  | _ => none

/-- Reads the name of a field, and what is asked of its value from behind an
equals sign to the next one. -/
def readField? (text : List Char) : Option (List Char × Option ValueTest) :=
  let name := text.takeWhile (· != '=')
  match text.dropWhile (· != '=') with
  | [] => some (name, none)
  | _ :: value => (ValueTest.ofText? (value.takeWhile (· != '='))).map (name, some ·)

/-- Reads a directive from behind its opening bracket. -/
def readActivity? (text marks : List Char) (start : Nat) (d : Directive) : Option Directive := do
  match seek marks start [']', '\x7b'] with
  | (stop, ']' :: marks) =>
    readLimit? text marks (stop + 1) { d with activity := some (← piece? text start stop) }
  | (stop, _ :: marks) =>
    match seek marks (stop + 1) ['\x7d'] with
    | (close, _ :: ']' :: marks) =>
      if close = stop + 1 then none
      else
        let activity ← if stop = start then pure none else (piece? text start stop).map some
        let field ← readField? (← piece? text (stop + 1) close)
        readLimit? text marks (close + 2) { d with
          activity := activity
          field := some field }
    | _ => none
  | _ => none

/-- Whether a directive that does not begin with a bracket can begin with a
character. -/
def canBegin (c : Char) : Bool := ['-', ':', '_'].contains c || Text.isAlphanumeric c

/-- **The directive that a text writes**, if it is one. -/
def ofText? (text : List Char) : Option Directive := do
  let marks := Text.dropBlankEnd (text.dropWhile Text.isBlank)
  match marks with
  | [] => none
  | '[' :: marks => readActivity? text marks 1 {}
  | c :: _ =>
    if !canBegin c then none
    else
      match seek marks 0 ['=', '['] with
      | (_, []) =>
        return match Level.limit? text with
          | some limit => { limit := limit }
          | none => { area := some text }
      | (stop, '[' :: marks) =>
        readActivity? text marks (stop + 1) { area := some (← piece? text 0 stop) }
      | (stop, marks) => readLimit? text marks stop { area := some (← piece? text 0 stop) }

end Directive

end Breadboard
