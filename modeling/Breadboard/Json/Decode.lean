import Breadboard.Json.Document

/-!
# Reading typed values

The readers of this module are strict about types and lenient about objects. A
record may be written as an object, its fields in any order, or as an array of
its fields in the order of their declaration. Keys that are no field are
skipped with whatever value they have, a field given twice is refused, and
every key has to be a text.
-/

namespace Breadboard.Json

/-- A truth value. -/
def bool? : Json → Option Bool
  | .bool b => some b
  | _ => none

/-- A text. -/
def text? : Json → Option String
  | .string content => Text.ofUtf8? content
  | _ => none

/-- A natural number below a limit. -/
def natBelow? (limit : Nat) : Json → Option Nat
  | .number (.integer (.ofNat n)) => if n < limit then some n else none
  | _ => none

/-- A byte. -/
def byte? (v : Json) : Option UInt8 := (natBelow? 256 v).map UInt8.ofNat

/-- A list, each item read by `item`. -/
def list? {α : Type} (item : Json → Option α) : Json → Option (List α)
  | .array items => items.mapM item
  | _ => none

/-- A value that may be absent as `null`. -/
def nullable? {α : Type} (reader : Json → Option α) : Json → Option (Option α)
  | .null => some none
  | v => (reader v).map some

/-- **A name chosen from a set of names**: written as a text, or as an object
whose one key is the name, with the value `null`. -/
def choice? {α : Type} (ofName? : String → Option α) : Json → Option α
  | .string content => Text.ofUtf8? content >>= ofName?
  | .object [(key, .null)] => Text.ofUtf8? key >>= ofName?
  | _ => none

/-- **Record**: the fields that are present, by name. -/
abbrev Record := List (String × Json)

/-- **Reading a record** with the given field names, in the order of their
declaration. -/
def record? (names : List String) : Json → Option Record
  | .array items => if items.length ≤ names.length then some (names.zip items) else none
  | .object fields => do
    let named ← fields.mapM fun (key, value) => (·, value) <$> Text.ofUtf8? key
    let known := named.filter (names.contains ·.1)
    if (known.map (·.1)).Nodup then some known else none
  | _ => none

namespace Record

/-- A field that has to be there. -/
def field? {α : Type} (r : Record) (name : String) (reader : Json → Option α) : Option α :=
  r.lookup name >>= reader

/-- A field that may be left out. -/
def fieldOr? {α : Type} (r : Record) (name : String) (absent : α) (reader : Json → Option α) :
    Option α :=
  match r.lookup name with
  | none => some absent
  | some v => reader v

end Record

end Breadboard.Json
