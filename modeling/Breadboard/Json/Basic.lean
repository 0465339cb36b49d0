import Breadboard.Text.Utf8

/-!
# JSON values

Saved tables, configuration files and everything else that is stored as JSON
pass through the value type of this module. Two things about it are unusual.

Strings are byte strings. A document may contain a string that encodes no text,
such as half of a surrogate pair, in a place that its reader ignores, and that
is not an error; only a reader that wants the text asks whether there is one.

A number written as an integer is kept as one. Any other spelling, that is with
a fraction, with an exponent, or as `-0`, is kept as it was written: no reader
of this library accepts it, but it can still be copied.
-/

namespace Breadboard

/-- **Number**: how a number is kept. -/
inductive Json.Numeral where
  /-- A number written as an integer. -/
  | integer (value : Int)
  /-- Any other number, as it was written. -/
  | decimal (literal : List UInt8)
  deriving DecidableEq, Inhabited

/-- **JSON value.** An object keeps its fields in the order in which they were
written, repeated keys included. -/
inductive Json where
  | null
  | bool (value : Bool)
  | number (value : Json.Numeral)
  | string (content : List UInt8)
  | array (items : List Json)
  | object (fields : List (List UInt8 × Json))
  deriving Inhabited

namespace Json

/-- A natural number. -/
def nat (n : Nat) : Json := number (.integer n)

/-- A text. -/
def text (s : String) : Json := string (Text.utf8 s)

/-- An object of named fields. -/
def record (fields : List (String × Json)) : Json :=
  object (fields.map fun (key, value) => (Text.utf8 key, value))

end Json

end Breadboard
