import Breadboard.Pattern.Machine
import Breadboard.Pattern.Reader
import Breadboard.Text.Decimal

/-!
# Tests of values

A directive can ask for the value of a field. What it asks is written as a truth
value, a number or a pattern. The values that are tested here are texts, which
are neither true nor a number: only a pattern can be answered by them.
-/

namespace Breadboard

/-- **Value test**: what is asked of a value. -/
structure ValueTest where
  /-- How it is written. -/
  text : List Char
  /-- The pattern, unless it is a truth value or a number. -/
  pattern : Option Pattern
  deriving DecidableEq, Repr

namespace ValueTest

/-- Whether a text is a truth value or a number. -/
def isPlain (text : List Char) : Bool :=
  ["true", "false"].contains (String.ofList text) || Text.isNumber text

/-- **The test that a text writes**, if it is one. -/
def ofText? (text : List Char) : Option ValueTest :=
  if isPlain text then some ⟨text, none⟩
  else (Pattern.ofText? text).map fun pattern => ⟨text, some pattern⟩

/-- Whether a value passes. -/
def accepts (t : ValueTest) (value : String) : Bool := t.pattern.any (·.answers value.toList)

end ValueTest

end Breadboard
