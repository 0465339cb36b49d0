import Breadboard.Text.Hex
import Breadboard.Text.Unshown

/-!
# Quoted text

Where a text of unknown content has to stand in a line of log, it is quoted:
the quotation mark and the backslash are written behind a backslash, line
breaks, tabs and NUL by a letter or digit behind one, and every other
character that does not show by its number in braces. All else stands for
itself.
-/

namespace Breadboard.Text

/-- One character of a quoted text, `mark` being the quotation mark. -/
def quotedChar (mark c : Char) : List Char :=
  match c with
  | '\x00' => ['\\', '0']
  | '\t' => ['\\', 't']
  | '\r' => ['\\', 'r']
  | '\n' => ['\\', 'n']
  | '\\' => ['\\', '\\']
  | c =>
    if c = mark then ['\\', mark]
    else if isUnshown c then ("\\u\x7b" ++ Hex.lower c.toNat ++ "\x7d").toList
    else [c]

/-- A text between double quotation marks. -/
def quoted (s : String) : String :=
  String.ofList ('"' :: s.toList.flatMap (quotedChar '"') ++ ['"'])

/-- A character between single quotation marks. -/
def quotedAlone (c : Char) : String :=
  String.ofList ('\'' :: quotedChar '\'' c ++ ['\''])

end Breadboard.Text
