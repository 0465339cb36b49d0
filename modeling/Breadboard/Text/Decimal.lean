/-!
# Numbers in decimal digits

Where a word or a name is expected, a run of digits can stand for a number
instead. Leading zeros do not matter. Numbers with a fraction or an exponent are
only told from other texts here; nothing asks how large they are.
-/

namespace Breadboard.Text

/-- The number a run of digits spells. There is at least one. -/
def digits? (cs : List Char) : Option Nat :=
  if !cs.isEmpty && cs.all Char.isDigit then
    some (cs.foldl (fun n c => n * 10 + (c.toNat - '0'.toNat)) 0)
  else none

/-- The number that digits spell, perhaps behind a plus sign. -/
def number? : List Char → Option Nat
  | '+' :: cs => digits? cs
  | cs => digits? cs

/-- Whether a text is an exponent, or nothing at all. -/
def isExponent : List Char → Bool
  | [] => true
  | mark :: rest =>
    let digits := if rest.head?.any ['+', '-'].contains then rest.drop 1 else rest
    ['e', 'E'].contains mark && !digits.isEmpty && digits.all Char.isDigit

/-- Whether a text is a number without a sign: digits, perhaps with a point among
them or on either side of them, and perhaps an exponent. Two words stand for what
is no finite number. -/
def isUnsigned (cs : List Char) : Bool :=
  let whole := cs.takeWhile Char.isDigit
  let rest := cs.dropWhile Char.isDigit
  ["inf", "infinity", "nan"].contains (String.ofList (cs.map Char.toLower))
    || match rest with
      | '.' :: fraction =>
        !(whole.isEmpty && (fraction.takeWhile Char.isDigit).isEmpty)
          && isExponent (fraction.dropWhile Char.isDigit)
      | rest => !whole.isEmpty && isExponent rest

/-- **Whether a text is a number**, perhaps behind a sign. -/
def isNumber : List Char → Bool
  | '+' :: cs => isUnsigned cs
  | '-' :: cs => isUnsigned cs
  | cs => isUnsigned cs

end Breadboard.Text
