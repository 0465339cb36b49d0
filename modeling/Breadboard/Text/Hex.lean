/-!
# Numbers in base sixteen

Words, addresses and bytes are shown as upper-case hexadecimal digits, padded
with zeros on the left to a fixed width; a number that needs more digits than
the width keeps all of them.
-/

namespace Breadboard.Hex

/-- The upper-case digit of a value below sixteen. -/
def digit (n : Nat) : Char :=
  Char.ofNat (if n < 10 then '0'.toNat + n else 'A'.toNat + (n - 10))

/-- The lower-case digit of a value below sixteen. -/
def lowerDigit (n : Nat) : Char :=
  Char.ofNat (if n < 10 then '0'.toNat + n else 'a'.toNat + (n - 10))

/-- The base-sixteen digit values of a number, most significant first. Zero
has one digit. -/
def digitValues (n : Nat) : List Nat :=
  if n < 16 then [n] else digitValues (n / 16) ++ [n % 16]
termination_by n
decreasing_by omega

/-- `width` digits at least, padded with zeros on the left. -/
def padded (width : Nat) (n : Nat) : String :=
  let digits := (digitValues n).map digit
  String.ofList (List.replicate (width - digits.length) '0' ++ digits)

/-- A number in lower-case digits without padding. -/
def lower (n : Nat) : String :=
  String.ofList ((digitValues n).map lowerDigit)

/-- A byte as two digits. -/
def byte (b : UInt8) : String := padded 2 b.toNat

/-- A byte string as two digits for each byte. -/
def bytes (bs : List UInt8) : String := String.join (bs.map byte)

/-- The value of a digit in either case. -/
def digitValue? (c : Char) : Option Nat :=
  if '0' ≤ c ∧ c ≤ '9' then some (c.toNat - '0'.toNat)
  else if 'A' ≤ c ∧ c ≤ 'F' then some (c.toNat - 'A'.toNat + 10)
  else if 'a' ≤ c ∧ c ≤ 'f' then some (c.toNat - 'a'.toNat + 10)
  else none

/-- Reads a number written in digits of either case, most significant first.
The empty text is refused. -/
def number? (text : List Char) : Option Nat :=
  if text.isEmpty then none
  else text.foldlM (fun acc c => (acc * 16 + ·) <$> digitValue? c) 0

/-- Reads a byte string of two digits a byte. -/
def bytes? : List Char → Option (List UInt8)
  | [] => some []
  | [_] => none
  | hi :: lo :: rest => do
    let h ← digitValue? hi
    let l ← digitValue? lo
    let more ← bytes? rest
    return UInt8.ofNat (h * 16 + l) :: more

end Breadboard.Hex
