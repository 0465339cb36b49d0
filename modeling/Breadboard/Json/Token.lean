import Breadboard.Json.Basic

/-!
# Tokens of a JSON document

A document is read in two passes. This module holds the first, from bytes to
tokens, and the spelling of each token, which is the way back. White space
between tokens leaves no trace.

The scanner looks at one byte at a time and never back, so what it has read of
a document after some prefix does not depend on the rest. A number is the one
token without a closing byte: it ends at the first byte that cannot continue
it, and that byte is then looked at again.
-/

namespace Breadboard.Json

/-- **Token**: one lexical element. -/
inductive Token where
  | openArray
  | closeArray
  | openObject
  | closeObject
  | colon
  | comma
  | null
  | bool (value : Bool)
  | number (value : Numeral)
  | string (content : List UInt8)
  deriving DecidableEq, Inhabited

/-! ## Strings -/

/-- One piece of a string's content: a byte, or a sixteen-bit unit written as
an escape of four digits. -/
inductive Piece where
  | byte (value : UInt8)
  | unit (value : Nat)
  deriving DecidableEq

namespace Piece

/-- A code point in the bit pattern of UTF-8, halves of surrogate pairs
included. -/
def encode (n : Nat) : List UInt8 :=
  if n < 0x80 then [UInt8.ofNat n]
  else if n < 0x800 then [UInt8.ofNat (0xC0 + n / 0x40), UInt8.ofNat (0x80 + n % 0x40)]
  else if n < 0x10000 then
    [UInt8.ofNat (0xE0 + n / 0x1000), UInt8.ofNat (0x80 + n / 0x40 % 0x40),
      UInt8.ofNat (0x80 + n % 0x40)]
  else
    [UInt8.ofNat (0xF0 + n / 0x40000), UInt8.ofNat (0x80 + n / 0x1000 % 0x40),
      UInt8.ofNat (0x80 + n / 0x40 % 0x40), UInt8.ofNat (0x80 + n % 0x40)]

/-- Whether a unit is the first half of a surrogate pair. -/
def isHigh (n : Nat) : Bool := 0xD800 ≤ n && n ≤ 0xDBFF

/-- Whether a unit is the second half of a surrogate pair. -/
def isLow (n : Nat) : Bool := 0xDC00 ≤ n && n ≤ 0xDFFF

/-- The bytes of a string's content. Two halves of a surrogate pair that stand
side by side are one code point. -/
def content : List Piece → List UInt8
  | [] => []
  | .byte b :: rest => b :: content rest
  | .unit high :: .unit low :: rest =>
    if isHigh high && isLow low then
      encode (0x10000 + (high - 0xD800) * 0x400 + (low - 0xDC00)) ++ content rest
    else encode high ++ content (.unit low :: rest)
  | .unit n :: rest => encode n ++ content rest

end Piece

/-! ## The scanner -/

/-- How far a number has been read. -/
inductive NumberStage where
  /-- The sign only. -/
  | sign
  /-- A leading zero. -/
  | zero
  /-- Digits before the point. -/
  | whole
  /-- The point. -/
  | point
  /-- Digits after the point. -/
  | fraction
  /-- The letter of the exponent. -/
  | exponent
  /-- The sign of the exponent. -/
  | exponentSign
  /-- Digits of the exponent. -/
  | exponentDigits
  deriving DecidableEq

/-- Whether a byte is a decimal digit. -/
def isDigit (b : UInt8) : Bool := 0x30 ≤ b && b ≤ 0x39

namespace NumberStage

/-- Whether a number may end here. -/
def isComplete : NumberStage → Bool
  | zero | whole | fraction | exponentDigits => true
  | _ => false

/-- The stage after one more byte, if the byte continues the number. -/
def next? : NumberStage → UInt8 → Option NumberStage
  | sign, b => if b == 0x30 then some zero else if isDigit b then some whole else none
  | zero, b => afterWhole b
  | whole, b => if isDigit b then some whole else afterWhole b
  | point, b => if isDigit b then some fraction else none
  | fraction, b =>
    if isDigit b then some fraction else if isExponentLetter b then some exponent else none
  | exponent, b =>
    if b == 0x2B || b == 0x2D then some exponentSign
    else if isDigit b then some exponentDigits else none
  | exponentSign, b => if isDigit b then some exponentDigits else none
  | exponentDigits, b => if isDigit b then some exponentDigits else none
where
  /-- Whether a byte is the letter of an exponent. -/
  isExponentLetter (b : UInt8) : Bool := b == 0x65 || b == 0x45
  /-- What may follow the digits before the point. -/
  afterWhole (b : UInt8) : Option NumberStage :=
    if b == 0x2E then some point else if isExponentLetter b then some exponent else none

end NumberStage

namespace Numeral

/-- The number a run of digits spells. -/
def ofDigits (digits : List UInt8) : Nat :=
  digits.foldl (fun n b => n * 10 + (b.toNat - 0x30)) 0

/-- The number of a complete spelling. -/
def ofLiteral (literal : List UInt8) : Numeral :=
  match literal with
  | 0x2D :: digits =>
    if digits.all isDigit && digits != [0x30] then .integer (-(ofDigits digits))
    else .decimal literal
  | digits => if digits.all isDigit then .integer (ofDigits digits) else .decimal literal

end Numeral

/-- How far a string has been read. -/
inductive StringStage where
  /-- Between characters. -/
  | plain
  /-- After a backslash. -/
  | escape
  /-- Within the four digits of an escape, the value of those read so far. -/
  | digits (missing : Nat) (value : Nat)
  deriving DecidableEq

/-- What the scanner is in the middle of. Pieces and bytes already read are
kept in reverse. -/
inductive Stage where
  | between
  /-- One of the three words, the bytes still to come. -/
  | word (missing : List UInt8) (token : Token)
  | number (spelled : List UInt8) (stage : NumberStage)
  | string (pieces : List Piece) (stage : StringStage)
  deriving DecidableEq

/-- **White space** between tokens. -/
def isSpace (b : UInt8) : Bool := b == 0x20 || b == 0x0A || b == 0x0D || b == 0x09

/-- The value of a hexadecimal digit in either case. -/
def hexValue? (b : UInt8) : Option Nat :=
  let n := b.toNat
  if 0x30 ≤ n && n ≤ 0x39 then some (n - 0x30)
  else if 0x41 ≤ n && n ≤ 0x46 then some (n - 0x41 + 10)
  else if 0x61 ≤ n && n ≤ 0x66 then some (n - 0x61 + 10)
  else none

/-- The byte an escape of one letter stands for. -/
def escaped? (letter : UInt8) : Option UInt8 :=
  if letter == 0x22 then some 0x22
  else if letter == 0x5C then some 0x5C
  else if letter == 0x2F then some 0x2F
  else if letter == 0x62 then some 0x08
  else if letter == 0x66 then some 0x0C
  else if letter == 0x6E then some 0x0A
  else if letter == 0x72 then some 0x0D
  else if letter == 0x74 then some 0x09
  else none

/-- **Scanner**: what it is in the middle of, and the tokens read so far in
reverse. -/
structure Scanner where
  /-- What it is in the middle of. -/
  stage : Stage
  /-- The tokens read, the last one first. -/
  tokens : List Token
  deriving DecidableEq

namespace Scanner

/-- The scanner before the first byte. -/
def start : Scanner := ⟨.between, []⟩

/-- A byte that begins a token, or white space. -/
def begin? (tokens : List Token) (b : UInt8) : Option Scanner :=
  if isSpace b then some ⟨.between, tokens⟩
  else if b == 0x5B then some ⟨.between, .openArray :: tokens⟩
  else if b == 0x5D then some ⟨.between, .closeArray :: tokens⟩
  else if b == 0x7B then some ⟨.between, .openObject :: tokens⟩
  else if b == 0x7D then some ⟨.between, .closeObject :: tokens⟩
  else if b == 0x3A then some ⟨.between, .colon :: tokens⟩
  else if b == 0x2C then some ⟨.between, .comma :: tokens⟩
  else if b == 0x22 then some ⟨.string [] .plain, tokens⟩
  else if b == 0x6E then some ⟨.word [0x75, 0x6C, 0x6C] .null, tokens⟩
  else if b == 0x74 then some ⟨.word [0x72, 0x75, 0x65] (.bool true), tokens⟩
  else if b == 0x66 then some ⟨.word [0x61, 0x6C, 0x73, 0x65] (.bool false), tokens⟩
  else if b == 0x2D then some ⟨.number [b] .sign, tokens⟩
  else if b == 0x30 then some ⟨.number [b] .zero, tokens⟩
  else if isDigit b then some ⟨.number [b] .whole, tokens⟩
  else none

/-- One byte of a string. -/
def stringStep? (pieces : List Piece) (stage : StringStage) (tokens : List Token) (b : UInt8) :
    Option Scanner :=
  match stage with
  | .plain =>
    if b == 0x22 then some ⟨.between, .string (Piece.content pieces.reverse) :: tokens⟩
    else if b == 0x5C then some ⟨.string pieces .escape, tokens⟩
    else if b < 0x20 then none
    else some ⟨.string (.byte b :: pieces) .plain, tokens⟩
  | .escape =>
    if b == 0x75 then some ⟨.string pieces (.digits 4 0), tokens⟩
    else (escaped? b).map fun c => ⟨.string (.byte c :: pieces) .plain, tokens⟩
  | .digits missing value =>
    (hexValue? b).map fun digit =>
      let value := value * 16 + digit
      if missing ≤ 1 then ⟨.string (.unit value :: pieces) .plain, tokens⟩
      else ⟨.string pieces (.digits (missing - 1) value), tokens⟩

/-- **One byte.** There is no next scanner if the byte cannot come here in any
document. -/
def step? (s : Scanner) (b : UInt8) : Option Scanner :=
  match s.stage with
  | .between => begin? s.tokens b
  | .word missing token =>
    match missing with
    | [] => none
    | [last] => if b == last then some ⟨.between, token :: s.tokens⟩ else none
    | next :: rest => if b == next then some ⟨.word rest token, s.tokens⟩ else none
  | .number spelled stage =>
    match stage.next? b with
    | some stage => some ⟨.number (b :: spelled) stage, s.tokens⟩
    | none =>
      if stage.isComplete then
        begin? (.number (Numeral.ofLiteral spelled.reverse) :: s.tokens) b
      else none
  | .string pieces stage => stringStep? pieces stage s.tokens b

/-- The tokens at the end of a document. There are none if a token is left
unfinished. -/
def finish? (s : Scanner) : Option (List Token) :=
  match s.stage with
  | .between => some s.tokens.reverse
  | .number spelled stage =>
    if stage.isComplete then
      some (Token.number (Numeral.ofLiteral spelled.reverse) :: s.tokens).reverse
    else none
  | _ => none

end Scanner

/-- **The tokens of a document**, if all of it can be read. -/
def Token.scan? (bytes : List UInt8) : Option (List Token) := do
  (← bytes.foldlM Scanner.step? Scanner.start).finish?

/-! ## Spelling -/

/-- The digits of a natural number. -/
def spellNat (n : Nat) : List UInt8 :=
  if n < 10 then [UInt8.ofNat (0x30 + n)]
  else spellNat (n / 10) ++ [UInt8.ofNat (0x30 + n % 10)]
termination_by n
decreasing_by omega

/-- The spelling of a number. -/
def Numeral.spelling : Numeral → List UInt8
  | .integer (.ofNat n) => spellNat n
  | .integer (.negSucc n) => 0x2D :: spellNat (n + 1)
  | .decimal literal => literal

/-- The lower-case hexadecimal digit of a value below sixteen. -/
def hexLetter (n : Nat) : UInt8 := UInt8.ofNat (if n < 10 then 0x30 + n else 0x61 + (n - 10))

/-- A byte of a string as it is written: quotation mark and backslash behind a
backslash, control characters as an escape of one letter if there is one and
of four digits otherwise, all else as it is. -/
def escape (b : UInt8) : List UInt8 :=
  if b == 0x22 then [0x5C, 0x22]
  else if b == 0x5C then [0x5C, 0x5C]
  else if b == 0x08 then [0x5C, 0x62]
  else if b == 0x0C then [0x5C, 0x66]
  else if b == 0x0A then [0x5C, 0x6E]
  else if b == 0x0D then [0x5C, 0x72]
  else if b == 0x09 then [0x5C, 0x74]
  else if b < 0x20 then
    [0x5C, 0x75, 0x30, 0x30, hexLetter (b.toNat / 16), hexLetter (b.toNat % 16)]
  else [b]

/-- **The spelling of a token.** -/
def Token.spelling : Token → List UInt8
  | openArray => [0x5B]
  | closeArray => [0x5D]
  | openObject => [0x7B]
  | closeObject => [0x7D]
  | colon => [0x3A]
  | comma => [0x2C]
  | null => [0x6E, 0x75, 0x6C, 0x6C]
  | bool true => [0x74, 0x72, 0x75, 0x65]
  | bool false => [0x66, 0x61, 0x6C, 0x73, 0x65]
  | number n => n.spelling
  | string content => 0x22 :: content.flatMap escape ++ [0x22]

end Breadboard.Json
