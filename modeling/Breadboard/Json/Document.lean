import Breadboard.Json.Token

/-!
# JSON documents

The second pass of reading a document, from tokens to a value, and the way
back. The reader keeps the arrays and objects that are still open on a stack,
so nothing limits how deeply a document is nested. Once the outermost value is
complete it accepts no further token: what follows a document is white space
or the document is refused.
-/

namespace Breadboard.Json

/-! ## From tokens to values -/

/-- An array or object that is still open, what it holds so far in reverse. -/
inductive Frame where
  | array (items : List Json)
  | object (fields : List (List UInt8 × Json)) (key : List UInt8)

/-- **Reader**: what may come next, and what is still open. -/
inductive Reader where
  /-- A value. -/
  | awaitValue (stack : List Frame)
  /-- A value or the end of the array just opened. -/
  | awaitItem (stack : List Frame)
  /-- A key or the end of the object just opened. -/
  | awaitField (stack : List Frame)
  /-- A key. -/
  | awaitKey (fields : List (List UInt8 × Json)) (stack : List Frame)
  /-- The colon after a key. -/
  | awaitColon (fields : List (List UInt8 × Json)) (key : List UInt8) (stack : List Frame)
  /-- A comma or the end of the array. -/
  | afterItem (items : List Json) (stack : List Frame)
  /-- A comma or the end of the object. -/
  | afterField (fields : List (List UInt8 × Json)) (stack : List Frame)
  /-- Nothing. -/
  | done (value : Json)

namespace Reader

/-- The reader after a complete value. -/
def supply (value : Json) : List Frame → Reader
  | [] => .done value
  | .array items :: stack => .afterItem (value :: items) stack
  | .object fields key :: stack => .afterField ((key, value) :: fields) stack

/-- A token that begins a value. -/
def begin? (stack : List Frame) : Token → Option Reader
  | .openArray => some (.awaitItem stack)
  | .openObject => some (.awaitField stack)
  | .null => some (supply .null stack)
  | .bool b => some (supply (.bool b) stack)
  | .number n => some (supply (.number n) stack)
  | .string content => some (supply (.string content) stack)
  | _ => none

/-- **One token.** -/
def step? : Reader → Token → Option Reader
  | .awaitValue stack, token => begin? stack token
  | .awaitItem stack, token =>
    match token with
    | .closeArray => some (supply (.array []) stack)
    | token => begin? (.array [] :: stack) token
  | .awaitField stack, token =>
    match token with
    | .closeObject => some (supply (.object []) stack)
    | .string key => some (.awaitColon [] key stack)
    | _ => none
  | .awaitKey fields stack, token =>
    match token with
    | .string key => some (.awaitColon fields key stack)
    | _ => none
  | .awaitColon fields key stack, token =>
    match token with
    | .colon => some (.awaitValue (.object fields key :: stack))
    | _ => none
  | .afterItem items stack, token =>
    match token with
    | .comma => some (.awaitValue (.array items :: stack))
    | .closeArray => some (supply (.array items.reverse) stack)
    | _ => none
  | .afterField fields stack, token =>
    match token with
    | .comma => some (.awaitKey fields stack)
    | .closeObject => some (supply (.object fields.reverse) stack)
    | _ => none
  | .done _, _ => none

/-- The value of a reader that has seen all of it. -/
def finish? : Reader → Option Json
  | .done value => some value
  | _ => none

end Reader

/-- **The value that tokens spell**, if they spell exactly one. -/
def ofTokens? (tokens : List Token) : Option Json := do
  (← tokens.foldlM Reader.step? (.awaitValue [])).finish?

/-- **Parsing**: the value of a document. -/
def parse? (bytes : List UInt8) : Option Json := do
  ofTokens? (← Token.scan? bytes)

/-! ## From values to tokens -/

mutual

/-- **The tokens of a value.** -/
def tokens : Json → List Token
  | .null => [.null]
  | .bool b => [.bool b]
  | .number n => [.number n]
  | .string content => [.string content]
  | .array items => .openArray :: itemTokens items ++ [.closeArray]
  | .object fields => .openObject :: fieldTokens fields ++ [.closeObject]

/-- The tokens of an array's items, a comma between any two. -/
def itemTokens : List Json → List Token
  | [] => []
  | [value] => value.tokens
  | value :: rest => value.tokens ++ .comma :: itemTokens rest

/-- The tokens of an object's fields, a comma between any two. -/
def fieldTokens : List (List UInt8 × Json) → List Token
  | [] => []
  | [(key, value)] => .string key :: .colon :: value.tokens
  | (key, value) :: rest => .string key :: .colon :: value.tokens ++ .comma :: fieldTokens rest

end

/-- **Printing**: the document of a value, without white space. -/
def print (value : Json) : List UInt8 := value.tokens.flatMap Token.spelling

end Breadboard.Json
