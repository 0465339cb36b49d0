import Breadboard.Pattern.CharSet

/-!
# Patterns

A pattern describes texts: by the characters that may follow one another, by
what has to stand on either side of a place, by alternatives and repetitions.
Where a pattern leaves a choice it also says what is preferred, an earlier
alternative to a later one, and once more to no more or the other way round.

Alternatives that all begin with the same parts share this beginning. So what is
preferred in the beginning counts for more than which alternative it is.
-/

namespace Breadboard

/-- **Boundary**: a kind of place between two characters of a text. -/
inductive Boundary where
  | textStart
  | textEnd
  /-- The beginning of a line. Lines end with a line feed or, if so asked, also
  with a carriage return or both. -/
  | lineStart (returns : Bool)
  | lineEnd (returns : Bool)
  /-- Where a word begins or ends. -/
  | wordEdge
  /-- Where no word begins or ends. -/
  | noWordEdge
  | wordStart
  | wordEnd
  deriving DecidableEq, Repr

namespace Boundary

/-- Whether a character belongs to a word. Nothing does not. -/
def inWord (c : Option Char) : Bool := c.any fun c => c.isAlphanum || c == '_'

/-- Whether a place is of a kind as far as the character before it tells alone. -/
def holdsAlready (b : Boundary) (before : Option Char) : Bool :=
  match b with
  | textStart => before.isNone
  | lineStart _ => before.all (· == '\n')
  | _ => false

/-- **Whether a place is of a kind**, by the characters before and behind it. -/
def holds (b : Boundary) (before behind : Option Char) : Bool :=
  match b with
  | textStart => before.isNone
  | textEnd => behind.isNone
  | lineStart false => before.all (· == '\n')
  | lineStart true => before.all (· == '\n') || (before == some '\r' && behind != some '\n')
  | lineEnd false => behind.all (· == '\n')
  | lineEnd true => behind.all (· == '\r') || (behind == some '\n' && before != some '\r')
  | wordEdge => inWord before != inWord behind
  | noWordEdge => inWord before == inWord behind
  | wordStart => !inWord before && inWord behind
  | wordEnd => inWord before && !inWord behind

end Boundary

/-- **Pattern.** -/
inductive Pattern where
  /-- Nothing at all. -/
  | empty
  /-- One character of a set. -/
  | one (set : CharSet)
  /-- Nothing, at a place of a kind. -/
  | place (boundary : Boundary)
  /-- One after the other. -/
  | seq (p q : Pattern)
  /-- One of two, the first rather than the second. -/
  | alt (p q : Pattern)
  /-- Once or not at all; once is preferred if it is `eager`. -/
  | maybe (eager : Bool) (p : Pattern)
  /-- Once or more; more is preferred if it is `eager`. -/
  | again (eager : Bool) (p : Pattern)
  /-- Any number of times; more is preferred if it is `eager`. -/
  | many (eager : Bool) (p : Pattern)
  /-- A pattern that is kept apart: it is the same as no other one. -/
  | group (p : Pattern)
  deriving DecidableEq, Repr

namespace Pattern

/-- Whether a pattern can be met without taking a character. -/
def isNullable : Pattern → Bool
  | empty => true
  | one _ => false
  | place _ => true
  | seq p q => p.isNullable && q.isNullable
  | alt p q => p.isNullable || q.isNullable
  | maybe _ _ => true
  | again _ p => p.isNullable
  | many _ _ => true
  | group p => p.isNullable

/-- Whether a pattern never takes a character. -/
def takesNothing : Pattern → Bool
  | empty => true
  | one _ => false
  | place _ => true
  | seq p q => p.takesNothing && q.takesNothing
  | alt p q => p.takesNothing && q.takesNothing
  | maybe _ p => p.takesNothing
  | again _ _ => false
  | many _ _ => false
  | group p => p.takesNothing

/-- Whether two patterns are the same, part for part. -/
def same : Pattern → Pattern → Bool
  | empty, empty => true
  | one a, one b => a.same b
  | place a, place b => a == b
  | seq p q, seq p' q' => p.same p' && q.same q'
  | alt p q, alt p' q' => p.same p' && q.same q'
  | maybe eager p, maybe eager' p' => eager == eager' && p.same p'
  | again eager p, again eager' p' => eager == eager' && p.same p'
  | many eager p, many eager' p' => eager == eager' && p.same p'
  | _, _ => false

/-! ## Repetitions

What takes nothing is not met with twice. -/

/-- **A pattern once or more.** -/
def repeated (eager : Bool) (p : Pattern) : Pattern :=
  if p.takesNothing then p else again eager p

/-- **A pattern any number of times.** -/
def anyNumber (eager : Bool) (p : Pattern) : Pattern :=
  if p.takesNothing then maybe eager p else many eager p

/-! ## Sequences -/

/-- The parts of a pattern that follow one another. -/
def parts : Pattern → List Pattern
  | empty => []
  | seq p q => p.parts ++ q.parts
  | p => [p]

/-- Some parts one after the other. -/
def chain : List Pattern → Pattern
  | [] => empty
  | [p] => p
  | p :: rest => seq p (chain rest)

/-- **Some patterns one after the other.** -/
def sequence (patterns : List Pattern) : Pattern := chain (patterns.flatMap parts)

/-! ## Alternatives -/

/-- The alternatives that a pattern leaves. -/
def alternatives : Pattern → List Pattern
  | alt p q => p.alternatives ++ q.alternatives
  | p => [p]

/-- The set that some patterns make up if each takes one character. -/
def union? : List Pattern → Option CharSet
  | [] => none
  | [one set] => some set
  | one set :: rest => (union? rest).map set.union
  | _ => none

/-- One of some patterns, an earlier one rather than a later one. -/
def select : List Pattern → Pattern
  | [] => empty
  | [p] => p
  | p :: rest => alt p (select rest)

/-- How many parts two lists have in common at the beginning. -/
def common : List Pattern → List Pattern → Nat
  | p :: rest, q :: rest' => if p.same q then common rest rest' + 1 else 0
  | _, _ => 0

/-- How many parts all alternatives begin with. There are none if one of the
alternatives has a single part or none. -/
def shared : List (List Pattern) → Nat
  | [] => 0
  | first :: others =>
    if (first :: others).any (·.length ≤ 1) then 0
    else others.foldl (fun count other => min count (common first other)) first.length

/-- One of some patterns, which takes one character from a set if each of them
does. -/
def oneOf (patterns : List Pattern) : Pattern :=
  (union? patterns).elim (select patterns) one

/-- **One of some patterns**, an earlier one rather than a later one, behind the
beginning that they share. -/
def choice (patterns : List Pattern) : Pattern :=
  let lists := (patterns.flatMap alternatives).map parts
  match shared lists with
  | 0 => oneOf (patterns.flatMap alternatives)
  | count =>
    sequence ((lists.headD []).take count ++ [oneOf (lists.map fun l => chain (l.drop count))])

end Pattern

end Breadboard
