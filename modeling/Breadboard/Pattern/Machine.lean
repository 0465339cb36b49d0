import Breadboard.Pattern.Basic

/-!
# Searching for a pattern

A pattern is searched for by a machine that reads the text once. It has numbered
nodes, of which some take a character and others only lead on. While it reads,
the machine is at several nodes at once, the preferred one first. Each way that
leads to the same node as a preferred one is given up, and so is every way that
is less preferred than one that has found the pattern. The ways that begin at a
later place are the least preferred.

What kind a place is of often depends on the character behind it. The machine
first goes on as far as it can without that. If then a place turns out to be of a
kind that is waited for, it goes on once more from where it stopped.

The pattern that is *found* is therefore the one that begins first, and of
those the preferred one. It need not reach to the end of the text.
-/

namespace Breadboard

namespace Pattern

/-- **Node** of a machine. -/
inductive Node where
  /-- Takes a character and leads on. -/
  | take (set : CharSet) (next : Nat)
  /-- Leads on from a place of a kind. -/
  | check (boundary : Boundary) (next : Nat)
  /-- Leads on to several nodes, the preferred one first. -/
  | fork (next : List Nat)
  /-- The pattern is found. -/
  | found
  deriving DecidableEq, Repr

/-- The number of nodes that a pattern needs. -/
def size : Pattern → Nat
  | empty => 1
  | one _ => 1
  | place _ => 1
  | seq p q => p.size + q.size
  | alt p q => p.size + q.size + 1
  | maybe _ p => p.size + 1
  | again _ p => p.size + 1
  | many _ p => if p.isNullable then p.size + 2 else p.size + 1
  | group p => p.size

/-- Leads on to more of a pattern or past it, to more first if that is preferred. -/
def prefer (eager : Bool) (more done : Nat) : Node :=
  .fork (if eager then [more, done] else [done, more])

/-- **The nodes for a pattern**, numbered from `start`, which is where they are
entered; they are left for `next`. Where a pattern can be repeated, the node that
leads back is behind it, except if there is no way through the pattern without
taking a character: then it is met with again in front. -/
def nodes : Pattern → (start next : Nat) → List Node
  | empty, _, next => [.fork [next]]
  | one set, _, next => [.take set next]
  | place boundary, _, next => [.check boundary next]
  | seq p q, start, next => p.nodes start (start + p.size) ++ q.nodes (start + p.size) next
  | alt p q, start, next =>
    .fork [start + 1, start + 1 + p.size]
      :: (p.nodes (start + 1) next ++ q.nodes (start + 1 + p.size) next)
  | maybe eager p, start, next => prefer eager (start + 1) next :: p.nodes (start + 1) next
  | again eager p, start, next =>
    p.nodes start (start + p.size) ++ [prefer eager start next]
  | many eager p, start, next =>
    prefer eager (start + 1) next
      :: if p.isNullable then
          p.nodes (start + 1) (start + 1 + p.size) ++ [prefer eager (start + 1) next]
        else p.nodes (start + 1) start
  | group p, start, next => p.nodes start next

theorem length_nodes (p : Pattern) (start next : Nat) : (p.nodes start next).length = p.size := by
  induction p generalizing start next with
  | seq p q ihp ihq => simp [nodes, size, ihp, ihq]
  | alt p q ihp ihq => simp [nodes, size, ihp, ihq]
  | maybe eager p ih => simp [nodes, size, ih]
  | again eager p ih => simp [nodes, size, ih]
  | many eager p ih => by_cases h : p.isNullable <;> simp [nodes, size, h, ih]
  | group p ih => exact ih start next
  | _ => rfl

/-- **Machine**: the nodes by their numbers. It begins at the first. -/
structure Machine where
  /-- The nodes. -/
  nodes : List Node
  deriving DecidableEq, Repr

/-- The machine that searches for a pattern: before the nodes of the pattern it
has two that leave out characters, as few as possible. -/
def machine (p : Pattern) : Machine :=
  ⟨.fork [2, 1] :: .take .full 0 :: (p.nodes 2 (2 + p.size) ++ [.found])⟩

namespace Machine

variable (m : Machine)

/-- Where a node leads without taking a character. -/
def onward (holds : Boundary → Bool) (n : Nat) : List Nat :=
  match m.nodes[n]? with
  | some (.check boundary next) => if holds boundary then [next] else []
  | some (.fork next) => next
  | _ => []

/-- The nodes that are reached from those `waiting` without taking a character,
each once and in the order in which they are first reached, behind those already
`seen`. The first number bounds the steps. -/
def reach (holds : Boundary → Bool) : Nat → (waiting seen : List Nat) → List Nat
  | 0, _, seen => seen
  | _ + 1, [], seen => seen
  | bound + 1, n :: waiting, seen =>
    if seen.contains n then reach holds bound waiting seen
    else reach holds bound (m.onward holds n ++ waiting) (seen ++ [n])

/-- **Progress** of a machine through a text. -/
structure Progress where
  /-- The character that has been read last. -/
  before : Option Char
  /-- The nodes it has got to with that, the preferred one first. -/
  entries : List Nat
  deriving DecidableEq, Repr

/-- A machine that has not read anything yet. -/
def Progress.start : Progress := ⟨none, [0]⟩

/-- Whether the pattern is found at a node. -/
def isFound (n : Nat) : Bool := m.nodes[n]? == some .found

/-- Whether the machine can stop at a node: it does not just lead on. -/
def isStop (n : Nat) : Bool :=
  match m.nodes[n]? with
  | some (.fork _) | none => false
  | some _ => true

/-- Whether a node waits for a place that turns out only now to be of its kind. -/
def isFreed (before behind : Option Char) (n : Nat) : Bool :=
  match m.nodes[n]? with
  | some (.check boundary _) => boundary.holds before behind && !boundary.holdsAlready before
  | _ => false

/-- The nodes that are reached from others. Every node leads on to two others at
most, which bounds the steps. -/
def reached (holds : Boundary → Bool) (entries : List Nat) : List Nat :=
  m.reach holds (entries.length + 2 * m.nodes.length + 1) entries []

/-- The nodes the machine is at, once it sees what comes next. -/
def stops (s : Progress) (behind : Option Char) : List Nat :=
  let first := (m.reached (·.holdsAlready s.before) s.entries).filter m.isStop
  if first.any (m.isFreed s.before behind) then m.reached (·.holds s.before behind) first
  else first

/-- Where a node leads that takes a character. -/
def takes? (c : Char) (n : Nat) : Option Nat :=
  match m.nodes[n]? with
  | some (.take set next) => if set.contains c.toNat then some next else none
  | _ => none

/-- Whether the pattern can be found within a character of several bytes. Nothing
is taken there, and it is like a place between two blanks. -/
def findsWithin : Bool := (m.stops ⟨some ' ', [0]⟩ (some ' ')).any m.isFound

/-- Reads a character. If the pattern can be found within it, no way begins at a
later place. -/
def read (s : Progress) (c : Char) : Progress :=
  let next := ((m.stops s (some c)).takeWhile (!m.isFound ·)).filterMap (m.takes? c)
  ⟨some c, if 1 < c.utf8Size && m.findsWithin then next.filter (· != 0) else next⟩

/-- Whether the pattern is found right at the end of a text. -/
def findsAtEnd (text : List Char) : Bool :=
  (m.stops (text.foldl m.read .start) none).any m.isFound

end Machine

/-- **Whether a text answers a pattern**: what is found of the pattern in it
reaches to its end. -/
def answers (p : Pattern) (text : List Char) : Bool := p.machine.findsAtEnd text

end Pattern

end Breadboard
