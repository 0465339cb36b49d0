/-!
# Sets of characters

Where a pattern leaves a choice of characters, it names a set of them. Sets are
given by what they are made of, so that they can be compared; `contains` says
which characters, by number, they hold.
-/

namespace Breadboard

/-- **Set of characters.** -/
inductive CharSet where
  | empty
  /-- The characters from one to another. -/
  | range (first last : Nat)
  | union (a b : CharSet)
  | inter (a b : CharSet)
  /-- The characters that are in one of two sets, but not in both. -/
  | symmDiff (a b : CharSet)
  | compl (a : CharSet)
  /-- Those of a set and their counterparts in the other case. -/
  | bothCases (a : CharSet)
  deriving DecidableEq, Repr

namespace CharSet

/-- The counterpart of a letter of the English alphabet in the other case. All
other characters are their own. -/
def otherCase (n : Nat) : Nat :=
  if 0x41 ≤ n && n ≤ 0x5A then n + 0x20
  else if 0x61 ≤ n && n ≤ 0x7A then n - 0x20
  else n

/-- **Whether a set holds a character.** -/
def contains : CharSet → Nat → Bool
  | empty, _ => false
  | range first last, n => first ≤ n && n ≤ last
  | union a b, n => a.contains n || b.contains n
  | inter a b, n => a.contains n && b.contains n
  | symmDiff a b, n => a.contains n != b.contains n
  | compl a, n => !a.contains n
  | bothCases a, n => a.contains n || a.contains (otherCase n)

/-- All characters. -/
def full : CharSet := compl empty

/-- One character. -/
def single (c : Char) : CharSet := range c.toNat c.toNat

/-- The characters of one set that are not in another. -/
def diff (a b : CharSet) : CharSet := inter a (compl b)

/-- The characters of some ranges. -/
def ofRanges (ranges : List (Nat × Nat)) : CharSet :=
  ranges.foldr (fun (first, last) rest => union (range first last) rest) empty

/-- Whether all bytes of a set are the numbers of ASCII characters. -/
def isAscii (s : CharSet) : Bool := (List.range 128).all fun n => !s.contains (n + 128)

/-- Whether it can be seen from how a set is made that it holds both cases of its
letters. -/
def isFolded : CharSet → Bool
  | empty => true
  | range _ _ => false
  | union a b => a.isFolded && b.isFolded
  | inter a b => a.isFolded && b.isFolded
  | symmDiff a b => a.isFolded && b.isFolded
  | compl a => a.isFolded
  | bothCases _ => true

/-- **A set with both cases of its letters.** What holds them already stays as it
is, so that sets which are folded again and again do not grow. -/
def folded : CharSet → CharSet
  | union a b => union a.folded b.folded
  | s => if s.isFolded then s else bothCases s

/-- The numbers where a set can begin or end: from one of them up to the next, it
holds all characters or none. -/
def edges : CharSet → List Nat
  | empty => []
  | range first last => [first, last + 1]
  | union a b => a.edges ++ b.edges
  | inter a b => a.edges ++ b.edges
  | symmDiff a b => a.edges ++ b.edges
  | compl a => a.edges
  | bothCases a =>
    a.edges.flatMap (fun n => [n, n + 0x20, n - 0x20]) ++ [0x41, 0x5B, 0x61, 0x7B]

/-- **Whether two sets hold the same characters.** No character has a number from
`0xD800` to `0xDFFF`, so what begins there begins behind. -/
def same (a b : CharSet) : Bool :=
  (0 :: 0xE000 :: (a.edges ++ b.edges)).all fun n =>
    !decide n.isValidChar || a.contains n == b.contains n

/-- The set with a name, which holds ASCII characters only. -/
def ofName? (name : List Char) : Option CharSet :=
  match String.ofList name with
  | "alnum" => some (ofRanges [(0x30, 0x39), (0x41, 0x5A), (0x61, 0x7A)])
  | "alpha" => some (ofRanges [(0x41, 0x5A), (0x61, 0x7A)])
  | "ascii" => some (range 0x00 0x7F)
  | "blank" => some (ofRanges [(0x09, 0x09), (0x20, 0x20)])
  | "cntrl" => some (ofRanges [(0x00, 0x1F), (0x7F, 0x7F)])
  | "digit" => some (range 0x30 0x39)
  | "graph" => some (range 0x21 0x7E)
  | "lower" => some (range 0x61 0x7A)
  | "print" => some (range 0x20 0x7E)
  | "punct" => some (ofRanges [(0x21, 0x2F), (0x3A, 0x40), (0x5B, 0x60), (0x7B, 0x7E)])
  | "space" => some (ofRanges [(0x09, 0x0D), (0x20, 0x20)])
  | "upper" => some (range 0x41 0x5A)
  | "word" => some (ofRanges [(0x30, 0x39), (0x41, 0x5A), (0x5F, 0x5F), (0x61, 0x7A)])
  | "xdigit" => some (ofRanges [(0x30, 0x39), (0x41, 0x46), (0x61, 0x66)])
  | _ => none

theorem contains_single (c d : Char) :
    (single c).contains d.toNat = decide (c.toNat = d.toNat) := by
  simp only [single, contains]
  rw [Bool.eq_iff_iff]
  simp only [Bool.and_eq_true, decide_eq_true_eq]
  omega

theorem contains_diff (a b : CharSet) (n : Nat) :
    (diff a b).contains n = (a.contains n && !b.contains n) := rfl

theorem contains_symmDiff (a b : CharSet) (n : Nat) :
    (symmDiff a b).contains n = ((diff a b).contains n || (diff b a).contains n) := by
  cases ha : a.contains n <;> cases hb : b.contains n <;> simp [diff, contains, ha, hb]

theorem otherCase_otherCase (n : Nat) : otherCase (otherCase n) = n := by
  unfold otherCase
  grind

theorem contains_otherCase {s : CharSet} (h : s.isFolded) (n : Nat) :
    s.contains (otherCase n) = s.contains n := by
  induction s with
  | empty => rfl
  | range first last => simp [isFolded] at h
  | union a b iha ihb =>
    simp only [isFolded, Bool.and_eq_true] at h
    simp [contains, iha h.1, ihb h.2]
  | inter a b iha ihb =>
    simp only [isFolded, Bool.and_eq_true] at h
    simp [contains, iha h.1, ihb h.2]
  | symmDiff a b iha ihb =>
    simp only [isFolded, Bool.and_eq_true] at h
    simp [contains, iha h.1, ihb h.2]
  | compl a ih => simp [contains, ih h]
  | bothCases a => simp [contains, otherCase_otherCase, Bool.or_comm]

theorem contains_folded (s : CharSet) (n : Nat) :
    s.folded.contains n = (s.contains n || s.contains (otherCase n)) := by
  fun_induction folded s with
  | case1 a b iha ihb =>
    simp only [contains, iha, ihb]
    grind
  | case2 s _ h => simp [contains_otherCase h]
  | case3 s _ h => rfl

theorem contains_ofRanges (ranges : List (Nat × Nat)) (n : Nat) :
    (ofRanges ranges).contains n = ranges.any fun r => r.1 ≤ n && n ≤ r.2 := by
  induction ranges with
  | nil => rfl
  | cons r rest ih => simp only [ofRanges, List.foldr_cons, contains, List.any_cons] at *; rw [ih]

end CharSet

end Breadboard
