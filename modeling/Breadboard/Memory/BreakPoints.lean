/-!
# Break points

A set of addresses, kept in ascending order. It is saved as the addresses one
after the other, low byte first.
-/

namespace Breadboard

/-- **Break points**: a set of addresses. -/
structure BreakPoints where
  /-- The addresses in ascending order. -/
  addresses : List UInt16
  /-- No address stands twice, and each stands before the larger ones. -/
  ascending : addresses.Pairwise (· < ·)
  deriving DecidableEq

namespace BreakPoints

/-- No break point at all. -/
def empty : BreakPoints := ⟨[], .nil⟩

/-- Whether there is a break point at an address. -/
def contains (s : BreakPoints) (a : UInt16) : Bool := s.addresses.contains a

/-- Puts an address in its place of an ascending list. -/
def insertInto (a : UInt16) : List UInt16 → List UInt16
  | [] => [a]
  | b :: rest =>
    if a < b then a :: b :: rest
    else if a = b then b :: rest
    else b :: insertInto a rest

theorem mem_insertInto {a b : UInt16} {s : List UInt16} :
    b ∈ insertInto a s ↔ b = a ∨ b ∈ s := by
  induction s with
  | nil => simp [insertInto]
  | cons c rest ih =>
    unfold insertInto
    split
    · simp
    · split
      · rename_i h
        simp [h]
      · simp only [List.mem_cons, ih]
        exact or_left_comm

theorem pairwise_insertInto {a : UInt16} {s : List UInt16} (h : s.Pairwise (· < ·)) :
    (insertInto a s).Pairwise (· < ·) := by
  induction s with
  | nil => simp [insertInto]
  | cons c rest ih =>
    obtain ⟨hc, hrest⟩ := List.pairwise_cons.1 h
    unfold insertInto
    split
    · rename_i hac
      refine List.pairwise_cons.2 ⟨fun b hb => ?_, h⟩
      rcases List.mem_cons.1 hb with rfl | hb
      · exact hac
      · exact UInt16.lt_trans hac (hc b hb)
    · rename_i hac
      split
      · exact h
      · rename_i hne
        refine List.pairwise_cons.2 ⟨fun b hb => ?_, ih hrest⟩
        rcases mem_insertInto.1 hb with rfl | hb
        · exact UInt16.lt_of_le_of_ne (UInt16.not_lt.1 hac) (Ne.symm hne)
        · exact hc b hb

/-- The set with an address in it. -/
def insert (s : BreakPoints) (a : UInt16) : BreakPoints :=
  ⟨insertInto a s.addresses, pairwise_insertInto s.ascending⟩

/-- The set without an address. -/
def erase (s : BreakPoints) (a : UInt16) : BreakPoints :=
  ⟨s.addresses.filter (· ≠ a), s.ascending.filter _⟩

/-- **Flips** whether an address is in the set. -/
def toggle (s : BreakPoints) (a : UInt16) : BreakPoints :=
  if s.contains a then s.erase a else s.insert a

/-- The set of the addresses of a list. -/
def ofList (as : List UInt16) : BreakPoints := as.foldl insert empty

@[simp]
theorem contains_insert (s : BreakPoints) (a b : UInt16) :
    (s.insert a).contains b = (b == a || s.contains b) := by
  rw [Bool.eq_iff_iff]
  simp [contains, insert, mem_insertInto]

@[simp]
theorem contains_erase (s : BreakPoints) (a b : UInt16) :
    (s.erase a).contains b = (b != a && s.contains b) := by
  rw [Bool.eq_iff_iff]
  simp [contains, erase, and_comm]

/-! ## As bytes -/

/-- The saved form: two bytes an address, low byte first. -/
def toBytes (s : BreakPoints) : List UInt8 :=
  s.addresses.flatMap fun (a : UInt16) => [a.toUInt8, (a >>> 8).toUInt8]

/-- The addresses that bytes hold. A byte that has no partner is ignored. -/
def addressesOf : List UInt8 → List UInt16
  | low :: high :: rest => (low.toUInt16 ||| (high.toUInt16 <<< 8)) :: addressesOf rest
  | _ => []

end BreakPoints

end Breadboard
