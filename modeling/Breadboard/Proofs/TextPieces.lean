import Breadboard.Text.Blank
import Mathlib.Data.List.Basic

/-!
# Texts put together and taken apart

Names are joined into a text by something that stands between them, and are had back
by cutting the text where that occurs. This works as long as what stands between the
names begins with a character that no name has: an occurrence can then neither begin
in a name nor reach over from one.

A name that is had back may still be trimmed and lose its lead. Neither does any harm
to a name without blanks.
-/

namespace Breadboard.Text

/-! ## Cutting -/

/-- What stands between the occurrences of a separator, the leftmost ones first and
none of them overlapping. So many characters are skipped first; they are what is left
of an occurrence that has begun. -/
def piecesFrom (separator : List Char) : Nat → List Char → List (List Char)
  | _, [] => [[]]
  | skip + 1, _ :: rest => piecesFrom separator skip rest
  | 0, c :: rest =>
    if separator.isPrefixOf (c :: rest) then
      [] :: piecesFrom separator (separator.length - 1) rest
    else (piecesFrom separator 0 rest).modifyHead (c :: ·)

/-- **The pieces of a text** between the occurrences of a separator. A text in which it
does not occur is one piece, even if there is nothing in it. -/
def pieces (separator s : String) : List String :=
  (piecesFrom separator.toList 0 s.toList).map String.ofList

variable {c : Char} {tail : List Char}

/-- The rest of an occurrence is skipped. -/
theorem piecesFrom_length_append (separator skipped rest : List Char) :
    piecesFrom separator skipped.length (skipped ++ rest) = piecesFrom separator 0 rest := by
  induction skipped with
  | nil => rfl
  | cons c skipped ih => exact ih

/-- A text is cut where the separator stands. -/
theorem piecesFrom_separator_append (rest : List Char) :
    piecesFrom (c :: tail) 0 (c :: tail ++ rest) = [] :: piecesFrom (c :: tail) 0 rest := by
  have hstands : (c :: tail).isPrefixOf (c :: (tail ++ rest)) = true :=
    List.isPrefixOf_iff_prefix.mpr (List.prefix_append (c :: tail) rest)
  rw [List.cons_append, piecesFrom, if_pos hstands]
  exact congrArg ([] :: ·) (piecesFrom_length_append (c :: tail) tail rest)

/-- **It is cut nowhere** in characters other than the one that the separator begins with. -/
theorem piecesFrom_append {piece : List Char} (h : c ∉ piece) (rest : List Char) :
    piecesFrom (c :: tail) 0 (piece ++ rest)
      = (piecesFrom (c :: tail) 0 rest).modifyHead (piece ++ ·) := by
  induction piece with
  | nil =>
    show piecesFrom (c :: tail) 0 rest = (piecesFrom (c :: tail) 0 rest).modifyHead id
    rw [List.modifyHead_id, id]
  | cons d piece ih =>
    obtain ⟨hd, hpiece⟩ := not_or.mp (mt List.mem_cons.mpr h)
    have hnone : ¬ (c :: tail).isPrefixOf (d :: (piece ++ rest)) = true := by
      rw [List.isPrefixOf_iff_prefix, List.cons_prefix_cons]
      exact fun hstands => hd hstands.1
    rw [List.cons_append, piecesFrom, if_neg hnone, ih hpiece, List.modifyHead_modifyHead]
    rfl

/-- Joined characters come apart again. -/
theorem piecesFrom_intercalate {parts : List (List Char)} (hne : parts ≠ [])
    (h : ∀ part ∈ parts, c ∉ part) :
    piecesFrom (c :: tail) 0 ((c :: tail).intercalate parts) = parts := by
  induction parts with
  | nil => exact absurd rfl hne
  | cons part rest ih =>
    have hpart := h part List.mem_cons_self
    cases rest with
    | nil =>
      have hlast : piecesFrom (c :: tail) 0 (part ++ []) = [part ++ []] := piecesFrom_append hpart []
      rw [List.append_nil] at hlast
      rw [List.intercalate_singleton, hlast]
    | cons next rest =>
      have hrest := ih (by simp) fun other hmem => h other (List.mem_cons_of_mem part hmem)
      rw [List.intercalate_cons_cons, List.append_assoc, piecesFrom_append hpart,
        piecesFrom_separator_append, hrest]
      simp

/-- **A text that was joined comes apart into what was joined**, if none of it has the
character that the separator begins with. -/
theorem pieces_intercalate {separator : String} (hseparator : separator.toList = c :: tail)
    {parts : List String} (hne : parts ≠ []) (h : ∀ part ∈ parts, c ∉ part.toList) :
    pieces separator (separator.intercalate parts) = parts := by
  have hchars : parts.map String.toList ≠ [] := by simpa using hne
  have hparts : ∀ part ∈ parts.map String.toList, c ∉ part := by
    intro part hmem
    obtain ⟨s, hs, rfl⟩ := List.mem_map.mp hmem
    exact h s hs
  unfold pieces
  rw [String.toList_intercalate, hseparator, piecesFrom_intercalate hchars hparts, List.map_map]
  simp

/-! ## Trimming -/

theorem dropWhile_isBlank_eq_self {cs : List Char} (h : ∀ c ∈ cs, isBlank c = false) :
    cs.dropWhile isBlank = cs := by
  cases cs with
  | nil => rfl
  | cons c rest => exact List.dropWhile_cons_of_neg (by simp [h c List.mem_cons_self])

theorem dropBlankEnd_eq_self {cs : List Char} (h : ∀ c ∈ cs, isBlank c = false) :
    dropBlankEnd cs = cs := by
  unfold dropBlankEnd
  rw [dropWhile_isBlank_eq_self fun c hc => h c (List.mem_reverse.mp hc), List.reverse_reverse]

/-- Trimming goes no further back than a character that is not blank. -/
theorem dropBlankEnd_append_cons {c : Char} (hc : isBlank c = false) (front back : List Char) :
    dropBlankEnd (front ++ c :: back) = front ++ c :: dropBlankEnd back := by
  have hfront : (c :: front.reverse).dropWhile isBlank = c :: front.reverse :=
    List.dropWhile_cons_of_neg (by simp [hc])
  unfold dropBlankEnd
  rw [List.reverse_append, List.reverse_cons, List.append_assoc, List.singleton_append,
    List.dropWhile_append]
  split
  · rename_i hblank
    rw [hfront, List.isEmpty_iff.mp hblank]
    simp
  · simp

/-- What has no blanks stays whole at the end of a text. -/
theorem suffix_dropBlankEnd {back : List Char} (h : ∀ c ∈ back, isBlank c = false)
    (front : List Char) : back <:+ dropBlankEnd (front ++ back) := by
  cases back with
  | nil => exact List.nil_suffix
  | cons c rest =>
    rw [dropBlankEnd_append_cons (h c List.mem_cons_self),
      dropBlankEnd_eq_self fun c hc => h c (List.mem_cons_of_mem _ hc)]
    exact List.suffix_append front (c :: rest)

/-- A text without blanks has none to trim. -/
theorem trim_eq_self {s : String} (h : ∀ c ∈ s.toList, isBlank c = false) : trim s = s := by
  unfold trim
  rw [dropWhile_isBlank_eq_self h, dropBlankEnd_eq_self h, String.ofList_toList]

/-- What stands behind a lead is left when the lead is dropped. -/
theorem dropLead_append (lead s : String) : dropLead lead (lead ++ s) = s := by
  have hrest : lead.toList.isPrefixOf? (lead ++ s).toList = some s.toList :=
    List.isPrefixOf?_eq_some_iff_append_eq.mpr String.toList_append.symm
  unfold dropLead
  rw [hrest]
  exact String.ofList_toList

/-- There is nothing to drop if a text does not begin so. -/
theorem dropLead_eq_self {lead s : String} (h : ¬ lead.toList <+: s.toList) :
    dropLead lead s = s := by
  have hnone : lead.toList.isPrefixOf? s.toList = none := by
    rw [← Option.isNone_iff_eq_none, ← Option.not_isSome, List.isSome_isPrefixOf?_eq_isPrefixOf,
      Bool.not_eq_true', ← Bool.not_eq_true, List.isPrefixOf_iff_prefix]
    exact h
  unfold dropLead
  rw [hnone]
  rfl

end Breadboard.Text
