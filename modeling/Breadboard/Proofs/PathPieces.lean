import Breadboard.Files.Path
import Mathlib.Data.List.Basic
import Mathlib.Data.List.TakeWhile

/-!
# Paths by their components

Two texts can be the same path: separators may be repeated or stand at the end, and a dot that does
not begin the path says nothing. What tells paths apart are their *components*. An absolute path
begins with the root; after that come the pieces that count.

A path whose last component is a name is that name within a directory. To put another name in its
place cuts the text and joins it again, so that the separators need not be the same as before. The
components are, but for the last one, and so is the directory. A path that ends in no name gets one
more component.
-/

namespace Breadboard.Path

/-! ## Pieces -/

/-- A piece holds no separator. -/
def Unseparated (piece : List Char) : Prop := '/' ∉ piece

theorem split_ne_nil (cs : List Char) : pieces.split cs ≠ [] := by
  cases cs with
  | nil => exact List.cons_ne_nil _ _
  | cons c rest =>
    unfold pieces.split
    split
    · exact List.cons_ne_nil _ _
    · split <;> exact List.cons_ne_nil _ _

theorem split_separator (cs : List Char) : pieces.split ('/' :: cs) = [] :: pieces.split cs := rfl

/-- Any other character belongs to the first piece. -/
theorem split_cons {c : Char} (hc : c ≠ '/') {cs : List Char} {piece : List Char}
    {more : List (List Char)} (h : pieces.split cs = piece :: more) :
    pieces.split (c :: cs) = (c :: piece) :: more := by
  rw [pieces.split, if_neg (by simp [hc]), h]

/-- **A separator cuts** what is before it from what is behind it. -/
theorem split_append (xs ys : List Char) :
    pieces.split (xs ++ '/' :: ys) = pieces.split xs ++ pieces.split ys := by
  induction xs with
  | nil => rfl
  | cons c rest ih =>
    by_cases hc : c = '/'
    · subst hc
      rw [List.cons_append, split_separator, split_separator, ih, List.cons_append]
    · obtain ⟨piece, more, hrest⟩ := List.exists_cons_of_ne_nil (split_ne_nil rest)
      have hwhole : pieces.split (rest ++ '/' :: ys) = piece :: (more ++ pieces.split ys) := by
        rw [ih, hrest, List.cons_append]
      rw [List.cons_append, split_cons hc hwhole, split_cons hc hrest, List.cons_append]

theorem split_of_unseparated {piece : List Char} (h : Unseparated piece) :
    pieces.split piece = [piece] := by
  induction piece with
  | nil => rfl
  | cons c rest ih =>
    obtain ⟨hc, hrest⟩ := not_or.mp (mt List.mem_cons.mpr h)
    exact split_cons (Ne.symm hc) (ih hrest)

theorem unseparated_of_mem_split {cs piece : List Char} (h : piece ∈ pieces.split cs) :
    Unseparated piece := by
  induction cs generalizing piece with
  | nil =>
    rw [List.mem_singleton.mp h]
    exact List.not_mem_nil
  | cons c rest ih =>
    by_cases hc : c = '/'
    · subst hc
      obtain rfl | h := List.mem_cons.mp h
      · exact List.not_mem_nil
      · exact ih h
    · obtain ⟨first, more, hrest⟩ := List.exists_cons_of_ne_nil (split_ne_nil rest)
      rw [split_cons hc hrest] at h
      obtain rfl | h := List.mem_cons.mp h
      · have hfirst := ih (hrest ▸ List.mem_cons_self)
        exact fun hmem => (List.mem_cons.mp hmem).elim (fun heq => hc heq.symm) hfirst
      · exact ih (hrest ▸ List.mem_cons_of_mem first h)

/-- **Pieces that are put together** are cut apart again. -/
theorem split_intercalate {ps : List (List Char)} (hne : ps ≠ [])
    (h : ∀ piece ∈ ps, Unseparated piece) : pieces.split (['/'].intercalate ps) = ps := by
  induction ps with
  | nil => exact absurd rfl hne
  | cons piece rest ih =>
    obtain ⟨hpiece, hrest⟩ := List.forall_mem_cons.mp h
    cases rest with
    | nil =>
      rw [List.intercalate_singleton]
      exact split_of_unseparated hpiece
    | cons next rest =>
      rw [List.intercalate_cons_cons, List.append_assoc, List.singleton_append, split_append,
        split_of_unseparated hpiece, ih (List.cons_ne_nil _ _) hrest]
      rfl

theorem unseparated_of_mem_pieces {p : Path} {piece : List Char} (h : piece ∈ p.pieces) :
    Unseparated piece :=
  unseparated_of_mem_split h

/-- The pieces that count are kept, and the others at the end are not. -/
theorem exists_significant_eq (first : List Char) (rest : List (List Char)) :
    ∃ kept dropped, rest = kept ++ dropped ∧ significant (first :: rest) = first :: kept
      ∧ ∀ piece ∈ dropped, counts piece = false := by
  refine ⟨(rest.reverse.dropWhile (!counts ·)).reverse,
    (rest.reverse.takeWhile (!counts ·)).reverse, ?_, rfl, fun piece hpiece => ?_⟩
  · rw [← List.reverse_append, List.takeWhile_append_dropWhile, List.reverse_reverse]
  · have hdropped := List.mem_takeWhile_imp (List.mem_reverse.mp hpiece)
    simpa using hdropped

theorem significant_subset (ps : List (List Char)) : significant ps ⊆ ps := by
  cases ps with
  | nil => exact List.Subset.refl []
  | cons first rest =>
    obtain ⟨kept, dropped, rfl, hkept, -⟩ := exists_significant_eq first rest
    rw [hkept]
    exact List.subset_append_left (first :: kept) dropped

/-- Nothing is dropped behind a piece that counts. -/
theorem significant_concat {piece : List Char} (h : counts piece = true)
    (before : List (List Char)) : significant (before ++ [piece]) = before ++ [piece] := by
  cases before with
  | nil => rfl
  | cons first rest =>
    show first :: ((rest ++ [piece]).reverse.dropWhile (!counts ·)).reverse = _
    rw [List.reverse_append, List.reverse_singleton, List.singleton_append,
      List.dropWhile_cons_of_neg (by simp [h]), List.reverse_cons, List.reverse_reverse]
    rfl

/-! ## Components -/

/-- The components that some pieces are: the first of them in any case, and those that count. -/
def lead : List (List Char) → List (List Char)
  | [] => []
  | first :: rest => (if first.isEmpty then ['/'] else first) :: rest.filter counts

/-- **The components of a path**. The empty path has none, and an absolute one begins with the
root. -/
def components (p : Path) : List (List Char) := if p.text.isEmpty then [] else lead p.pieces

example : (⟨"./roms//demo.bin/."⟩ : Path).components
    = [".", "roms", "demo.bin"].map String.toList := by
  decide

theorem components_eq_lead {p : Path} (h : p.pieces ≠ [[]]) : p.components = lead p.pieces :=
  if_neg fun hempty => h (by
    unfold pieces
    rw [String.isEmpty_iff.mp hempty]
    rfl)

/-- What does not count is no component. -/
theorem lead_append {dropped : List (List Char)} (h : ∀ piece ∈ dropped, counts piece = false)
    {ps : List (List Char)} (hne : ps ≠ []) : lead (ps ++ dropped) = lead ps := by
  obtain ⟨first, rest, rfl⟩ := List.exists_cons_of_ne_nil hne
  have hnone : dropped.filter counts = [] :=
    List.filter_eq_nil_iff.mpr fun piece hpiece => by simp [h piece hpiece]
  show _ :: (rest ++ dropped).filter counts = _ :: rest.filter counts
  rw [List.filter_append, hnone, List.append_nil]

/-- What counts is a component. -/
theorem lead_concat {piece : List Char} (h : counts piece = true) (ps : List (List Char)) :
    lead (ps ++ [piece]) = lead ps ++ [piece] := by
  cases ps with
  | nil =>
    have hne : piece.isEmpty = false := by
      cases piece with
      | nil => cases h
      | cons c rest => rfl
    show [if piece.isEmpty then ['/'] else piece] = [piece]
    rw [hne]
    rfl
  | cons first rest =>
    show _ :: (rest ++ [piece]).filter counts = _ :: rest.filter counts ++ [piece]
    rw [List.filter_append, List.filter_singleton, h]
    rfl

theorem lead_significant (ps : List (List Char)) : lead (significant ps) = lead ps := by
  cases ps with
  | nil => rfl
  | cons first rest =>
    obtain ⟨kept, dropped, rfl, hkept, hdropped⟩ := exists_significant_eq first rest
    rw [hkept]
    show lead (first :: kept) = lead ((first :: kept) ++ dropped)
    exact (lead_append hdropped (List.cons_ne_nil _ _)).symm

/-! ## Names -/

/-- **Names** that a file can have. -/
structure IsName (name : List Char) : Prop where
  counts : counts name = true
  ne_up : name ≠ ['.', '.']
  unseparated : Unseparated name

variable {p : Path} {name : List Char}

theorem IsName.ne_nil (h : IsName name) : name ≠ [] := by
  rintro rfl
  exact absurd h.counts (by decide)

/-- A path with a name in it is not empty. -/
theorem ne_singleton_nil_of_mem {ps : List (List Char)} (hname : IsName name) (h : name ∈ ps) :
    ps ≠ [[]] := by
  rintro rfl
  exact hname.ne_nil (List.mem_singleton.mp h)

/-- **The file name of a path** is its last piece that counts. -/
theorem exists_pieces_of_fileName? (h : p.fileName? = some name) :
    IsName name ∧ ∃ outer dropped, significant p.pieces = outer ++ [name]
      ∧ p.pieces = outer ++ [name] ++ dropped ∧ ∀ piece ∈ dropped, counts piece = false := by
  obtain ⟨first, rest, hpieces⟩ := List.exists_cons_of_ne_nil (split_ne_nil p.text.toList)
  change p.pieces = first :: rest at hpieces
  obtain ⟨kept, dropped, rfl, hkept, hdropped⟩ := exists_significant_eq first rest
  unfold fileName? at h
  rw [hpieces, hkept] at h
  split at h
  · cases h
  · rename_i last hlast
    split at h
    · rename_i hcounts
      cases h
      obtain ⟨outer, houter⟩ := List.getLast?_eq_some_iff.mp hlast
      have hwhole : p.pieces = outer ++ [name] ++ dropped := by
        rw [hpieces, ← houter, List.cons_append]
      have hmem : name ∈ p.pieces := by simp [hwhole]
      simp only [Bool.and_eq_true, bne_iff_ne] at hcounts
      exact ⟨⟨hcounts.1, hcounts.2, unseparated_of_mem_pieces hmem⟩, outer, dropped,
        by rw [hpieces, hkept, houter], hwhole, hdropped⟩
    · cases h

/-- A path that ends in a name has it for its file name. -/
theorem fileName?_of_pieces {before : List (List Char)} (hname : IsName name)
    (h : p.pieces = before ++ [name]) : p.fileName? = some name := by
  have hlast : (significant p.pieces).getLast? = some name := by
    rw [h, significant_concat hname.counts, List.getLast?_concat]
  unfold fileName?
  rw [hlast]
  exact if_pos (by simp [hname.counts, hname.ne_up])

/-! ## Joining -/

/-- **A name is joined** behind the components. -/
theorem exists_pieces_join (p : Path) (hname : IsName name) :
    ∃ before, (p.join (String.ofList name)).pieces = before ++ [name]
      ∧ lead before = p.components := by
  have hhead : name.head? ≠ some '/' := fun h => hname.unseparated (List.mem_of_head? h)
  unfold join components
  by_cases hempty : p.text.isEmpty = true
  · rw [if_pos (.inr hempty), if_pos hempty]
    refine ⟨[], ?_, rfl⟩
    unfold pieces
    rw [String.toList_ofList]
    exact split_of_unseparated hname.unseparated
  · rw [if_neg (by simp [hhead, hempty]), if_neg hempty]
    split
    · rename_i hlast
      obtain ⟨cs, hcs⟩ := List.getLast?_eq_some_iff.mp hlast
      refine ⟨pieces.split cs, ?_, ?_⟩
      · unfold pieces
        rw [String.toList_append, hcs, String.toList_ofList, List.append_assoc,
          List.singleton_append, split_append, split_of_unseparated hname.unseparated]
      · unfold pieces
        rw [hcs, split_append]
        exact (lead_append (by decide) (split_ne_nil cs)).symm
    · refine ⟨p.pieces, ?_, rfl⟩
      unfold pieces
      rw [String.toList_append, String.toList_append, String.toList_ofList, String.toList_ofList,
        List.append_assoc, List.singleton_append, split_append,
        split_of_unseparated hname.unseparated]

/-- **What is joined** has the name for its file name and for one more component. -/
theorem components_join (p : Path) (hname : IsName name) :
    (p.join (String.ofList name)).components = p.components ++ [name]
      ∧ (p.join (String.ofList name)).fileName? = some name := by
  obtain ⟨before, hpieces, hbefore⟩ := exists_pieces_join p hname
  refine ⟨?_, fileName?_of_pieces hname hpieces⟩
  rw [components_eq_lead (hpieces ▸ ne_singleton_nil_of_mem hname (by simp)), hpieces,
    lead_concat hname.counts, hbefore]

/-! ## Directories -/

/-- Pieces that are put together make a path of their components. -/
theorem components_ofPieces {ps : List (List Char)} (h : ∀ piece ∈ ps, Unseparated piece) :
    (ofPieces ps).components = lead ps := by
  unfold ofPieces
  split
  · rfl
  · rename_i hroot
    cases ps with
    | nil => rfl
    | cons first rest =>
      have hpieces : (⟨String.ofList (['/'].intercalate (first :: rest))⟩ : Path).pieces
          = first :: rest := by
        unfold pieces
        rw [String.toList_ofList]
        exact split_intercalate (List.cons_ne_nil first rest) h
      rw [components_eq_lead fun hone => hroot (hpieces.symm.trans hone), hpieces]

/-- **A path with a file name** is that name within its directory. -/
theorem components_directory (h : p.fileName? = some name) :
    p.components = p.directory.components ++ [name] := by
  obtain ⟨hname, outer, dropped, hsignificant, hpieces, hdropped⟩ := exists_pieces_of_fileName? h
  have hp : p.components = lead outer ++ [name] := by
    rw [components_eq_lead (hpieces ▸ ne_singleton_nil_of_mem hname (by simp)), hpieces,
      lead_append hdropped (by simp), lead_concat hname.counts]
  have hdirectory : p.directory.components = lead outer := by
    unfold directory
    rw [hsignificant, List.dropLast_concat, components_ofPieces fun piece hpiece => ?_,
      lead_significant]
    refine unseparated_of_mem_pieces (p := p) ?_
    rw [hpieces]
    exact List.mem_append_left _ (List.mem_append_left _ (significant_subset outer hpiece))
  rw [hp, hdirectory]

/-- **Another file name** changes the last component only. -/
theorem components_withFileName (h : p.fileName? = some name) {name' : List Char}
    (hname' : IsName name') :
    (p.withFileName (String.ofList name')).components = p.directory.components ++ [name']
      ∧ (p.withFileName (String.ofList name')).fileName? = some name' := by
  unfold withFileName
  rw [h]
  exact components_join p.directory hname'

/-- A path that ends in no name gets one more component. -/
theorem components_withFileName_of_none (h : p.fileName? = none) (hname : IsName name) :
    (p.withFileName (String.ofList name)).components = p.components ++ [name] := by
  unfold withFileName
  rw [h]
  exact (components_join p hname).1

end Breadboard.Path
