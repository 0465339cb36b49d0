import Breadboard.Files.FileTree

/-!
# Reading back a written file

Writing puts a file at the place its path leads to. The path leads there still:
on its way it passes through directories only, and a file is never written where
a directory stands, so none of them has gone. What is read is therefore what was
written.
-/

namespace Breadboard.FileTree

/-- What succeeds has succeeded in its first part. -/
theorem exists_of_bind_eq_ok {ε α β : Type} {x : Except ε α} {f : α → Except ε β} {b : β}
    (h : (x >>= f) = .ok b) : ∃ a, x = .ok a ∧ f a = .ok b := by
  cases x with
  | error e => exact absurd h (by simp [bind, Except.bind])
  | ok a => exact ⟨a, rfl, h⟩

theorem throw_ne_ok {ε α : Type} (e : ε) (a : α) : (throw e : Except ε α) ≠ .ok a := by
  simp [throw, throwThe, MonadExceptOf.throw]

/-! ## What stands where -/

theorem lookup_filter_ne {α : Type} {place p : List (List Char)} (h : p ≠ place)
    (nodes : List (List (List Char) × α)) :
    (nodes.filter (·.1 != place)).lookup p = nodes.lookup p := by
  induction nodes with
  | nil => rfl
  | cons node rest ih =>
    obtain ⟨q, a⟩ := node
    by_cases hq : q = place
    · rw [List.filter_cons_of_neg (by simp [hq]), ih, List.lookup_cons,
        beq_eq_false_iff_ne.mpr (hq ▸ h)]
    · rw [List.filter_cons_of_pos (by simp [hq]), List.lookup_cons, List.lookup_cons, ih]

/-- A change at one place changes nothing at another. -/
theorem node?_put_of_ne (t : FileTree) {place p : List (List Char)} (h : p ≠ place)
    (content : Option (List UInt8)) : (t.put place content).node? p = t.node? p := by
  unfold node? put
  rw [List.lookup_cons, beq_eq_false_iff_ne.mpr h, lookup_filter_ne h]

/-- A file stands where it was put, unless that is above all files. -/
theorem node?_put_self (t : FileTree) {place : List (List Char)}
    (h : isRootOrAbove place = false) (content : List UInt8) :
    (t.put place (some content)).node? place = some (.file content) := by
  unfold node? put
  rw [h, List.lookup_cons, beq_self_eq_true]
  rfl

/-! ## Paths after a file was put -/

section

variable {t : FileTree} {place : List (List Char)} {content : List UInt8}

/-- Directories stay where they are. -/
theorem node?_put_of_directory (hplace : t.node? place ≠ some .directory)
    {p : List (List Char)} (h : t.node? p = some .directory) :
    (t.put place (some content)).node? p = some .directory := by
  have hne : p ≠ place := by
    rintro rfl
    exact hplace h
  rw [node?_put_of_ne t hne, h]

theorem enter_put (hplace : t.node? place ≠ some .directory) {p q : List (List Char)}
    {piece : List Char} (h : t.enter p piece = .ok q) :
    (t.put place (some content)).enter p piece = .ok q := by
  unfold enter at h ⊢
  split at h
  · rw [if_pos ‹_›]
    exact h
  rw [if_neg ‹_›]
  split at h
  · rw [if_pos ‹_›]
    exact h
  rw [if_neg ‹_›]
  split at h
  · exact absurd h (throw_ne_ok _ _)
  rw [if_neg ‹_›]
  -- Only a directory is entered.
  split at h
  · exact absurd h (throw_ne_ok _ _)
  · exact absurd h (throw_ne_ok _ _)
  · rename_i hnode
    rw [node?_put_of_directory hplace hnode]
    exact h

theorem foldlM_enter_put (hplace : t.node? place ≠ some .directory) {pieces : List (List Char)}
    {p q : List (List Char)} (h : pieces.foldlM t.enter p = .ok q) :
    pieces.foldlM (t.put place (some content)).enter p = .ok q := by
  induction pieces generalizing p with
  | nil => exact h
  | cons piece rest ih =>
    rw [List.foldlM_cons] at h ⊢
    obtain ⟨p', hpiece, hrest⟩ := exists_of_bind_eq_ok h
    rw [enter_put hplace hpiece]
    exact ih hrest

/-- **A path leads to the same place** after a file was put where no directory
stood. -/
theorem locate_put (hplace : t.node? place ≠ some .directory) {path : Path}
    {q : List (List Char)} (h : t.locate path = .ok q) :
    (t.put place (some content)).locate path = .ok q := by
  unfold locate at h ⊢
  obtain ⟨pieces, hpieces, h⟩ := exists_of_bind_eq_ok h
  obtain ⟨p, hdirectory, h⟩ := exists_of_bind_eq_ok h
  rw [hpieces]
  show (pieces.dropLast.foldlM (t.put place (some content)).enter [] >>= _) = _
  rw [foldlM_enter_put hplace hdirectory]
  dsimp only [bind, Except.bind]
  cases hlast : pieces.getLast? with
  | none =>
    rw [hlast] at h
    exact h
  | some last =>
    rw [hlast] at h
    dsimp only at h ⊢
    split at h
    · rw [if_pos ‹_›]
      exact h
    · rw [if_neg ‹_›]
      exact enter_put hplace h

end

/-- A file is created only where its path leads. -/
theorem locate_of_locateFile {t : FileTree} {path : Path} {place : List (List Char)}
    (h : t.locateFile path = .ok place) : t.locate path = .ok place := by
  unfold locateFile at h
  obtain ⟨pieces, -, h⟩ := exists_of_bind_eq_ok h
  split at h
  · split at h
    · obtain ⟨_, -, h⟩ := exists_of_bind_eq_ok h
      exact absurd h (throw_ne_ok _ _)
    · exact h
  · exact h

/-- Where a file is written no directory stood. -/
theorem exists_of_write {t t' : FileTree} {path : Path} {content : List UInt8}
    (h : t.write path content = .ok t') :
    ∃ place, t.locate path = .ok place ∧ t.node? place ≠ some .directory
      ∧ t' = t.put place (some content) := by
  obtain ⟨place, hplace, h⟩ := exists_of_bind_eq_ok h
  refine ⟨place, locate_of_locateFile hplace, ?_⟩
  split at h
  · exact absurd h (throw_ne_ok _ _)
  · rename_i hnode
    exact ⟨hnode, (Except.ok.inj h).symm⟩

/-- **What was written is read.** -/
theorem read_of_write {t t' : FileTree} {path : Path} {content : List UInt8}
    (h : t.write path content = .ok t') : t'.read path = .ok content := by
  obtain ⟨place, hlocate, hnode, rfl⟩ := exists_of_write h
  -- The root and what is above it are directories.
  have hbelow : isRootOrAbove place = false := by
    refine Bool.of_not_eq_true fun habove => hnode ?_
    unfold node?
    rw [if_pos habove]
  unfold read
  rw [locate_put hnode hlocate]
  simp only [bind, Except.bind, node?_put_self t hbelow]
  rfl

/-- What can be read is there. -/
theorem contains_of_read {t : FileTree} {path : Path} {content : List UInt8}
    (h : t.read path = .ok content) : t.contains path = true := by
  obtain ⟨place, hplace, h⟩ := exists_of_bind_eq_ok h
  unfold contains
  rw [hplace]
  cases hnode : t.node? place with
  | none =>
    rw [hnode] at h
    exact absurd h (throw_ne_ok _ _)
  | some node => simp [hnode]

end Breadboard.FileTree
