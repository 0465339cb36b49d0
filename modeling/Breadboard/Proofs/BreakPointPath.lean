import Breadboard.Proofs.FileReadBack
import Breadboard.Proofs.PathPieces
import Breadboard.Memory.RomFile

/-!
# Break points are not saved over the program

The break points of a program are saved beside it, in a file whose name is made of that of the
program: without the extension, behind a dot, and with an extension of its own. If a name could be
made into itself in this way, the first break point would destroy the program. None can. A name
without an extension becomes longer. A name with one would have to end in the new extension, so
that what is behind its last dot would have a dot in it.

Two different paths can still lead to one file. These do not: a file is read only through its name,
and to the last place on the way the two paths bring different names.
-/

namespace Breadboard

namespace Path

/-! ## Stems -/

/-- **A name is its stem**, or its stem and what stands behind the last dot. -/
theorem stem_cases (name : List Char) :
    stem name = name ∨ ∃ extension, name = stem name ++ '.' :: extension ∧ '.' ∉ extension := by
  unfold stem
  dsimp only
  split
  · exact .inl rfl
  · rename_i hbefore
    have hwhole : name.reverse.takeWhile (· != '.') ++ name.reverse.dropWhile (· != '.')
        = name.reverse := List.takeWhile_append_dropWhile
    have hbehind : '.' ∉ name.reverse.takeWhile (· != '.') :=
      fun hmem => absurd (List.mem_takeWhile_imp hmem) (by decide)
    have hfirst := List.head?_dropWhile_not (· != '.') name.reverse
    generalize name.reverse.dropWhile (· != '.') = rest at *
    generalize name.reverse.takeWhile (· != '.') = behind at *
    cases rest with
    | nil => exact absurd rfl hbefore
    | cons c rest =>
      obtain rfl : c = '.' := by simpa using hfirst
      refine .inr ⟨behind.reverse, ?_, mt List.mem_reverse.mp hbehind⟩
      rw [← List.reverse_inj, ← hwhole]
      simp

/-- A stem has no other characters than the name. -/
theorem stem_subset (name : List Char) : stem name ⊆ name := by
  obtain hwhole | ⟨extension, hname, -⟩ := stem_cases name
  · rw [hwhole]
    exact List.Subset.refl name
  · conv_rhs => rw [hname]
    exact List.subset_append_left _ _

/-- The name of the break point file of a program with a stem. -/
def hidden (stem : List Char) : List Char := '.' :: stem ++ ['.', 'b', 'p']

/-- **No name is made into itself.** -/
theorem hidden_stem_ne (name : List Char) : hidden (stem name) ≠ name := by
  intro heq
  obtain hwhole | ⟨extension, hname, hdot⟩ := stem_cases name
  · have hlength := congrArg List.length heq
    simp only [hwhole, hidden, List.cons_append, List.length_cons, List.length_append] at hlength
    omega
  · have hends := heq.trans hname
    generalize stem name = before at hends
    have hlength := congrArg List.length hends
    simp only [hidden, List.cons_append, List.length_cons, List.length_append,
      List.length_nil] at hlength
    -- The last three characters on either side.
    rw [hidden, ← List.singleton_append (l := extension), ← List.append_assoc] at hends
    have hextension := List.append_inj_right' hends (by simp; omega)
    exact hdot (hextension ▸ List.mem_cons_self)

theorem isName_hidden {stem : List Char} (h : Unseparated stem) : IsName (hidden stem) where
  counts := by cases stem <;> simp [counts, hidden]
  ne_up := by cases stem <;> simp [hidden]
  unseparated := by
    unfold Unseparated hidden
    simp only [List.cons_append, List.mem_cons, List.mem_append, List.not_mem_nil, or_false]
    rintro (hc | hstem | hc)
    · exact absurd hc (by decide)
    · exact h hstem
    · exact absurd hc (by decide)

/-! ## The place of the break points -/

variable {program : Path} {name : List Char}

/-- **Beside the program**, if that has a file name: the directory is the same. -/
theorem components_breakPoints (h : program.fileName? = some name) :
    program.breakPoints.components = program.directory.components ++ [hidden (stem name)]
      ∧ program.breakPoints.fileName? = some (hidden (stem name)) := by
  obtain ⟨hname, -⟩ := exists_pieces_of_fileName? h
  unfold breakPoints
  rw [h]
  exact components_withFileName h
    (isName_hidden fun hmem => hname.unseparated (stem_subset name hmem))

example : (⟨"roms//demo.bin/."⟩ : Path).breakPoints = ⟨"roms/.demo.bp"⟩ := by decide

/-- Within the program's path, if that ends in no name. -/
theorem components_breakPoints_of_none (h : program.fileName? = none) :
    program.breakPoints.components = program.components ++ [hidden unnamedProgram] := by
  unfold breakPoints
  rw [h]
  exact components_withFileName_of_none h (isName_hidden (by unfold Unseparated; decide))

/-- **The break points have another path.** -/
theorem components_breakPoints_ne (program : Path) :
    program.breakPoints.components ≠ program.components := by
  cases h : program.fileName? with
  | none =>
    rw [components_breakPoints_of_none h]
    exact fun heq => absurd (congrArg List.length heq) (by simp)
  | some name =>
    rw [(components_breakPoints h).1, components_directory h]
    intro heq
    exact hidden_stem_ne name (List.singleton_inj.mp (List.append_cancel_left heq))

end Path

namespace FileTree

/-! ## Where a file is read -/

variable {t : FileTree} {p : Path} {place q : List (List Char)}

/-- **Reached**: a place to which there are directories only all the way. -/
def Reached (t : FileTree) (place : List (List Char)) : Prop :=
  ∀ before, before <+: place → t.node? before = some .directory

theorem node?_of_isRootOrAbove (h : isRootOrAbove place = true) :
    t.node? place = some .directory :=
  if_pos h

theorem reached_nil (t : FileTree) : t.Reached [] := by
  intro before hbefore
  rw [List.prefix_nil.mp hbefore]
  rfl

/-- **One piece** leads from directory to directory. -/
theorem Reached.enter (h : t.Reached place) {piece : List Char}
    (hq : t.enter place piece = .ok q) : t.Reached q := by
  unfold FileTree.enter at hq
  split at hq
  · cases hq
    exact h
  split at hq
  · cases hq
    split
    · rename_i habove
      intro before hbefore
      refine node?_of_isRootOrAbove (List.all_eq_true.mpr fun name hname => ?_)
      obtain hname | hname := List.mem_append.mp (hbefore.subset hname)
      · exact List.all_eq_true.mp habove name hname
      · rw [List.mem_singleton.mp hname]
        rfl
    · exact fun before hbefore => h before (hbefore.trans (List.dropLast_prefix place))
  split at hq
  · exact absurd hq (throw_ne_ok _ _)
  split at hq
  · exact absurd hq (throw_ne_ok _ _)
  · exact absurd hq (throw_ne_ok _ _)
  · rename_i hnode
    cases hq
    intro before hbefore
    obtain rfl | hbefore := List.prefix_concat_iff.mp hbefore
    · exact hnode
    · exact h before hbefore

theorem Reached.foldlM (h : t.Reached place) {pieces : List (List Char)}
    (hq : pieces.foldlM t.enter place = .ok q) : t.Reached q := by
  induction pieces generalizing place with
  | nil =>
    cases hq
    exact h
  | cons piece rest ih =>
    rw [List.foldlM_cons] at hq
    obtain ⟨place', hpiece, hrest⟩ := exists_of_bind_eq_ok hq
    exact ih (h.enter hpiece) hrest

/-- What can be asked for by its pieces has those of the path. -/
theorem pieces_of_piecesOf {pieces : List (List Char)} (h : piecesOf p = .ok pieces)
    (hne : pieces ≠ []) : pieces = p.pieces := by
  unfold piecesOf at h
  split at h
  · exact absurd h (throw_ne_ok _ _)
  split at h
  · exact absurd h (throw_ne_ok _ _)
  split at h
  · exact absurd h (throw_ne_ok _ _)
  split at h
  · split at h
    · cases h
      exact absurd rfl hne
    · exact absurd h (throw_ne_ok _ _)
  · cases h
    rfl

/-- **Where no directory is** a path leads only by its file name. -/
theorem exists_fileName?_of_locate (h : t.locate p = .ok q)
    (hnode : t.node? q ≠ some .directory) :
    ∃ name place, p.fileName? = some name ∧ q = place ++ [name] := by
  have hreached : ¬ t.Reached q := fun hreached => hnode (hreached q (List.prefix_refl q))
  unfold locate at h
  obtain ⟨pieces, hpieces, h⟩ := exists_of_bind_eq_ok h
  obtain ⟨place, hplace, h⟩ := exists_of_bind_eq_ok h
  have hplace := (reached_nil t).foldlM hplace
  cases hlast : pieces.getLast? with
  | none =>
    rw [hlast] at h
    cases h
    exact absurd hplace hreached
  | some last =>
    rw [hlast] at h
    dsimp only at h
    split at h
    · rename_i hname
      split at h
      · exact absurd h (throw_ne_ok _ _)
      cases h
      obtain ⟨before, hbefore⟩ := List.getLast?_eq_some_iff.mp hlast
      have hwhole : p.pieces = before ++ [last] := by
        rw [← pieces_of_piecesOf hpieces (by simp [hbefore]), hbefore]
      simp only [Bool.and_eq_true, bne_iff_ne] at hname
      exact ⟨last, place, Path.fileName?_of_pieces ⟨hname.1, hname.2,
        Path.unseparated_of_mem_pieces (p := p) (by simp [hwhole])⟩ hwhole, rfl⟩
    · exact absurd (hplace.enter h) hreached

/-- What is read is a file at the place that the path leads to. -/
theorem exists_of_read {content : List UInt8} (h : t.read p = .ok content) :
    ∃ place, t.locate p = .ok place ∧ t.node? place = some (.file content) := by
  obtain ⟨place, hplace, h⟩ := exists_of_bind_eq_ok h
  refine ⟨place, hplace, ?_⟩
  split at h
  · exact absurd h (throw_ne_ok _ _)
  · exact absurd h (throw_ne_ok _ _)
  · cases h
    assumption

/-- **The program is still read** after its break points were written. -/
theorem read_of_write_breakPoints {t' : FileTree} {program : Path} {image content : List UInt8}
    (hread : t.read program = .ok image) (hwrite : t.write program.breakPoints content = .ok t') :
    t'.read program = .ok image := by
  obtain ⟨place, hplace, hfile⟩ := exists_of_read hread
  obtain ⟨place', hplace', hnode', rfl⟩ := exists_of_write hwrite
  obtain ⟨name, before, hname, rfl⟩ := exists_fileName?_of_locate hplace (by simp [hfile])
  obtain ⟨name', before', hname', rfl⟩ := exists_fileName?_of_locate hplace' hnode'
  have hne : before ++ [name] ≠ before' ++ [name'] := by
    intro heq
    obtain ⟨-, hsame⟩ := List.append_inj' heq rfl
    have hhidden := hname'.symm.trans (Path.components_breakPoints hname).2
    exact Path.hidden_stem_ne name
      ((Option.some.inj hhidden).symm.trans (List.singleton_inj.mp hsame).symm)
  unfold read
  rw [locate_put hnode' hplace]
  simp only [bind, Except.bind, node?_put_of_ne t hne, hfile]
  rfl

end FileTree

/-- **Saving break points never overwrites the program.** Whatever the path of the program, its
break points have another one, in the same directory if the path has a file name. And whatever
files there are: if the program can be read, it is read as before once its break points were saved,
or could not be. -/
theorem Path.breakPoints_never_program :
    (∀ program : Path, program.breakPoints.components ≠ program.components)
      ∧ (∀ program : Path, program.fileName?.isSome = true →
        program.breakPoints.directory.components = program.directory.components)
      ∧ ∀ (m : Memory) (program : Path) (s : Session) (image : List UInt8),
        m.breakPointFile = some program.breakPoints → s.files.read program = .ok image →
        ((m.saveBreakPoints : StateM Session (Except MemoryError Unit)) s).2.files.read program
          = .ok image := by
  refine ⟨components_breakPoints_ne, fun program h => ?_, fun m program s image hfile hread => ?_⟩
  · obtain ⟨name, hname⟩ := Option.isSome_iff_exists.mp h
    obtain ⟨hcomponents, hhidden⟩ := components_breakPoints hname
    rw [components_directory hhidden] at hcomponents
    exact List.append_cancel_right hcomponents
  · unfold Memory.saveBreakPoints
    rw [hfile]
    simp only [bind, StateT.bind, MonadFiles.writeFile, Session.change]
    cases hwrite : s.files.write program.breakPoints m.breakPoints.toBytes with
    | error e => exact hread
    | ok files => exact FileTree.read_of_write_breakPoints hread hwrite

end Breadboard
