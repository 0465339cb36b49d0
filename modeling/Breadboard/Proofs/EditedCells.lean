import Breadboard.Proofs.PresetReset
import Breadboard.Proofs.ReadingBack
import Breadboard.Proofs.SavedTable

/-!
# What was changed, from three sides

There are three ways to ask what the operator has changed. The table lists the cells whose word is
not the declared one, the dashboard shows each bit of a cell in one of four states, and an opcode
gives the lines of a cell that differ from the declaration. None of them is computed from another.

They agree nevertheless. The four states compare a bit with two baselines, the preset and the
default, and which of the states it is in depends on both. Whether it is one of the two that tell of
a change does not: there the default drops out, and what is left is the exclusive or of the level
and the preset. This carries over from bits to cells as long as every bit of a word is on display,
so the words have to fit.

The list is complete, too. Writing the presets it names back into their cells restores all lines to
what was declared, since the cells that it leaves out have the declared words anyway.
-/

namespace Breadboard

/-! ## Levels on display -/

/-- **The word that levels show**, the level of the highest line first. -/
def ControlWord.ofLevels (levels : List Bool) : ControlWord :=
  ofLines ((Line.descending.zip levels).filterMap fun shown =>
    if shown.2 then some shown.1 else none)

/-- A word that fits is what its levels show. -/
theorem ControlWord.ofLevels_has {w : ControlWord} (h : w.fits = true) :
    ofLevels (Line.descending.map w.has) = w := by
  have hlines : ∀ line, line ∈ ((Line.descending.zip (Line.descending.map w.has)).filterMap
      fun shown => if shown.2 then some shown.1 else none) ↔ w.has line = true := by
    intro line
    rw [← List.map_prod_left_eq_zip]
    simp [Line.mem_descending]
  exact ofLines_eq h hlines

namespace BitState

/-- Whether a state tells of a change. -/
def isChange (s : BitState) : Bool := s == .override || s == .reverted

/-- **The default drops out**: a bit is in a state of change if it is not at its preset. -/
theorem isChange_classify (current preset default : Bool) :
    (classify current preset default).isChange = (current ^^ preset) := by
  cases current <;> cases preset <;> cases default <;> rfl

end BitState

namespace Opcode

variable {op : Opcode} {c : Cell}

/-- **The bits shown as changed** are the lines that differ from the declaration. -/
theorem isChange_of_classify (op : Opcode) (c : Cell) :
    (op.classify c).map (·.2.isChange) = Line.descending.map (op.overrides c).has := by
  unfold classify
  rw [List.map_map]
  refine List.map_congr_left fun line _ => ?_
  exact (BitState.isChange_classify _ _ _).trans (ControlWord.has_xor _ _ line).symm

/-- **A level flipped where it is shown as changed** is the declared one. -/
theorem flipped_of_classify (op : Opcode) (c : Cell) :
    (op.classify c).map (fun shown => shown.1 ^^ shown.2.isChange)
      = Line.descending.map (op.preset c).has := by
  unfold classify
  rw [List.map_map]
  refine List.map_congr_left fun line _ => ?_
  show ((op.word c).has line ^^ (BitState.classify _ _ _).isChange) = _
  rw [BitState.isChange_classify, ← Bool.xor_assoc, Bool.xor_self, Bool.false_xor]

theorem Fits.overrides (h : op.Fits) (c : Cell) : (op.overrides c).fits = true :=
  ControlWord.fits_xor (h.lines c) (h.presets c)

/-- **A cell has changed** if one of its bits is shown as changed. -/
theorem word_ne_preset_iff (h : op.Fits) :
    op.word c ≠ op.preset c
      ↔ ∃ shown ∈ op.classify c, shown.2 = .override ∨ shown.2 = .reverted := by
  have hshown : (∃ shown ∈ op.classify c, shown.2 = .override ∨ shown.2 = .reverted)
      ↔ true ∈ Line.descending.map (op.overrides c).has := by
    rw [← isChange_of_classify]
    simp [BitState.isChange]
  rw [hshown, List.mem_map]
  constructor
  · intro hne
    -- The two words differ in some bit, and a word that fits has none past the last line.
    obtain ⟨i, hi⟩ := Classical.not_forall.mp (mt ControlWord.eq_of_bit hne)
    have hbit : (op.overrides c).bit i = true := deviates_iff.mpr hi
    have hcount : i < Line.count := by
      by_contra hout
      rw [(ControlWord.fits_iff _).mp (h.overrides c) i (Nat.le_of_not_lt hout)] at hbit
      exact absurd hbit (by simp)
    refine ⟨Line.ofBit ⟨i, hcount⟩, Line.mem_descending _, ?_⟩
    rw [← ControlWord.bit_line, Line.bit_ofBit]
    exact hbit
  · rintro ⟨line, -, hline⟩ heq
    have hdeviates : op.Deviates c line.bit := hline
    exact deviates_iff.mp hdeviates (by rw [heq])

end Opcode

/-! ## The order of cells -/

/-- The place of a cell in the order of flags, step and phase. -/
def Cell.order (c : Cell) : List Nat := [c.flags.val, c.step.val, c.phase.index.val]

theorem Cell.mem_all (c : Cell) : c ∈ all :=
  List.mem_map.mpr ⟨c.index, List.mem_finRange _, ofIndex_index c⟩

/-- All cells stand in that order. -/
theorem Cell.all_ascending : all.Pairwise fun c d => c.order < d.order := by
  refine List.pairwise_map.mpr ((List.pairwise_lt_finRange 256).imp fun {i j} hlt => ?_)
  have hij : i.val < j.val := hlt
  simp only [order, ofIndex, Phase.index_ofIndex, List.cons_lt_cons_iff]
  omega

/-- The place of an edited cell in the order of opcode, flags, step and phase. -/
def EditedCell.order (e : EditedCell) : List Nat := e.code.toNat :: e.cell.order

namespace OpcodeTable

variable {t : OpcodeTable}

theorem code_lookup (t : OpcodeTable) (code : UInt8) : (t.lookup code).code = code :=
  UInt8.toNat_inj.mp (t.code_eq (place code))

/-- The entries of a table are what it has for the bytes. -/
theorem mem_entries_iff_lookup {op : Opcode} :
    op ∈ t.entries.toList ↔ ∃ code, op = t.lookup code := by
  rw [mem_entries_iff]
  constructor
  · rintro ⟨i, rfl⟩
    exact ⟨UInt8.ofNat i.val, (lookup_ofNat t i).symm⟩
  · rintro ⟨code, rfl⟩
    exact ⟨place code, rfl⟩

/-- The entries stand in the order of their bytes. -/
theorem codes_ascending (t : OpcodeTable) :
    t.entries.toList.Pairwise fun op op' => op.code.toNat < op'.code.toNat := by
  refine List.pairwise_iff_getElem.mpr fun i j hi hj hlt => ?_
  rw [Vector.length_toList] at hi hj
  rw [Vector.getElem_toList, Vector.getElem_toList,
    show t.entries[i].code.toNat = i from t.code_eq ⟨i, hi⟩,
    show t.entries[j].code.toNat = j from t.code_eq ⟨j, hj⟩]
  exact hlt

/-! ## The list of edited cells -/

/-- **The listed cells** are those whose word is not the declared one, with both words. -/
theorem mem_editedCells_iff {e : EditedCell} :
    e ∈ t.editedCells ↔ e.word = (t.lookup e.code).word e.cell
      ∧ e.preset = (t.lookup e.code).preset e.cell ∧ e.word ≠ e.preset := by
  unfold editedCells
  rw [List.mem_flatMap]
  constructor
  · rintro ⟨op, hop, he⟩
    obtain ⟨c, hc, rfl⟩ := List.mem_map.mp he
    obtain ⟨code, rfl⟩ := mem_entries_iff_lookup.mp hop
    have hchanged := (List.mem_filter.mp hc).2
    dsimp only
    rw [code_lookup]
    exact ⟨rfl, rfl, bne_iff_ne.mp hchanged⟩
  · rintro ⟨hword, hpreset, hne⟩
    rw [hword, hpreset] at hne
    refine ⟨t.lookup e.code, mem_entries_iff_lookup.mpr ⟨e.code, rfl⟩,
      List.mem_map.mpr ⟨e.cell, ?_, ?_⟩⟩
    · exact List.mem_filter.mpr ⟨e.cell.mem_all, bne_iff_ne.mpr hne⟩
    · rw [code_lookup, ← hword, ← hpreset]

/-- **The list ascends**, so no cell is on it twice. -/
theorem editedCells_ascending (t : OpcodeTable) :
    t.editedCells.Pairwise fun e f => e.order < f.order := by
  refine List.pairwise_flatMap.mpr ⟨fun op _ => ?_, t.codes_ascending.imp fun hlt e he f hf => ?_⟩
  · refine List.pairwise_map.mpr ((Cell.all_ascending.filter _).imp fun hlt => ?_)
    exact List.cons_lt_cons_iff.mpr (Or.inr ⟨rfl, hlt⟩)
  · obtain ⟨c, -, rfl⟩ := List.mem_map.mp he
    obtain ⟨d, -, rfl⟩ := List.mem_map.mp hf
    exact List.cons_lt_cons_iff.mpr (Or.inl hlt)

theorem exists_mem_editedCells_iff {code : UInt8} {c : Cell} :
    (∃ e ∈ t.editedCells, e.code = code ∧ e.cell = c)
      ↔ (t.lookup code).word c ≠ (t.lookup code).preset c := by
  constructor
  · rintro ⟨e, he, rfl, rfl⟩
    obtain ⟨hword, hpreset, hne⟩ := mem_editedCells_iff.mp he
    rwa [← hword, ← hpreset]
  · intro hne
    exact ⟨⟨code, c, _, _⟩, mem_editedCells_iff.mpr ⟨rfl, rfl, hne⟩, rfl, rfl⟩

/-! ## Writing the presets back -/

/-- The table with the preset of a listed cell as its word. -/
def putBack (t : OpcodeTable) (e : EditedCell) : OpcodeTable :=
  t.setLines e.code ((t.lookup e.code).setWord e.cell e.preset).lines

/-- **One preset put back** changes one word. -/
theorem lookup_putBack (t : OpcodeTable) (e : EditedCell) (code : UInt8) :
    (t.putBack e).lookup code
      = if e.code = code then (t.lookup code).setWord e.cell e.preset else t.lookup code := by
  unfold putBack
  rw [lookup_setLines]
  by_cases hcode : e.code = code
  · rw [if_pos hcode, if_pos hcode, hcode]
    rfl
  · rw [if_neg hcode, if_neg hcode]

/-- Nothing but lines is touched when presets are put back. -/
theorem lookup_foldl_putBack (t : OpcodeTable) (cells : List EditedCell) (code : UInt8) :
    (cells.foldl putBack t).lookup code
      = { t.lookup code with lines := ((cells.foldl putBack t).lookup code).lines } := by
  induction cells generalizing t with
  | nil => rfl
  | cons e rest ih =>
    rw [List.foldl_cons, ih, lookup_putBack]
    split <;> rfl

/-- **The words after presets were put back**: in the listed cells they are the presets, and in the
others what they were. -/
theorem word_foldl_putBack {cells : List EditedCell}
    (h : ∀ e ∈ cells, e.preset = (t.lookup e.code).preset e.cell) (code : UInt8) (c : Cell) :
    ((cells.foldl putBack t).lookup code).word c
      = if ∃ e ∈ cells, e.code = code ∧ e.cell = c then (t.lookup code).preset c
        else (t.lookup code).word c := by
  induction cells generalizing t with
  | nil => rw [if_neg (by simp)]; rfl
  | cons e rest ih =>
    -- The presets are what they were, so the induction goes on with the table after the first cell.
    have hpreset : ∀ code c, ((t.putBack e).lookup code).preset c = (t.lookup code).preset c := by
      intro code c
      rw [lookup_putBack]
      split <;> rfl
    rw [List.foldl_cons, ih fun f hf => (h f (List.mem_cons_of_mem e hf)).trans (hpreset _ _).symm,
      hpreset]
    by_cases hrest : ∃ f ∈ rest, f.code = code ∧ f.cell = c
    · obtain ⟨f, hf, hplace⟩ := hrest
      rw [if_pos ⟨f, hf, hplace⟩, if_pos ⟨f, List.mem_cons_of_mem e hf, hplace⟩]
    · rw [if_neg hrest, lookup_putBack]
      by_cases hplace : e.code = code ∧ e.cell = c
      · obtain ⟨rfl, rfl⟩ := hplace
        rw [if_pos rfl, if_pos ⟨e, List.mem_cons_self, rfl, rfl⟩, Opcode.word_setWord, if_pos rfl]
        exact h e List.mem_cons_self
      · have hnone : ¬ ∃ f ∈ e :: rest, f.code = code ∧ f.cell = c := by
          rintro ⟨f, hf, hfplace⟩
          obtain rfl | hf := List.mem_cons.mp hf
          · exact hplace hfplace
          · exact hrest ⟨f, hf, hfplace⟩
        rw [if_neg hnone]
        split
        · rename_i hcode
          rw [Opcode.word_setWord, if_neg fun hcell => hplace ⟨hcode, hcell⟩]
        · rfl

/-- **All presets put back** restore the declared lines. -/
theorem lookup_foldl_putBack_editedCells (t : OpcodeTable) (code : UInt8) :
    (t.editedCells.foldl putBack t).lookup code
      = { t.lookup code with lines := (t.lookup code).presets } := by
  have hlines : ((t.editedCells.foldl putBack t).lookup code).lines = (t.lookup code).presets := by
    refine Matrix.ext fun c => ?_
    refine (word_foldl_putBack (fun e he => (mem_editedCells_iff.mp he).2.1) code c).trans ?_
    split
    · rfl
    · rename_i hunlisted
      exact Decidable.not_not.mp (mt exists_mem_editedCells_iff.mpr hunlisted)
  rw [lookup_foldl_putBack, hlines]

/-- **The three views agree**, in a table that fits. The list of edited cells ascends in the order
of opcode, flags, step and phase, and has exactly the cells whose word is not the declared one, with
both words. A cell is on the list if the display shows one of its bits as overridden or reverted.
Bit by bit those are the lines by which the cell differs from the declaration, and flipping them in
the levels on display gives the preset. The presets of the list put back into their cells restore
the declared lines and touch nothing else. -/
theorem edit_views_agree (h : t.Fits) :
    t.editedCells.Pairwise (fun e f => e.order < f.order)
      ∧ (∀ e, e ∈ t.editedCells ↔ e.word = (t.lookup e.code).word e.cell
        ∧ e.preset = (t.lookup e.code).preset e.cell ∧ e.word ≠ e.preset)
      ∧ (∀ code c, (∃ e ∈ t.editedCells, e.code = code ∧ e.cell = c)
        ↔ ∃ shown ∈ (t.lookup code).classify c, shown.2 = .override ∨ shown.2 = .reverted)
      ∧ (∀ code c,
        ((t.lookup code).classify c).map (fun shown => shown.2 == .override || shown.2 == .reverted)
            = Line.descending.map ((t.lookup code).overrides c).has
          ∧ ControlWord.ofLevels (((t.lookup code).classify c).map (·.2.isChange))
            = (t.lookup code).overrides c)
      ∧ (∀ code c, ControlWord.ofLevels (((t.lookup code).classify c).map fun shown =>
          shown.1 ^^ shown.2.isChange) = (t.lookup code).preset c)
      ∧ ∀ code, (t.editedCells.foldl putBack t).lookup code
        = { t.lookup code with lines := (t.lookup code).presets } := by
  refine ⟨t.editedCells_ascending, fun _ => mem_editedCells_iff, fun code c => ?_,
    fun code c => ⟨(t.lookup code).isChange_of_classify c, ?_⟩, fun code c => ?_,
    t.lookup_foldl_putBack_editedCells⟩
  · exact exists_mem_editedCells_iff.trans (Opcode.word_ne_preset_iff (h code))
  · rw [Opcode.isChange_of_classify]
    exact ControlWord.ofLevels_has ((h code).overrides c)
  · rw [Opcode.flipped_of_classify]
    exact ControlWord.ofLevels_has ((h code).presets c)

/-- The views of the built-in table after an edit of a store, whose two halves are declared with
opposite directions of the data bus. The level that is set is the one that the addressed half has
already, but the other half takes it over, so the display shows that half as changed. -/
theorem edit_views_agree_sta :
    (builtin.edited [.line 0x85 0 1 .phi1 36 .set]).Fits
      ∧ (∃ e ∈ (builtin.edited [.line 0x85 0 1 .phi1 36 .set]).editedCells,
        e.code = 0x85 ∧ e.cell = .wrap 0 1 .phi2)
      ∧ ∀ code, ((builtin.edited [.line 0x85 0 1 .phi1 36 .set]).editedCells.foldl putBack
          (builtin.edited [.line 0x85 0 1 .phi1 36 .set])).lookup code
        = { (builtin.edited [.line 0x85 0 1 .phi1 36 .set]).lookup code with
            lines := ((builtin.edited [.line 0x85 0 1 .phi1 36 .set]).lookup code).presets } := by
  have hfits : (builtin.edited [.line 0x85 0 1 .phi1 36 .set]).Fits :=
    (Held.builtin.afterEdits _).fits
  obtain ⟨-, -, hlisted, -, -, hrestored⟩ := edit_views_agree hfits
  exact ⟨hfits, (hlisted 0x85 (.wrap 0 1 .phi2)).mpr (by decide +kernel), hrestored⟩

end OpcodeTable

end Breadboard
