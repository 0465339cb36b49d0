import Breadboard.Editing.Editor
import Breadboard.Proofs.BuiltinTable
import Breadboard.Proofs.LineEdit
import Breadboard.Proofs.Routing
import Mathlib.Algebra.Group.Nat.Defs

/-!
# Runs of edits

The operator edits for as long as he likes, and refused edits are part of what
he does. What a run of edits can have done to a table is nevertheless no more
than what its single edits are checked for: everything but the words is as it
was, and a bit that changed belongs to a line that may be edited in its phase.

Only the edit of a line is checked. That two other changes keep to the same
bound is a fact about the lines they touch: the mirrored direction of the data
bus may be edited in both phases, and so may every line that chooses the source
of a routed bus.

For runs that begin with the built-in table the bound has consequences, because
the pause line and the timer reset may be edited in no phase at all.
-/

namespace Breadboard

/-! ## Opcodes -/

namespace Opcode

/-- **What edits can have made of an opcode.** -/
structure EditedTo (op op' : Opcode) : Prop where
  /-- The description and the presets are as they were. -/
  rest_eq : op' = { op with lines := op'.lines }
  /-- A changed bit is that of a line that may be edited in its phase. -/
  open_of_ne : ∀ c i, (op'.word c).bit i ≠ (op.word c).bit i →
    ∃ line : Line, i = line.bit.val ∧ LineRule.check c.phase line = .ok ()

theorem EditedTo.refl (op : Opcode) : op.EditedTo op :=
  ⟨rfl, fun _ _ h => absurd rfl h⟩

theorem EditedTo.trans {a b c : Opcode} (hab : a.EditedTo b) (hbc : b.EditedTo c) :
    a.EditedTo c := by
  refine ⟨?_, fun d i h => ?_⟩
  · rw [hbc.rest_eq, hab.rest_eq]
  · -- A bit that differs in the end was changed by one of the two.
    by_cases hi : (b.word d).bit i = (a.word d).bit i
    · exact hbc.open_of_ne d i (hi ▸ h)
    · exact hab.open_of_ne d i hi

/-- The direction of the data bus may be edited in both phases. -/
theorem check_dbrw (phase : Phase) : LineRule.check phase .dbrw = .ok () := rfl

/-- The lines that choose the source of a routed bus may be edited in both phases. -/
theorem check_of_routed (phase : Phase) :
    ∀ bus ∈ Bus.routed.toList, ∀ line ∈ bus.selectors, LineRule.check phase line = .ok () := by
  intro bus hbus line hline
  have hwindow : ∀ bus ∈ Bus.routed.toList, ∀ line ∈ bus.selectors,
      LineRule.window line = .always := by decide
  unfold LineRule.check
  rw [hwindow bus hbus line hline]
  rfl

/-- Placing a line stays within the bound if the line may be edited in the
phase it is placed in. -/
theorem editedTo_place {op : Opcode} {c : Cell} {line : Line}
    (h : LineRule.check c.phase line = .ok ()) (level : Bool) :
    op.EditedTo (op.place c line level) := by
  refine ⟨place_eq op c line level, fun d i hne => ?_⟩
  rw [bit_place] at hne
  split at hne
  · rename_i hplace
    obtain ⟨hd, hi⟩ := hplace
    refine ⟨line, hi, ?_⟩
    -- The mirrored half is not checked, and does not have to be.
    obtain rfl | ⟨rfl, -⟩ := hd
    · exact h
    · exact check_dbrw d.phase
  · exact absurd rfl hne

/-- **An accepted edit of a line** stays within the bound. -/
theorem editedTo_setLine {op : Opcode} {flags step bit : UInt8} {phase : Phase} {mode : SetMode}
    {edited : Opcode × Edit} (h : op.setLine flags step phase bit mode = .ok edited) :
    op.EditedTo edited.1 := by
  cases haccept : LineRule.accept step phase bit with
  | error e =>
    rw [setLine_of_reject haccept] at h
    exact absurd h (by simp)
  | ok place =>
    obtain ⟨s, line⟩ := place
    rw [setLine_of_accept haccept] at h
    rw [← Except.ok.inj h]
    exact editedTo_place (LineRule.accept_eq_ok_iff.mp haccept).2.2 _

/-- **A stepped bus** stays within the bound, whatever the cell. -/
theorem editedTo_cycleBus? {op : Opcode} {editor : LineEditor} {flags : UInt8} {offset : Int}
    {edited : Opcode × Edit} (h : editor.cycleBus? op flags offset = some edited) :
    op.EditedTo edited.1 := by
  unfold LineEditor.cycleBus? Opcode.cycleBus? at h
  simp only [Option.bind_eq_bind, Option.bind_eq_some_iff] at h
  obtain ⟨word, hword, h⟩ := h
  rw [← Option.some.inj h]
  refine ⟨rfl, fun d i hne => ?_⟩
  rw [word_setWord] at hne
  split at hne
  · rename_i hd
    -- A bit outside the bus would have kept its level.
    have hmask : editor.selectedBus.mask.bit i = true := by
      refine Bool.of_not_eq_false (fun hoff => hne ?_)
      rw [← hd]
      exact Bus.bit_cycle?_of_not_mask hword hoff
    obtain ⟨line, hline, hi⟩ := (ControlWord.bit_ofLines _ i).mp hmask
    have hbus : editor.selectedBus ∈ Bus.routed.toList :=
      Vector.mem_toList_iff.mpr (Vector.getElem_mem editor.bus.isLt)
    exact ⟨line, hi, check_of_routed d.phase _ hbus line hline⟩
  · exact absurd rfl hne

/-- The bound in terms of the check that guards edits: a changed bit is one whose
edit would be accepted in its own cell. -/
theorem EditedTo.accept_of_ne {op op' : Opcode} (h : op.EditedTo op') {c : Cell} {i : Nat}
    (hne : (op'.word c).bit i ≠ (op.word c).bit i) :
    ∃ line : Line, i = line.bit.val ∧
      LineRule.accept (UInt8.ofNat c.step.val) c.phase (UInt8.ofNat i) = .ok (c.step, line) := by
  obtain ⟨line, rfl, hcheck⟩ := h.open_of_ne c i hne
  refine ⟨line, rfl, LineRule.accept_eq_ok_iff.mpr ⟨?_, ?_, hcheck⟩⟩
  · have := c.step.isLt
    rw [UInt8.toNat_ofNat', Nat.mod_eq_of_lt (by omega)]
  · have := line.bit.isLt
    rw [UInt8.toNat_ofNat', Nat.mod_eq_of_lt (by unfold Line.count at this; omega)]

/-- A line that may be edited in neither phase has kept its level everywhere. -/
theorem EditedTo.has_eq {op op' : Opcode} (h : op.EditedTo op') {line : Line}
    (hwindow : LineRule.window line = .never) (c : Cell) :
    (op'.word c).has line = (op.word c).has line := by
  refine Decidable.byContradiction (fun hne => ?_)
  obtain ⟨named, hi, hcheck⟩ := h.open_of_ne c line.bit.val hne
  rw [← Line.bit_injective (Fin.ext hi)] at hcheck
  unfold LineRule.check at hcheck
  rw [hwindow] at hcheck
  exact absurd hcheck (by simp [throw, throwThe, MonadExceptOf.throw])

/-- Words that fitted still fit. -/
theorem EditedTo.fits {op op' : Opcode} (h : op.EditedTo op') {c : Cell}
    (hfits : (op.word c).fits = true) : (op'.word c).fits = true := by
  rw [ControlWord.fits_iff] at hfits ⊢
  intro i hi
  rw [← hfits i hi]
  refine Decidable.byContradiction (fun hne => ?_)
  obtain ⟨line, rfl, -⟩ := h.open_of_ne c i hne
  exact absurd line.bit.isLt (Nat.not_lt.mpr hi)

end Opcode

/-! ## Tables -/

/-- **Table edit**: one use of the line editor on an opcode of the table. -/
inductive TableEdit where
  /-- One line of a cell is put to a level. -/
  | line (code flags step : UInt8) (phase : Phase) (bit : UInt8) (mode : SetMode)
  /-- The source of the editor's selected bus is stepped at its cursor. -/
  | bus (code flags : UInt8) (editor : LineEditor) (offset : Int)

namespace TableEdit

/-- The opcode byte of the edited opcode. -/
def code : TableEdit → UInt8
  | line code .. | bus code .. => code

/-- What the edit makes of an opcode. There is nothing if it is refused. -/
def made? (op : Opcode) : TableEdit → Option Opcode
  | line _ flags step phase bit mode =>
    match op.setLine flags step phase bit mode with
    | .ok edited => some edited.1
    | .error _ => none
  | bus _ flags editor offset => (editor.cycleBus? op flags offset).map (·.1)

/-- **One edit** stays within the bound. -/
theorem editedTo_made? {op op' : Opcode} {e : TableEdit} (h : e.made? op = some op') :
    op.EditedTo op' := by
  cases e with
  | line code flags step phase bit mode =>
    simp only [made?] at h
    split at h
    · rename_i edited hset
      rw [← Option.some.inj h]
      exact Opcode.editedTo_setLine hset
    · exact absurd h (by simp)
  | bus code flags editor offset =>
    unfold made? at h
    obtain ⟨edited, hcycle, rfl⟩ := Option.map_eq_some_iff.mp h
    exact Opcode.editedTo_cycleBus? hcycle

end TableEdit

namespace OpcodeTable

/-- The table after one edit; a refused edit leaves it as it is. -/
def edit (t : OpcodeTable) (e : TableEdit) : OpcodeTable :=
  match e.made? (t.lookup e.code) with
  | none => t
  | some op => t.setLines e.code op.lines

/-- The table after a run of edits. -/
def edited (t : OpcodeTable) (edits : List TableEdit) : OpcodeTable := edits.foldl edit t

/-- **The table holds what an edit made**: nothing of the edited opcode is lost
where its lines are put back, and no other opcode is touched. -/
theorem lookup_edit (t : OpcodeTable) (e : TableEdit) (code : UInt8) :
    (t.edit e).lookup code
      = if e.code = code then (e.made? (t.lookup code)).getD (t.lookup code)
        else t.lookup code := by
  unfold edit
  by_cases hcode : e.code = code
  · rw [if_pos hcode, ← hcode]
    cases h : e.made? (t.lookup e.code) with
    | none => rfl
    | some op =>
      rw [lookup_setLines, if_pos rfl]
      exact (TableEdit.editedTo_made? h).rest_eq.symm
  · rw [if_neg hcode]
    cases e.made? (t.lookup e.code) with
    | none => rfl
    | some op => exact (lookup_setLines t e.code code op.lines).trans (if_neg hcode)

theorem editedTo_edit (t : OpcodeTable) (e : TableEdit) (code : UInt8) :
    (t.lookup code).EditedTo ((t.edit e).lookup code) := by
  rw [lookup_edit]
  split
  · cases h : e.made? (t.lookup code) with
    | none => exact .refl _
    | some op => exact TableEdit.editedTo_made? h
  · exact .refl _

/-- **A run of edits** stays within the bound of a single one. -/
theorem editedTo_edited (t : OpcodeTable) (edits : List TableEdit) (code : UInt8) :
    (t.lookup code).EditedTo ((t.edited edits).lookup code) := by
  induction edits generalizing t with
  | nil => exact .refl _
  | cons e rest ih => exact (editedTo_edit t e code).trans (ih (t.edit e))

/-- **Editing is safe**, for every table and every run of edits, refused ones
included. Each edit puts what it made of its opcode into the table and nothing
else. All of an opcode but its lines is as it was, its presets with it; a bit
that changed is one whose edit is accepted in its own cell. In a run from the
built-in table all words fit, no pause line has moved, and the timer is reset on
every phi-2 from the last step on. -/
theorem editing_is_safe (edits : List TableEdit) :
    (∀ (t : OpcodeTable) (e : TableEdit) (code : UInt8),
      (t.edit e).lookup code
        = if e.code = code then (e.made? (t.lookup code)).getD (t.lookup code)
          else t.lookup code)
    ∧ (∀ (t : OpcodeTable) (code : UInt8),
      (t.edited edits).lookup code
          = { t.lookup code with lines := ((t.edited edits).lookup code).lines }
        ∧ ∀ (c : Cell) (i : Nat),
          (((t.edited edits).lookup code).word c).bit i ≠ ((t.lookup code).word c).bit i →
          ∃ line : Line, i = line.bit.val ∧
            LineRule.accept (UInt8.ofNat c.step.val) c.phase (UInt8.ofNat i) = .ok (c.step, line))
    ∧ ∀ (code : UInt8) (c : Cell),
      (((builtin.edited edits).lookup code).word c).toNat < 2 ^ 48
        ∧ (((builtin.edited edits).lookup code).word c).has .paus
          = ((builtin.lookup code).word c).has .paus
        ∧ (c.phase = .phi2 → ((builtin.edited edits).lookup code).lastStep ≤ c.step.val →
          (((builtin.edited edits).lookup code).word c).has .ctmr = true) := by
  refine ⟨lookup_edit, fun t code => ?_, fun code c => ?_⟩
  · have h := editedTo_edited t edits code
    exact ⟨h.rest_eq, fun c i hne => h.accept_of_ne hne⟩
  · have h := editedTo_edited builtin edits code
    have hdeclared := Catalogue.declaration_behaves code
    refine ⟨?_, h.has_eq rfl c, fun hphase hlast => ?_⟩
    · have hfits := h.fits (c := c) (lookup_builtin code ▸ Declaration.fits_word hdeclared c)
      exact of_decide_eq_true hfits
    · rw [h.has_eq rfl c, lookup_builtin]
      refine Declaration.has_ctmr_word hdeclared c hphase ?_
      rw [h.rest_eq, lookup_builtin] at hlast
      exact hlast

end OpcodeTable

end Breadboard
