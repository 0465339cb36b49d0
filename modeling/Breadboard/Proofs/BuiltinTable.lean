import Breadboard.Instruction.Table
import Breadboard.Proofs.Word

/-!
# The built-in table

Every word of the built-in table comes from a blank matrix by flipping the lines
of strokes. What holds of the blank matrix and is disturbed by no stroke
therefore holds of every word, and both halves are looked at here for two
properties: that a word uses the forty-eight lines only, and that the timer is
reset on every phi-2 from an instruction's last step on.

The second one is not a property of single strokes. Instructions that can end
early do flip the timer reset, on the step on which they end; it stays set
later because that step always comes before the last one.
-/

namespace Breadboard

open ControlWord

/-! ## Flipping -/

/-- Words that fit are closed under flipping. -/
theorem ControlWord.fits_xor {v w : ControlWord} (hv : v.fits = true) (hw : w.fits = true) :
    (v ^^^ w).fits = true := by
  rw [fits_iff] at hv hw ⊢
  intro i hi
  rw [bit_xor, hv i hi, hw i hi]
  rfl

/-- What strokes flip in a cell fits if their lines do. -/
theorem Stroke.fits_contribution {strokes : List Stroke}
    (h : ∀ stroke ∈ strokes, stroke.lines.fits = true) (step : Fin 8) (phase : Phase) :
    (Stroke.contribution strokes step phase).fits = true := by
  unfold Stroke.contribution
  induction strokes with
  | nil =>
    show empty.fits = true
    decide
  | cons stroke rest ih =>
    have hrest := ih (fun t ht => h t (List.mem_cons_of_mem stroke ht))
    rw [List.filter_cons]
    split
    · exact fits_xor (h stroke List.mem_cons_self) hrest
    · exact hrest

/-- Strokes flip a line only where one of them does. -/
theorem Stroke.has_contribution_of_forall {strokes : List Stroke} {line : Line} {step : Fin 8}
    {phase : Phase}
    (h : ∀ stroke ∈ strokes, stroke.hits step phase = true → stroke.lines.has line = false) :
    (Stroke.contribution strokes step phase).has line = false := by
  unfold Stroke.contribution
  induction strokes with
  | nil => exact bit_empty _
  | cons stroke rest ih =>
    have hrest := ih (fun t ht => h t (List.mem_cons_of_mem stroke ht))
    rw [List.filter_cons]
    split
    · rename_i hhit
      rw [List.foldr_cons, has_xor, hrest, h stroke List.mem_cons_self hhit]
      rfl
    · exact hrest

/-! ## Declarations -/

/-- The word a declaration puts into a cell: the blank one with the strokes of
its flags slot. -/
theorem Declaration.word_opcode (d : Declaration) (c : Cell) :
    d.opcode.word c
      = Matrix.blankWord d.form.last c
        ^^^ Stroke.contribution (d.operation.allStrokes d.form c.flags) c.step c.phase := by
  show d.matrix.get c = _
  unfold Declaration.matrix Matrix.declared Matrix.ofStrokes
  simp only [Matrix.get_ofFn, Fin.getElem_fin, Vector.getElem_ofFn, Fin.eta]

/-- Whether a stroke leaves the timer reset alone on phi-2 from a step on. -/
def Stroke.sparesTimer (last : Nat) (stroke : Stroke) : Bool :=
  stroke.phase == .phi1 || stroke.step < last || !stroke.lines.has .ctmr

/-- Whether the strokes of a declaration fit and leave the timer reset alone from
the last step on. -/
def Declaration.behaves (d : Declaration) : Bool :=
  (List.finRange 16).all fun flags =>
    (d.operation.allStrokes d.form flags).all fun stroke =>
      stroke.lines.fits && stroke.sparesTimer d.form.last

theorem Catalogue.all_behave : ∀ d ∈ Catalogue.all, d.behaves = true := by
  decide +kernel

theorem Catalogue.declaration_behaves (code : UInt8) :
    (Catalogue.declaration code).behaves = true :=
  Catalogue.declaration_of_all all_behave (fun _ => rfl) code

namespace Declaration

variable {d : Declaration}

theorem stroke_fits (h : d.behaves = true) {flags : Fin 16} {stroke : Stroke}
    (hs : stroke ∈ d.operation.allStrokes d.form flags) : stroke.lines.fits = true := by
  unfold behaves at h
  rw [List.all_eq_true] at h
  have hflags := List.all_eq_true.mp (h flags (List.mem_finRange flags)) stroke hs
  exact (Bool.and_eq_true_iff.mp hflags).1

theorem stroke_sparesTimer (h : d.behaves = true) {flags : Fin 16} {stroke : Stroke}
    (hs : stroke ∈ d.operation.allStrokes d.form flags) :
    stroke.sparesTimer d.form.last = true := by
  unfold behaves at h
  rw [List.all_eq_true] at h
  have hflags := List.all_eq_true.mp (h flags (List.mem_finRange flags)) stroke hs
  exact (Bool.and_eq_true_iff.mp hflags).2

/-- The blank words fit. -/
theorem fits_blankWord (last : Nat) (c : Cell) : (Matrix.blankWord last c).fits = true := by
  unfold Matrix.blankWord
  split
  · cases c.phase <;> decide
  · cases c.phase <;> decide

/-- **Declared words fit.** -/
theorem fits_word (h : d.behaves = true) (c : Cell) : (d.opcode.word c).fits = true := by
  rw [word_opcode]
  exact fits_xor (fits_blankWord _ c)
    (Stroke.fits_contribution (fun _ hs => stroke_fits h hs) c.step c.phase)

/-- **Declared instructions reset the timer** on phi-2 from their last step on. -/
theorem has_ctmr_word (h : d.behaves = true) (c : Cell) (hphase : c.phase = .phi2)
    (hstep : d.form.last ≤ c.step.val) : (d.opcode.word c).has .ctmr = true := by
  -- The blank word has the line there, and no stroke flips it.
  have hflips : (Stroke.contribution (d.operation.allStrokes d.form c.flags) c.step c.phase).has
      .ctmr = false := by
    refine Stroke.has_contribution_of_forall (fun stroke hs hhit => ?_)
    have hspares := stroke_sparesTimer h hs
    unfold Stroke.hits at hhit
    unfold Stroke.sparesTimer at hspares
    simp only [Bool.and_eq_true, beq_iff_eq] at hhit
    simp only [hhit.2, hhit.1, hphase, Bool.or_eq_true, Bool.not_eq_true', decide_eq_true_eq,
      beq_iff_eq, reduceCtorEq, false_or] at hspares
    exact hspares.resolve_left (Nat.not_lt.mpr hstep)
  rw [word_opcode, has_xor, hflips]
  unfold Matrix.blankWord
  rw [if_pos ⟨hphase, hstep⟩, hphase]
  decide

end Declaration

namespace OpcodeTable

/-- The built-in opcode of a byte is the declared one. -/
theorem lookup_builtin (code : UInt8) :
    builtin.lookup code = (Catalogue.declaration code).opcode := by
  unfold lookup builtin place
  simp

end OpcodeTable

end Breadboard
