import Breadboard.Proofs.EditRun
import Breadboard.Proofs.PresetReset
import Breadboard.Proofs.ReadingBack

/-!
# The skeleton hidden

A description can be asked to hide the addressing skeleton. What it does is to cancel the lines of
the skeleton, so that one which the cell does not assert is named for the first time. Hiding takes
names away and adds none exactly in the cells that assert their whole skeleton.

The declared cells nearly all do. The exceptions are the reads that are done early because no page
was crossed. They flip the selection of the flags once more, which cancels a line of the skeleton,
and those that go through the ALU put their trailer on the step they are done on, while the skeleton
has it on the last step whatever the slot. What they *leave out* is written down as strokes, and a
check of the instruction set says that it is all that any declaration leaves out.

The operator adds to the exceptions, since a line of the skeleton may be edited like any other. He
also removes one if the line that he asserts had been left out.
-/

namespace Breadboard

open ControlWord (ofLines)

/-! ## Strokes in one place -/

namespace Stroke

variable {stroke : Stroke} {strokes : List Stroke} {step : Fin 8} {phase : Phase} {line : Line}

/-- What strokes flip in the place of a given one. -/
def flippedWith (stroke : Stroke) (strokes : List Stroke) : ControlWord :=
  (strokes.filter fun s => s.step == stroke.step && s.phase == stroke.phase).foldr
    (fun s w => s.lines ^^^ w) .empty

theorem contribution_eq_flippedWith (h : stroke.hits step phase = true) (strokes : List Stroke) :
    contribution strokes step phase = stroke.flippedWith strokes := by
  unfold hits at h
  rw [Bool.and_eq_true, beq_iff_eq, beq_iff_eq] at h
  unfold contribution flippedWith hits
  rw [h.1, h.2]

/-- A flipped line is one of a stroke in the place. -/
theorem exists_of_has_contribution (h : (contribution strokes step phase).has line = true) :
    ∃ stroke ∈ strokes, stroke.hits step phase = true ∧ stroke.lines.has line = true := by
  by_contra hnone
  have hspared : (contribution strokes step phase).has line = false := by
    refine has_contribution_of_forall fun stroke hs hhit => Bool.eq_false_iff.mpr fun hline => ?_
    exact hnone ⟨stroke, hs, hhit, hline⟩
  exact absurd (h.symm.trans hspared) (by simp)

end Stroke

/-! ## What declarations leave out -/

/-- A slot with the carry set or clear, all other flags clear. -/
def carrySlot (carry : Bool) : Fin 16 := ⟨carry.toNat, by cases carry <;> decide⟩

theorem testBit_carrySlot (carry : Bool) : (carrySlot carry).val.testBit 0 = carry := by
  cases carry <;> rfl

namespace Operation

variable {operation : Operation} {form : Form} {flags slot : Fin 16}

/-- Slots with the same carry have the same strokes. Only a branch looks at the other flags, and
it has no trailer. -/
theorem allStrokes_eq_of_carry (htrailer : operation.usesTrailer = true)
    (hcarry : flags.val.testBit 0 = slot.val.testBit 0) :
    operation.allStrokes form flags = operation.allStrokes form slot := by
  unfold allStrokes
  cases operation with
  | branch bit wanted => exact absurd htrailer Bool.false_ne_true
  | undefined => rfl
  | _ => simp only [strokes, hcarry]

end Operation

namespace Declaration

variable {d : Declaration} {c : Cell} {line : Line}

/-- The strokes of the skeleton in a slot with the carry set or clear. -/
def skeletonStrokes (d : Declaration) (carry : Bool) : List Stroke :=
  (if d.operation.usesAddressing then d.mode.skeleton carry else [])
    ++ (if d.operation.usesTrailer then d.form.trailer else [])

open Line in
/-- **The strokes left out**: those of the skeleton that are not among the strokes of the
declaration or are cancelled by them. -/
def leftOutStrokes (d : Declaration) (carry : Bool) : List Stroke :=
  match d.form.shortPath? carry, d.operation with
  | some step, .arithmetic .. | some step, .logic .. =>
    .phi2 step (ofLines [flg2]) :: d.form.trailer
  | some step, .load _ => [.phi2 (step - 1) (ofLines [flg2])]
  | _, _ => []

/-- The lines that the declared cell leaves out. -/
def leftOut (d : Declaration) (c : Cell) : ControlWord :=
  Stroke.contribution (d.leftOutStrokes (c.flags.val.testBit 0)) c.step c.phase

/-- Whether a declaration flips the lines of its skeleton, but for those that it leaves out. One
slot with the carry clear and one with the carry set are looked at. -/
def flipsSkeleton (d : Declaration) : Bool :=
  [false, true].all fun carry => (d.skeletonStrokes carry).all fun stroke =>
    !stroke.lines.has .ctmr
      && stroke.lines &&& (stroke.flippedWith (d.operation.allStrokes d.form (carrySlot carry))
        ^^^ stroke.flippedWith (d.leftOutStrokes carry)) == stroke.lines

end Declaration

theorem Catalogue.all_flipSkeleton : ∀ d ∈ Catalogue.all, d.flipsSkeleton = true := by
  decide +kernel

theorem Catalogue.declaration_flipsSkeleton (code : UInt8) :
    (Catalogue.declaration code).flipsSkeleton = true :=
  Catalogue.declaration_of_all all_flipSkeleton (fun _ => rfl) code

namespace Declaration

variable {d : Declaration} {c : Cell} {line : Line}

/-- The blank words depart from the default in the timer reset alone. -/
theorem has_blankWord (hline : line ≠ .ctmr) (last : Nat) (c : Cell) :
    (Matrix.blankWord last c).has line = (ControlWord.default c.phase).has line := by
  unfold Matrix.blankWord
  split
  · have hother : (ControlWord.ofLine .ctmr).has line = false := by
      rw [← ControlWord.bit_line, ControlWord.bit_ofLine]
      exact decide_eq_false fun hbit => hline (Line.bit_injective (Fin.ext hbit))
    rw [ControlWord.has_xor, hother, Bool.xor_false]
  · rfl

/-- An instruction without a trailer has no skeleton at all. -/
theorem usesTrailer_of_mem_skeletonStrokes {carry : Bool} {stroke : Stroke}
    (h : stroke ∈ d.skeletonStrokes carry) : d.operation.usesTrailer = true := by
  unfold skeletonStrokes at h
  cases hoperation : d.operation with
  | branch bit wanted | undefined =>
    rw [hoperation] at h
    exact absurd h List.not_mem_nil
  | _ => rfl

/-- What was checked of two slots, said of the slot of a cell. -/
theorem and_flipped_of_hits (h : d.flipsSkeleton = true) {stroke : Stroke}
    (hstroke : stroke ∈ d.skeletonStrokes (c.flags.val.testBit 0))
    (hhit : stroke.hits c.step c.phase = true) :
    stroke.lines.has .ctmr = false
      ∧ stroke.lines &&& (Stroke.contribution (d.operation.allStrokes d.form c.flags) c.step c.phase
        ^^^ d.leftOut c) = stroke.lines := by
  have hslot : d.operation.allStrokes d.form c.flags
      = d.operation.allStrokes d.form (carrySlot (c.flags.val.testBit 0)) :=
    Operation.allStrokes_eq_of_carry (usesTrailer_of_mem_skeletonStrokes hstroke)
      (testBit_carrySlot _).symm
  have hcarry : c.flags.val.testBit 0 ∈ [false, true] := by
    cases c.flags.val.testBit 0 <;> simp
  have hchecked := List.all_eq_true.mp (List.all_eq_true.mp h _ hcarry) stroke hstroke
  rw [Bool.and_eq_true, Bool.not_eq_true', beq_iff_eq] at hchecked
  unfold leftOut
  rw [hslot, Stroke.contribution_eq_flippedWith hhit, Stroke.contribution_eq_flippedWith hhit]
  exact hchecked

/-- **A declared cell asserts its skeleton**, but for what the declaration leaves out. -/
theorem has_asserted_of_skeleton (h : d.flipsSkeleton = true)
    (hline : (d.opcode.skeleton.get c).has line = true) :
    (d.opcode.asserted c false).has line = !(d.leftOut c).has line := by
  rw [Opcode.get_skeleton] at hline
  obtain ⟨stroke, hstroke, hhit, hset⟩ := Stroke.exists_of_has_contribution hline
  obtain ⟨htimer, hflipped⟩ := and_flipped_of_hits h hstroke hhit
  have hne : line ≠ .ctmr := by
    rintro rfl
    exact absurd (hset.symm.trans htimer) (by simp)
  have honce := congrArg (ControlWord.has · line) hflipped
  simp only [ControlWord.has_and, ControlWord.has_xor, hset, Bool.true_and] at honce
  unfold Opcode.asserted
  rw [if_neg Bool.false_ne_true, ControlWord.has_xor, word_opcode, ControlWord.has_xor,
    has_blankWord hne, Bool.xor_comm, ← Bool.xor_assoc, Bool.xor_self, Bool.false_xor]
  exact Bool.eq_not.mpr (bne_iff_ne.mp honce)

/-- Nothing is left out in a slot with the carry set, nor where no page can be crossed. -/
theorem leftOut_eq_empty (h : c.flags.val.testBit 0 = true ∨ d.pageCross = false) :
    d.leftOut c = .empty := by
  have hnone : d.form.shortPath? (c.flags.val.testBit 0) = none := by
    unfold Form.shortPath? form
    obtain hcarry | hpage := h
    · rw [hcarry]
      rfl
    · rw [hpage, Bool.not_false, Bool.or_true]
      rfl
  unfold leftOut leftOutStrokes
  rw [hnone]
  rfl

end Declaration

/-! ## What a description names -/

namespace Opcode

variable {op op' : Opcode} {c : Cell} {style : DescriptionStyle} {line : Line}

/-- The lines that a description names, group by group. -/
def named (op : Opcode) (c : Cell) (style : DescriptionStyle) : List (List Line) :=
  (op.asserted c style.skipAddressing).groups (max style.groupSize 1)

/-- **A line is named** in a description. -/
def Names (op : Opcode) (c : Cell) (style : DescriptionStyle) (line : Line) : Prop :=
  line ∈ (op.named c style).flatten

theorem names_iff :
    op.Names c style line ↔ (op.asserted c style.skipAddressing).has line = true := by
  unfold Names named
  rw [ControlWord.flatten_groups]
  exact ControlWord.mem_lines

/-- Hiding cancels the lines of the skeleton. -/
theorem has_asserted_true (op : Opcode) (c : Cell) (line : Line) :
    (op.asserted c true).has line
      = ((op.asserted c false).has line ^^ (op.skeleton.get c).has line) :=
  ControlWord.has_xor _ _ line

/-- **Hiding only removes names** in the cells that assert their whole skeleton. -/
theorem names_subset_iff (op : Opcode) (c : Cell) (style : DescriptionStyle) :
    (∀ line, op.Names c { style with skipAddressing := true } line
        → op.Names c { style with skipAddressing := false } line)
      ↔ ∀ line, (op.skeleton.get c).has line = true → (op.asserted c false).has line = true := by
  refine forall_congr' fun line => ?_
  rw [names_iff, names_iff, has_asserted_true]
  cases (op.asserted c false).has line <;> cases (op.skeleton.get c).has line <;> simp

/-- No edit touches the skeleton. -/
theorem EditedTo.skeleton_eq (h : op.EditedTo op') : op'.skeleton = op.skeleton := by
  rw [h.rest_eq]
  rfl

/-- After edits of an opcode as it was declared, the cell asserts other lines where it deviates. -/
theorem EditedTo.has_asserted (h : op.EditedTo op') (hdeclared : op.word c = op.preset c)
    (line : Line) :
    (op'.asserted c false).has line
      = ((op.asserted c false).has line ^^ (op'.overrides c).has line) := by
  have hpreset : op'.preset c = op.word c := by
    rw [hdeclared, h.rest_eq]
    rfl
  unfold asserted overrides
  rw [if_neg Bool.false_ne_true, if_neg Bool.false_ne_true, hpreset, ControlWord.has_xor,
    ControlWord.has_xor, ControlWord.has_xor]
  cases (op'.word c).has line <;> cases (op.word c).has line <;> simp

end Opcode

namespace OpcodeTable

/-- **When hiding the skeleton only removes names.** The table has come from the built-in one by
any run of edits. A description renders groups of named lines, and without hiding these are the
lines in which the cell departs from the default word of its phase. Hiding the skeleton names no
other line exactly if the lines of the skeleton that deviate from the declaration are those that the
declaration leaves out; it leaves out none if the carry is set or no page can be crossed. -/
theorem hiding_only_removes_iff (edits : List TableEdit) (code : UInt8) (c : Cell)
    (style : DescriptionStyle) :
    let op := (builtin.edited edits).lookup code
    let d := Catalogue.declaration code
    (∀ hide, op.describe c { style with skipAddressing := hide }
        = (op.named c { style with skipAddressing := hide }).map fun group =>
          style.joiner.intercalate (group.map (Line.name style.lead c.phase)))
      ∧ (∀ line, op.Names c { style with skipAddressing := false } line
        ↔ (op.word c).has line ≠ (ControlWord.default c.phase).has line)
      ∧ ((∀ line, op.Names c { style with skipAddressing := true } line
          → op.Names c { style with skipAddressing := false } line)
        ↔ ∀ line, (op.skeleton.get c).has line = true →
          (op.Deviates c line.bit ↔ (d.leftOut c).has line = true))
      ∧ (c.flags.val.testBit 0 = true ∨ op.pageCross = false → d.leftOut c = .empty) := by
  intro op d
  have hedited : (builtin.lookup code).EditedTo op := editedTo_edited builtin edits code
  rw [lookup_builtin] at hedited
  refine ⟨fun hide => rfl, fun line => ?_, ?_, fun h => ?_⟩
  · rw [Opcode.names_iff]
    unfold Opcode.asserted
    rw [if_neg Bool.false_ne_true, ControlWord.has_xor, bne_iff_ne]
  · rw [Opcode.names_subset_iff]
    refine forall_congr' fun line => forall_congr' fun hline => ?_
    rw [hedited.skeleton_eq] at hline
    rw [hedited.has_asserted rfl, Declaration.has_asserted_of_skeleton
      (Catalogue.declaration_flipsSkeleton code) hline]
    unfold Opcode.Deviates
    rw [ControlWord.bit_line]
    cases (d.leftOut c).has line <;> cases (op.overrides c).has line <;> simp
  · rw [hedited.rest_eq] at h
    exact Declaration.leftOut_eq_empty h

/-- **Hiding adds names.** An addition in absolute X mode is done on step 3 if no page was crossed.
Step 4 only selects the flags then, but if the skeleton is hidden, the trailer is named there. -/
theorem hiding_names_trailer :
    let op := (builtin.edited []).lookup 0x7D
    let c := Cell.wrap 0 4 .phi1
    op.describe c {} = ["FLG2"]
      ∧ op.describe c { skipAddressing := true } = ["AHD0 AHD1", "ALD1 ALD2", "ALLD AHLD"]
      ∧ op.Names c { skipAddressing := true } .ahd0 ∧ ¬ op.Names c {} .ahd0 := by
  intro op c
  have hlookup : op = (Catalogue.declaration 0x7D).opcode := lookup_builtin 0x7D
  have hshown : op.asserted c false = ofLines [.flg2] := by
    unfold Opcode.asserted
    rw [hlookup, Declaration.word_opcode]
    decide +kernel
  have hhidden : op.asserted c true = ofLines [.ahd0, .ahd1, .ald1, .ald2, .alld, .ahld] := by
    show op.asserted c false ^^^ op.skeleton.get c = _
    rw [hshown, hlookup, Opcode.get_skeleton]
    decide +kernel
  refine ⟨?_, ?_, Opcode.names_iff.mpr ?_, mt Opcode.names_iff.mp ?_⟩
  · rw [Opcode.describe_eq_map_groups, hshown]
    decide +kernel
  · rw [Opcode.describe_eq_map_groups, hhidden]
    decide +kernel
  · rw [hhidden]
    decide
  · rw [hshown]
    decide

end OpcodeTable

end Breadboard
