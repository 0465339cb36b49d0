import Breadboard.Proofs.RepeatedEdits

/-!
# Going back to the declaration

A line can be put back to the level it was declared with. What the operator has
changed is what *deviates* from the declaration, so putting lines back should take
deviations away and never bring one about.

Of the addressed cell that is true. The other half of the step is another matter
where the line is the direction of the data bus: it is given the level that was
declared for the addressed half, and need not have been declared with that level
itself. An instruction that stores is declared with two halves that disagree, so
resetting one of them, although there is nothing to reset, makes the other deviate.
-/

namespace Breadboard

namespace Opcode

variable {op : Opcode} {c d : Cell} {line : Line} {level : Bool} {i : Nat}

/-- **A bit deviates** if it is not as it was declared. -/
def Deviates (op : Opcode) (c : Cell) (i : Nat) : Prop := (op.overrides c).bit i = true

/-- **The two halves of a step are declared alike**: with the same direction of the
data bus. -/
def DeclaredAlike (op : Opcode) (c : Cell) : Prop :=
  (op.preset c.mirror).has .dbrw = (op.preset c).has .dbrw

theorem deviates_iff : op.Deviates c i ↔ (op.word c).bit i ≠ (op.preset c).bit i := by
  unfold Deviates overrides
  rw [ControlWord.bit_xor, bne_iff_ne]

/-- An opcode without deviations has the declared words. -/
theorem word_eq_preset (h : ∀ c i, ¬ op.Deviates c i) (c : Cell) : op.word c = op.preset c :=
  ControlWord.eq_of_bit fun i => Decidable.not_not.mp (mt deviates_iff.mpr (h c i))

/-- **What deviates after placing a line**: the line itself, wherever it was placed at
another level than the declared one, and what has deviated everywhere else. -/
theorem deviates_place_iff :
    (op.place c line level).Deviates d i
      ↔ if (d = c ∨ line = .dbrw ∧ d = c.mirror) ∧ i = line.bit.val
        then level ≠ (op.preset d).has line else op.Deviates d i := by
  rw [deviates_iff, preset_place, bit_place]
  split
  · rename_i hplace
    rw [hplace.2, ControlWord.bit_line]
  · rw [deviates_iff]

/-- A line that is placed at the level declared for the cell does not deviate there. -/
theorem not_deviates_place_self :
    ¬ (op.place c line ((op.preset c).has line)).Deviates c line.bit := by
  rw [deviates_place_iff, if_pos ⟨Or.inl rfl, rfl⟩]
  exact not_not_intro rfl

/-- In all other places what deviates then has deviated before, the mirrored bit apart. -/
theorem deviates_of_place
    (hplace : ¬ (line = .dbrw ∧ d = c.mirror ∧ i = Line.dbrw.bit.val))
    (h : (op.place c line ((op.preset c).has line)).Deviates d i) : op.Deviates d i := by
  rw [deviates_place_iff] at h
  split at h
  · rename_i hthere
    obtain ⟨rfl | ⟨rfl, hmirror⟩, hbit⟩ := hthere
    · exact absurd rfl h
    · exact absurd ⟨rfl, hmirror, hbit⟩ hplace
  · exact h

/-- A half that was declared with the other direction of the data bus deviates afterwards. -/
theorem deviates_place_mirror (h : ¬ op.DeclaredAlike c) :
    (op.place c .dbrw ((op.preset c).has .dbrw)).Deviates c.mirror Line.dbrw.bit := by
  rw [deviates_place_iff, if_pos ⟨Or.inr ⟨rfl, rfl⟩, rfl⟩]
  exact Ne.symm h

/-- **When placing a line at its declared level makes nothing deviate**: if its other half
was declared alike or has deviated already, where there is one. -/
theorem deviates_place_subset_iff :
    (∀ d i, (op.place c line ((op.preset c).has line)).Deviates d i → op.Deviates d i)
      ↔ (line = .dbrw → op.DeclaredAlike c ∨ op.Deviates c.mirror Line.dbrw.bit) := by
  constructor
  · rintro h rfl
    by_cases halike : op.DeclaredAlike c
    · exact Or.inl halike
    · exact Or.inr (h c.mirror _ (deviates_place_mirror halike))
  · intro h d i hafter
    by_cases hplace : line = .dbrw ∧ d = c.mirror ∧ i = Line.dbrw.bit.val
    · obtain ⟨rfl, rfl, rfl⟩ := hplace
      obtain halike | hbefore := h rfl
      · rw [deviates_place_iff, if_pos ⟨Or.inr ⟨rfl, rfl⟩, rfl⟩] at hafter
        exact absurd halike.symm hafter
      · exact hbefore
    · exact deviates_of_place hplace hafter

/-- Placing a declared level changes nothing in an opcode without deviations exactly if
the other half was declared alike, where there is one. -/
theorem place_preset_eq_self_iff (h : ∀ c i, ¬ op.Deviates c i) :
    op.place c line ((op.preset c).has line) = op ↔ (line = .dbrw → op.DeclaredAlike c) := by
  rw [← word_eq_preset h c, place_has_eq_self_iff]
  refine forall_congr' fun hline => ?_
  rw [hline, word_eq_preset h c, word_eq_preset h c.mirror]
  exact Iff.rfl

variable {step bit : UInt8} {phase : Phase} {s : Fin 8}

/-- **A reset places the line** at its declared level. -/
theorem setLine_preset (h : LineRule.accept step phase bit = .ok (s, line)) (op : Opcode)
    (flags : UInt8) :
    op.setLine flags step phase bit .preset
      = .ok (op.place (.wrap flags step phase) line
          ((op.preset (.wrap flags step phase)).has line), ⟨step, phase, line == .dbrw⟩) :=
  setLine_of_accept h op flags .preset

/-- **When a reset makes nothing deviate.** The edit is accepted and the line is as
declared in the addressed cell. Nothing deviates that did not before exactly if the line
is not mirrored, or the two halves of the step are declared alike, or the other half has
deviated already; whatever the case may be, only that other half can deviate anew. If
nothing deviated, the opcode is as it was exactly if the line is not mirrored or the two
halves are declared alike. -/
theorem reset_deviates_subset_iff (h : LineRule.accept step phase bit = .ok (s, line))
    (op : Opcode) (flags : UInt8) :
    ∃ reset : Opcode × Edit,
      op.setLine flags step phase bit .preset = .ok reset
      ∧ ¬ reset.1.Deviates (.wrap flags step phase) line.bit
      ∧ ((∀ d i, reset.1.Deviates d i → op.Deviates d i)
        ↔ (line = .dbrw → op.DeclaredAlike (.wrap flags step phase)
            ∨ op.Deviates (Cell.wrap flags step phase).mirror Line.dbrw.bit))
      ∧ (∀ d i, ¬ (line = .dbrw ∧ d = (Cell.wrap flags step phase).mirror
            ∧ i = Line.dbrw.bit.val) → reset.1.Deviates d i → op.Deviates d i)
      ∧ ((∀ d i, ¬ op.Deviates d i) →
        (reset.1 = op ↔ (line = .dbrw → op.DeclaredAlike (.wrap flags step phase)))) :=
  ⟨_, setLine_preset h op flags, not_deviates_place_self, deviates_place_subset_iff,
    fun _ _ => deviates_of_place, place_preset_eq_self_iff⟩

end Opcode

namespace OpcodeTable

/-- In the built-in table nothing deviates. -/
theorem not_deviates_builtin (code : UInt8) (c : Cell) (i : Nat) :
    ¬ (builtin.lookup code).Deviates c i := by
  rw [lookup_builtin, Opcode.deviates_iff]
  exact not_not_intro rfl

/-- The step on which the accumulator is stored is declared with two halves that
disagree, as it stands in the table. -/
theorem sta_not_declaredAlike : ¬ (builtin.lookup 0x85).DeclaredAlike (.wrap 0 1 .phi1) := by
  have hword := Opcode.word_eq_preset (not_deviates_builtin 0x85)
  unfold Opcode.DeclaredAlike
  rw [← hword, ← hword, sta_direction_disagrees.1, sta_direction_disagrees.2]
  simp

/-- The general statement at that step: the reset goes through, and it can leave the
opcode as it is only if the two halves had been declared alike. -/
theorem reset_deviates_subset_sta :
    LineRule.accept 1 .phi1 36 = .ok (1, .dbrw)
      ∧ (∀ d i, ¬ (builtin.lookup 0x85).Deviates d i)
      ∧ ∃ reset : Opcode × Edit,
        (builtin.lookup 0x85).setLine 0 1 .phi1 36 .preset = .ok reset
        ∧ ¬ reset.1.Deviates (.wrap 0 1 .phi1) Line.dbrw.bit
        ∧ (reset.1 = builtin.lookup 0x85
          ↔ (builtin.lookup 0x85).DeclaredAlike (.wrap 0 1 .phi1)) := by
  have haccept : LineRule.accept 1 .phi1 36 = .ok (1, .dbrw) := rfl
  obtain ⟨reset, haccepted, hreset, -, -, hsame⟩ :=
    Opcode.reset_deviates_subset_iff haccept (builtin.lookup 0x85) 0
  refine ⟨haccept, not_deviates_builtin 0x85, reset, haccepted, hreset, ?_⟩
  rw [hsame (not_deviates_builtin 0x85)]
  exact ⟨fun h => h rfl, fun h _ => h⟩

/-- **A reset makes a line deviate.** Nothing deviates in the built-in table. Resetting the
direction of the data bus in the first half of the step on which the accumulator is stored
makes the other half deviate, and the instruction no longer stores. -/
theorem reset_sta_deviates :
    LineRule.accept 1 .phi1 36 = .ok (1, .dbrw)
      ∧ (∀ d i, ¬ (builtin.lookup 0x85).Deviates d i)
      ∧ ∃ reset : Opcode × Edit,
        (builtin.lookup 0x85).setLine 0 1 .phi1 36 .preset = .ok reset
        ∧ reset.1 ≠ builtin.lookup 0x85
        ∧ reset.1.Deviates (Cell.wrap 0 1 .phi1).mirror Line.dbrw.bit := by
  have haccept : LineRule.accept 1 .phi1 36 = .ok (1, .dbrw) := rfl
  refine ⟨haccept, not_deviates_builtin 0x85, _,
    Opcode.setLine_preset haccept (builtin.lookup 0x85) 0, ?_,
    Opcode.deviates_place_mirror sta_not_declaredAlike⟩
  rw [Ne, Opcode.place_preset_eq_self_iff (not_deviates_builtin 0x85)]
  exact fun halike => sta_not_declaredAlike (halike rfl)

end OpcodeTable

end Breadboard
