import Breadboard.Proofs.BuiltinTable
import Breadboard.Proofs.LineEdit

/-!
# Edits made twice

Toggling a line and toggling it again puts it back to the level it had. That
takes back the whole of the first edit for every line but one. The direction of
the data bus is mirrored onto the other half of the step, so its second toggle
leaves both halves with the level that the addressed half had at first, and
whatever else the other half had is gone.

The instruction set has steps whose halves disagree on that line: an instruction
that stores lets the board write on phi-2 of the step before its last one.
-/

namespace Breadboard

namespace Opcode

/-- **The two halves of a step agree** on the direction of the data bus. -/
def DirectionAgrees (op : Opcode) (c : Cell) : Prop :=
  (op.word c.mirror).has .dbrw = (op.word c).has .dbrw

variable {step bit : UInt8} {phase : Phase} {s : Fin 8} {line : Line}

/-- **Two toggles place the line at the level it had.** -/
theorem setLine_toggle_toggle (h : LineRule.accept step phase bit = .ok (s, line))
    (op : Opcode) (flags : UInt8) :
    ∃ once twice : Opcode × Edit,
      op.setLine flags step phase bit .toggle = .ok once
      ∧ once.1.setLine flags step phase bit .toggle = .ok twice
      ∧ twice.1 = op.place (.wrap flags step phase) line
          ((op.word (.wrap flags step phase)).has line) := by
  refine ⟨_, _, setLine_of_accept h op flags .toggle, setLine_of_accept h _ flags .toggle, ?_⟩
  dsimp only [SetMode.level]
  rw [place_place, word_place, if_pos (Or.inl rfl), ControlWord.has_put, Bool.not_not]

/-- **When toggling twice changes nothing.** Both edits are accepted, and all
cells but the other half of the step are as they were. The opcode as a whole is
as it was exactly if the line is not mirrored, or the two halves agreed on it. -/
theorem toggle_toggle_eq_self_iff (h : LineRule.accept step phase bit = .ok (s, line))
    (op : Opcode) (flags : UInt8) :
    ∃ once twice : Opcode × Edit,
      op.setLine flags step phase bit .toggle = .ok once
      ∧ once.1.setLine flags step phase bit .toggle = .ok twice
      ∧ (twice.1 = op ↔ (line = .dbrw → op.DirectionAgrees (.wrap flags step phase)))
      ∧ ∀ d, d ≠ (Cell.wrap flags step phase).mirror → twice.1.word d = op.word d := by
  obtain ⟨once, twice, honce, htwice, heq⟩ := setLine_toggle_toggle h op flags
  refine ⟨once, twice, honce, htwice, ?_, fun d hd => ?_⟩
  · -- Both toggles together place the line at the level it had.
    rw [heq, place_has_eq_self_iff]
    refine forall_congr' (fun hl => ?_)
    rw [hl]
    exact Iff.rfl
  · rw [heq, word_place]
    split
    · rename_i hc
      obtain rfl | ⟨-, hm⟩ := hc
      · exact (ControlWord.put_eq_self_iff _ _ _).mpr rfl
      · exact absurd hm hd
    · rfl

end Opcode

namespace OpcodeTable

/-- Storing the accumulator in the zero page: on step 1 the host gives the byte
in the first half and the board writes in the second. -/
theorem sta_direction_disagrees :
    ((builtin.lookup 0x85).word (.wrap 0 1 .phi1)).has .dbrw = true
      ∧ ((builtin.lookup 0x85).word (Cell.wrap 0 1 .phi1).mirror).has .dbrw = false := by
  rw [lookup_builtin, Declaration.word_opcode, Declaration.word_opcode]
  decide +kernel

/-- The general statement at that step: the edits go through, and what they
leave is the opcode as it was only if the two halves had agreed. -/
theorem toggle_toggle_sta :
    LineRule.accept 1 .phi1 36 = .ok (1, .dbrw)
      ∧ ∃ once twice : Opcode × Edit,
        (builtin.lookup 0x85).setLine 0 1 .phi1 36 .toggle = .ok once
        ∧ once.1.setLine 0 1 .phi1 36 .toggle = .ok twice
        ∧ (twice.1 = builtin.lookup 0x85
          ↔ (Line.dbrw = .dbrw → (builtin.lookup 0x85).DirectionAgrees (.wrap 0 1 .phi1)))
        ∧ ∀ d, d ≠ (Cell.wrap 0 1 .phi1).mirror →
          twice.1.word d = (builtin.lookup 0x85).word d :=
  ⟨rfl, Opcode.toggle_toggle_eq_self_iff rfl (builtin.lookup 0x85) 0⟩

/-- **Toggling twice is not always the identity.** Two accepted toggles of the
direction of the data bus leave a storing instruction of the built-in table with
another word in the other half of the step. -/
theorem toggle_toggle_sta_ne :
    LineRule.accept 1 .phi1 36 = .ok (1, .dbrw)
      ∧ ∃ once twice : Opcode × Edit,
        (builtin.lookup 0x85).setLine 0 1 .phi1 36 .toggle = .ok once
        ∧ once.1.setLine 0 1 .phi1 36 .toggle = .ok twice
        ∧ twice.1 ≠ builtin.lookup 0x85 := by
  have haccept : LineRule.accept 1 .phi1 36 = .ok (1, .dbrw) := rfl
  obtain ⟨once, twice, honce, htwice, heq⟩ :=
    Opcode.setLine_toggle_toggle haccept (builtin.lookup 0x85) 0
  refine ⟨haccept, once, twice, honce, htwice, ?_⟩
  rw [heq, Ne, Opcode.place_has_eq_self_iff, sta_direction_disagrees.1,
    sta_direction_disagrees.2]
  simp

end OpcodeTable

end Breadboard
