import Breadboard.Editing.Edit
import Breadboard.Proofs.Word

/-!
# What an edit does to an opcode

An accepted edit *places* a line: it puts the line to a level in the addressed
cell and, if the line is the direction of the data bus, in the other half of
the step as well. `Opcode.setLine_of_accept` says that this is all an edit does,
and everything below is about placing.

The mirrored half is what makes edits of that one line lossy. The two halves
of a step need not agree on the direction of the data bus – the instruction set
itself declares steps in which they do not – and after any edit of the line
they agree. An edit can be taken back by a second one exactly where there was
nothing to lose.
-/

namespace Breadboard

/-! ## Accepted edits -/

/-- A byte addresses the line at its position. -/
theorem Line.ofByte?_eq_some_iff {byte : UInt8} {line : Line} :
    Line.ofByte? byte = some line ↔ byte.toNat = line.bit.val := by
  unfold Line.ofByte?
  split
  · rename_i h
    rw [Option.some.injEq]
    constructor
    · rintro rfl
      rw [Line.bit_ofBit]
    · intro hb
      rw [show (⟨byte.toNat, h⟩ : Fin Line.count) = line.bit from Fin.ext hb, Line.ofBit_bit]
  · rename_i h
    exact ⟨fun hn => absurd hn (by simp), fun hb => absurd line.bit.isLt (hb ▸ h)⟩

/-- **When an edit is accepted**: the bytes name a step and a line, and the
line's window is open in the phase. -/
theorem LineRule.accept_eq_ok_iff {step bit : UInt8} {phase : Phase} {s : Fin 8} {line : Line} :
    LineRule.accept step phase bit = .ok (s, line)
      ↔ step.toNat = s.val ∧ bit.toNat = line.bit.val ∧ LineRule.check phase line = .ok () := by
  unfold LineRule.accept
  split
  · rename_i h
    cases hl : Line.ofByte? bit with
    | none =>
      refine ⟨fun hn => absurd hn (by simp [throw, throwThe, MonadExceptOf.throw]), ?_⟩
      rintro ⟨-, hb, -⟩
      rw [Line.ofByte?_eq_some_iff.mpr hb] at hl
      exact absurd hl (by simp)
    | some named =>
      have hn : bit.toNat = named.bit.val := Line.ofByte?_eq_some_iff.mp hl
      cases hc : LineRule.check phase named with
      | error e =>
        refine ⟨fun he => absurd he (by simp [bind, Except.bind, hc]), ?_⟩
        rintro ⟨-, hb, hok⟩
        rw [Line.bit_injective (Fin.ext (hn.symm.trans hb))] at hc
        exact absurd (hc.symm.trans hok) (by simp)
      | ok u =>
        simp only [bind, Except.bind, hc, pure, Except.pure, Except.ok.injEq, Prod.mk.injEq]
        constructor
        · rintro ⟨rfl, rfl⟩
          exact ⟨rfl, hn, hc⟩
        · rintro ⟨hs, hb, -⟩
          exact ⟨Fin.ext hs, Line.bit_injective (Fin.ext (hn.symm.trans hb))⟩
  · rename_i h
    refine ⟨fun hn => absurd hn (by simp [throw, throwThe, MonadExceptOf.throw]), ?_⟩
    rintro ⟨hs, -⟩
    exact absurd (hs ▸ s.isLt) h

/-- The step of an accepted edit is the wired one. -/
theorem Cell.wrap_of_step {flags step : UInt8} {phase : Phase} {s : Fin 8}
    (h : step.toNat = s.val) :
    ({ Cell.wrap flags step phase with step := s } : Cell) = Cell.wrap flags step phase := by
  unfold Cell.wrap
  rw [h]
  simp

theorem Cell.mirror_ne (c : Cell) : c.mirror ≠ c := by
  intro h
  exact Phase.other_ne c.phase (congrArg Cell.phase h)

namespace Opcode

/-- Opcodes that differ in their lines at most, with the same word in every
cell, are the same. -/
theorem eq_of_word {op op' : Opcode} (hdata : op' = { op with lines := op'.lines })
    (hword : ∀ c, op'.word c = op.word c) : op' = op := by
  rw [hdata, Matrix.ext (m := op'.lines) (n := op.lines) hword]

theorem word_setWord (op : Opcode) (c d : Cell) (w : ControlWord) :
    (op.setWord c w).word d = if c = d then w else op.word d :=
  Matrix.get_set op.lines c d w

/-- **Placing a line**: the line put to a level in a cell and, for the direction
of the data bus, in the other half of the step too. -/
def place (op : Opcode) (c : Cell) (line : Line) (level : Bool) : Opcode :=
  let op := op.setWord c ((op.word c).put line level)
  if line == .dbrw then op.setWord c.mirror ((op.word c.mirror).put line level) else op

/-- Placing a line changes lines only. -/
theorem place_eq (op : Opcode) (c : Cell) (line : Line) (level : Bool) :
    op.place c line level = { op with lines := (op.place c line level).lines } := by
  unfold place
  dsimp only
  split <;> rfl

/-- **The words after placing a line.** -/
theorem word_place (op : Opcode) (c d : Cell) (line : Line) (level : Bool) :
    (op.place c line level).word d
      = if d = c ∨ line = .dbrw ∧ d = c.mirror then (op.word d).put line level
        else op.word d := by
  unfold place
  dsimp only
  by_cases hl : line = .dbrw
  · rw [if_pos (beq_iff_eq.mpr hl), word_setWord, word_setWord, word_setWord,
      if_neg (Cell.mirror_ne c).symm]
    by_cases hm : d = c.mirror
    · rw [if_pos hm.symm, if_pos (Or.inr ⟨hl, hm⟩), hm]
    · rw [if_neg (Ne.symm hm)]
      by_cases hc : d = c
      · rw [if_pos hc.symm, if_pos (Or.inl hc), hc]
      · rw [if_neg (Ne.symm hc), if_neg (by simp [hc, hm])]
  · rw [if_neg (by simpa using hl), word_setWord]
    by_cases hc : d = c
    · rw [if_pos hc.symm, if_pos (Or.inl hc), hc]
    · rw [if_neg (Ne.symm hc), if_neg (by simp [hc, hl])]

/-- **The bits after placing a line**: its own one wherever it was placed, and no other. -/
theorem bit_place (op : Opcode) (c d : Cell) (line : Line) (level : Bool) (i : Nat) :
    ((op.place c line level).word d).bit i
      = if (d = c ∨ line = .dbrw ∧ d = c.mirror) ∧ i = line.bit.val then level
        else (op.word d).bit i := by
  rw [word_place]
  by_cases hplace : d = c ∨ line = .dbrw ∧ d = c.mirror
  · rw [if_pos hplace, ControlWord.bit_put]
    by_cases hbit : i = line.bit.val
    · rw [if_pos hbit, if_pos ⟨hplace, hbit⟩]
    · rw [if_neg hbit, if_neg fun h => hbit h.2]
  · rw [if_neg hplace, if_neg fun h => hplace h.1]

/-- No edit touches the declaration. -/
theorem preset_place (op : Opcode) (c d : Cell) (line : Line) (level : Bool) :
    (op.place c line level).preset d = op.preset d := by
  rw [place_eq]
  rfl

/-- The last of two placings of a line counts. -/
theorem place_place (op : Opcode) (c : Cell) (line : Line) (a b : Bool) :
    (op.place c line a).place c line b = op.place c line b := by
  refine eq_of_word ?_ (fun d => ?_)
  · rw [place_eq (op.place c line a), place_eq op c line a, place_eq op c line b]
  · rw [word_place, word_place, word_place]
    split
    · exact ControlWord.put_put _ _ _ _
    · rfl

/-- **Placing a line at the level it has** changes nothing exactly if the other
half has that level too, where the line is mirrored. -/
theorem place_has_eq_self_iff (op : Opcode) (c : Cell) (line : Line) :
    op.place c line ((op.word c).has line) = op
      ↔ (line = .dbrw → (op.word c.mirror).has line = (op.word c).has line) := by
  constructor
  · intro h hl
    have hm := word_place op c c.mirror line ((op.word c).has line)
    rw [h, if_pos (Or.inr ⟨hl, rfl⟩)] at hm
    exact (ControlWord.put_eq_self_iff _ _ _).mp hm.symm
  · intro h
    refine eq_of_word (place_eq op c line _) (fun d => ?_)
    rw [word_place]
    split
    · rename_i hd
      rw [ControlWord.put_eq_self_iff]
      obtain rfl | ⟨hl, rfl⟩ := hd
      · rfl
      · exact h hl
    · rfl

/-! ## Edits are placings -/

/-- **An accepted edit places its line.** -/
theorem setLine_of_accept {step bit : UInt8} {phase : Phase} {s : Fin 8} {line : Line}
    (h : LineRule.accept step phase bit = .ok (s, line)) (op : Opcode) (flags : UInt8)
    (mode : SetMode) :
    op.setLine flags step phase bit mode
      = .ok (op.place (.wrap flags step phase) line
          (mode.level ((op.word (.wrap flags step phase)).has line)
            ((op.preset (.wrap flags step phase)).has line)),
        ⟨step, phase, line == .dbrw⟩) := by
  have hs := (LineRule.accept_eq_ok_iff.mp h).1
  unfold setLine place
  rw [h]
  simp only [bind, Except.bind, Cell.wrap_of_step hs]
  rfl

/-- **A rejected edit** says why and changes nothing. -/
theorem setLine_of_reject {step bit : UInt8} {phase : Phase} {e : LineRejection}
    (h : LineRule.accept step phase bit = .error e) (op : Opcode) (flags : UInt8)
    (mode : SetMode) : op.setLine flags step phase bit mode = .error e := by
  unfold setLine
  rw [h]
  rfl

end Opcode

end Breadboard
