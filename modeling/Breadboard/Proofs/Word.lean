import Breadboard.Control.Bus

/-!
# Words bit by bit

What the operations on control words do is said here one bit at a time: which
bits a word made from lines has, which single bit a line that is put to a level
changes, and that stepping a bus changes bits of its own lines only. Nothing
else about these operations is used by what follows.

Bits are counted past the last line too. A word that came from outside may have
some of them set, and no operation on lines or buses ever touches one.
-/

namespace Breadboard.ControlWord

/-- A bit of a word; those from 48 on belong to no line. -/
def bit (w : ControlWord) (i : Nat) : Bool := w.bits.getLsbD i

/-- Words with the same bits are the same word. -/
theorem eq_of_bit {v w : ControlWord} (h : ∀ i, v.bit i = w.bit i) : v = w :=
  ControlWord.ext (BitVec.eq_of_getLsbD_eq (fun i _ => h i))

/-- A word is told by its number. -/
@[simp]
theorem ofNat_toNat (w : ControlWord) : ofNat w.toNat = w :=
  ControlWord.ext ((BitVec.ofNat_toNat ..).trans (BitVec.setWidth_eq ..))

/-- A line is set where its bit is. -/
theorem bit_line (w : ControlWord) (line : Line) : w.bit line.bit = w.has line := rfl

@[simp]
theorem bit_empty (i : Nat) : empty.bit i = false := by
  show (0 : BitVec 64).getLsbD i = false
  simp

@[simp]
theorem bit_or (v w : ControlWord) (i : Nat) : (v ||| w).bit i = (v.bit i || w.bit i) := by
  unfold bit
  rw [bits_or, BitVec.getLsbD_or]

@[simp]
theorem bit_and (v w : ControlWord) (i : Nat) : (v &&& w).bit i = (v.bit i && w.bit i) := by
  unfold bit
  rw [bits_and, BitVec.getLsbD_and]

@[simp]
theorem bit_xor (v w : ControlWord) (i : Nat) : (v ^^^ w).bit i = (v.bit i ^^ w.bit i) := by
  unfold bit
  rw [bits_xor, BitVec.getLsbD_xor]

theorem has_and (v w : ControlWord) (line : Line) :
    (v &&& w).has line = (v.has line && w.has line) := bit_and v w line.bit

theorem has_xor (v w : ControlWord) (line : Line) :
    (v ^^^ w).has line = (v.has line ^^ w.has line) := bit_xor v w line.bit

/-- The word of one line has that line's bit and no other. -/
@[simp]
theorem bit_ofLine (line : Line) (i : Nat) :
    (ofLine line).bit i = decide (i = line.bit.val) := by
  have h : line.bit.val < 64 := Nat.lt_of_lt_of_le line.bit.isLt (by decide)
  unfold bit ofLine
  rw [BitVec.getLsbD_twoPow, decide_eq_true h, Bool.true_and]
  exact decide_eq_decide.mpr eq_comm

/-- Clearing a mask clears the mask's bits and keeps the others. -/
@[simp]
theorem bit_without (w mask : ControlWord) (i : Nat) :
    (w.without mask).bit i = (w.bit i && !mask.bit i) := by
  unfold bit without
  rw [BitVec.getLsbD_and, BitVec.getLsbD_not]
  by_cases h : i < 64
  · rw [decide_eq_true h, Bool.true_and]
  · rw [BitVec.getLsbD_of_ge w.bits i (Nat.le_of_not_lt h), Bool.false_and, Bool.false_and]

/-- The bits of listed lines are those of a line on the list. -/
theorem bit_ofLines (lines : List Line) (i : Nat) :
    (ofLines lines).bit i = true ↔ ∃ line ∈ lines, i = line.bit.val := by
  induction lines with
  | nil => simp [ofLines]
  | cons line rest ih =>
    rw [show ofLines (line :: rest) = (ofLine line ||| ofLines rest) from rfl, bit_or,
      Bool.or_eq_true, ih, bit_ofLine, decide_eq_true_eq]
    simp

/-! ## One line put to a level -/

/-- **Putting a line changes its own bit and no other.** -/
theorem bit_put (w : ControlWord) (line : Line) (level : Bool) (i : Nat) :
    (w.put line level).bit i = if i = line.bit.val then level else w.bit i := by
  unfold put
  by_cases h : i = line.bit.val
  · cases level <;> simp [h]
  · cases level <;> simp [h]

@[simp]
theorem has_put (w : ControlWord) (line : Line) (level : Bool) :
    (w.put line level).has line = level := by
  rw [← bit_line, bit_put, if_pos rfl]

/-- The last level a line was put to counts. -/
@[simp]
theorem put_put (w : ControlWord) (line : Line) (a b : Bool) :
    (w.put line a).put line b = w.put line b := by
  refine eq_of_bit (fun i => ?_)
  rw [bit_put, bit_put, bit_put]
  by_cases h : i = line.bit.val
  · rw [if_pos h, if_pos h]
  · rw [if_neg h, if_neg h, if_neg h]

/-- A word does not change exactly if the line was at that level already. -/
theorem put_eq_self_iff (w : ControlWord) (line : Line) (level : Bool) :
    w.put line level = w ↔ w.has line = level := by
  constructor
  · intro h
    rw [← h, has_put]
  · intro h
    refine eq_of_bit (fun i => ?_)
    rw [bit_put]
    by_cases hi : i = line.bit.val
    · rw [if_pos hi, hi, bit_line, h]
    · rw [if_neg hi]

/-! ## Words that fit -/

/-- **A word fits if no bit past the last line is set.** -/
theorem fits_iff (w : ControlWord) :
    w.fits = true ↔ ∀ i, Line.count ≤ i → w.bit i = false := by
  unfold fits toNat bit
  rw [decide_eq_true_eq, Nat.one_shiftLeft]
  constructor
  · intro h i hi
    exact Nat.testBit_lt_two_pow (Nat.lt_of_lt_of_le h (Nat.pow_le_pow_right (by decide) hi))
  · intro h
    exact Nat.lt_pow_two_of_testBit _ h

end Breadboard.ControlWord
