import Breadboard.Control.Word

/-!
# Microcode cells

An instruction is stored as one control word for each *cell*: a value of the
flags nibble, a step and a clock phase. Sixteen flags slots, eight steps and
two phases make 256 cells, whatever the number of steps the instruction uses.

The board addresses a cell by whole bytes of which only the low bits are
wired, so `Cell.wrap` takes any bytes and keeps the bits that matter.
-/

namespace Breadboard

/-- **Cell**: one place in an instruction's matrix. -/
structure Cell where
  /-- The flags nibble. -/
  flags : Fin 16
  /-- The step within the instruction. -/
  step : Fin 8
  /-- The half of the step. -/
  phase : Phase
  deriving DecidableEq, Repr

namespace Cell

/-- Values of the flags nibble. -/
abbrev flagSlots : Nat := 16

/-- Steps an instruction can have at most. -/
abbrev maxSteps : Nat := 8

/-- The cell that bytes address: four bits of the flags and three of the step
are wired. -/
def wrap (flags step : UInt8) (phase : Phase) : Cell :=
  ⟨Fin.ofNat 16 flags.toNat, Fin.ofNat 8 step.toNat, phase⟩

/-- Position of a cell in the order flags, step, phase. -/
def index (c : Cell) : Fin 256 :=
  ⟨(c.flags.val * 8 + c.step.val) * 2 + c.phase.index.val, by
    have := c.phase.index.isLt
    omega⟩

/-- The cell at a position. -/
def ofIndex (i : Fin 256) : Cell where
  flags := ⟨i.val / 16, by omega⟩
  step := ⟨i.val / 2 % 8, by omega⟩
  phase := .ofIndex ⟨i.val % 2, by omega⟩

@[simp]
theorem ofIndex_index (c : Cell) : ofIndex c.index = c := by
  obtain ⟨flags, step, phase⟩ := c
  have hp : (phase.index : Nat) < 2 := phase.index.isLt
  simp only [ofIndex, index, mk.injEq]
  refine ⟨Fin.ext ?_, Fin.ext ?_, ?_⟩
  · simp only
    omega
  · simp only
    omega
  · have : (((flags.val * 8 + step.val) * 2 + phase.index.val) % 2) = phase.index.val := by omega
    simp [this]

@[simp]
theorem index_ofIndex (i : Fin 256) : (ofIndex i).index = i := by
  apply Fin.ext
  simp only [index, ofIndex, Phase.index_ofIndex]
  omega

/-- Every cell, ordered by flags, then step, then phase. -/
def all : List Cell := (List.finRange 256).map ofIndex

/-- The other half of the same step. -/
def mirror (c : Cell) : Cell := { c with phase := c.phase.other }

end Cell

/-- **Matrix**: a control word for every cell. -/
structure Matrix where
  /-- The words, in the order of `Cell.index`. -/
  words : Vector ControlWord 256
  deriving DecidableEq

namespace Matrix

/-- The word of a cell. -/
def get (m : Matrix) (c : Cell) : ControlWord := m.words[c.index]

/-- The matrix with the word of one cell replaced. -/
def set (m : Matrix) (c : Cell) (w : ControlWord) : Matrix := ⟨m.words.set c.index w⟩

/-- The matrix whose words a function gives. -/
def ofFn (f : Cell → ControlWord) : Matrix := ⟨Vector.ofFn fun i => f (Cell.ofIndex i)⟩

@[simp]
theorem get_ofFn (f : Cell → ControlWord) (c : Cell) : (ofFn f).get c = f c := by
  simp [get, ofFn]

@[ext]
theorem ext {m n : Matrix} (h : ∀ c, m.get c = n.get c) : m = n := by
  obtain ⟨v⟩ := m
  obtain ⟨w⟩ := n
  refine congrArg mk (Vector.ext fun i hi => ?_)
  simpa [get] using h (Cell.ofIndex ⟨i, hi⟩)

theorem get_set (m : Matrix) (c d : Cell) (w : ControlWord) :
    (m.set c w).get d = if c = d then w else m.get d := by
  have inj : (c.index : Nat) = d.index ↔ c = d :=
    ⟨fun h => by rw [← Cell.ofIndex_index c, ← Cell.ofIndex_index d, Fin.ext h], fun h => by rw [h]⟩
  simp only [get, set, Fin.getElem_fin, Vector.getElem_set, inj]

end Matrix

end Breadboard
