import Breadboard.Instruction.Catalogue

/-!
# The opcode table

All 256 opcodes, each at the place of its opcode byte. The table begins as the
built-in one, whose lines all equal their presets; what the operator edits
afterwards can be listed by comparing the two.

Two facts hold of every table and are part of the type: the entry at a place
has that place's opcode byte, and its step count is one a matrix has room for.
Only the lines of an entry can be replaced, so both survive every edit.
-/

namespace Breadboard

/-- **Opcode table**: an opcode for every byte. -/
structure OpcodeTable where
  /-- The opcodes. -/
  entries : Vector Opcode 256
  /-- Each stands at the place of its byte. -/
  code_eq : ∀ i : Fin 256, entries[i].code.toNat = i.val
  /-- Each has at least one step and at most eight. -/
  steps_mem : ∀ i : Fin 256, 1 ≤ entries[i].steps.toNat ∧ entries[i].steps.toNat ≤ Cell.maxSteps
  deriving DecidableEq

/-- **Edited cell**: a cell whose word is no longer the declared one. -/
structure EditedCell where
  /-- The opcode byte. -/
  code : UInt8
  /-- The cell. -/
  cell : Cell
  /-- The word it holds. -/
  word : ControlWord
  /-- The word it was declared with. -/
  preset : ControlWord
  deriving DecidableEq

namespace OpcodeTable

/-- The place of an opcode byte. -/
def place (code : UInt8) : Fin 256 := ⟨code.toNat, code.toNat_lt⟩

/-- The opcode of a byte. -/
def lookup (t : OpcodeTable) (code : UInt8) : Opcode := t.entries[place code]

/-- The table of an opcode for every byte. -/
def ofFn (op : Fin 256 → Opcode) (code_eq : ∀ i, (op i).code.toNat = i.val)
    (steps_mem : ∀ i, 1 ≤ (op i).steps.toNat ∧ (op i).steps.toNat ≤ Cell.maxSteps) :
    OpcodeTable where
  entries := Vector.ofFn op
  code_eq i := by simpa using code_eq i
  steps_mem i := by simpa using steps_mem i

theorem get_ofFn (op : Fin 256 → Opcode) (code_eq : ∀ i, (op i).code.toNat = i.val)
    (steps_mem : ∀ i, 1 ≤ (op i).steps.toNat ∧ (op i).steps.toNat ≤ Cell.maxSteps)
    (i : Fin 256) : (ofFn op code_eq steps_mem).entries.get i = op i :=
  Vector.getElem_ofFn i.isLt

/-- The table with the lines of one opcode replaced. -/
def setLines (t : OpcodeTable) (code : UInt8) (lines : Matrix) : OpcodeTable where
  entries := t.entries.set (place code) { t.lookup code with lines := lines }
  code_eq i := by
    have h := t.code_eq i
    simp only [Fin.getElem_fin, Vector.getElem_set] at h ⊢
    split
    · rename_i e
      have : place code = i := Fin.ext e
      subst this
      exact h
    · exact h
  steps_mem i := by
    have h := t.steps_mem i
    simp only [Fin.getElem_fin, Vector.getElem_set] at h ⊢
    split
    · rename_i e
      have : place code = i := Fin.ext e
      subst this
      exact h
    · exact h

theorem place_injective {a b : UInt8} (h : place a = place b) : a = b :=
  UInt8.toNat_inj.mp (congrArg Fin.val h)

theorem lookup_setLines (t : OpcodeTable) (code d : UInt8) (lines : Matrix) :
    (t.setLines code lines).lookup d
      = if code = d then { t.lookup code with lines := lines } else t.lookup d := by
  unfold lookup setLines
  simp only [Fin.getElem_fin, Vector.getElem_set]
  by_cases h : code = d
  · rw [if_pos h, if_pos (congrArg (fun c => (place c).val) h)]
    rfl
  · rw [if_neg h, if_neg (fun hp => h (place_injective (Fin.ext hp)))]

theorem catalogue_steps :
    ∀ d ∈ Catalogue.all, 1 ≤ d.steps.toNat ∧ d.steps.toNat ≤ Cell.maxSteps := by
  decide +kernel

theorem declaration_steps (code : UInt8) :
    1 ≤ (Catalogue.declaration code).steps.toNat
      ∧ (Catalogue.declaration code).steps.toNat ≤ Cell.maxSteps := by
  refine Catalogue.declaration_of_all catalogue_steps (fun code => ?_) code
  exact ⟨Nat.le_refl 1, by simp [Declaration.undefined, Cell.maxSteps]⟩

/-- **The built-in table**: every opcode as the instruction set declares it. -/
def builtin : OpcodeTable where
  entries := Vector.ofFn fun i => (Catalogue.declaration (UInt8.ofNat i.val)).opcode
  code_eq i := by
    simp [Declaration.opcode, Catalogue.declaration_code]
  steps_mem i := by
    simpa [Declaration.opcode] using declaration_steps (UInt8.ofNat i.val)

/-- **The edited cells**, ordered by opcode, flags, step and phase. -/
def editedCells (t : OpcodeTable) : List EditedCell :=
  t.entries.toList.flatMap fun op =>
    (Cell.all.filter fun c => op.word c != op.preset c).map fun c =>
      ⟨op.code, c, op.word c, op.preset c⟩

end OpcodeTable

end Breadboard
