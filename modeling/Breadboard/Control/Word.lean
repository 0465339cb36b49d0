import Breadboard.Control.Line
import Breadboard.Text.Blank

/-!
# Control words

A control word is the level of every control line at once. Words are kept
sixty-four bits wide because that is how they arrive from outside; the board
has forty-eight lines, so bits from 48 on are carried but drive nothing.

Most lines are active low. A quiescent word is therefore not zero: it is one
of the two *defaults*, and instructions are described by the lines in which
they differ from it. On phi-2 the default differs from the idle word of phi-1
in the carry-in override alone.
-/

namespace Breadboard

/-- **Control word**: the level of each control line, bit `i` for the line at
position `i`. -/
structure ControlWord where
  /-- The levels. -/
  bits : BitVec 64
  deriving DecidableEq, Inhabited

namespace ControlWord

/-- No line set. -/
def empty : ControlWord := ⟨0⟩

instance : OrOp ControlWord := ⟨fun v w => ⟨v.bits ||| w.bits⟩⟩
instance : AndOp ControlWord := ⟨fun v w => ⟨v.bits &&& w.bits⟩⟩
instance : XorOp ControlWord := ⟨fun v w => ⟨v.bits ^^^ w.bits⟩⟩

@[simp]
theorem bits_or (v w : ControlWord) : (v ||| w).bits = v.bits ||| w.bits := rfl

@[simp]
theorem bits_and (v w : ControlWord) : (v &&& w).bits = v.bits &&& w.bits := rfl

@[simp]
theorem bits_xor (v w : ControlWord) : (v ^^^ w).bits = v.bits ^^^ w.bits := rfl

@[ext]
theorem ext {v w : ControlWord} (h : v.bits = w.bits) : v = w := by
  cases v
  cases w
  exact congrArg mk h

/-- The word of a number, its low sixty-four bits. -/
def ofNat (n : Nat) : ControlWord := ⟨BitVec.ofNat 64 n⟩

/-- The word as a number. -/
def toNat (w : ControlWord) : Nat := w.bits.toNat

/-- Whether a word uses the forty-eight lines only. -/
def fits (w : ControlWord) : Bool := w.toNat < 1 <<< Line.count

/-! ## Single lines -/

/-- The word with exactly one line set. -/
def ofLine (line : Line) : ControlWord := ⟨BitVec.twoPow 64 line.bit⟩

/-- The word in which exactly the listed lines are set. -/
def ofLines (lines : List Line) : ControlWord :=
  lines.foldr (fun line w => ofLine line ||| w) empty

/-- Whether a line is set. -/
def has (w : ControlWord) (line : Line) : Bool := w.bits.getLsbD line.bit

/-- The word with every line of `mask` cleared. -/
def without (w mask : ControlWord) : ControlWord := ⟨w.bits &&& ~~~mask.bits⟩

/-- The word with one line put to a level. -/
def put (w : ControlWord) (line : Line) (level : Bool) : ControlWord :=
  if level then w ||| ofLine line else w.without (ofLine line)

/-- The lines that are set, bit 47 first. -/
def lines (w : ControlWord) : List Line := Line.descending.filter w.has

/-! ## Reading names -/

/-- **Lines read by name**: the word in which the named lines are set. A name
may stand behind `lead` and between blanks; a name that no line has in this
phase makes the whole reading fail. -/
def ofMnemonics? (names : List String) (phase : Phase) (lead : String := "") :
    Option ControlWord := do
  let lines ← names.mapM fun name =>
    Line.ofMnemonic? (Text.dropLead lead (Text.trim name)) phase
  return ofLines lines

/-! ## Quiescent words -/

open Line in
/-- The bus-idle word: every active-low line high. -/
def idle : ControlWord := ofLines [
  ahd0, ahc0, ahc1, dbd1, dbd2, pclh, pcll, dbrw, pcin, ald0, ald1, ald2,
  crst, alc0, alc1, alc2, spld, alld, ahld, aus1, aula, aulb, aus2,
  sbd2, sbd1, sbd0, sblx, sbly, sbla]

/-- The default word of a phase: the idle word, on phi-2 without the carry-in
override. -/
def default : Phase → ControlWord
  | .phi1 => idle
  | .phi2 => idle ^^^ ofLine .aula

end ControlWord

end Breadboard
