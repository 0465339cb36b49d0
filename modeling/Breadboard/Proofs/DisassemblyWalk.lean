import Breadboard.Proofs.HexText
import Breadboard.Proofs.ListingWalk
import Breadboard.Proofs.TextPieces
import Mathlib.Data.List.Iterate

/-!
# Disassembly next to the listing

Two walks step over the same bytes. The listing goes through the image and takes what is no
instruction for data; disassembly goes on from wherever it is started, around the end of the address
space too, and stops at data. Started at an instruction of the image, disassembly shows the items of
the listing from there on, one line for each and none left out, until it comes to data or leaves the
image.

A line begins with its address and ends with its operand, each of them a number behind a dollar
sign. What is shown can so be compared with the bytes it was read from.
-/

namespace Breadboard

/-! ## Texts -/

namespace Hex

theorem not_isBlank_digit {d : Nat} (h : d < 16) : Text.isBlank (digit d) = false := by
  have hall : ∀ d : Fin 16, Text.isBlank (digit d) = false := by decide
  exact hall ⟨d, h⟩

theorem not_isBlank_of_mem_padded {width n : Nat} {c : Char} (h : c ∈ (padded width n).toList) :
    Text.isBlank c = false := by
  obtain ⟨k, hdigits⟩ := toList_padded width n
  rw [hdigits] at h
  obtain ⟨d, hd, rfl⟩ := List.mem_map.mp h
  exact not_isBlank_digit (lt_of_mem_replicate_append hd)

end Hex

/-- **The target of a branch**: the address of the instruction, plus two, plus the operand as a
number with a sign, around the end of the address space. -/
theorem toNat_branchTarget (pc : UInt16) (low : UInt8) :
    (pc + 2 + low.toInt8.toInt16.toUInt16).toNat
      = ((pc.toNat + 2 + low.toInt8.toInt) % 65536).toNat := by
  have hsigned : (low.toInt8.toInt16.toUInt16.toNat : Int) = low.toInt8.toInt % 65536 := by
    rw [← Int8.toInt_toInt16]
    generalize low.toInt8.toInt16 = d
    have hcond := d.toBitVec.toInt_eq_toNat_cond
    rw [show d.toUInt16.toNat = d.toBitVec.toNat from rfl,
      show d.toInt = d.toBitVec.toInt from rfl]
    omega
  rw [UInt16.toNat_add, UInt16.toNat_add, show (2 : UInt16).toNat = 2 from rfl]
  omega

/-- An address and what is added to it, around the end of the address space. -/
theorem ofNat_add_mod (pc : UInt16) (n : Nat) :
    UInt16.ofNat ((pc.toNat + n) % 65536) = pc + UInt16.ofNat n := by
  rw [show 65536 = UInt16.size from rfl, UInt16.ofNat_mod_size, UInt16.ofNat_add,
    UInt16.ofNat_toNat]

namespace Opcode

/-- **The number an operand shows**, of an instruction at `pc` with the bytes `low` and `high`
behind its opcode. The accumulator is no number. -/
def operandNumber (op : Opcode) (pc : UInt16) (low high : UInt8) : Option Nat :=
  match op.mode with
  | .acc | .imp => none
  | .imm | .zpg | .zpx | .zpy | .izx | .izy => some low.toNat
  | .abs | .abx | .aby | .ind => some (low.toNat + 256 * high.toNat)
  | .rel => some ((pc.toNat + 2 + low.toInt8.toInt) % 65536).toNat

/-- What stands before and behind the number of an operand. -/
def operandFrame (op : Opcode) : List Char × List Char :=
  match op.mode with
  | .imm => (['#'], [])
  | .zpx | .abx => ([], [',', 'X'])
  | .zpy | .aby => ([], [',', 'Y'])
  | .izx => (['('], [',', 'X', ')'])
  | .izy => (['('], [')', ',', 'Y'])
  | .ind => (['('], [')'])
  | .acc => (['A'], [])
  | .zpg | .abs | .rel | .imp => ([], [])

/-- An operand is its number in the frame of its mode. -/
theorem toList_operandText (op : Opcode) (pc : UInt16) (low high : UInt8) :
    ∃ width, (op.operandText pc low high).toList = op.operandFrame.1
      ++ ((op.operandNumber pc low high).map fun n => '$' :: (Hex.padded width n).toList).getD []
      ++ op.operandFrame.2 := by
  unfold operandText operandNumber operandFrame
  have hword : high.toNat * 256 + low.toNat = low.toNat + 256 * high.toNat := by omega
  rw [hword, toNat_branchTarget]
  cases op.mode with
  | imm | zpg | zpx | zpy | izx | izy => exact ⟨2, by simp [Hex.byte]⟩
  | _ => exact ⟨4, by simp⟩

/-- Before the number of an operand there is no dollar sign and no blank. -/
theorem operandFrame_fst (op : Opcode) :
    ∀ c ∈ op.operandFrame.1, c ≠ '$' ∧ Text.isBlank c = false := by
  -- The list is checked, and not the quantifier, which may be decided over all characters.
  have hall : op.operandFrame.1.all (fun c => c != '$' && !Text.isBlank c) = true := by
    unfold operandFrame
    cases op.mode <;> rfl
  intro c hc
  simpa using List.all_eq_true.mp hall c hc

/-- Behind the number of an operand there is no blank, and no digit that would go on with it. -/
theorem operandFrame_snd (op : Opcode) : (∀ c ∈ op.operandFrame.2, Text.isBlank c = false)
    ∧ (∀ c ∈ op.operandFrame.2.head?, Hex.digitValue? c = none) := by
  have hall : op.operandFrame.2.all (!Text.isBlank ·) = true
      ∧ op.operandFrame.2.head?.all (Hex.digitValue? · == none) = true := by
    unfold operandFrame
    cases op.mode <;> exact ⟨rfl, rfl⟩
  refine ⟨fun c hc => ?_, fun c hc => ?_⟩
  · simpa using List.all_eq_true.mp hall.1 c hc
  · have hhead := hall.2
    rw [Option.mem_def.mp hc] at hhead
    exact beq_iff_eq.mp hhead

theorem operandFrame_of_none {op : Opcode} {pc : UInt16} {low high : UInt8}
    (h : op.operandNumber pc low high = none) : op.operandFrame.2 = [] := by
  unfold operandNumber at h
  unfold operandFrame
  cases hmode : op.mode <;> simp_all

/-- **An operand shows its number**, and nothing if it has none. -/
theorem shown?_operandText (op : Opcode) (pc : UInt16) (low high : UInt8) :
    Hex.shown? (op.operandText pc low high) = op.operandNumber pc low high := by
  obtain ⟨width, htext⟩ := op.toList_operandText pc low high
  cases hnumber : op.operandNumber pc low high with
  | none =>
    rw [hnumber, operandFrame_of_none hnumber] at htext
    refine Hex.shown?_eq_none fun c hc => (op.operandFrame_fst c ?_).1
    simpa [htext] using hc
  | some n =>
    rw [hnumber] at htext
    have hframe : (op.operandText pc low high).toList
        = op.operandFrame.1 ++ '$' :: ((Hex.padded width n).toList ++ op.operandFrame.2) := by
      simpa using htext
    exact Hex.shown?_of_toList _ _ hframe (fun c hc => (op.operandFrame_fst c hc).1)
      op.operandFrame_snd.2

/-- There are no blanks in an operand. -/
theorem not_isBlank_of_mem_operandText {op : Opcode} {pc : UInt16} {low high : UInt8} {c : Char}
    (h : c ∈ (op.operandText pc low high).toList) : Text.isBlank c = false := by
  obtain ⟨width, htext⟩ := op.toList_operandText pc low high
  rw [htext, List.mem_append, List.mem_append] at h
  obtain (hfront | hnumber) | hback := h
  · exact (op.operandFrame_fst c hfront).2
  · cases hn : op.operandNumber pc low high with
    | none => simp [hn] at hnumber
    | some n =>
      rw [hn] at hnumber
      obtain rfl | hdigit := List.mem_cons.mp hnumber
      · decide
      · exact Hex.not_isBlank_of_mem_padded hdigit
  · exact op.operandFrame_snd.1 c hback

end Opcode

namespace Memory

variable {m : Memory} {t : OpcodeTable} {pc a : UInt16} {count i : Nat}

/-! ## Lines -/

/-- The opcode that stands at an address. -/
def opcodeOf (m : Memory) (t : OpcodeTable) (pc : UInt16) : Opcode := t.lookup (m.read pc)

/-- The line of the instruction at an address. -/
def lineAt (m : Memory) (t : OpcodeTable) (pc : UInt16) : String :=
  m.instructionLine (m.opcodeOf t pc) pc

/-- The operand text of the instruction at an address. -/
def operandAt (m : Memory) (t : OpcodeTable) (pc : UInt16) : String :=
  (m.opcodeOf t pc).operandText pc (m.read (pc + 1)) (m.read (pc + 2))

theorem toList_lineAt (m : Memory) (t : OpcodeTable) (pc : UInt16) :
    (m.lineAt t pc).toList = Text.dropBlankEnd ('$' :: (Hex.padded 4 pc.toNat).toList
      ++ ':' :: (' ' :: (m.opcodeOf t pc).name.toList ++ ' ' :: (m.operandAt t pc).toList)) := by
  unfold lineAt instructionLine Text.trimEnd operandAt
  simp

/-- **A line shows its address.** -/
theorem shown?_lineAt (m : Memory) (t : OpcodeTable) (pc : UInt16) :
    Hex.shown? (m.lineAt t pc) = some pc.toNat := by
  have hline := m.toList_lineAt t pc
  rw [Text.dropBlankEnd_append_cons (by decide)] at hline
  exact Hex.shown?_of_toList [] _ hline (by simp) (by simp; decide)

/-- **A line ends with its operand.** -/
theorem operandAt_suffix_lineAt (m : Memory) (t : OpcodeTable) (pc : UInt16) :
    (m.operandAt t pc).toList <:+ (m.lineAt t pc).toList := by
  have hblank : ∀ c ∈ (m.operandAt t pc).toList, Text.isBlank c = false :=
    fun c => Opcode.not_isBlank_of_mem_operandText
  have hline := Text.suffix_dropBlankEnd hblank ('$' :: (Hex.padded 4 pc.toNat).toList
    ++ ':' :: (' ' :: (m.opcodeOf t pc).name.toList ++ [' ']))
  rw [toList_lineAt]
  simpa using hline

/-! ## The walk -/

/-- Whether the opcode at an address is defined. -/
def defined (m : Memory) (t : OpcodeTable) (pc : UInt16) : Bool := !(m.opcodeOf t pc).isVirtual

/-- The address behind an instruction, around the end of the address space. -/
def behind (m : Memory) (t : OpcodeTable) (pc : UInt16) : UInt16 :=
  pc + 1 + (m.opcodeOf t pc).operands.toUInt16

/-- The place behind an instruction, which may be beyond the address space. -/
def placeBehind (m : Memory) (t : OpcodeTable) (pc : UInt16) : Nat :=
  pc.toNat + 1 + (m.opcodeOf t pc).operands.toNat

/-- **The addresses that are disassembled**: one instruction behind the other, as far as they are
defined. -/
def disassembled (m : Memory) (t : OpcodeTable) (pc : UInt16) (count : Nat) : List UInt16 :=
  (List.iterate (m.behind t) pc count).takeWhile (m.defined t)

theorem disassembled_succ (m : Memory) (t : OpcodeTable) (pc : UInt16) (count : Nat) :
    m.disassembled t pc (count + 1)
      = if m.defined t pc then pc :: m.disassembled t (m.behind t pc) count else [] := by
  unfold disassembled
  rw [List.iterate, List.takeWhile_cons]

/-- **Disassembly** is one line for each of the addresses. -/
theorem disassemble_eq (m : Memory) (t : OpcodeTable) (pc : UInt16) (count : Nat) :
    m.disassemble t pc count = (m.disassembled t pc count).map (m.lineAt t) := by
  induction count generalizing pc with
  | zero => rfl
  | succ count ih =>
    rw [disassembled_succ, disassemble]
    unfold defined
    cases hvirtual : (m.opcodeOf t pc).isVirtual with
    | true => exact if_pos hvirtual
    | false => exact (if_neg (Bool.eq_false_iff.mp hvirtual)).trans (congrArg _ (ih _))

/-- **The walk**: an address is disassembled if it is the next one, and all so far are defined. -/
theorem getElem?_disassembled :
    (m.disassembled t pc count)[i]? = some a
      ↔ i < count ∧ a = (m.behind t)^[i] pc
        ∧ ∀ j < i + 1, m.defined t ((m.behind t)^[j] pc) = true := by
  induction count generalizing pc i with
  | zero => simp [disassembled]
  | succ count ih =>
    rw [disassembled_succ, Nat.forall_lt_succ_left]
    split
    · rename_i hdefined
      cases i with
      | zero =>
        rw [List.getElem?_cons_zero, Option.some.injEq, eq_comm]
        refine ⟨fun h => ⟨Nat.zero_lt_succ count, h, hdefined, fun j hj => ?_⟩, fun h => h.2.1⟩
        exact absurd hj j.not_lt_zero
      | succ i =>
        rw [List.getElem?_cons_succ, ih, Nat.add_lt_add_iff_right, Function.iterate_zero_apply,
          and_iff_right hdefined]
        rfl
    · rename_i hdefined
      exact ⟨fun h => absurd h (by simp), fun h => absurd h.2.2.1 hdefined⟩

/-- There are fewer lines than were asked for exactly if the walk meets an undefined opcode. -/
theorem length_disassembled_lt_iff :
    (m.disassembled t pc count).length < count
      ↔ ∃ i < count, m.defined t ((m.behind t)^[i] pc) = false := by
  constructor
  · intro hlt
    by_contra hnone
    have hmem : ∀ b ∈ List.iterate (m.behind t) pc count, m.defined t b = true := by
      intro b hb
      obtain ⟨i, hi, rfl⟩ := List.mem_iterate.mp hb
      exact Bool.eq_true_of_not_eq_false fun hundefined => hnone ⟨i, hi, hundefined⟩
    unfold disassembled at hlt
    rw [List.takeWhile_eq_self_iff.mpr hmem, List.length_iterate] at hlt
    exact Nat.lt_irrefl count hlt
  · rintro ⟨i, hi, hundefined⟩
    refine Nat.lt_of_le_of_lt (Nat.not_lt.mp fun hlt => ?_) hi
    have hline := getElem?_disassembled.mp (List.getElem?_eq_getElem hlt)
    exact absurd ((hline.2.2 i (Nat.lt_succ_self i)).symm.trans hundefined) (by decide)

/-- The walk stops at the undefined opcode. -/
theorem not_defined_of_length_lt (h : (m.disassembled t pc count).length < count) :
    m.defined t ((m.behind t)^[(m.disassembled t pc count).length] pc) = false := by
  by_contra hdefined
  rw [Bool.not_eq_false] at hdefined
  have hall : ∀ j < (m.disassembled t pc count).length + 1,
      m.defined t ((m.behind t)^[j] pc) = true := by
    intro j hj
    obtain hlt | rfl := Nat.lt_succ_iff_lt_or_eq.mp hj
    · exact (getElem?_disassembled.mp (List.getElem?_eq_getElem hlt)).2.2 j (Nat.lt_succ_self j)
    · exact hdefined
  have hnext := getElem?_disassembled.mpr ⟨h, rfl, hall⟩
  rw [List.getElem?_eq_none (Nat.le_refl _)] at hnext
  exact absurd hnext (by simp)

/-! ## Next to the listing -/

theorem opcodeAt_toNat (m : Memory) (t : OpcodeTable) (pc : UInt16) :
    m.opcodeAt t pc.toNat = m.opcodeOf t pc := by
  unfold opcodeAt opcodeOf
  rw [UInt16.ofNat_toNat]

/-- An instruction of the image is as long as disassembly takes it to be. -/
theorem length_opcodeAt_of_defined (h : m.defined t pc = true) :
    pc.toNat + (m.opcodeAt t pc.toNat).length = m.placeBehind t pc := by
  rw [opcodeAt_toNat]
  unfold Opcode.length placeBehind
  rw [if_neg (by simpa [defined] using h), Nat.add_assoc]

theorem toNat_behind (m : Memory) (t : OpcodeTable) (pc : UInt16) :
    (m.behind t pc).toNat = m.placeBehind t pc % 65536 := by
  unfold behind placeBehind
  rw [UInt16.toNat_add, UInt16.toNat_add, UInt8.toNat_toUInt16, UInt16.toNat_one, Nat.mod_add_mod]

/-- Disassembly does not go around the end of the address space within the image. -/
theorem toNat_behind_of_lt (h : m.placeBehind t pc < m.stop) :
    (m.behind t pc).toNat = m.placeBehind t pc :=
  (m.toNat_behind t pc).trans (Nat.mod_eq_of_lt (lt_size_of_lt_stop h))

/-- **One step of both walks**, from an instruction with more of the image behind it. -/
theorem itemsFrom_of_defined (hpc : pc.toNat < m.stop) (hdefined : m.defined t pc = true)
    (hbehind : m.placeBehind t pc < m.stop) :
    m.itemsFrom t pc.toNat
      = m.itemAt t pc.toNat :: m.itemsFrom t (m.behind t pc).toNat := by
  rw [itemsFrom_of_lt hpc, length_opcodeAt_of_defined hdefined, toNat_behind_of_lt hbehind]

/-- **Both walks take the same steps**, as long as disassembly is in the image. -/
theorem getElem?_itemsFrom (hpc : pc.toNat < m.stop)
    (hwalk : ∀ j < i, m.defined t ((m.behind t)^[j] pc) = true
      ∧ m.placeBehind t ((m.behind t)^[j] pc) < m.stop) :
    (m.itemsFrom t pc.toNat)[i]? = some (m.itemAt t ((m.behind t)^[i] pc).toNat) := by
  induction i generalizing pc with
  | zero =>
    rw [itemsFrom_of_lt hpc]
    rfl
  | succ i ih =>
    obtain ⟨hdefined, hbehind⟩ := hwalk 0 (Nat.zero_lt_succ i)
    have hnext : (m.behind t pc).toNat < m.stop := toNat_behind_of_lt hbehind ▸ hbehind
    rw [itemsFrom_of_defined hpc hdefined hbehind, List.getElem?_cons_succ,
      ih hnext fun j hj => hwalk (j + 1) (Nat.add_lt_add_right hj 1), Function.iterate_succ_apply]

/-- The opcode of an instruction is defined. -/
theorem defined_of_instructionStart? (h : m.instructionStart? t a = some pc) :
    pc.toNat < m.stop ∧ m.defined t pc = true
      ∧ ∃ before, m.listing t = before ++ m.itemsFrom t pc.toNat := by
  obtain ⟨-, item, hitem, -, hstart, hisCode⟩ := instructionStart?_eq_some_iff.mp h
  obtain ⟨-, hstop, hself⟩ := of_mem_itemsFrom hitem
  rw [hstart] at hstop hself
  refine ⟨hstop, ?_, hstart ▸ exists_append_itemsFrom hitem⟩
  have hcode : (m.itemAt t pc.toNat).isCode = true := hself ▸ hisCode
  unfold defined
  rw [← opcodeAt_toNat]
  exact hcode

/-- **Disassembly follows the listing**, in every memory and for every table, from any instruction
of the image on. There is a line for each address that the walk comes to before an undefined
opcode, and the line shows the address. As long as the walk is in the image, its addresses are the
beginnings of the items of the listing, one after the other. It is cut short exactly by an undefined
opcode, and at that. Operands are read from the two bytes behind the opcode, around the end of the
address space, and shown. -/
theorem disassembly_follows_listing {s : UInt16} (hs : m.instructionStart? t s = some s)
    (hcount : 0 < count) :
    let addresses := m.disassembled t s count
    let reached := fun i => (m.behind t)^[i] s
    (m.disassemble t s count = addresses.map (m.lineAt t) ∧ addresses.head? = some s)
      ∧ (∃ before, m.listing t = before ++ m.itemsFrom t s.toNat)
      ∧ (∀ i a, addresses[i]? = some a → a = reached i)
      ∧ (∀ i ≤ addresses.length, (∀ b ∈ addresses.take i, m.placeBehind t b < m.stop) →
        (m.itemsFrom t s.toNat)[i]? = some (m.itemAt t (reached i).toNat))
      ∧ ((m.disassemble t s count).length < count ↔ ∃ i < count, m.defined t (reached i) = false)
      ∧ ((m.disassemble t s count).length < count →
        m.defined t (reached (m.disassemble t s count).length) = false)
      ∧ ∀ a, let op := t.lookup (m.read a)
        let low := m.read (UInt16.ofNat ((a.toNat + 1) % 65536))
        let high := m.read (UInt16.ofNat ((a.toNat + 2) % 65536))
        (m.behind t a).toNat = (a.toNat + 1 + op.operands.toNat) % 65536
          ∧ Hex.shown? (m.lineAt t a) = some a.toNat
          ∧ (op.operandText a low high).toList <:+ (m.lineAt t a).toList
          ∧ Hex.shown? (op.operandText a low high) = op.operandNumber a low high := by
  intro addresses reached
  obtain ⟨hstop, hdefined, hlisting⟩ := defined_of_instructionStart? hs
  have hlength : (m.disassemble t s count).length = addresses.length := by
    rw [disassemble_eq, List.length_map]
  refine ⟨⟨m.disassemble_eq t s count, ?_⟩, hlisting, fun i a hi => ?_, fun i hi hinside => ?_,
    hlength ▸ length_disassembled_lt_iff, ?_, fun a => ?_⟩
  · obtain ⟨count, rfl⟩ := Nat.exists_eq_add_one.mpr hcount
    show (m.disassembled t s (count + 1)).head? = some s
    rw [disassembled_succ, if_pos hdefined]
    rfl
  · exact (getElem?_disassembled.mp hi).2.1
  · refine getElem?_itemsFrom hstop fun j hj => ?_
    have hline := List.getElem?_eq_getElem (Nat.lt_of_lt_of_le hj hi)
    obtain ⟨-, hreached, hall⟩ := getElem?_disassembled.mp hline
    refine ⟨hall j (Nat.lt_succ_self j), hreached ▸ hinside _ ?_⟩
    exact List.mem_of_getElem? ((List.getElem?_take_of_lt hj).trans hline)
  · rw [hlength]
    exact not_defined_of_length_lt
  · dsimp only
    rw [ofNat_add_mod, ofNat_add_mod]
    exact ⟨m.toNat_behind t a, m.shown?_lineAt t a, m.operandAt_suffix_lineAt t a,
      Opcode.shown?_operandText ..⟩

/-- A program at the very end of the address space: NOP, and BNE with its operand at the very
beginning. -/
def branchAtEnd : Memory :=
  fresh.after [.write 0x0000 0xFB, .loadImage [0xEA, 0xD0] 0xFFFE]

theorem disassembly_follows_listing_branchAtEnd :
    branchAtEnd.instructionStart? .builtin 0xFFFE = some 0xFFFE ∧ 0 < 2
      ∧ (branchAtEnd.itemsFrom .builtin 0xFFFE)[1]? = some ⟨0xFFFF, 2, true⟩
      ∧ Hex.shown? (branchAtEnd.operandAt .builtin 0xFFFF) = some 0xFFFC := by
  obtain ⟨hs, haddresses, hbehind, hitem, hnumber⟩ :
      branchAtEnd.instructionStart? .builtin 0xFFFE = some 0xFFFE
        ∧ branchAtEnd.disassembled .builtin 0xFFFE 2 = [0xFFFE, 0xFFFF]
        ∧ branchAtEnd.placeBehind .builtin 0xFFFE < branchAtEnd.stop
        ∧ branchAtEnd.itemAt .builtin ((branchAtEnd.behind .builtin)^[1] 0xFFFE).toNat
          = ⟨0xFFFF, 2, true⟩
        ∧ (branchAtEnd.opcodeOf .builtin 0xFFFF).operandNumber 0xFFFF (branchAtEnd.read 0x0000)
          (branchAtEnd.read 0x0001) = some 0xFFFC := by
    decide +kernel
  obtain ⟨-, -, -, hitems, -, -, hshown⟩ := disassembly_follows_listing hs Nat.two_pos
  rw [haddresses] at hitems
  have hnext := hitems 1 (by decide) fun b hb => List.mem_singleton.mp hb ▸ hbehind
  exact ⟨hs, Nat.two_pos, hnext.trans (congrArg some hitem), (hshown 0xFFFF).2.2.2.trans hnumber⟩

end Memory

end Breadboard
