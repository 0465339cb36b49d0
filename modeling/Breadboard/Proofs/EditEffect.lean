import Breadboard.Proofs.RepeatedEdits

/-!
# What an edit of a line changes

An edit is seen here from the outside: by the bytes that address it, by the opcode that is there
afterwards, and by the answer. It is refused exactly where the line rules refuse its address, and
then the opcode is the one it was. Otherwise it puts one bit to one level, in the addressed cell
and, for the direction of the data bus, in the other half of the step as well. No other bit of any
cell moves, nothing but the words is touched, and a cell that did change is one that the answer
speaks of – the console relies on that when it decides whether the board has to be driven anew.

Since all that an edit looks at is its own bit and its own preset, two edits that do not reach for
the same bit cannot get in each other's way, mirrored or not, and an edit to a level that does not
depend on the current one has nothing left to do when it is repeated.
-/

namespace Breadboard

/-- **Line edit**: what is asked for by one edit of a line. -/
structure LineEdit where
  /-- The flags of the addressed slot; four bits are wired. -/
  flags : UInt8
  /-- The step. -/
  step : UInt8
  /-- The half of the step. -/
  phase : Phase
  /-- The position of the line. -/
  bit : UInt8
  /-- How the line is to change. -/
  mode : SetMode
  deriving DecidableEq

namespace LineEdit

variable {e f : LineEdit} {op : Opcode} {d : Cell} {i : Nat}

/-- The addressed cell. -/
def cell (e : LineEdit) : Cell := .wrap e.flags e.step e.phase

/-- The check of the address. -/
def accepted (e : LineEdit) : Except LineRejection (Fin 8 × Line) :=
  LineRule.accept e.step e.phase e.bit

/-- **An edit made in place**: the opcode afterwards, the same one if the edit is refused, and the
answer. -/
def apply (e : LineEdit) (op : Opcode) : Opcode × Except LineRejection Edit :=
  match op.setLine e.flags e.step e.phase e.bit e.mode with
  | .ok (edited, edit) => (edited, .ok edit)
  | .error reason => (op, .error reason)

/-- The level that is asked for. -/
def level (e : LineEdit) (op : Opcode) : Bool :=
  e.mode.level ((op.word e.cell).bit e.bit.toNat) ((op.preset e.cell).bit e.bit.toNat)

/-- **The cell of an address**: the slot of the four wired flags, the step and the half of it. -/
def Addresses (e : LineEdit) (a : Cell) : Prop :=
  a.flags.val = e.flags.toNat % 16 ∧ a.step.val = e.step.toNat ∧ a.phase = e.phase

/-- **The bits an edit reaches for**: the addressed one, and that of the other half of the step if
it is the direction of the data bus. -/
def Reaches (e : LineEdit) (d : Cell) (i : Nat) : Prop :=
  d.flags.val = e.flags.toNat % 16 ∧ d.step.val = e.step.toNat
    ∧ (d.phase = e.phase ∨ e.bit = 36) ∧ i = e.bit.toNat

instance (e : LineEdit) (d : Cell) (i : Nat) : Decidable (e.Reaches d i) :=
  inferInstanceAs (Decidable (_ ∧ _))

/-! ## The answer -/

/-- **The answer** depends on the address alone. -/
theorem snd_apply (e : LineEdit) (op : Opcode) :
    (e.apply op).2 = e.accepted.map fun place => ⟨e.step, e.phase, place.2 == .dbrw⟩ := by
  unfold apply
  cases haccept : e.accepted with
  | error reason =>
    rw [Opcode.setLine_of_reject haccept]
    rfl
  | ok place =>
    rw [Opcode.setLine_of_accept haccept]
    rfl

/-- The reason of a refusal is that of the line rules. -/
theorem snd_apply_eq_error_iff {reason : LineRejection} :
    (e.apply op).2 = .error reason ↔ e.accepted = .error reason := by
  rw [snd_apply]
  cases e.accepted <;> simp [Except.map]

/-- An edit that is answered with the cell it changed has passed the line rules. -/
theorem exists_accepted_of_snd_apply {edit : Edit} (h : (e.apply op).2 = .ok edit) :
    ∃ s line, e.accepted = .ok (s, line) ∧ edit = ⟨e.step, e.phase, line == .dbrw⟩ := by
  rw [snd_apply] at h
  cases haccept : e.accepted with
  | error reason =>
    rw [haccept] at h
    exact absurd h (by simp [Except.map])
  | ok place =>
    rw [haccept] at h
    exact ⟨place.1, place.2, rfl, (Except.ok.inj h).symm⟩

/-- A refused edit changes nothing. -/
theorem fst_apply_of_reject {reason : LineRejection} (h : e.accepted = .error reason)
    (op : Opcode) : (e.apply op).1 = op := by
  unfold apply
  rw [Opcode.setLine_of_reject h]

/-- An accepted edit places its line. -/
theorem fst_apply_of_accept {s : Fin 8} {line : Line} (h : e.accepted = .ok (s, line))
    (op : Opcode) : (e.apply op).1 = op.place e.cell line (e.level op) := by
  have hbit : line.bit.val = e.bit.toNat := (LineRule.accept_eq_ok_iff.mp h).2.1.symm
  unfold apply level
  rw [Opcode.setLine_of_accept h, ← hbit]
  rfl

/-! ## The opcode afterwards -/

/-- No edit touches anything but the words. -/
theorem fst_apply_eq (e : LineEdit) (op : Opcode) :
    (e.apply op).1 = { op with lines := (e.apply op).1.lines } := by
  cases haccept : e.accepted with
  | error reason => rw [fst_apply_of_reject haccept]
  | ok place =>
    rw [fst_apply_of_accept haccept]
    exact Opcode.place_eq op _ _ _

theorem preset_apply (e : LineEdit) (op : Opcode) (c : Cell) :
    (e.apply op).1.preset c = op.preset c := by
  rw [fst_apply_eq]
  rfl

/-- An accepted edit addresses the cell that it changes. -/
theorem addresses_cell (h : e.accepted.isOk = true) : e.Addresses e.cell := by
  cases haccept : e.accepted with
  | error reason =>
    rw [haccept] at h
    exact absurd h Bool.false_ne_true
  | ok place =>
    have hstep : e.step.toNat = place.1.val := (LineRule.accept_eq_ok_iff.mp haccept).1
    refine ⟨rfl, ?_, rfl⟩
    show e.step.toNat % 8 = e.step.toNat
    rw [hstep, Nat.mod_eq_of_lt place.1.isLt]

/-- No other cell is addressed. -/
theorem Addresses.eq {a b : Cell} (ha : e.Addresses a) (hb : e.Addresses b) : a = b := by
  obtain ⟨hflags, hstep, hphase⟩ := ha
  obtain ⟨hflags', hstep', hphase'⟩ := hb
  rw [Cell.mk.injEq, Fin.ext_iff, Fin.ext_iff]
  exact ⟨hflags.trans hflags'.symm, hstep.trans hstep'.symm, hphase.trans hphase'.symm⟩

/-- The places of an accepted edit, in terms of the bytes that address it. -/
theorem reaches_iff {s : Fin 8} {line : Line} (h : e.accepted = .ok (s, line)) :
    e.Reaches d i ↔ (d = e.cell ∨ line = .dbrw ∧ d = e.cell.mirror) ∧ i = line.bit.val := by
  obtain ⟨-, hbit, -⟩ := LineRule.accept_eq_ok_iff.mp h
  have hline : e.bit = 36 ↔ line = .dbrw := by
    rw [← UInt8.toNat_inj, hbit]
    exact ⟨fun h => Line.bit_injective (Fin.ext h), fun h => by rw [h]; rfl⟩
  have hstep : e.cell.step.val = e.step.toNat := (addresses_cell (by rw [h]; rfl)).2.1
  have hcell : ∀ phase, d = { e.cell with phase := phase }
      ↔ d.flags.val = e.flags.toNat % 16 ∧ d.step.val = e.step.toNat ∧ d.phase = phase := by
    intro phase
    rw [← hstep, Cell.mk.injEq, Fin.ext_iff, Fin.ext_iff]
    exact Iff.rfl
  have hself : d = e.cell ↔ _ := hcell e.phase
  have hmirror : d = e.cell.mirror ↔ _ := hcell e.phase.other
  rw [hself, hmirror, ← hline, ← hbit]
  unfold Reaches
  -- A phase other than the addressed one is the other half.
  have hphase : d.phase = e.phase ∨ d.phase = e.phase.other := by
    cases d.phase <;> cases e.phase <;> simp [Phase.other]
  grind

/-- **The bits after an edit**: if it is accepted, those it reaches for are at the level asked for;
all others are as they were. -/
theorem bit_apply (e : LineEdit) (op : Opcode) (d : Cell) (i : Nat) :
    ((e.apply op).1.word d).bit i
      = if e.accepted.isOk = true ∧ e.Reaches d i then e.level op else (op.word d).bit i := by
  cases haccept : e.accepted with
  | error reason =>
    rw [fst_apply_of_reject haccept, if_neg fun h => Bool.false_ne_true h.1]
  | ok place =>
    obtain ⟨s, line⟩ := place
    rw [fst_apply_of_accept haccept, Opcode.bit_place]
    simp only [reaches_iff haccept, Except.isOk, Except.toBool, true_and]

/-- A cell whose word changed is in the addressed step, and in the addressed half of it or the
edit was mirrored. -/
theorem exists_reaches_of_word_ne (h : (e.apply op).1.word d ≠ op.word d) :
    e.accepted.isOk = true ∧ ∃ i, e.Reaches d i := by
  obtain ⟨i, hi⟩ := Classical.not_forall.mp (mt ControlWord.eq_of_bit h)
  rw [bit_apply] at hi
  split at hi
  · rename_i hreached
    exact ⟨hreached.1, i, hreached.2⟩
  · exact absurd rfl hi

/-- **The answer touches** every cell whose word changed. -/
theorem touches_of_word_ne {edit : Edit} (hedit : (e.apply op).2 = .ok edit)
    (h : (e.apply op).1.word d ≠ op.word d) :
    edit.touches (UInt8.ofNat d.step.val) d.phase = true := by
  obtain ⟨s, line, haccept, rfl⟩ := exists_accepted_of_snd_apply hedit
  obtain ⟨-, hbit, -⟩ := LineRule.accept_eq_ok_iff.mp haccept
  obtain ⟨-, i, -, hstep, hphase, -⟩ := exists_reaches_of_word_ne h
  unfold Edit.touches
  rw [hstep, UInt8.ofNat_toNat, beq_self_eq_true, Bool.true_and, Bool.or_eq_true, beq_iff_eq,
    beq_iff_eq]
  refine hphase.imp Eq.symm fun hdirection => ?_
  rw [hdirection] at hbit
  exact Line.bit_injective (Fin.ext hbit.symm)

/-- **An edit changes what it says and nothing else.** It is refused for the reason for which the
line rules refuse its address, if they do, and then the opcode is as it was. If it is accepted,
nothing but words changes. The bits it reaches for – the addressed one, and for bit 36 that of the
other half – are low after a clear, high after a set, at the declared level of the addressed cell
after a reset and at the other level than the addressed bit had after a toggle. Every other bit of
every cell is as it was, and the answer touches the step and half of every cell whose word
changed. -/
theorem edit_changes_what_it_says (e : LineEdit) (op : Opcode) :
    (∀ reason, (e.apply op).2 = .error reason
        ↔ LineRule.accept e.step e.phase e.bit = .error reason)
      ∧ (∀ reason, LineRule.accept e.step e.phase e.bit = .error reason → (e.apply op).1 = op)
      ∧ ∀ edit, (e.apply op).2 = .ok edit →
        (e.apply op).1 = { op with lines := (e.apply op).1.lines }
          ∧ (∃ a, e.Addresses a ∧ ∀ d i, ((e.apply op).1.word d).bit i
            = if e.Reaches d i then
                match e.mode with
                | .clear => false
                | .set => true
                | .preset => (op.preset a).bit e.bit.toNat
                | .toggle => !(op.word a).bit e.bit.toNat
              else (op.word d).bit i)
          ∧ ∀ d, (e.apply op).1.word d ≠ op.word d →
            edit.touches (UInt8.ofNat d.step.val) d.phase = true := by
  refine ⟨fun reason => snd_apply_eq_error_iff, fun reason => (fst_apply_of_reject · op),
    fun edit hedit => ⟨fst_apply_eq e op, ?_, fun d => touches_of_word_ne hedit⟩⟩
  obtain ⟨s, line, haccept, -⟩ := exists_accepted_of_snd_apply hedit
  have hok : e.accepted.isOk = true := by rw [haccept]; rfl
  refine ⟨e.cell, addresses_cell hok, fun d i => ?_⟩
  rw [bit_apply]
  by_cases hreaches : e.Reaches d i
  · rw [if_pos ⟨hok, hreaches⟩, if_pos hreaches]
    unfold level
    cases e.mode <;> rfl
  · rw [if_neg fun h => hreaches h.2, if_neg hreaches]

/-- The four ways on the direction of the data bus, in the first half of the step on which the
accumulator is stored. The line is high there, as declared, and low in the other half; whatever
the edit, both halves have the same level afterwards. -/
theorem edit_changes_what_it_says_sta :
    [Phase.phi1, .phi2].map (fun phase =>
        ((OpcodeTable.builtin.lookup 0x85).word ⟨0, 1, phase⟩).bit 36) = [true, false]
      ∧ [SetMode.clear, .set, .preset, .toggle].map (fun mode =>
          [Phase.phi1, .phi2].map fun phase =>
            ((apply ⟨0, 1, .phi1, 36, mode⟩ (OpcodeTable.builtin.lookup 0x85)).1.word
              ⟨0, 1, phase⟩).bit 36)
        = [[false, false], [true, true], [true, true], [false, false]] := by
  have hbefore : ∀ phase, ((OpcodeTable.builtin.lookup 0x85).word ⟨0, 1, phase⟩).bit 36
      = (phase == .phi1) := by
    intro phase
    cases phase <;> decide +kernel
  have hpreset : ((OpcodeTable.builtin.lookup 0x85).preset ⟨0, 1, .phi1⟩).bit 36 = true := by
    decide +kernel
  have hafter : ∀ mode phase,
      ((apply ⟨0, 1, .phi1, 36, mode⟩ (OpcodeTable.builtin.lookup 0x85)).1.word
          ⟨0, 1, phase⟩).bit 36
        = match mode with
          | .clear => false
          | .set => true
          | .preset => true
          | .toggle => false := by
    intro mode phase
    obtain ⟨-, -, hedit⟩ :=
      edit_changes_what_it_says ⟨0, 1, .phi1, 36, mode⟩ (OpcodeTable.builtin.lookup 0x85)
    obtain ⟨-, ⟨a, haddress, hbits⟩, -⟩ := hedit ⟨1, .phi1, true⟩ (snd_apply _ _)
    obtain rfl : a = ⟨0, 1, .phi1⟩ := haddress.eq ⟨rfl, rfl, rfl⟩
    rw [hbits, if_pos ⟨rfl, rfl, .inr rfl, rfl⟩]
    cases mode with
    | clear => rfl
    | set => rfl
    | preset => exact hpreset
    | toggle => exact congrArg not (hbefore .phi1)
  simp only [List.map_cons, List.map_nil, hbefore, hafter]
  decide

/-! ## Two edits -/

/-- **Edits apart**: of different lines, in different steps or in different flags slots. -/
def Apart (e f : LineEdit) : Prop :=
  e.bit ≠ f.bit ∨ e.step ≠ f.step ∨ e.flags.toNat % 16 ≠ f.flags.toNat % 16

theorem Apart.symm (h : e.Apart f) : f.Apart e :=
  h.imp Ne.symm (Or.imp Ne.symm Ne.symm)

/-- Edits apart reach for no bit in common, for the mirrored bit is in the same slot and step. -/
theorem Apart.not_reaches (h : e.Apart f) (he : e.Reaches d i) : ¬ f.Reaches d i := by
  obtain ⟨hflags, hstep, -, hbit⟩ := he
  rintro ⟨hflags', hstep', -, hbit'⟩
  obtain hbits | hsteps | hslots := h
  · exact hbits (UInt8.toNat_inj.mp (hbit.symm.trans hbit'))
  · exact hsteps (UInt8.toNat_inj.mp (hstep.symm.trans hstep'))
  · exact hslots (hflags.symm.trans hflags')

/-- An accepted edit reaches for the bit that it addresses. -/
theorem reaches_self (h : e.accepted.isOk = true) : e.Reaches e.cell e.bit.toNat := by
  cases haccept : e.accepted with
  | error reason =>
    rw [haccept] at h
    exact absurd h Bool.false_ne_true
  | ok place =>
    obtain ⟨s, line⟩ := place
    rw [reaches_iff haccept]
    exact ⟨.inl rfl, (LineRule.accept_eq_ok_iff.mp haccept).2.1⟩

/-- The level that is asked for is the same after an edit apart. -/
theorem Apart.level_apply (h : e.Apart f) (hf : f.accepted.isOk = true) (op : Opcode) :
    f.level (e.apply op).1 = f.level op := by
  unfold level
  rw [preset_apply, bit_apply, if_neg fun he => h.not_reaches he.2 (reaches_self hf)]

/-- A level that does not depend on the current one stays the same. -/
theorem level_apply_self (h : e.mode ≠ .toggle) (op : Opcode) :
    e.level (e.apply op).1 = e.level op := by
  unfold level
  rw [preset_apply]
  cases hmode : e.mode with
  | clear => rfl
  | set => rfl
  | preset => rfl
  | toggle => exact absurd hmode h

/-- Opcodes that edits have made of the same one, with the same bits, are the same. -/
theorem eq_of_bit_apply (op : Opcode) {op' op'' : Opcode}
    (h' : op' = { op with lines := op'.lines }) (h'' : op'' = { op with lines := op''.lines })
    (hbit : ∀ d i, (op'.word d).bit i = (op''.word d).bit i) : op' = op'' := by
  refine Opcode.eq_of_word ?_ fun d => ControlWord.eq_of_bit fun i => hbit d i
  rw [h', h'']

/-- **Edits apart commute.** -/
theorem Apart.apply_comm (h : e.Apart f) (op : Opcode) :
    (f.apply (e.apply op).1).1 = (e.apply (f.apply op).1).1 := by
  refine eq_of_bit_apply op ?_ ?_ fun d i => ?_
  · rw [fst_apply_eq f, fst_apply_eq e]
  · rw [fst_apply_eq e, fst_apply_eq f]
  · rw [bit_apply, bit_apply, bit_apply, bit_apply]
    by_cases he : e.accepted.isOk = true ∧ e.Reaches d i
    · rw [if_neg fun hf => h.not_reaches he.2 hf.2, if_pos he, if_pos he, h.symm.level_apply he.1]
    · rw [if_neg he, if_neg he]
      by_cases hf : f.accepted.isOk = true ∧ f.Reaches d i
      · rw [if_pos hf, if_pos hf, h.level_apply hf.1]
      · rw [if_neg hf, if_neg hf]

/-- **An edit to a settled level** has nothing left to do when it is repeated. -/
theorem apply_apply (h : e.mode ≠ .toggle) (op : Opcode) :
    e.apply (e.apply op).1 = e.apply op := by
  refine Prod.ext ?_ ?_
  · refine eq_of_bit_apply op ?_ (fst_apply_eq e op) fun d i => ?_
    · rw [fst_apply_eq e (e.apply op).1, fst_apply_eq e op]
    · rw [bit_apply, bit_apply, level_apply_self h]
      split <;> rfl
  · rw [snd_apply, snd_apply]

/-- **Edits apart commute and settled levels stay.** Two edits of different lines, in different
steps or in different flags slots make the same of an opcode in either order, and each of them is
answered alike whether it comes first or second. An edit that clears, sets or resets its line
changes nothing when it is made a second time. -/
theorem edits_commute_and_settle (e f : LineEdit) (op : Opcode) (h : e.Apart f) :
    ((f.apply (e.apply op).1).1 = (e.apply (f.apply op).1).1
        ∧ (f.apply (e.apply op).1).2 = (f.apply op).2
        ∧ (e.apply (f.apply op).1).2 = (e.apply op).2)
      ∧ ∀ g : LineEdit, g.mode ≠ .toggle → g.apply (g.apply op).1 = g.apply op := by
  refine ⟨⟨h.apply_comm op, ?_, ?_⟩, fun g hg => apply_apply hg op⟩
  · rw [snd_apply, snd_apply]
  · rw [snd_apply, snd_apply]

/-- The general statement where it is least obvious: on the step on which the accumulator is
stored, the direction of the data bus is toggled in the first half, which changes the second half
too, and another line is reset in that half. -/
theorem edits_commute_and_settle_sta :
    (⟨0, 1, .phi1, 36, .toggle⟩ : LineEdit).Apart ⟨16, 1, .phi2, 13, .preset⟩
      ∧ ∃ once other : Opcode,
        apply ⟨0, 1, .phi1, 36, .toggle⟩ (OpcodeTable.builtin.lookup 0x85)
            = (once, .ok ⟨1, .phi1, true⟩)
          ∧ apply ⟨16, 1, .phi2, 13, .preset⟩ (OpcodeTable.builtin.lookup 0x85)
            = (other, .ok ⟨1, .phi2, false⟩)
          ∧ (apply ⟨16, 1, .phi2, 13, .preset⟩ once).1 = (apply ⟨0, 1, .phi1, 36, .toggle⟩ other).1 := by
  have hapart : (⟨0, 1, .phi1, 36, .toggle⟩ : LineEdit).Apart ⟨16, 1, .phi2, 13, .preset⟩ :=
    .inl (by decide)
  refine ⟨hapart, _, _, ?_, ?_,
    (edits_commute_and_settle _ _ (OpcodeTable.builtin.lookup 0x85) hapart).1.1⟩
  · exact Prod.ext rfl (snd_apply _ _)
  · exact Prod.ext rfl (snd_apply _ _)

end LineEdit

end Breadboard
