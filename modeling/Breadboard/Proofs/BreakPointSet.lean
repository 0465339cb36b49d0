import Breadboard.Proofs.BytePair
import Breadboard.Proofs.FileReadBack
import Breadboard.Proofs.ListingWalk
import Mathlib.Algebra.Ring.Parity

/-!
# Break points as a set of instructions

A break point belongs to an instruction, and whatever address of the instruction is named, it is the
same one. Only how often an instruction has been named counts: naming it twice changes nothing, nor
does the order in which instructions are named.

The set is saved as bytes, two for each address. Any file can stand where they were saved, so on
loading only those addresses are kept that are still instructions. None of the saved ones is lost in
that as long as the program and the table are those they were saved with.
-/

namespace Breadboard

namespace BreakPoints

variable {s u : BreakPoints} {a b : UInt16}

/-! ## Members -/

theorem contains_iff : s.contains a = true ↔ a ∈ s.addresses := by
  simp [contains]

/-- Sets with the same members are the same. -/
theorem eq_of_contains (h : ∀ a, s.contains a = u.contains a) : s = u := by
  have hnodup (s : BreakPoints) : s.addresses.Nodup :=
    s.ascending.imp fun hlt => UInt16.ne_of_lt hlt
  have hperm : s.addresses.Perm u.addresses := by
    refine (List.perm_ext_iff_of_nodup (hnodup s) (hnodup u)).mpr fun a => ?_
    rw [← contains_iff, ← contains_iff, h a]
  have haddresses : s.addresses = u.addresses :=
    hperm.eq_of_pairwise (fun a b _ _ hab hba => absurd hba (UInt16.lt_asymm hab))
      s.ascending u.ascending
  cases s
  cases u
  cases haddresses
  rfl

/-- **Flipping** an address changes whether it is a member, and nothing else. -/
theorem contains_toggle (s : BreakPoints) (a b : UInt16) :
    (s.toggle a).contains b = (s.contains b ^^ a == b) := by
  unfold toggle
  by_cases hab : a = b
  · subst hab
    cases hmember : s.contains a <;> simp [hmember]
  · have hbeq : (a == b) = false := beq_false_of_ne hab
    have hbne : (b == a) = false := beq_false_of_ne (Ne.symm hab)
    split <;> simp [hbeq, hbne, bne]

/-- **Flipping addresses one after the other**: those are changed that come an odd number of
times. -/
theorem contains_foldl_toggle (as : List UInt16) (s : BreakPoints) (b : UInt16) :
    (as.foldl toggle s).contains b = (s.contains b ^^ decide (Odd (as.count b))) := by
  induction as generalizing s with
  | nil => simp
  | cons a rest ih =>
    rw [List.foldl_cons, ih, contains_toggle, Bool.xor_assoc, List.count_cons]
    cases hab : a == b with
    | true =>
      have hodd : decide (Odd (rest.count b + 1)) = !decide (Odd (rest.count b)) := by
        rw [← decide_not]
        exact decide_eq_decide.mpr Nat.odd_add_one
      rw [if_pos rfl, Bool.true_xor, hodd]
    | false => rw [if_neg Bool.false_ne_true, Bool.false_xor, Nat.add_zero]

theorem contains_foldl_insert (as : List UInt16) (s : BreakPoints) (a : UInt16) :
    (as.foldl insert s).contains a = (as.contains a || s.contains a) := by
  induction as generalizing s with
  | nil => rfl
  | cons b rest ih =>
    rw [List.foldl_cons, ih, contains_insert, List.contains_cons, Bool.or_left_comm, Bool.or_assoc]

theorem contains_ofList (as : List UInt16) (a : UInt16) :
    (ofList as).contains a = as.contains a := by
  unfold ofList
  rw [contains_foldl_insert]
  exact Bool.or_false _

/-! ## Bytes -/

/-- **What was saved is read back.** -/
theorem addressesOf_toBytes (s : BreakPoints) : addressesOf s.toBytes = s.addresses := by
  unfold toBytes
  induction s.addresses with
  | nil => rfl
  | cons a rest ih =>
    rw [List.flatMap_cons]
    exact congrArg₂ List.cons (or_shiftLeft_bytes a) ih

/-- **The addresses in a byte string** are its pairs of bytes, low byte first. A last byte without a
partner is none of them. -/
theorem getElem?_addressesOf {bytes : List UInt8} {i : Nat} :
    (addressesOf bytes)[i]? = some a ↔ ∃ low high, bytes[2 * i]? = some low
      ∧ bytes[2 * i + 1]? = some high ∧ a.toNat = low.toNat + 256 * high.toNat := by
  induction bytes using addressesOf.induct generalizing i with
  | case1 low high rest ih =>
    cases i with
    | zero =>
      have hpair : (low.toUInt16 ||| (high.toUInt16 <<< 8)) = a
          ↔ a.toNat = low.toNat + 256 * high.toNat := by
        rw [← UInt16.toNat_inj, toNat_or_shiftLeft, eq_comm]
      simp [addressesOf, hpair]
    | succ i => exact ih
  | case2 bytes hshort =>
    rcases bytes with _ | ⟨low, _ | ⟨high, rest⟩⟩
    · simp [addressesOf]
    · simp [addressesOf]
    · exact absurd rfl (hshort low high rest)

end BreakPoints

namespace Memory

variable {m : Memory} {t : OpcodeTable} {path : Path} {a b : UInt16}

/-- The memory with other break points. -/
def withBreakPoints (m : Memory) (s : BreakPoints) : Memory := { m with breakPoints := s }

/-! ## Flipping -/

/-- Break points play no part in the walk. -/
theorem walkTo_withBreakPoints (m : Memory) (s : BreakPoints) (t : OpcodeTable) (target pc : Nat) :
    (m.withBreakPoints s).walkTo t target pc = m.walkTo t target pc := by
  rw [walkTo.eq_def]
  fun_induction m.walkTo t target pc with
  | case1 pc hpc op hhere hvirtual =>
    exact (if_pos hpc).trans ((if_pos hhere).trans (if_pos hvirtual))
  | case2 pc hpc op hhere hcode =>
    exact (if_pos hpc).trans ((if_pos hhere).trans (if_neg hcode))
  | case3 pc hpc op hhere ih =>
    rw [← walkTo.eq_def] at ih
    exact (if_pos hpc).trans ((if_neg hhere).trans ih)
  | case4 pc hpc => exact if_neg hpc

theorem instructionStart?_withBreakPoints (m : Memory) (s : BreakPoints) (t : OpcodeTable) :
    (m.withBreakPoints s).instructionStart? t = m.instructionStart? t := by
  funext a
  unfold instructionStart?
  rw [walkTo_withBreakPoints]
  rfl

/-- **One flip**: an address that belongs to no instruction changes nothing. -/
theorem next_toggleBreakPoint (m : Memory) (t : OpcodeTable) (a : UInt16) :
    m.next (.toggleBreakPoint t a) = m.withBreakPoints
      ((m.instructionStart? t a).elim m.breakPoints m.breakPoints.toggle) := by
  show ((m.toggleBreakPoint? t a).map (·.1)).getD m = _
  unfold toggleBreakPoint?
  cases m.instructionStart? t a <;> rfl

/-- **A run of flips** flips the instructions that the addresses belong to. -/
theorem after_toggleBreakPoints (m : Memory) (t : OpcodeTable) (addresses : List UInt16) :
    m.after (addresses.map (.toggleBreakPoint t)) = m.withBreakPoints
      ((addresses.filterMap (m.instructionStart? t)).foldl .toggle m.breakPoints) := by
  induction addresses generalizing m with
  | nil => rfl
  | cons a rest ih =>
    show (m.next (.toggleBreakPoint t a)).after _ = _
    rw [ih, next_toggleBreakPoint, instructionStart?_withBreakPoints, List.filterMap_cons]
    cases m.instructionStart? t a <;> rfl

/-- How often an instruction is flipped is how many of the addresses belong to it. -/
theorem contains_after_toggleBreakPoints (m : Memory) (t : OpcodeTable) (addresses : List UInt16)
    (b : UInt16) :
    (m.after (addresses.map (.toggleBreakPoint t))).breakPoints.contains b
      = (m.breakPoints.contains b
        ^^ decide (Odd (addresses.countP (m.instructionStart? t · == some b)))) := by
  rw [after_toggleBreakPoints]
  show BreakPoints.contains (List.foldl _ _ _) b = _
  rw [BreakPoints.contains_foldl_toggle, List.count_filterMap]

/-- **The order makes no difference**, nor how an instruction is named. -/
theorem after_toggleBreakPoints_perm {addresses others : List UInt16}
    (h : (others.filterMap (m.instructionStart? t)).Perm
      (addresses.filterMap (m.instructionStart? t))) :
    m.after (others.map (.toggleBreakPoint t)) = m.after (addresses.map (.toggleBreakPoint t)) := by
  rw [after_toggleBreakPoints, after_toggleBreakPoints]
  refine congrArg m.withBreakPoints (BreakPoints.eq_of_contains fun b => ?_)
  rw [BreakPoints.contains_foldl_toggle, BreakPoints.contains_foldl_toggle, h.count_eq]

/-- **Data and addresses outside the image** are refused, which changes nothing. -/
theorem toggleBreakPoint?_eq_none (h : m.instructionStart? t a = none) :
    m.toggleBreakPoint? t a = none ∧ m.next (.toggleBreakPoint t a) = m := by
  refine ⟨?_, ?_⟩
  · unfold toggleBreakPoint?
    rw [h]
    rfl
  · rw [next_toggleBreakPoint, h]
    rfl

/-- Flips leave break points at instructions only. -/
theorem instructionStart?_of_contains_after {addresses : List UInt16}
    (hstarts : ∀ a, m.breakPoints.contains a = true → m.instructionStart? t a = some a)
    (h : (m.after (addresses.map (.toggleBreakPoint t))).breakPoints.contains b = true) :
    m.instructionStart? t b = some b := by
  rw [contains_after_toggleBreakPoints] at h
  cases hbefore : m.breakPoints.contains b with
  | true => exact hstarts b hbefore
  | false =>
    rw [hbefore, Bool.false_xor, decide_eq_true_eq] at h
    have hcount : 0 < addresses.countP (m.instructionStart? t · == some b) :=
      Nat.pos_of_ne_zero fun hzero => absurd h (by rw [hzero]; decide)
    obtain ⟨a, -, ha⟩ := List.countP_pos_iff.mp hcount
    exact (instructionStart?_self (beq_iff_eq.mp ha)).2

/-! ## Files -/

/-- **Saving** writes the bytes of the set, and succeeds if that does. -/
theorem saveBreakPoints_of_write {s : Session} {files : FileTree}
    (hfile : m.breakPointFile = some path)
    (hwrite : s.files.write path m.breakPoints.toBytes = .ok files) :
    (m.saveBreakPoints : StateM Session (Except MemoryError Unit)) s
      = (.ok (), { s with files := files }) := by
  unfold saveBreakPoints
  rw [hfile]
  simp only [bind, StateT.bind, MonadFiles.writeFile, Session.change, hwrite]
  rfl

/-- Loading sets what the bytes of the file stand for. -/
theorem loadBreakPoints_of_read {s : Session} {bytes : List UInt8}
    (hfile : m.breakPointFile = some path) (hread : s.files.read path = .ok bytes) :
    ((m.loadBreakPoints t : StateM Session (Except MemoryError (Memory × Nat))) s).1
      = .ok (m.withBreakPoints (m.savedBreakPoints t bytes),
        (m.savedBreakPoints t bytes).addresses.length) := by
  cases m with
  | mk _ _ _ _ _ _ breakPointFile =>
    obtain rfl : breakPointFile = some path := hfile
    unfold loadBreakPoints
    simp only [bind, StateT.bind, MonadFiles.readFile, hread]
    rfl

/-- **What is kept on loading**: the addresses in the bytes that are those of instructions. -/
theorem contains_savedBreakPoints (m : Memory) (t : OpcodeTable) (bytes : List UInt8)
    (a : UInt16) :
    (m.savedBreakPoints t bytes).contains a = true
      ↔ m.instructionStart? t a = some a ∧ a ∈ BreakPoints.addressesOf bytes := by
  unfold savedBreakPoints
  rw [BreakPoints.contains_ofList, List.contains_iff_mem, List.mem_filter, decide_eq_true_eq,
    and_comm]

/-- **Nothing of a saved set is lost** that has break points at instructions only. -/
theorem savedBreakPoints_toBytes {s : BreakPoints}
    (hstarts : ∀ a, s.contains a = true → m.instructionStart? t a = some a) :
    m.savedBreakPoints t s.toBytes = s := by
  refine BreakPoints.eq_of_contains fun a => Bool.eq_iff_iff.mpr ?_
  rw [contains_savedBreakPoints, BreakPoints.addressesOf_toBytes, ← BreakPoints.contains_iff,
    and_iff_right_of_imp (hstarts a)]

/-- **A saved set is loaded** as it was, whatever break points there are by then. -/
theorem loadBreakPoints_of_write {s : Session} {files : FileTree} (earlier : BreakPoints)
    (hfile : m.breakPointFile = some path)
    (hstarts : ∀ a, m.breakPoints.contains a = true → m.instructionStart? t a = some a)
    (hwrite : s.files.write path m.breakPoints.toBytes = .ok files) :
    (((m.withBreakPoints earlier).loadBreakPoints t :
        StateM Session (Except MemoryError (Memory × Nat))) { s with files := files }).1
      = .ok (m, m.breakPoints.addresses.length) := by
  have hsaved : (m.withBreakPoints earlier).savedBreakPoints t m.breakPoints.toBytes
      = m.breakPoints := by
    refine savedBreakPoints_toBytes fun a ha => ?_
    rw [instructionStart?_withBreakPoints]
    exact hstarts a ha
  have hload := loadBreakPoints_of_read (m := m.withBreakPoints earlier) (t := t)
    (s := { s with files := files }) hfile (FileTree.read_of_write hwrite)
  rw [hsaved] at hload
  exact hload

/-- **Break points are a set of instructions that survives a reload.** Whatever addresses are
flipped, in a memory that keeps break points at instructions, those instructions change sides that
were named an odd number of times; how they were named and in which order makes no difference, and
an address of no instruction none at all. If the set is saved, loading it gives it back, whatever
break points there are by then. Of the bytes of any file those pairs are taken, low byte first, that
are the addresses of instructions. -/
theorem break_points_flip_and_survive (hfile : m.breakPointFile = some path)
    (hstarts : ∀ a, m.breakPoints.contains a = true → m.instructionStart? t a = some a) :
    (∀ addresses : List UInt16,
      let m' := m.after (addresses.map (.toggleBreakPoint t))
      (m' = m.withBreakPoints m'.breakPoints
        ∧ ∀ b, m'.breakPoints.contains b = (m.breakPoints.contains b
          ^^ decide (Odd (addresses.countP (m.instructionStart? t · == some b)))))
      ∧ (∀ others : List UInt16, (others.filterMap (m.instructionStart? t)).Perm
          (addresses.filterMap (m.instructionStart? t)) →
        m.after (others.map (.toggleBreakPoint t)) = m')
      ∧ (∀ a, m.instructionStart? t a = none →
        m'.toggleBreakPoint? t a = none ∧ m'.next (.toggleBreakPoint t a) = m')
      ∧ ∀ (s : Session) (files : FileTree) (earlier : BreakPoints),
        s.files.write path m'.breakPoints.toBytes = .ok files →
        ∃ s' : Session, (m'.saveBreakPoints : StateM Session _) s = (.ok (), s')
          ∧ (((m'.withBreakPoints earlier).loadBreakPoints t : StateM Session _) s').1
            = .ok (m', m'.breakPoints.addresses.length))
      ∧ ∀ (s : Session) (bytes : List UInt8), s.files.read path = .ok bytes →
        ∃ loaded : BreakPoints,
          ((m.loadBreakPoints t : StateM Session _) s).1
            = .ok (m.withBreakPoints loaded, loaded.addresses.length)
          ∧ ∀ a, loaded.contains a = true ↔ m.instructionStart? t a = some a
            ∧ ∃ i low high, bytes[2 * i]? = some low ∧ bytes[2 * i + 1]? = some high
              ∧ a.toNat = low.toNat + 256 * high.toNat := by
  refine ⟨fun addresses => ?_, fun s bytes hread =>
    ⟨m.savedBreakPoints t bytes, loadBreakPoints_of_read hfile hread, fun a => ?_⟩⟩
  · intro m'
    have hafter : m' = m.withBreakPoints
        ((addresses.filterMap (m.instructionStart? t)).foldl .toggle m.breakPoints) :=
      m.after_toggleBreakPoints t addresses
    have hstart : m'.instructionStart? t = m.instructionStart? t := by
      rw [hafter, instructionStart?_withBreakPoints]
    refine ⟨⟨by rw [hafter]; rfl, m.contains_after_toggleBreakPoints t addresses⟩,
      fun others => after_toggleBreakPoints_perm,
      fun a ha => toggleBreakPoint?_eq_none (hstart ▸ ha), fun s files earlier hwrite => ?_⟩
    have hfile' : m'.breakPointFile = some path := by
      rw [hafter]
      exact hfile
    have hstarts' : ∀ b, m'.breakPoints.contains b = true → m'.instructionStart? t b = some b := by
      intro b hb
      rw [hstart]
      exact instructionStart?_of_contains_after hstarts hb
    exact ⟨_, saveBreakPoints_of_write hfile' hwrite,
      loadBreakPoints_of_write earlier hfile' hstarts' hwrite⟩
  · rw [contains_savedBreakPoints, List.mem_iff_getElem?]
    simp only [BreakPoints.getElem?_addressesOf]

/-- LDA with its operand, and NOP with a break point, in a memory with a file for break points. -/
def loadThenNop : Memory :=
  { fresh.after [.loadImage [0xA9, 0x00, 0xEA] 0x0200] with
    breakPoints := .ofList [0x0202]
    breakPointFile := some ⟨".demo.bp"⟩ }

/-- That memory after flips: LDA is named three times, twice by its operand, NOP once. One address
is not in the image. -/
def loadThenNopFlipped : Memory :=
  loadThenNop.after ([0x0201, 0x0202, 0x0200, 0x0300, 0x0201].map (.toggleBreakPoint .builtin))

/-- The break point has gone over from NOP to LDA, and is there after a reload. -/
theorem break_points_flip_and_survive_loadThenNop :
    loadThenNop.breakPointFile = some ⟨".demo.bp"⟩
      ∧ (∀ a, loadThenNop.breakPoints.contains a = true →
        loadThenNop.instructionStart? .builtin a = some a)
      ∧ loadThenNopFlipped.breakPoints.contains 0x0202 = false
      ∧ loadThenNopFlipped.breakPoints.contains 0x0200 = true
      ∧ ∃ s' : Session,
        (loadThenNopFlipped.saveBreakPoints : StateM Session _) (.start .empty) = (.ok (), s')
          ∧ (((loadThenNopFlipped.withBreakPoints .empty).loadBreakPoints .builtin :
              StateM Session _) s').1
            = .ok (loadThenNopFlipped, loadThenNopFlipped.breakPoints.addresses.length) := by
  have hstarts : ∀ a, loadThenNop.breakPoints.contains a = true →
      loadThenNop.instructionStart? .builtin a = some a := by
    intro a ha
    obtain rfl : a = 0x0202 := List.mem_singleton.mp (BreakPoints.contains_iff.mp ha)
    decide +kernel
  obtain ⟨hflips, -⟩ := break_points_flip_and_survive rfl hstarts
  obtain ⟨⟨-, hcontains⟩, -, -, hreload⟩ := hflips [0x0201, 0x0202, 0x0200, 0x0300, 0x0201]
  have hset : loadThenNopFlipped.breakPoints = .ofList [0x0200] := by decide +kernel
  obtain ⟨files, hwrite⟩ : ∃ files, FileTree.empty.write ⟨".demo.bp"⟩
      loadThenNopFlipped.breakPoints.toBytes = .ok files := by
    rw [hset]
    exact ⟨_, rfl⟩
  exact ⟨rfl, hstarts, (hcontains 0x0202).trans (by decide +kernel),
    (hcontains 0x0200).trans (by decide +kernel), hreload (.start .empty) files .empty hwrite⟩

end Memory

end Breadboard
