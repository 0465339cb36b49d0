import Breadboard.Proofs.BreakPointSet

/-!
# Break points under edits

A break point is put on an instruction and kept by its address. The bytes of the program are
edited by other means, and an edit asks nothing about break points. Writing one byte can change how
long an instruction is, and with that where each instruction behind it begins. A break point whose
address no longer begins an instruction is *stranded*: it is still shown, but to flip it flips the
break point of the instruction that the address has come to belong to.

What a written byte does to the listing is simple, though. At a byte where no item begins nothing
changes. Where one begins, the items before it stay as they are, the item itself is told by the new
opcode, and from behind it the listing goes on over bytes that have not changed. So whether a break
point is stranded is told by the listing as it was: it is spared if the walk from behind the new
instruction still comes to its address.
-/

namespace Breadboard

namespace Memory

variable {m m' : Memory} {t : OpcodeTable} {a b : UInt16} {v : UInt8} {pc : Nat}
  {item : ListingItem}

/-! ## The listing after a byte is written -/

/-- **Written**: the memory with a byte replaced, whatever else is different about edits and break
points. -/
structure Written (m : Memory) (a : UInt16) (v : UInt8) (m' : Memory) : Prop where
  store_eq : m'.store = m.store.set a v
  region_eq : m'.region = m.region

theorem written_edit (m : Memory) (a : UInt16) (v : UInt8) : m.Written a v (m.edit a v) :=
  ⟨rfl, rfl⟩

namespace Written

theorem origin_eq (h : m.Written a v m') : m'.origin = m.origin := congrArg Prod.fst h.region_eq

theorem stop_eq (h : m.Written a v m') : m'.stop = m.stop :=
  congrArg (fun region : UInt16 × Nat => region.1.toNat + region.2) h.region_eq

theorem opcodeAt_of_ne (h : m.Written a v m') (hpc : pc < m.stop) (hne : pc ≠ a.toNat) :
    m'.opcodeAt t pc = m.opcodeAt t pc := by
  have hne' : a ≠ UInt16.ofNat pc := by
    rintro rfl
    exact hne (UInt16.toNat_ofNat_of_lt' (lt_size_of_lt_stop hpc)).symm
  refine congrArg t.lookup ?_
  show m'.store.get _ = m.store.get _
  rw [h.store_eq, Store.get_set, if_neg hne']

theorem opcodeAt_self (h : m.Written a v m') : m'.opcodeAt t a.toNat = t.lookup v := by
  refine congrArg t.lookup ?_
  show m'.store.get _ = v
  rw [h.store_eq, UInt16.ofNat_toNat, Store.get_set_self]

theorem itemAt_of_ne (h : m.Written a v m') (hpc : pc < m.stop) (hne : pc ≠ a.toNat) :
    m'.itemAt t pc = m.itemAt t pc := by
  unfold itemAt
  rw [h.opcodeAt_of_ne hpc hne]

/-- **A byte at which no item begins** is not looked at. -/
theorem itemsFrom_of_notMem (h : m.Written a v m') (hnot : m.itemAt t a.toNat ∉ m.itemsFrom t pc) :
    m'.itemsFrom t pc = m.itemsFrom t pc := by
  fun_induction itemsFrom m t pc with
  | case1 pc hpc op ih =>
    obtain ⟨hhere, hrest⟩ := not_or.mp (mt List.mem_cons.mpr hnot)
    have hne : pc ≠ a.toNat := by
      rintro rfl
      exact hhere rfl
    have hop : m'.opcodeAt t pc = op := h.opcodeAt_of_ne hpc hne
    rw [itemsFrom_of_lt (h.stop_eq ▸ hpc), h.itemAt_of_ne hpc hne, hop, ih hrest]
    rfl
  | case2 pc hpc => exact itemsFrom_of_le (h.stop_eq ▸ Nat.not_lt.mp hpc)

/-- Behind the byte the listing goes on as before. -/
theorem itemsFrom_of_lt (h : m.Written a v m') (hlt : a.toNat < pc) :
    m'.itemsFrom t pc = m.itemsFrom t pc :=
  h.itemsFrom_of_notMem fun hmem => Nat.not_le.mpr hlt (of_mem_itemsFrom hmem).1

/-- **A byte at which an item begins** changes that item, and where the listing goes on. -/
theorem exists_itemsFrom_eq (h : m.Written a v m') (hmem : m.itemAt t a.toNat ∈ m.itemsFrom t pc) :
    ∃ before, (∀ item ∈ before, item.start < a.toNat)
      ∧ m.itemsFrom t pc = before ++ m.itemsFrom t a.toNat
      ∧ m'.itemsFrom t pc = before
        ++ m'.itemAt t a.toNat :: m.itemsFrom t (a.toNat + (t.lookup v).length) := by
  fun_induction itemsFrom m t pc with
  | case1 pc hpc op ih =>
    by_cases hne : pc = a.toNat
    · subst hne
      refine ⟨[], fun _ h => absurd h List.not_mem_nil, (Memory.itemsFrom_of_lt hpc).symm, ?_⟩
      rw [Memory.itemsFrom_of_lt (h.stop_eq ▸ hpc), h.opcodeAt_self,
        h.itemsFrom_of_lt (Nat.lt_add_of_pos_right (Opcode.length_pos _))]
      rfl
    · have hrest : m.itemAt t a.toNat ∈ m.itemsFrom t (pc + op.length) :=
        (List.mem_cons.mp hmem).resolve_left fun heq =>
          hne (congrArg ListingItem.start heq).symm
      obtain ⟨before, hbefore, hitems, hitems'⟩ := ih hrest
      have hle : pc + op.length ≤ a.toNat := (of_mem_itemsFrom hrest).1
      have hop : m'.opcodeAt t pc = op := h.opcodeAt_of_ne hpc hne
      refine ⟨m.itemAt t pc :: before, List.forall_mem_cons.mpr ⟨?_, hbefore⟩, ?_, ?_⟩
      · exact Nat.lt_of_lt_of_le (Nat.lt_add_of_pos_right (Opcode.length_pos op)) hle
      · exact congrArg (List.cons _) hitems
      · rw [Memory.itemsFrom_of_lt (h.stop_eq ▸ hpc), h.itemAt_of_ne hpc hne, hop, hitems']
        rfl
  | case2 => exact absurd hmem List.not_mem_nil

end Written

/-! ## Instructions after a byte is written -/

/-- **An instruction** is an item that begins at its address with an opcode that is defined. -/
theorem instructionStart?_eq_self_iff :
    m.instructionStart? t b = some b
      ↔ m.itemAt t b.toNat ∈ m.listing t ∧ (m.opcodeAt t b.toNat).isVirtual = false := by
  rw [instructionStart?_eq_some_iff]
  constructor
  · rintro ⟨-, item, hitem, -, hstart, hcode⟩
    have hself : item = m.itemAt t b.toNat := hstart ▸ (of_mem_itemsFrom hitem).2.2
    subst hself
    exact ⟨hitem, (Bool.not_eq_true' _).mp hcode⟩
  · rintro ⟨hitem, hdefined⟩
    obtain ⟨horigin, hstop, -⟩ := of_mem_itemsFrom hitem
    exact ⟨⟨horigin, hstop⟩, _, hitem, itemAt_takes_self m t b.toNat, rfl,
      (Bool.not_eq_true' _).mpr hdefined⟩

/-- **Spared**: how it can be that writing a byte leaves an instruction in its place. -/
inductive Spares (m : Memory) (t : OpcodeTable) (a : UInt16) (v : UInt8) (b : UInt16) : Prop where
  /-- No item begins at the byte: it is an operand, or not in the image. -/
  | operand (h : m.itemAt t a.toNat ∉ m.listing t)
  /-- The instruction begins before the byte. -/
  | before (h : b < a)
  /-- The byte is the opcode of the instruction, and the new one is defined as well. -/
  | opcode (h : b = a) (hdefined : (t.lookup v).isVirtual = false)
  /-- The walk from behind the new instruction comes to the old one. -/
  | reached (h : a < b)
    (hmem : m.itemAt t b.toNat ∈ m.itemsFrom t (a.toNat + (t.lookup v).length))

/-- **What a written byte does to an instruction**: it stays one exactly if it is spared. -/
theorem Written.instructionStart?_iff (h : m.Written a v m')
    (hstart : m.instructionStart? t b = some b) :
    m'.instructionStart? t b = some b ↔ m.Spares t a v b := by
  obtain ⟨hmem, hdefined⟩ := instructionStart?_eq_self_iff.mp hstart
  have hstop : b.toNat < m.stop := (of_mem_itemsFrom hmem).2.1
  -- Any other instruction than the one that begins at the byte keeps its item.
  have hother (hne : b ≠ a) :
      m'.instructionStart? t b = some b ↔ m.itemAt t b.toNat ∈ m'.listing t := by
    have hne' : b.toNat ≠ a.toNat := fun heq => hne (UInt16.toNat_inj.mp heq)
    rw [instructionStart?_eq_self_iff, h.itemAt_of_ne hstop hne', h.opcodeAt_of_ne hstop hne',
      and_iff_left hdefined]
  have hlisting : m'.listing t = m'.itemsFrom t m.origin.toNat := by
    unfold listing
    rw [h.origin_eq]
  by_cases hbegins : m.itemAt t a.toNat ∈ m.listing t
  · obtain ⟨before, hbefore, hitems, hitems'⟩ := h.exists_itemsFrom_eq hbegins
    rw [← hlisting] at hitems'
    obtain hlt | heq | hgt := Nat.lt_trichotomy b.toNat a.toNat
    · have hne : b ≠ a := fun heq => Nat.ne_of_lt hlt (congrArg UInt16.toNat heq)
      refine iff_of_true ((hother hne).mpr ?_) (.before (UInt16.lt_iff_toNat_lt.mpr hlt))
      have hinit : m.itemAt t b.toNat ∈ before := by
        have hall : m.itemAt t b.toNat ∈ m.itemsFrom t m.origin.toNat := hmem
        rw [hitems] at hall
        refine (List.mem_append.mp hall).resolve_right fun hrest => ?_
        exact Nat.not_le.mpr hlt (of_mem_itemsFrom hrest).1
      rw [hitems']
      exact List.mem_append_left _ hinit
    · obtain rfl := UInt16.toNat_inj.mp heq
      have hhere : m'.itemAt t b.toNat ∈ m'.listing t := by
        rw [hitems']
        exact List.mem_append_right _ List.mem_cons_self
      rw [instructionStart?_eq_self_iff, and_iff_right hhere, h.opcodeAt_self]
      refine ⟨.opcode rfl, fun hspares => ?_⟩
      cases hspares with
      | operand hnot => exact absurd hbegins hnot
      | before hlt | reached hlt => exact absurd hlt (UInt16.lt_irrefl b)
      | opcode _ hnew => exact hnew
    · have hne : b ≠ a := fun heq => Nat.ne_of_gt hgt (congrArg UInt16.toNat heq)
      have hbehind : a < b := UInt16.lt_iff_toNat_lt.mpr hgt
      rw [hother hne, hitems', List.mem_append, List.mem_cons]
      -- The items before the byte and the one at it begin before the instruction.
      refine ⟨fun hin => .reached hbehind ?_, fun hspares => ?_⟩
      · obtain hin | hin | hin := hin
        · exact absurd (hbefore _ hin) (Nat.lt_asymm hgt)
        · exact absurd (congrArg ListingItem.start hin) (Nat.ne_of_gt hgt)
        · exact hin
      · cases hspares with
        | operand hnot => exact absurd hbegins hnot
        | before hlt => exact absurd hlt (UInt16.lt_asymm hbehind)
        | opcode heq => exact absurd heq hne
        | reached _ hin => exact .inr (.inr hin)
  · have hsame : m'.listing t = m.listing t := hlisting.trans (h.itemsFrom_of_notMem hbegins)
    have hne : b ≠ a := by
      rintro rfl
      exact hbegins hmem
    exact iff_of_true ((hother hne).mpr (hsame ▸ hmem)) (.operand hbegins)

/-! ## Flipping where a break point is shown -/

/-- **A break point is cleared where it is shown** exactly if it is on an instruction. -/
theorem contains_next_toggle_self_iff (hb : m.breakPoints.contains b = true) :
    (m.next (.toggleBreakPoint t b)).breakPoints.contains b = false
      ↔ m.instructionStart? t b = some b := by
  rw [next_toggleBreakPoint]
  show ((m.instructionStart? t b).elim m.breakPoints m.breakPoints.toggle).contains b = false ↔ _
  cases m.instructionStart? t b with
  | none => simp [hb]
  | some start =>
    rw [Option.elim_some, BreakPoints.contains_toggle, hb]
    simp

/-! ## Runs of the memory page -/

/-- **Page act**: what the keys of the memory page do to a memory. -/
inductive PageAct where
  /-- The break point of an instruction is flipped. -/
  | toggle (a : UInt16)
  /-- A byte is edited. -/
  | edit (a : UInt16) (v : UInt8)
  /-- The latest edit is taken back. -/
  | undo

/-- A page act as one of the acts on a memory, with the table that is used. -/
def PageAct.act (t : OpcodeTable) : PageAct → MemoryAct
  | toggle a => .toggleBreakPoint t a
  | edit a v => .edit a v
  | undo => .undo

/-- The memory after some page acts. -/
def afterPage (m : Memory) (t : OpcodeTable) (acts : List PageAct) : Memory :=
  m.after (acts.map (PageAct.act t))

/-- The byte that a page act writes, with its address. -/
def writes? (m : Memory) : PageAct → Option (UInt16 × UInt8)
  | .toggle _ => none
  | .edit a v => some (a, v)
  | .undo => m.lastEdit

/-- **Anchored**: every break point is on an instruction. -/
def Anchored (m : Memory) (t : OpcodeTable) : Prop :=
  ∀ b, m.breakPoints.contains b = true → m.instructionStart? t b = some b

/-- Whether every break point is spared by what a page act writes. -/
def SparesAll (m : Memory) (t : OpcodeTable) (act : PageAct) : Prop :=
  ∀ a v, m.writes? act = some (a, v) →
    ∀ b, m.breakPoints.contains b = true → m.Spares t a v b

/-- Taking back an edit writes the byte that was there before it. -/
theorem next_undo (m : Memory) :
    m.next .undo = m.lastEdit.elim m fun edit =>
      { m.write edit.1 edit.2 with lastEdit := none } := by
  show (m.undo?.map (·.1)).getD m = _
  unfold undo?
  cases m.lastEdit <;> rfl

/-- A page act that writes a byte leaves the break points alone. -/
theorem written_next {act : PageAct} (h : m.writes? act = some (a, v)) :
    m.Written a v (m.next (act.act t))
      ∧ (m.next (act.act t)).breakPoints = m.breakPoints := by
  cases act with
  | toggle _ => cases h
  | edit _ _ =>
    cases h
    exact ⟨written_edit m a v, rfl⟩
  | undo =>
    show m.Written a v (m.next .undo) ∧ (m.next .undo).breakPoints = m.breakPoints
    rw [next_undo, show m.lastEdit = some (a, v) from h]
    exact ⟨⟨rfl, rfl⟩, rfl⟩

/-- One that writes none leaves every break point on an instruction. -/
theorem Anchored.next_of_writes?_eq_none (h : m.Anchored t) {act : PageAct}
    (hnone : m.writes? act = none) : (m.next (act.act t)).Anchored t := by
  cases act with
  | toggle a =>
    intro b hb
    show (m.next (.toggleBreakPoint t a)).instructionStart? t b = some b
    rw [next_toggleBreakPoint, instructionStart?_withBreakPoints]
    have hafter : (m.after ([a].map (.toggleBreakPoint t))).breakPoints.contains b = true := hb
    exact instructionStart?_of_contains_after h hafter
  | edit _ _ => cases hnone
  | undo =>
    show (m.next .undo).Anchored t
    rw [next_undo, show m.lastEdit = none from hnone]
    exact h

/-- **One page act** keeps every break point on an instruction exactly if it spares them all. -/
theorem Anchored.next_iff (h : m.Anchored t) (act : PageAct) :
    (m.next (act.act t)).Anchored t ↔ m.SparesAll t act := by
  cases hwrites : m.writes? act with
  | none =>
    refine iff_of_true (h.next_of_writes?_eq_none hwrites) fun a v hsome => ?_
    rw [hwrites] at hsome
    cases hsome
  | some written =>
    obtain ⟨a, v⟩ := written
    obtain ⟨hwritten, hbreakPoints⟩ := written_next (t := t) hwrites
    have hall : m.SparesAll t act
        ↔ ∀ b, m.breakPoints.contains b = true → m.Spares t a v b := by
      unfold SparesAll
      rw [hwrites]
      refine ⟨fun hspares => hspares a v rfl, fun hspares a' v' heq => ?_⟩
      cases heq
      exact hspares
    rw [hall]
    unfold Anchored
    rw [hbreakPoints]
    exact forall₂_congr fun b hb => hwritten.instructionStart?_iff (h b hb)

/-- **A run of page acts** keeps every break point on an instruction all the time exactly if each of
its acts spares them all. -/
theorem Anchored.afterPage_iff (h : m.Anchored t) (acts : List PageAct) :
    (∀ before, before <+: acts → (m.afterPage t before).Anchored t)
      ↔ ∀ before act, before ++ [act] <+: acts → (m.afterPage t before).SparesAll t act := by
  have hconcat (before : List PageAct) (act : PageAct) :
      m.afterPage t (before ++ [act]) = (m.afterPage t before).next (act.act t) := by
    unfold afterPage after
    rw [List.map_append, List.foldl_append]
    rfl
  constructor
  · intro hanchored before act hact
    have hbefore := hanchored before ((List.prefix_append before [act]).trans hact)
    rw [← hbefore.next_iff, ← hconcat]
    exact hanchored _ hact
  · intro hspares before
    induction before using List.reverseRecOn with
    | nil => exact fun _ => h
    | append_singleton before act ih =>
      intro hact
      have hbefore := ih ((List.prefix_append before [act]).trans hact)
      rw [hconcat]
      exact (hbefore.next_iff act).mpr (hspares before act hact)

/-- A program that was loaded has no break points yet. -/
theorem breakPoints_loadProgram (files : FileTree) (path : Path) (origin : UInt16) :
    (fresh.next (.loadProgram files path origin)).breakPoints = .empty := by
  unfold next loadProgram
  simp only [bind, StateT.bind, MonadFiles.readFile, Session.start]
  cases files.read path with
  | error cause => rfl
  | ok image =>
    unfold loadImage?
    by_cases hfits : origin.toNat + image.length ≤ Store.size
    · simp only [dif_pos hfits]
      rfl
    · simp only [dif_neg hfits]
      rfl

theorem anchored_loadProgram (files : FileTree) (path : Path) (origin : UInt16)
    (t : OpcodeTable) : (fresh.next (.loadProgram files path origin)).Anchored t := by
  intro b hb
  rw [breakPoints_loadProgram] at hb
  exact absurd hb (by simp [BreakPoints.contains, BreakPoints.empty])

/-- **Break points stay on instructions as long as no edit strands one.** From a program that was
loaded, break points are flipped, bytes are edited and edits are taken back. That each break point
is on an instruction, and is cleared where it is shown, holds all the time exactly if each byte that
is written spares each break point that is set then. -/
theorem anchored_and_clearable_iff (files : FileTree) (path : Path) (origin : UInt16)
    (t : OpcodeTable) (acts : List PageAct) :
    let state := (fresh.next (.loadProgram files path origin)).afterPage t
    (∀ before, before <+: acts → ∀ b, (state before).breakPoints.contains b = true →
        (state before).instructionStart? t b = some b
          ∧ ((state before).next (.toggleBreakPoint t b)).breakPoints.contains b = false)
      ↔ ∀ before act, before ++ [act] <+: acts → ∀ a v, (state before).writes? act = some (a, v) →
        ∀ b, (state before).breakPoints.contains b = true → (state before).Spares t a v b := by
  intro state
  refine Iff.trans (forall₂_congr fun before _ => forall₂_congr fun b hb => ?_)
    ((anchored_loadProgram files path origin t).afterPage_iff acts)
  rw [contains_next_toggle_self_iff hb, and_self_iff]

/-- A file with two instructions of one byte each. -/
def twoNops : FileTree := (FileTree.empty.write ⟨"demo.bin"⟩ [0xEA, 0xEA]).toOption.getD .empty

/-- That program, with a break point on its second instruction, after the first one has been made
one with an operand. -/
def strandedNop : Memory :=
  (fresh.next (.loadProgram twoNops ⟨"demo.bin"⟩ 0x0200)).afterPage .builtin
    [.toggle 0x0201, .edit 0x0200 0xA9]

/-- The break point is on an operand now. Flipping it where it is shown does not clear it. -/
theorem strandedNop_not_clearable :
    strandedNop.breakPoints.contains 0x0201 = true
      ∧ strandedNop.instructionStart? .builtin 0x0201 = some 0x0200
      ∧ (strandedNop.next (.toggleBreakPoint .builtin 0x0201)).breakPoints.contains 0x0201
        = true := by
  decide +kernel

end Memory

end Breadboard
