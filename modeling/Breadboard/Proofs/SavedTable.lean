import Breadboard.Instruction.TableFile
import Breadboard.Proofs.EditRun
import Breadboard.Proofs.FileReadBack
import Breadboard.Proofs.JsonReaders
import Mathlib.Data.List.Nodup

/-!
# Saved tables

Not every table can be saved without a loss. A word is read back only if it
uses the forty-eight lines and no more, so what is needed is that the words of
a table *fit*, the declared ones as well as those that are edited. Nothing is
asked of the names: they are written as text and may hold any characters.

Tables that fit are read back whole, and each layer of the format has its own
half of that: a word as a number, a matrix as the list of its words, an opcode
as a record, and the table as the list of its entries, which are put into their
places by their opcode bytes.

The tables that a session comes to hold all fit. The built-in one does, reading
refuses a word that does not, and edits keep to the lines there are.
-/

namespace Breadboard

/-! ## Matrices -/

namespace Matrix

/-- **A matrix fits** if all its words do. -/
def Fits (m : Matrix) : Prop := ∀ c, (m.get c).fits = true

theorem wordOfJson?_nat {w : ControlWord} (h : w.fits = true) :
    wordOfJson? (.nat w.toNat) = some w := by
  unfold wordOfJson?
  rw [Json.natBelow?_nat (of_decide_eq_true h)]
  exact congrArg some (ControlWord.ofNat_toNat w)

/-- A list of the right length is read as one. -/
theorem exactly?_map {α β : Type} {write : α → Json} {read : Json → Option β} {f : α → β}
    {xs : List α} (h : ∀ x ∈ xs, read (write x) = some (f x)) :
    exactly? xs.length read (.array (xs.map write)) = some (xs.map f) := by
  unfold exactly?
  rw [Json.list?_map h]
  show (if (xs.map f).length = xs.length then _ else _) = _
  rw [if_pos (List.length_map f)]

/-- The cells in the order in which a matrix is saved. -/
theorem flatten_cells :
    ((List.finRange 16).map fun flags => (List.finRange 8).map fun step =>
      Phase.all.map fun phase => (⟨flags, step, phase⟩ : Cell)).flatten.flatten = Cell.all := by
  decide +kernel

/-- The words in that order are the words of the matrix. -/
theorem flatten_words (m : Matrix) :
    ((List.finRange 16).map fun flags => (List.finRange 8).map fun step =>
      Phase.all.map fun phase => m.get ⟨flags, step, phase⟩).flatten.flatten
        = m.words.toList := by
  have hcells := congrArg (List.map m.get) flatten_cells
  simp only [List.map_flatten, List.map_map, Function.comp_def] at hcells
  rw [hcells]
  refine List.ext_getElem (by simp [Cell.all]) fun i hi hi' => ?_
  simp [Cell.all, get]

/-- A matrix is told by its words. -/
theorem ofWords {m : Matrix} {words : List ControlWord} (h : words = m.words.toList) :
    (if h : words.toArray.size = 256 then some (⟨⟨words.toArray, h⟩⟩ : Matrix) else none)
      = some m := by
  rw [h]
  exact dif_pos (by simp)

/-- **A matrix is read back** if its words fit. -/
theorem ofJson?_toJson {m : Matrix} (h : m.Fits) : ofJson? m.toJson = some m := by
  have hslots : exactly? 16 (exactly? 8 (exactly? 2 wordOfJson?)) m.toJson
      = some ((List.finRange 16).map fun flags => (List.finRange 8).map fun step =>
        Phase.all.map fun phase => m.get ⟨flags, step, phase⟩) := by
    refine exactly?_map fun flags _ => exactly?_map fun step _ => exactly?_map fun phase _ => ?_
    exact wordOfJson?_nat (h _)
  unfold ofJson?
  rw [hslots]
  exact ofWords (flatten_words m)

/-- What holds of all that a reader gives holds of the items of such a list. -/
theorem forall_mem_of_exactly? {α : Type} {read : Json → Option α} {p : α → Prop}
    (hread : ∀ {v a}, read v = some a → p a) {n : Nat} {v : Json} {xs : List α}
    (h : exactly? n read v = some xs) : ∀ x ∈ xs, p x := by
  obtain ⟨items, hitems, h⟩ := Option.bind_eq_some_iff.mp h
  split at h
  · rw [← Option.some.inj h]
    exact Json.forall_mem_of_list? hread hitems
  · exact absurd h (by simp)

theorem fits_of_wordOfJson? {v : Json} {w : ControlWord} (h : wordOfJson? v = some w) :
    w.fits = true := by
  obtain ⟨n, hn, rfl⟩ := Option.map_eq_some_iff.mp h
  unfold Json.natBelow? at hn
  split at hn
  · split at hn
    · rename_i hlt
      rw [← Option.some.inj hn]
      have hmod : (ControlWord.ofNat _).toNat = _ :=
        (BitVec.toNat_ofNat _ _).trans (Nat.mod_eq_of_lt (Nat.lt_of_lt_of_le hlt (by decide)))
      exact decide_eq_true (hmod.trans_lt hlt)
    · exact absurd hn (by simp)
  · exact absurd hn (by simp)

/-- **A matrix that was read fits.** -/
theorem fits_of_ofJson? {v : Json} {m : Matrix} (h : ofJson? v = some m) : m.Fits := by
  obtain ⟨slots, hslots, h⟩ := Option.bind_eq_some_iff.mp h
  have hwords : ∀ slot ∈ slots, ∀ step ∈ slot, ∀ w ∈ step, w.fits = true :=
    forall_mem_of_exactly? (forall_mem_of_exactly? (forall_mem_of_exactly? fits_of_wordOfJson?))
      hslots
  dsimp only at h
  split at h
  · rw [← Option.some.inj h]
    intro c
    have hmem : slots.flatten.flatten.toArray[c.index.val] ∈ slots.flatten.flatten :=
      List.getElem_mem _
    obtain ⟨step, hstep, hw⟩ := List.mem_flatten.mp hmem
    obtain ⟨slot, hslot, hstep⟩ := List.mem_flatten.mp hstep
    exact hwords slot hslot step hstep _ hw
  · exact absurd h (by simp)

theorem plain_toJson (m : Matrix) : m.toJson.Plain := by
  refine Json.plain_array fun v hv => ?_
  obtain ⟨flags, -, rfl⟩ := List.mem_map.mp hv
  refine Json.plain_array fun v hv => ?_
  obtain ⟨step, -, rfl⟩ := List.mem_map.mp hv
  refine Json.plain_array fun v hv => ?_
  obtain ⟨phase, -, rfl⟩ := List.mem_map.mp hv
  exact Json.plain_nat _

end Matrix

/-! ## Opcodes -/

namespace Opcode

open Json Json.Record

/-- **An opcode fits** if all its words do, the declared ones included. -/
structure Fits (op : Opcode) : Prop where
  /-- The lines fit. -/
  lines : op.lines.Fits
  /-- The presets fit. -/
  presets : op.presets.Fits

/-- **An opcode is read back** if it fits. -/
theorem ofJson?_toJson {op : Opcode} (h : op.Fits) : ofJson? op.toJson = some op := by
  unfold ofJson? toJson
  rw [Json.record?_record (show _ = fieldNames from rfl) (by decide)]
  rw [Option.bind_eq_bind, Option.bind_some,
    field?_eq rfl (text?_text op.name), field?_eq rfl (byte?_nat op.code),
    field?_eq rfl (text?_text op.assembly),
    field?_eq rfl (choice?_text (AddressMode.ofName?_name op.mode)),
    field?_eq rfl (byte?_nat op.operands), field?_eq rfl (byte?_nat op.steps),
    field?_eq rfl (bool?_bool op.pageCross), field?_eq rfl (byte?_nat op.branchBit),
    field?_eq rfl (bool?_bool op.branchSet), field?_eq rfl (bool?_bool op.isVirtual),
    field?_eq rfl (Matrix.ofJson?_toJson h.lines), field?_eq rfl (Matrix.ofJson?_toJson h.presets),
    fieldOr?_eq rfl (bool?_bool op.usesAddressing), fieldOr?_eq rfl (bool?_bool op.usesTrailer)]
  rfl

/-- **An opcode that was read fits.** -/
theorem fits_of_ofJson? {v : Json} {op : Opcode} (h : ofJson? v = some op) : op.Fits := by
  -- The record and its first ten fields come before the matrices, two flags after them.
  iterate 11 obtain ⟨_, -, h⟩ := Option.bind_eq_some_iff.mp h
  obtain ⟨lines, hlines, h⟩ := Option.bind_eq_some_iff.mp h
  obtain ⟨presets, hpresets, h⟩ := Option.bind_eq_some_iff.mp h
  iterate 2 obtain ⟨_, -, h⟩ := Option.bind_eq_some_iff.mp h
  rw [← Option.some.inj h]
  obtain ⟨_, -, hlines⟩ := exists_of_field? hlines
  obtain ⟨_, -, hpresets⟩ := exists_of_field? hpresets
  exact ⟨Matrix.fits_of_ofJson? hlines, Matrix.fits_of_ofJson? hpresets⟩

theorem plain_toJson (op : Opcode) : op.toJson.Plain := by
  refine plain_record ?_
  simp only [List.forall_mem_cons]
  exact ⟨plain_text _, plain_nat _, plain_text _, plain_text _, plain_nat _, plain_nat _,
    plain_bool _, plain_nat _, plain_bool _, plain_bool _, Matrix.plain_toJson _,
    Matrix.plain_toJson _, plain_bool _, plain_bool _, fun _ h => absurd h List.not_mem_nil⟩

end Opcode

/-! ## Tables -/

namespace OpcodeTable

/-- **A table fits** if all its opcodes do. -/
def Fits (t : OpcodeTable) : Prop := ∀ code, (t.lookup code).Fits

variable {t : OpcodeTable}

theorem mem_entries_iff {op : Opcode} :
    op ∈ t.entries.toList ↔ ∃ i : Fin 256, op = t.entries.get i := by
  rw [Vector.mem_toList_iff, Vector.mem_iff_getElem]
  constructor
  · rintro ⟨i, hi, h⟩
    exact ⟨⟨i, hi⟩, h.symm⟩
  · rintro ⟨i, h⟩
    exact ⟨i.val, i.isLt, h.symm⟩

theorem place_ofNat (i : Fin 256) : place (UInt8.ofNat i.val) = i := Fin.ext (by simp [place])

/-- The entry at a place is the opcode of that byte. -/
theorem lookup_ofNat (t : OpcodeTable) (i : Fin 256) :
    t.lookup (UInt8.ofNat i.val) = t.entries.get i := congrArg t.entries.get (place_ofNat i)

/-- **Entries in good order are passed over**, and only their bytes are kept. -/
theorem checkEntries_append {seen : List UInt8} {ops : List Opcode}
    (hsteps : ∀ op ∈ ops, ¬ (op.steps = 0 ∨ 8 < op.steps)) (hnodup : (ops.map (·.code)).Nodup)
    (hseen : ∀ op ∈ ops, op.code ∉ seen) (rest : List Opcode) :
    checkEntries seen (ops ++ rest) = checkEntries ((ops.map (·.code)).reverse ++ seen) rest := by
  induction ops generalizing seen with
  | nil => rfl
  | cons op more ih =>
    obtain ⟨hfirst, hmore⟩ := List.nodup_cons.mp hnodup
    rw [List.cons_append, checkEntries, if_neg (hsteps op List.mem_cons_self),
      if_neg (hseen op List.mem_cons_self), List.map_cons, List.reverse_cons, List.append_assoc]
    refine ih (fun o ho => hsteps o (List.mem_cons_of_mem op ho)) hmore fun o ho hmem => ?_
    obtain hcode | hmem := List.mem_cons.mp hmem
    · exact hfirst (List.mem_map.mpr ⟨o, ho, hcode⟩)
    · exact hseen o (List.mem_cons_of_mem op ho) hmem

/-- **Entries in good order are accepted.** -/
theorem checkEntries_eq_ok {ops : List Opcode}
    (hsteps : ∀ op ∈ ops, ¬ (op.steps = 0 ∨ 8 < op.steps))
    (hnodup : (ops.map (·.code)).Nodup) : checkEntries [] ops = .ok () := by
  have h := checkEntries_append hsteps hnodup (fun _ _ => List.not_mem_nil) []
  rw [List.append_nil] at h
  exact h

/-- No two entries of a table have the same byte. -/
theorem nodup_codes (t : OpcodeTable) : (t.entries.toList.map (·.code)).Nodup := by
  refine List.pairwise_iff_getElem.mpr fun i j hi hj hlt heq => ?_
  rw [List.getElem_map, List.getElem_map, Vector.getElem_toList, Vector.getElem_toList] at heq
  rw [List.length_map, Vector.length_toList] at hi hj
  have hcode := congrArg UInt8.toNat heq
  rw [show t.entries[i].code.toNat = i from t.code_eq ⟨i, hi⟩,
    show t.entries[j].code.toNat = j from t.code_eq ⟨j, hj⟩] at hcode
  exact Nat.ne_of_lt hlt hcode

theorem checkEntries_entries (t : OpcodeTable) : checkEntries [] t.entries.toList = .ok () := by
  refine checkEntries_eq_ok (fun op hop => ?_) (nodup_codes t)
  obtain ⟨i, rfl⟩ := mem_entries_iff.mp hop
  have hsteps := t.steps_mem i
  rw [not_or, UInt8.not_lt, UInt8.le_iff_toNat_le, ← UInt8.toNat_inj]
  exact ⟨Nat.ne_of_gt hsteps.1, hsteps.2⟩

/-- Among entries of different bytes each is found by its own. -/
theorem find?_eq_some_of_mem {ops : List Opcode} (hnodup : (ops.map (·.code)).Nodup)
    {op : Opcode} (hop : op ∈ ops) {i : Fin 256} (hcode : op.code.toNat = i.val) :
    ops.find? (fun op => op.code.toNat == i.val) = some op := by
  cases h : ops.find? (fun op => op.code.toNat == i.val) with
  | none => exact absurd hcode (by simpa using List.find?_eq_none.mp h op hop)
  | some found =>
    have hfound : found.code.toNat = i.val := by simpa using List.find?_some h
    have hsame : found.code = op.code := UInt8.toNat_inj.mp (hfound.trans hcode.symm)
    exact congrArg some (List.inj_on_of_nodup_map hnodup (List.mem_of_find?_eq_some h) hop hsame)

/-- Tables with the same entries are the same. -/
theorem eq_of_entries {t u : OpcodeTable} (h : t.entries = u.entries) : t = u := by
  cases t
  cases u
  cases h
  rfl

/-- A table is made of entries among which its own are found. -/
theorem ofEntries_eq_ok {ops : List Opcode} (hcheck : checkEntries [] ops = .ok ())
    (hfind : ∀ i : Fin 256,
      ops.find? (fun op => op.code.toNat == i.val) = some (t.entries.get i)) :
    ofEntries ops = .ok t := by
  have hfound (i : Fin 256) : (Vector.ofFn fun i : Fin 256 =>
      ops.find? fun op => op.code.toNat == i.val).get i = some (t.entries.get i) :=
    (Vector.getElem_ofFn i.isLt).trans (hfind i)
  unfold ofEntries
  split
  · rename_i h
    rw [hcheck] at h
    exact absurd h (by simp)
  · dsimp only
    rw [dif_pos fun i => Option.isSome_iff_exists.mpr ⟨_, hfound i⟩]
    refine congrArg Except.ok (eq_of_entries (Vector.ext fun i hi => ?_))
    refine (get_ofFn _ _ _ ⟨i, hi⟩).trans ?_
    exact Option.some.inj ((Option.some_get _).trans (hfound ⟨i, hi⟩))

/-- **A table is made of its entries.** -/
theorem ofEntries_entries (t : OpcodeTable) : ofEntries t.entries.toList = .ok t :=
  ofEntries_eq_ok (checkEntries_entries t) fun i =>
    find?_eq_some_of_mem (nodup_codes t) (mem_entries_iff.mpr ⟨i, rfl⟩) (t.code_eq i)

/-- Each entry of a table is one of those it was made of. -/
theorem mem_of_ofEntries {ops : List Opcode} (h : ofEntries ops = .ok t) (i : Fin 256) :
    t.entries.get i ∈ ops := by
  unfold ofEntries at h
  split at h
  · exact absurd h (by simp)
  · dsimp only at h
    split at h
    · rename_i complete
      rw [← Except.ok.inj h, get_ofFn]
      have hget : (Vector.ofFn fun i : Fin 256 =>
          ops.find? fun op => op.code.toNat == i.val).get i = _ := Vector.getElem_ofFn i.isLt
      exact List.mem_of_find?_eq_some (hget.symm.trans (Option.some_get (complete i)).symm)
    · exact absurd h (by simp)

theorem plain_entries (ops : List Opcode) : (Json.array (ops.map Opcode.toJson)).Plain := by
  refine Json.plain_array fun v hv => ?_
  obtain ⟨op, -, rfl⟩ := List.mem_map.mp hv
  exact Opcode.plain_toJson op

/-- **A table that fits is parsed** from what is printed of it. -/
theorem parse_print (h : t.Fits) : parse t.print = .ok t := by
  have hitems : (Json.array (t.entries.toList.map Opcode.toJson)).list? Opcode.ofJson?
      = some (t.entries.toList.map id) := by
    refine Json.list?_map fun op hop => Opcode.ofJson?_toJson ?_
    obtain ⟨i, rfl⟩ := mem_entries_iff.mp hop
    exact lookup_ofNat t i ▸ h _
  unfold parse print
  rw [Json.parse?_print (plain_entries _), Option.bind_eq_bind, Option.bind_some, hitems, List.map_id]
  exact ofEntries_entries t

/-- **A parsed table fits.** -/
theorem fits_of_parse {bytes : List UInt8} (h : parse bytes = .ok t) : t.Fits := by
  unfold parse at h
  split at h
  · exact absurd h (by simp)
  · rename_i ops hops
    obtain ⟨v, -, hops⟩ := Option.bind_eq_some_iff.mp hops
    intro code
    exact Json.forall_mem_of_list? Opcode.fits_of_ofJson? hops _ (mem_of_ofEntries h (place code))

/-- The built-in table fits. -/
theorem fits_builtin : builtin.Fits := by
  intro code
  have hword := Declaration.fits_word (Catalogue.declaration_behaves code)
  rw [lookup_builtin]
  exact ⟨hword, hword⟩

/-- Lines that fit keep a table fitting. -/
theorem Fits.setLines (h : t.Fits) (code : UInt8) {lines : Matrix} (hlines : lines.Fits) :
    (t.setLines code lines).Fits := by
  intro d
  rw [lookup_setLines]
  split
  · exact ⟨hlines, (h code).presets⟩
  · exact h d

/-! ## Tables that can be held -/

/-- **Tables that a session can hold**: it begins with the built-in table or one
that was loaded, and goes on by replacing lines. -/
inductive Held : OpcodeTable → Prop where
  /-- The built-in table. -/
  | builtin : Held builtin
  /-- A table that was loaded. -/
  | loaded {bytes : List UInt8} {t : OpcodeTable} (h : parse bytes = .ok t) : Held t
  /-- A table after an edit that keeps to the lines there are. -/
  | edited {t : OpcodeTable} (h : Held t) (code : UInt8) {lines : Matrix} (hlines : lines.Fits) :
    Held (t.setLines code lines)

theorem Held.fits (h : t.Held) : t.Fits := by
  induction h with
  | builtin => exact fits_builtin
  | loaded h => exact fits_of_parse h
  | edited h code hlines ih => exact ih.setLines code hlines

/-- One use of the line editor. -/
theorem Held.edit (h : t.Held) (e : TableEdit) : (t.edit e).Held := by
  unfold OpcodeTable.edit
  cases hmade : e.made? (t.lookup e.code) with
  | none => exact h
  | some op =>
    have hlines : op.lines.Fits := fun c =>
      (TableEdit.editedTo_made? hmade).fits ((h.fits e.code).lines c)
    exact h.edited e.code hlines

/-- **What the line editor makes of a table** that can be held can be held. -/
theorem Held.afterEdits (h : t.Held) (edits : List TableEdit) : (t.edited edits).Held := by
  induction edits generalizing t with
  | nil => exact h
  | cons e rest ih => exact ih (h.edit e)

/-- Saving writes what is printed of a table. -/
theorem write_of_save {path : Path} {s s' : Session}
    (h : (t.save path : StateM Session (Except TableError Unit)) s = (.ok (), s')) :
    s.files.write path t.print = .ok s'.files := by
  unfold save at h
  simp only [bind, StateT.bind, MonadFiles.writeFile, Session.change] at h
  cases hwrite : s.files.write path t.print with
  | error e =>
    rw [hwrite] at h
    have hfailed : (.error (.file path e) : Except TableError Unit) = .ok () :=
      congrArg Prod.fst h
    cases hfailed
  | ok files =>
    rw [hwrite] at h
    exact congrArg (fun r => Except.ok r.2.files) h

/-- **A saved table is loaded** as it was. -/
theorem load_of_save {path : Path} {s s' : Session} (h : t.Held)
    (hsave : (t.save path : StateM Session (Except TableError Unit)) s = (.ok (), s')) :
    ((load path : StateM Session (Except TableError OpcodeTable)) s').1 = .ok t := by
  have hread : s'.files.read path = .ok t.print := FileTree.read_of_write (write_of_save hsave)
  unfold load
  simp only [bind, StateT.bind, MonadFiles.readFile, hread, parse_print h.fits]
  rfl

/-- The built-in table with the lines of `NOP` blanked, saved where there was no file. -/
theorem load_of_save_blanked :
    ∃ s' : Session,
      ((builtin.setLines 0xEA (.ofFn fun _ => .empty)).save ⟨"table.json"⟩ : StateM Session _)
          (.start .empty) = (.ok (), s')
        ∧ ((load ⟨"table.json"⟩ : StateM Session _) s').1
          = .ok (builtin.setLines 0xEA (.ofFn fun _ => .empty)) := by
  refine ⟨_, rfl, load_of_save (s := .start .empty) (.edited .builtin 0xEA fun c => ?_) rfl⟩
  rw [Matrix.get_ofFn]
  decide

end OpcodeTable

end Breadboard
