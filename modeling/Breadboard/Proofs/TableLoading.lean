import Breadboard.Proofs.JsonEnding
import Breadboard.Proofs.SavedTable
import Mathlib.Data.List.FinRange

/-!
# Which files are tables

A file is a table if it holds a list of opcodes in which every opcode byte occurs
once and every step count is possible. Which table it is does not depend on the
order of the list, since each opcode goes to the place of its byte.

What is said of any other file is the *verdict* on it. The first bad entry
decides, if there is one, and only then it is asked whether opcodes are missing.
The verdict is a relation between what the file holds and what loading gives. It
is not told by how loading goes about it, and loading gives exactly what it says.

A file that was not written to its end is not a table either. What is missing
ends in the bracket that closes the list, so the file holds no document at all.
-/

namespace Breadboard

/-- **Sized**: an opcode whose step count a matrix has room for. -/
def Opcode.Sized (op : Opcode) : Prop :=
  1 ≤ op.steps.toNat ∧ op.steps.toNat ≤ Cell.maxSteps

instance (op : Opcode) : Decidable op.Sized := inferInstanceAs (Decidable (_ ∧ _))

/-- The step counts that are refused. -/
theorem Opcode.sized_iff (op : Opcode) : op.Sized ↔ ¬ (op.steps = 0 ∨ 8 < op.steps) := by
  rw [not_or, UInt8.not_lt, UInt8.le_iff_toNat_le, ← UInt8.toNat_inj]
  exact and_congr Nat.one_le_iff_ne_zero Iff.rfl

namespace OpcodeTable

/-! ## Verdicts -/

/-- **The entries of a file**: the opcodes of the list that it holds, if it holds one. -/
def entries? (bytes : List UInt8) : Option (List Opcode) :=
  Json.parse? bytes >>= Json.list? Opcode.ofJson?

/-- **Flawless** entries: none of them is refused, and no two are for one opcode. -/
structure Flawless (ops : List Opcode) : Prop where
  /-- Every step count is possible. -/
  sized : ∀ op ∈ ops, op.Sized
  /-- No byte occurs twice. -/
  nodup : (ops.map (·.code)).Nodup

/-- The places of the opcodes without an entry. -/
def missing (ops : List Opcode) : List (Fin 256) :=
  (List.finRange 256).filter fun i => ops.all (place ·.code != i)

/-- **Verdict** on the entries of a file. -/
inductive Verdict : Option (List Opcode) → Except TableError OpcodeTable → Prop where
  /-- There is no list of opcodes. -/
  | malformed : Verdict none (.error .malformed)
  /-- The first bad entry has an impossible step count. -/
  | steps {before rest : List Opcode} {op : Opcode} (hbefore : Flawless before)
      (hop : ¬ op.Sized) :
    Verdict (some (before ++ op :: rest)) (.error (.steps op.code op.steps))
  /-- The first bad entry is the second one for its opcode. -/
  | duplicate {before rest : List Opcode} {op : Opcode} (hbefore : Flawless before)
      (hop : op.Sized) (hsecond : op.code ∈ before.map (·.code)) :
    Verdict (some (before ++ op :: rest)) (.error (.duplicate op.code))
  /-- No entry is bad, but there are opcodes without one. -/
  | incomplete {ops : List Opcode} (h : Flawless ops) (hmissing : missing ops ≠ []) :
    Verdict (some ops) (.error (.incomplete (missing ops).length))
  /-- Every byte occurs once and every step count is possible. Each entry is at
  the place of its byte. -/
  | whole {ops : List Opcode} {t : OpcodeTable} (hsized : ∀ op ∈ ops, op.Sized)
      (honce : ∀ code, (ops.map (·.code)).count code = 1)
      (hplace : ∀ op ∈ ops, t.lookup op.code = op) :
    Verdict (some ops) (.ok t)

variable {t : OpcodeTable} {ops : List Opcode}

theorem mem_missing_iff {i : Fin 256} : i ∈ missing ops ↔ ∀ op ∈ ops, place op.code ≠ i := by
  simp [missing]

/-- Nothing is missing if every place has an entry. -/
theorem exists_mem_of_missing_eq_nil (h : missing ops = []) (i : Fin 256) :
    ∃ op ∈ ops, place op.code = i := by
  by_contra hnone
  push Not at hnone
  exact List.not_mem_nil (h ▸ mem_missing_iff.mpr hnone)

/-- What an opcode is looked for by. -/
theorem find?_eq_none_iff {i : Fin 256} :
    ops.find? (fun op => op.code.toNat == i.val) = none ↔ i ∈ missing ops := by
  rw [List.find?_eq_none, mem_missing_iff]
  refine forall₂_congr fun op _ => not_congr ?_
  rw [beq_iff_eq, Fin.ext_iff]
  rfl

/-- **Entries before the first bad one** are passed over. -/
theorem Flawless.checkEntries_append (h : Flawless ops) (rest : List Opcode) :
    checkEntries [] (ops ++ rest) = checkEntries (ops.map (·.code)).reverse rest := by
  rw [OpcodeTable.checkEntries_append (fun op hop => op.sized_iff.mp (h.sized op hop)) h.nodup
    (fun _ _ => List.not_mem_nil), List.append_nil]

theorem Flawless.checkEntries_eq_ok (h : Flawless ops) : checkEntries [] ops = .ok () :=
  OpcodeTable.checkEntries_eq_ok (fun op hop => op.sized_iff.mp (h.sized op hop)) h.nodup

/-- Flawless entries stay so when one is added that is not bad. -/
theorem Flawless.concat {op : Opcode} (h : Flawless ops) (hop : op.Sized)
    (hnew : op.code ∉ ops.map (·.code)) : Flawless (ops ++ [op]) := by
  constructor
  · exact List.forall_mem_append.mpr ⟨h.sized, List.forall_mem_singleton.mpr hop⟩
  · rw [List.map_append, List.map_singleton, List.nodup_append_comm]
    exact List.nodup_cons.mpr ⟨hnew, h.nodup⟩

/-- **Entries have a first flaw or none.** -/
theorem flawless_or_exists_first (ops : List Opcode) :
    Flawless ops ∨ ∃ before op rest, ops = before ++ op :: rest ∧ Flawless before
      ∧ (¬ op.Sized ∨ op.code ∈ before.map (·.code)) := by
  induction ops using List.reverseRecOn with
  | nil => exact Or.inl ⟨fun _ h => absurd h List.not_mem_nil, List.nodup_nil⟩
  | append_singleton ops op ih =>
    obtain h | ⟨before, first, rest, rfl, hbefore, hfirst⟩ := ih
    · by_cases hop : ¬ op.Sized ∨ op.code ∈ ops.map (·.code)
      · exact Or.inr ⟨ops, op, [], rfl, h, hop⟩
      · rw [not_or, not_not] at hop
        exact Or.inl (h.concat hop.1 hop.2)
    · exact Or.inr ⟨before, first, rest ++ [op], by simp, hbefore, hfirst⟩

/-! ## What entries make -/

theorem ofEntries_of_error {e : TableError} (h : checkEntries [] ops = .error e) :
    ofEntries ops = .error e := by
  unfold ofEntries
  split
  · rename_i h'
    exact congrArg Except.error (Except.error.inj (h'.symm.trans h))
  · rename_i h'
    exact absurd (h'.symm.trans h) (by simp)

/-- **Opcodes without an entry** are counted. -/
theorem ofEntries_of_missing (h : checkEntries [] ops = .ok ()) (hmissing : missing ops ≠ []) :
    ofEntries ops = .error (.incomplete (missing ops).length) := by
  have hfound (i : Fin 256) : (Vector.ofFn fun i : Fin 256 =>
      ops.find? fun op => op.code.toNat == i.val).get i
        = ops.find? fun op => op.code.toNat == i.val := Vector.getElem_ofFn i.isLt
  unfold ofEntries
  split
  · rename_i h'
    exact absurd (h'.symm.trans h) (by simp)
  · dsimp only
    rw [dif_neg]
    · refine congrArg (Except.error ∘ TableError.incomplete) ?_
      rw [Vector.toList_ofFn, List.ofFn_eq_map, List.countP_map, List.countP_eq_length_filter]
      refine congrArg List.length (List.filter_congr fun i _ => ?_)
      rw [Bool.eq_iff_iff, Function.comp_apply, Option.isNone_iff_eq_none, find?_eq_none_iff,
        mem_missing_iff]
      simp
    · intro hall
      obtain ⟨i, hi⟩ := List.exists_mem_of_ne_nil _ hmissing
      have hsome := hall i
      rw [hfound i, find?_eq_none_iff.mpr hi] at hsome
      exact absurd hsome (by simp)

/-- **Loading gives what the verdict says.** -/
theorem Verdict.ofEntries_eq {r : Except TableError OpcodeTable} (h : Verdict (some ops) r) :
    ofEntries ops = r := by
  cases h with
  | steps hbefore hop =>
    refine ofEntries_of_error ?_
    rw [hbefore.checkEntries_append, checkEntries, if_pos (by rwa [Opcode.sized_iff, not_not] at hop)]
    rfl
  | duplicate hbefore hop hsecond =>
    refine ofEntries_of_error ?_
    rw [hbefore.checkEntries_append, checkEntries, if_neg ((Opcode.sized_iff _).mp hop),
      if_pos (List.mem_reverse.mpr hsecond)]
    rfl
  | incomplete h hmissing => exact ofEntries_of_missing h.checkEntries_eq_ok hmissing
  | whole hsized honce hplace =>
    rename_i t
    have hnodup : (ops.map (·.code)).Nodup :=
      List.nodup_iff_count_le_one.mpr fun code => Nat.le_of_eq (honce code)
    refine ofEntries_eq_ok (Flawless.checkEntries_eq_ok ⟨hsized, hnodup⟩) fun i => ?_
    -- The entry of the place is the one that has its byte.
    have hmem : UInt8.ofNat i.val ∈ ops.map (·.code) :=
      List.count_pos_iff.mp (honce _ ▸ Nat.one_pos)
    obtain ⟨op, hop, hcode⟩ := List.mem_map.mp hmem
    have hentry : t.entries.get i = op := by
      rw [← lookup_ofNat, ← hcode]
      exact hplace op hop
    rw [hentry]
    refine find?_eq_some_of_mem hnodup hop ?_
    rw [hcode]
    exact congrArg Fin.val (place_ofNat i)

/-- Opcodes for all places make a table. -/
theorem exists_lookup_eq {op : Fin 256 → Opcode} (hplace : ∀ i, place (op i).code = i)
    (hsized : ∀ i, (op i).Sized) : ∃ t : OpcodeTable, ∀ code, t.lookup code = op (place code) := by
  have hcode (i : Fin 256) : (op i).code.toNat = i.val :=
    show (place (op i).code).val = i.val from congrArg Fin.val (hplace i)
  exact ⟨ofFn op hcode hsized, fun code => get_ofFn op hcode hsized (place code)⟩

/-- **There is a verdict** on all entries. -/
theorem exists_verdict (ops : List Opcode) : ∃ r, Verdict (some ops) r := by
  obtain h | ⟨before, op, rest, rfl, hbefore, hop⟩ := flawless_or_exists_first ops
  · by_cases hmissing : missing ops = []
    · choose op hmem hplace using exists_mem_of_missing_eq_nil hmissing
      obtain ⟨t, ht⟩ := exists_lookup_eq hplace fun i => h.sized _ (hmem i)
      refine ⟨.ok t, .whole h.sized (fun code => ?_) fun o ho => ?_⟩
      · refine List.count_eq_one_of_mem h.nodup (List.mem_map.mpr ⟨op (place code), hmem _, ?_⟩)
        exact place_injective (hplace _)
      · rw [ht]
        exact List.inj_on_of_nodup_map h.nodup (hmem _) ho (place_injective (hplace _))
    · exact ⟨_, .incomplete h hmissing⟩
  · by_cases hsized : op.Sized
    · exact ⟨_, .duplicate hbefore hsized (hop.resolve_left (not_not.mpr hsized))⟩
    · exact ⟨_, .steps hbefore hsized⟩

theorem parse_eq_elim (bytes : List UInt8) :
    parse bytes = (entries? bytes).elim (.error .malformed) ofEntries := by
  unfold parse entries?
  cases Json.parse? bytes >>= Json.list? Opcode.ofJson? with
  | none => rfl
  | some ops => rfl

/-- **Parsing and the verdict** are the same. -/
theorem parse_eq_iff {bytes : List UInt8} {r : Except TableError OpcodeTable} :
    parse bytes = r ↔ Verdict (entries? bytes) r := by
  rw [parse_eq_elim]
  cases entries? bytes with
  | none =>
    constructor
    · rintro rfl
      exact .malformed
    · rintro ⟨⟩
      rfl
  | some ops =>
    refine ⟨fun h => ?_, Verdict.ofEntries_eq⟩
    obtain ⟨r', hr'⟩ := exists_verdict ops
    rw [← show r' = r from hr'.ofEntries_eq.symm.trans h]
    exact hr'

/-- **The order of entries** does not matter for a table. -/
theorem Verdict.perm {ops' : List Opcode} (h : Verdict (some ops) (.ok t)) (hperm : ops.Perm ops') :
    Verdict (some ops') (.ok t) := by
  cases h with
  | whole hsized honce hplace =>
    refine .whole (fun op hop => hsized op (hperm.mem_iff.mpr hop)) (fun code => ?_)
      (fun op hop => hplace op (hperm.mem_iff.mpr hop))
    rw [← (hperm.map _).count_eq]
    exact honce code

theorem entries?_of_parse? {bytes : List UInt8} {items : List Json}
    (h : Json.parse? bytes = some (.array items)) :
    entries? bytes = (Json.array items).list? Opcode.ofJson? := by
  unfold entries?
  rw [h]
  rfl

/-- A table that was parsed is parsed from its list in any other order. -/
theorem parse_of_perm {bytes bytes' : List UInt8} {items items' : List Json}
    (hitems : Json.parse? bytes = some (.array items)) (hperm : items.Perm items')
    (hitems' : Json.parse? bytes' = some (.array items')) (h : parse bytes = .ok t) :
    parse bytes' = .ok t := by
  rw [parse_eq_iff, entries?_of_parse? hitems] at h
  rw [parse_eq_iff, entries?_of_parse? hitems']
  cases hops : (Json.array items).list? Opcode.ofJson? with
  | none =>
    rw [hops] at h
    cases h
  | some ops =>
    rw [hops] at h
    obtain ⟨ops', hops', hsame⟩ := Json.list?_perm hperm hops
    rw [hops']
    exact h.perm hsame

/-! ## Files -/

/-- What loading a table gives in a session. -/
def loaded (path : Path) (s : Session) : Except TableError OpcodeTable :=
  ((load path : StateM Session (Except TableError OpcodeTable)) s).1

/-- The table that a session begins with. -/
def loadedOrBuiltin (path : Path) (s : Session) : OpcodeTable :=
  ((loadOrBuiltin path : StateM Session OpcodeTable) s).1

variable {path : Path} {s : Session} {bytes : List UInt8}

/-- A file is loaded by its bytes. -/
theorem loaded_eq_parse (h : s.files.read path = .ok bytes) : loaded path s = parse bytes := by
  unfold loaded load
  simp only [bind, StateT.bind, MonadFiles.readFile, h]
  cases parse bytes with
  | error e => rfl
  | ok t => rfl

/-- Without a file nothing is loaded. -/
theorem exists_loaded_eq_error (h : s.files.contains path = false) :
    ∃ e, loaded path s = .error e := by
  unfold loaded load
  simp only [bind, StateT.bind, MonadFiles.readFile]
  cases hread : s.files.read path with
  | error cause => exact ⟨_, rfl⟩
  | ok bytes => exact absurd (FileTree.contains_of_read hread) (by simp [h])

/-- **A table that cannot be loaded** is replaced by the built-in one. -/
theorem loadedOrBuiltin_eq (path : Path) (s : Session) :
    loadedOrBuiltin path s = (loaded path s).toOption.getD builtin := by
  unfold loadedOrBuiltin loadOrBuiltin
  simp only [bind, StateT.bind, MonadFiles.pathExists]
  cases hexists : s.files.contains path with
  | false =>
    obtain ⟨e, he⟩ := exists_loaded_eq_error hexists
    rw [he]
    rfl
  | true =>
    rw [if_neg (by simp)]
    unfold loaded
    dsimp only [StateT.bind, bind]
    generalize (load path : StateM Session (Except TableError OpcodeTable)) s = result
    obtain ⟨result | t, s'⟩ := result
    · rfl
    · rfl

/-- **Loading fails closed and ignores the order.** A file that can be read is
judged by its verdict, and if it is a table then so is, and the same one, each
file with the items of its list in another order. What cannot be loaded is
replaced by the built-in table. -/
theorem load_fails_closed (path : Path) (s : Session) :
    (∀ bytes, s.files.read path = .ok bytes →
        (∀ r, loaded path s = r ↔ Verdict (entries? bytes) r)
        ∧ ∀ (t : OpcodeTable) (path' : Path) (s' : Session) (bytes' : List UInt8)
            (items items' : List Json), loaded path s = .ok t →
            Json.parse? bytes = some (.array items) → items.Perm items' →
            s'.files.read path' = .ok bytes' → Json.parse? bytes' = some (.array items') →
            loaded path' s' = .ok t)
      ∧ (∀ t, loaded path s = .ok t → loadedOrBuiltin path s = t)
      ∧ (∀ e, loaded path s = .error e → loadedOrBuiltin path s = builtin) := by
  refine ⟨fun bytes hread => ⟨fun r => ?_, ?_⟩, fun t h => ?_, fun e h => ?_⟩
  · rw [loaded_eq_parse hread]
    exact parse_eq_iff
  · intro t path' s' bytes' items items' h hitems hperm hread' hitems'
    rw [loaded_eq_parse hread] at h
    rw [loaded_eq_parse hread']
    exact parse_of_perm hitems hperm hitems' h
  · rw [loadedOrBuiltin_eq, h]
    rfl
  · rw [loadedOrBuiltin_eq, h]
    rfl

/-- Any bytes can be what a file holds. -/
theorem exists_read_eq (bytes : List UInt8) :
    ∃ s : Session, s.files.read ⟨"table.json"⟩ = .ok bytes :=
  ⟨.start _, FileTree.read_of_write (t := .empty) rfl⟩

/-- The document of a table is parsed as the list of its opcodes. -/
theorem parse?_print (t : OpcodeTable) :
    Json.parse? t.print = some (.array (t.entries.toList.map Opcode.toJson)) :=
  Json.parse?_print (plain_entries t.entries.toList)

/-- No table is saved as nothing. -/
theorem length_print_pos (t : OpcodeTable) : 0 < t.print.length := by
  obtain ⟨bytes, last, hprint, -⟩ :=
    Json.exists_print_eq_concat (v := .array (t.entries.toList.map Opcode.toJson)) (by simp)
  rw [show t.print = bytes ++ [last] from hprint, List.length_append]
  exact Nat.succ_pos _

/-- The opcodes of the built-in table in the reverse order. -/
theorem load_reversed_builtin :
    ∃ s : Session,
      s.files.read ⟨"table.json"⟩
          = .ok (Json.array (builtin.entries.toList.map Opcode.toJson).reverse).print
        ∧ loaded ⟨"table.json"⟩ s = .ok builtin ∧ loadedOrBuiltin ⟨"table.json"⟩ s = builtin := by
  obtain ⟨s, hs⟩ := exists_read_eq builtin.print
  obtain ⟨s', hs'⟩ := exists_read_eq
    (Json.array (builtin.entries.toList.map Opcode.toJson).reverse).print
  have hloaded : loaded ⟨"table.json"⟩ s = .ok builtin := by
    rw [loaded_eq_parse hs]
    exact parse_print fits_builtin
  have hloaded' : loaded ⟨"table.json"⟩ s' = .ok builtin := by
    refine ((load_fails_closed _ s).1 _ hs).2 _ _ _ _ _ _ hloaded (parse?_print builtin)
      (List.reverse_perm _).symm hs' (Json.parse?_print ?_)
    rw [← List.map_reverse]
    exact plain_entries _
  exact ⟨s', hs', hloaded', (load_fails_closed _ s').2.1 _ hloaded'⟩

/-! ## Files that were not written to their end -/

/-- **A torn save never loads.** Of the bytes that saving a table wrote no proper
prefix is taken for a table. It is refused as malformed, and the built-in table
is taken instead. -/
theorem torn_save_never_loads {t : OpcodeTable} {written torn : List UInt8} {path path' : Path}
    {s s' s'' : Session}
    (hsave : (t.save path : StateM Session (Except TableError Unit)) s = (.ok (), s'))
    (hwritten : s'.files.read path = .ok written) (hinitial : torn <+: written)
    (hne : torn ≠ written) (htorn : s''.files.read path' = .ok torn) :
    loaded path' s'' = .error .malformed ∧ loadedOrBuiltin path' s'' = builtin := by
  have hprint : written = t.print := by
    have hread := FileTree.read_of_write (write_of_save hsave)
    exact Except.ok.inj (hwritten.symm.trans hread)
  subst hprint
  have hparse : Json.parse? torn = none :=
    Json.parse?_eq_none_of_torn (plain_entries t.entries.toList) (by simp) hinitial hne
  have hloaded : loaded path' s'' = .error .malformed := by
    rw [loaded_eq_parse htorn]
    unfold parse
    rw [hparse]
    rfl
  refine ⟨hloaded, ?_⟩
  rw [loadedOrBuiltin_eq, hloaded]
  rfl

/-- The built-in table, saved where there was no file, without its last byte. -/
theorem torn_save_without_bracket :
    ∃ s'' : Session, s''.files.read ⟨"table.json"⟩ = .ok builtin.print.dropLast
      ∧ loaded ⟨"table.json"⟩ s'' = .error .malformed
      ∧ loadedOrBuiltin ⟨"table.json"⟩ s'' = builtin := by
  obtain ⟨s'', hs''⟩ := exists_read_eq builtin.print.dropLast
  refine ⟨s'', hs'', ?_⟩
  have hsave : (builtin.save ⟨"table.json"⟩ : StateM Session (Except TableError Unit))
      (.start .empty) = (.ok (), _) := rfl
  refine torn_save_never_loads hsave (FileTree.read_of_write (t := .empty) rfl)
    (List.dropLast_prefix _) (fun h => ?_) hs''
  have hlength := congrArg List.length h
  rw [List.length_dropLast] at hlength
  have hpos := length_print_pos builtin
  omega

end OpcodeTable

end Breadboard
