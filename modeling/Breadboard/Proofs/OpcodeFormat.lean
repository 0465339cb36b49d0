import Breadboard.Proofs.JsonSpelling
import Breadboard.Proofs.SavedTable
import Mathlib.Data.List.Count

/-!
# The format of a saved opcode

What is written can be rearranged in a few ways and still be read: the fields in another order,
fields that nobody asked for, a flag of the skeleton left out where it is not set. Rearrangements
follow one another in any number, so they are an inductive relation, and what all of them keep is
what reading depends on: which fields there are under the names that are known, and that no two of
them have the same name. A flag that is left out is the one exception, and it is read as it was.

What is at fault, on the other hand, is said of the document alone. The reader goes through the
fields one after another and gives nothing if one is missing, and a matrix is read as a list of
lists of lists of words, each of its length, with no place for anything else.
-/

namespace Breadboard

namespace Json

/-! ## Records by their entries -/

/-- **The entries of a document** that is read as a record: the fields of an object, or the items of
an array under the names in their order. -/
def entries (names : List String) : Json → List (List UInt8 × Json)
  | .object fields => fields
  | .array items => (names.map Text.utf8).zip items
  | _ => []

namespace Record

variable {r : Record} {name : String} {v : Json}

/-- Fields with their names as bytes. -/
def encoded (r : Record) : List (List UInt8 × Json) := r.map fun f => (Text.utf8 f.1, f.2)

theorem mem_encoded_iff : (Text.utf8 name, v) ∈ r.encoded ↔ (name, v) ∈ r := by
  constructor
  · intro h
    obtain ⟨f, hf, heq⟩ := List.mem_map.mp h
    obtain ⟨hname, rfl⟩ := Prod.mk.inj heq
    rw [← Text.utf8_injective hname]
    exact hf
  · exact fun h => List.mem_map.mpr ⟨_, h, rfl⟩

theorem count_keys_encoded (r : Record) (name : String) :
    (r.encoded.map (·.1)).count (Text.utf8 name) = (r.map (·.1)).count name := by
  have hkeys : r.encoded.map (·.1) = (r.map (·.1)).map Text.utf8 := by
    unfold encoded
    rw [List.map_map, List.map_map]
    rfl
  rw [hkeys]
  exact List.count_map_of_injective _ _ (fun _ _ => Text.utf8_injective) name

/-- The known ones among some fields. -/
def known (names : List String) (r : Record) : Record := r.filter (names.contains ·.1)

theorem mem_known_iff {names : List String} (hname : name ∈ names) :
    (name, v) ∈ r.known names ↔ (name, v) ∈ r := by
  unfold known
  rw [List.mem_filter, List.contains_iff_mem]
  exact and_iff_left hname

theorem count_keys_known {names : List String} (hname : name ∈ names) :
    ((r.known names).map (·.1)).count name = (r.map (·.1)).count name := by
  have hkeys : (r.known names).map (·.1) = (r.map (·.1)).filter names.contains := by
    rw [List.filter_map]
    rfl
  rw [hkeys, List.count_filter (List.contains_iff_mem.mpr hname)]

/-- **What is found under a name**, if no two fields have the same one. -/
theorem lookup_eq_some_iff (hnodup : (r.map (·.1)).Nodup) :
    r.lookup name = some v ↔ (name, v) ∈ r := by
  induction r with
  | nil => simp
  | cons field rest ih =>
    obtain ⟨key, value⟩ := field
    obtain ⟨hfresh, hrest⟩ := List.nodup_cons.mp hnodup
    rw [List.lookup_cons, List.mem_cons]
    by_cases hkey : name = key
    · subst hkey
      have hnotMem : (name, v) ∉ rest := fun h => hfresh (List.mem_map.mpr ⟨_, h, rfl⟩)
      simp [hnotMem, eq_comm]
    · simp [hkey, beq_eq_false_iff_ne.mpr hkey, ih hrest]

end Record

/-- Fields whose names are texts are those texts encoded. -/
theorem eq_encoded_of_mapM {fields : List (List UInt8 × Json)} {named : Record}
    (h : fields.mapM (fun (key, value) => (·, value) <$> Text.ofUtf8? key) = some named) :
    fields = named.encoded := by
  induction fields generalizing named with
  | nil =>
    cases h
    rfl
  | cons field rest ih =>
    rw [List.mapM_cons] at h
    obtain ⟨f, hf, h⟩ := Option.bind_eq_some_iff.mp h
    obtain ⟨more, hmore, h⟩ := Option.bind_eq_some_iff.mp h
    cases h
    obtain ⟨key, hkey, rfl⟩ := Option.map_eq_some_iff.mp hf
    rw [ih hmore]
    show field :: Record.encoded more = (Text.utf8 key, field.2) :: Record.encoded more
    rw [Text.utf8_of_ofUtf8? hkey]

/-- **What is read as a record** is the known ones among its entries. -/
theorem exists_of_record? {names : List String} (hnames : names.Nodup) {v : Json} {r : Record}
    (h : v.record? names = some r) :
    ∃ named : Record, v.entries names = named.encoded ∧ named.known names = r
      ∧ (r.map (·.1)).Nodup := by
  cases v with
  | object fields =>
    obtain ⟨named, hnamed, h⟩ := Option.bind_eq_some_iff.mp h
    dsimp only at h
    split at h
    · rename_i hnodup
      cases h
      exact ⟨named, eq_encoded_of_mapM hnamed, rfl, hnodup⟩
    · cases h
  | array items =>
    change (if items.length ≤ names.length then some (names.zip items) else none) = some r at h
    obtain ⟨hle, h⟩ := Option.ite_none_right_eq_some.mp h
    cases h
    have hkeys : ((names.zip items).map (·.1)).Sublist names := by
      rw [List.zip_eq_zip_take_min, List.map_fst_zip (by simp)]
      exact List.take_sublist _ _
    refine ⟨names.zip items, List.zip_map_left, ?_, hkeys.nodup hnames⟩
    refine List.filter_eq_self.mpr fun f hf => List.contains_iff_mem.mpr ?_
    exact (List.of_mem_zip hf).1
  | _ => cases h

/-- A known name stands for one entry at most. -/
theorem count_entries_le_one {names : List String} (hnames : names.Nodup) {v : Json} {r : Record}
    (h : v.record? names = some r) {name : String} (hname : name ∈ names) :
    ((v.entries names).map (·.1)).count (Text.utf8 name) ≤ 1 := by
  obtain ⟨named, hentries, rfl, hnodup⟩ := exists_of_record? hnames h
  rw [hentries, Record.count_keys_encoded, ← Record.count_keys_known hname]
  exact List.nodup_iff_count_le_one.mp hnodup name

/-- **What is found under a known name** is its entry. -/
theorem lookup_eq_some_iff_mem_entries {names : List String} (hnames : names.Nodup) {v : Json}
    {r : Record} (h : v.record? names = some r) {name : String} (hname : name ∈ names)
    {value : Json} : r.lookup name = some value ↔ (Text.utf8 name, value) ∈ v.entries names := by
  obtain ⟨named, hentries, rfl, hnodup⟩ := exists_of_record? hnames h
  rw [Record.lookup_eq_some_iff hnodup, Record.mem_known_iff hname, hentries,
    Record.mem_encoded_iff]

theorem record_injective {r r' : Record} (h : record r = record r') : r = r' := by
  refine List.map_injective_iff.mpr (fun f g hfg => ?_) (object.inj h)
  obtain ⟨hname, hvalue⟩ := Prod.mk.inj hfg
  exact Prod.ext (Text.utf8_injective hname) hvalue

/-! ## Grids -/

/-- **A grid** of some dimensions: a list of lists of lists and so on, each of its length. -/
def IsGrid : List Nat → Json → Prop
  | [], _ => True
  | n :: dimensions, v =>
    ∃ items, v = .array items ∧ items.length = n ∧ ∀ item ∈ items, item.IsGrid dimensions

/-- What is read of a list is one thing for each item. -/
theorem of_mapM_eq_some {α : Type} {read : Json → Option α} {items : List Json} {xs : List α}
    (h : items.mapM read = some xs) :
    xs.length = items.length ∧ ∀ item ∈ items, ∃ x, read item = some x := by
  induction items generalizing xs with
  | nil =>
    cases h
    exact ⟨rfl, by simp⟩
  | cons item rest ih =>
    obtain ⟨a, as, ha, has, rfl⟩ := mapM_cons_eq_some_iff.mp h
    obtain ⟨hlength, hrest⟩ := ih has
    exact ⟨congrArg Nat.succ hlength, List.forall_mem_cons.mpr ⟨⟨a, ha⟩, hrest⟩⟩

/-- A number in an array is one in an item of it. -/
theorem exists_of_number_mem_array {n : Numeral} {items : List Json}
    (h : .number n ∈ (array items).tokens) : ∃ v ∈ items, .number n ∈ v.tokens := by
  obtain h | h := List.mem_cons.mp h
  · cases h
  obtain h | h := List.mem_append.mp h
  · obtain h | hitem := mem_itemTokens h
    · cases h
    · exact hitem
  · cases List.mem_singleton.mp h

end Json

namespace Matrix

variable {α : Type} {read : Json → Option α} {v : Json}

theorem exists_items_of_exactly? {n : Nat} {xs : List α} (h : exactly? n read v = some xs) :
    ∃ items, v = .array items ∧ items.length = n
      ∧ ∀ item ∈ items, ∃ x, read item = some x := by
  obtain ⟨ys, hys, h⟩ := Option.bind_eq_some_iff.mp h
  obtain ⟨hlength, -⟩ := Option.ite_none_right_eq_some.mp h
  cases v with
  | array items =>
    obtain ⟨hsame, hitems⟩ := Json.of_mapM_eq_some hys
    exact ⟨items, rfl, hsame.symm.trans hlength, hitems⟩
  | _ => cases hys

/-- A list of grids of the right length is a grid. -/
theorem isGrid_of_exactly? {dimensions : List Nat}
    (hread : ∀ {item x}, read item = some x → item.IsGrid dimensions) {n : Nat} {xs : List α}
    (h : exactly? n read v = some xs) : v.IsGrid (n :: dimensions) := by
  obtain ⟨items, rfl, hlength, hitems⟩ := exists_items_of_exactly? h
  refine ⟨items, rfl, hlength, fun item hitem => ?_⟩
  obtain ⟨x, hx⟩ := hitems item hitem
  exact hread hx

/-- What holds of the numbers in all that is read holds of those in a list of it. -/
theorem forall_number_of_exactly? {p : Json.Numeral → Prop}
    (hread : ∀ {item x}, read item = some x → ∀ m, .number m ∈ item.tokens → p m) {n : Nat}
    {xs : List α} (h : exactly? n read v = some xs) : ∀ m, .number m ∈ v.tokens → p m := by
  obtain ⟨items, rfl, -, hitems⟩ := exists_items_of_exactly? h
  intro m hm
  obtain ⟨item, hitem, hm⟩ := Json.exists_of_number_mem_array hm
  obtain ⟨x, hx⟩ := hitems item hitem
  exact hread hx m hm

/-- **A number that is a word**: a whole one below two to the forty-eighth, written as such. -/
def IsWord (n : Json.Numeral) : Prop := ∃ k : Nat, k < 2 ^ 48 ∧ n = .integer k

theorem isWord_of_wordOfJson? {w : ControlWord} (h : wordOfJson? v = some w) :
    ∀ m, .number m ∈ v.tokens → IsWord m := by
  obtain ⟨n, hn, -⟩ := Option.map_eq_some_iff.mp h
  unfold Json.natBelow? at hn
  split at hn
  · rename_i k
    obtain ⟨hlt, -⟩ := Option.ite_none_right_eq_some.mp hn
    intro m hm
    cases List.mem_singleton.mp hm
    exact ⟨k, hlt, rfl⟩
  · cases hn

/-- **What is read as a matrix** is a grid of sixteen by eight by two, and each number in it is a
word. -/
theorem isGrid_of_ofJson? {m : Matrix} (h : ofJson? v = some m) :
    v.IsGrid [16, 8, 2] ∧ ∀ n, .number n ∈ v.tokens → IsWord n := by
  obtain ⟨slots, hslots, -⟩ := Option.bind_eq_some_iff.mp h
  have hword {item : Json} {w : ControlWord} (_ : wordOfJson? item = some w) : item.IsGrid [] :=
    trivial
  exact ⟨isGrid_of_exactly? (isGrid_of_exactly? (isGrid_of_exactly? hword)) hslots,
    forall_number_of_exactly? (forall_number_of_exactly?
      (forall_number_of_exactly? isWord_of_wordOfJson?)) hslots⟩

end Matrix

namespace Opcode

open Json

/-! ## Rearrangements -/

/-- The fields that may be left out. -/
def omittable : List String := ["usesAddressing", "usesTrailer"]

/-- **Rearrangements** of the saved form of an opcode. -/
inductive Rearranged (op : Opcode) : Record → Prop where
  /-- The saved form itself. -/
  | saved {fields : Record} (h : op.toJson = .record fields) : Rearranged op fields
  /-- The fields in another order. -/
  | reordered {fields fields' : Record} (h : Rearranged op fields) (hperm : fields.Perm fields') :
    Rearranged op fields'
  /-- One more field of any value, under a name that is not known. -/
  | added {fields : Record} {key : String} {value : Json} (h : Rearranged op fields)
    (hkey : key ∉ fieldNames) : Rearranged op ((key, value) :: fields)
  /-- A flag left out that is not set. -/
  | omitted {fields : Record} {name : String} (h : Rearranged op fields) (hname : name ∈ omittable)
    (hfalse : (name, .bool false) ∈ fields) : Rearranged op (fields.filter (·.1 != name))

/-- **Alike**: fields that are read as others are. -/
structure Alike (saved fields : Record) : Prop where
  /-- No known name occurs twice. -/
  nodup : ((fields.known fieldNames).map (·.1)).Nodup
  /-- The fields that have to be there are the same. -/
  needed : ∀ name ∈ fieldNames, name ∉ omittable →
    ∀ v, (name, v) ∈ fields ↔ (name, v) ∈ saved
  /-- A flag is the same, or is left out and not set. -/
  flags : ∀ name ∈ omittable, (∀ v, (name, v) ∈ fields ↔ (name, v) ∈ saved)
    ∨ (name, .bool false) ∈ saved ∧ ∀ v, (name, v) ∉ fields

theorem nodup_fieldNames : fieldNames.Nodup := by decide

theorem omittable_subset {name : String} (h : name ∈ omittable) : name ∈ fieldNames := by
  revert h name
  decide

theorem names_of_toJson {op : Opcode} {saved : Record} (h : op.toJson = .record saved) :
    saved.map (·.1) = fieldNames := by
  obtain ⟨fields, hfields, hnames⟩ : ∃ fields : Record, op.toJson = .record fields
    ∧ fields.map (·.1) = fieldNames := ⟨_, rfl, rfl⟩
  rw [record_injective (h.symm.trans hfields)]
  exact hnames

theorem alike_saved {op : Opcode} {saved : Record} (h : op.toJson = .record saved) :
    Alike saved saved where
  nodup := (List.filter_sublist.map _).nodup (names_of_toJson h ▸ nodup_fieldNames)
  needed := fun _ _ _ _ => .rfl
  flags := fun _ _ => .inl fun _ => .rfl

/-- Other fields with the same ones under the known names are alike as well. -/
theorem Alike.congr {saved fields fields' : Record} (h : Alike saved fields)
    (hnodup : ((fields'.known fieldNames).map (·.1)).Nodup)
    (hmem : ∀ name ∈ fieldNames, ∀ v, (name, v) ∈ fields' ↔ (name, v) ∈ fields) :
    Alike saved fields' where
  nodup := hnodup
  needed := fun name hname hneeded v => (hmem name hname v).trans (h.needed name hname hneeded v)
  flags := fun name hname => by
    have hsame := hmem name (omittable_subset hname)
    refine (h.flags name hname).imp (fun hthere v => ?_) (.imp_right fun habsent v => ?_)
    · exact (hsame v).trans (hthere v)
    · exact mt (hsame v).mp (habsent v)

/-- **What rearrangements keep** is what reading depends on. -/
theorem Rearranged.alike {op : Opcode} {fields : Record} (h : op.Rearranged fields) :
    ∃ saved : Record, op.toJson = .record saved ∧ Alike saved fields := by
  induction h with
  | saved h => exact ⟨_, h, alike_saved h⟩
  | reordered _ hperm ih =>
    obtain ⟨saved, hsaved, halike⟩ := ih
    have hnodup := ((hperm.filter (fieldNames.contains ·.1)).map (·.1)).nodup_iff.mp halike.nodup
    exact ⟨saved, hsaved, halike.congr hnodup fun _ _ _ => hperm.mem_iff.symm⟩
  | @added fields key value _ hkey ih =>
    obtain ⟨saved, hsaved, halike⟩ := ih
    have hknown : Record.known fieldNames ((key, value) :: fields) = fields.known fieldNames :=
      List.filter_cons_of_neg (by simpa using hkey)
    refine ⟨saved, hsaved, halike.congr (hknown ▸ halike.nodup) fun name hname v => ?_⟩
    have hne : name ≠ key := fun heq => hkey (heq ▸ hname)
    simp [hne]
  | @omitted fields left _ hleft hfalse ih =>
    obtain ⟨saved, hsaved, halike⟩ := ih
    have hmem {name : String} (hne : name ≠ left) (v : Json) :
        (name, v) ∈ fields.filter (·.1 != left) ↔ (name, v) ∈ fields := by
      simp [hne]
    refine ⟨saved, hsaved, ?_, fun name hname hneeded v => ?_, fun name hname => ?_⟩
    · have hfewer : (fields.filter (·.1 != left)).Sublist fields := List.filter_sublist
      exact ((hfewer.filter _).map _).nodup halike.nodup
    · have hne : name ≠ left := fun heq => hneeded (heq ▸ hleft)
      exact (hmem hne v).trans (halike.needed name hname hneeded v)
    · by_cases hne : name = left
      · subst hne
        refine .inr ⟨?_, by simp⟩
        obtain hsame | ⟨-, habsent⟩ := halike.flags name hname
        · exact (hsame _).mp hfalse
        · exact absurd hfalse (habsent _)
      · refine (halike.flags name hname).imp (fun hsame v => ?_) (.imp_right fun habsent v => ?_)
        · exact (hmem hne v).trans (hsame v)
        · exact mt (hmem hne v).mp (habsent v)

/-! ## Reading -/

/-- **Reading depends** on what is found under each name, and for a flag on what that is read as. -/
theorem ofJson?_congr {v v' : Json} {r r' : Record} (hr : v.record? fieldNames = some r)
    (hr' : v'.record? fieldNames = some r')
    (hneeded : ∀ name ∈ fieldNames, name ∉ omittable → r.lookup name = r'.lookup name)
    (hflags : ∀ name ∈ omittable,
      r.fieldOr? name false bool? = r'.fieldOr? name false bool?) : ofJson? v = ofJson? v' := by
  have hfield {α : Type} (name : String) (reader : Json → Option α)
      (h : name ∈ fieldNames ∧ name ∉ omittable) : r.field? name reader = r'.field? name reader :=
    congrArg (· >>= reader) (hneeded name h.1 h.2)
  unfold ofJson?
  rw [hr, hr', Option.bind_eq_bind, Option.bind_some, Option.bind_eq_bind, Option.bind_some,
    hfield "name" _ (by decide), hfield "opCode" _ (by decide), hfield "syntax" _ (by decide),
    hfield "addrMode" _ (by decide), hfield "operands" _ (by decide),
    hfield "steps" _ (by decide), hfield "pageCross" _ (by decide),
    hfield "branchBit" _ (by decide), hfield "branchSet" _ (by decide),
    hfield "virtual" _ (by decide), hfield "lines" _ (by decide), hfield "presets" _ (by decide),
    hflags "usesAddressing" (by decide), hflags "usesTrailer" (by decide)]

/-- **A rearrangement is read** as the opcode. -/
theorem ofJson?_of_rearranged {op : Opcode} (hfits : op.Fits) {fields : Record}
    (h : op.Rearranged fields) : ofJson? (.record fields) = some op := by
  obtain ⟨saved, hsaved, halike⟩ := h.alike
  have hread {r : Record} (hnodup : ((r.known fieldNames).map (·.1)).Nodup) :
      (record r).record? fieldNames = some (r.known fieldNames) := by
    rw [record?_record_eq]
    exact if_pos hnodup
  have hsavedNodup := (alike_saved hsaved).nodup
  have hlookup {name : String} (hname : name ∈ fieldNames)
      (hsame : ∀ v, (name, v) ∈ fields ↔ (name, v) ∈ saved) :
      (fields.known fieldNames).lookup name = (saved.known fieldNames).lookup name := by
    refine Option.ext fun v => ?_
    rw [Record.lookup_eq_some_iff halike.nodup, Record.lookup_eq_some_iff hsavedNodup,
      Record.mem_known_iff hname, Record.mem_known_iff hname]
    exact hsame v
  rw [← ofJson?_toJson hfits, hsaved]
  refine ofJson?_congr (hread halike.nodup) (hread hsavedNodup)
    (fun name hname hneeded => hlookup hname (halike.needed name hname hneeded))
    fun name hname => ?_
  have hknown := omittable_subset hname
  unfold Record.fieldOr?
  obtain hsame | ⟨hfalse, habsent⟩ := halike.flags name hname
  · rw [hlookup hknown hsame]
  · -- What is not there is read as not set, which is what was saved.
    have hnone : (fields.known fieldNames).lookup name = none := by
      refine Option.eq_none_iff_forall_not_mem.mpr fun v hv => habsent v ?_
      exact (Record.mem_known_iff hknown).mp ((Record.lookup_eq_some_iff halike.nodup).mp hv)
    have hsome : (saved.known fieldNames).lookup name = some (.bool false) :=
      (Record.lookup_eq_some_iff hsavedNodup).mpr ((Record.mem_known_iff hknown).mpr hfalse)
    rw [hnone, hsome]
    rfl

/-! ## Faults -/

/-- The fields that hold matrices. -/
def matrices : List String := ["lines", "presets"]

theorem matrices_subset {name : String} (h : name ∈ matrices) : name ∈ fieldNames := by
  revert h name
  decide

/-- **Faults** of a document that is to be read as an opcode. -/
inductive Faulty (v : Json) : Prop where
  /-- A known name occurs twice. -/
  | repeated {name : String} (hname : name ∈ fieldNames)
    (h : 2 ≤ ((v.entries fieldNames).map (·.1)).count (Text.utf8 name))
  /-- A field is missing that has to be there. -/
  | lacking {name : String} (hname : name ∈ fieldNames) (hneeded : name ∉ omittable)
    (h : Text.utf8 name ∉ (v.entries fieldNames).map (·.1))
  /-- A matrix has another shape. -/
  | misshapen {name : String} {value : Json} (hname : name ∈ matrices)
    (h : (Text.utf8 name, value) ∈ v.entries fieldNames) (hshape : ¬ value.IsGrid [16, 8, 2])
  /-- A number in a matrix is no word, as those that use more than forty-eight bits are none. -/
  | oversized {name : String} {value : Json} {n : Numeral} (hname : name ∈ matrices)
    (h : (Text.utf8 name, value) ∈ v.entries fieldNames) (hn : .number n ∈ value.tokens)
    (hlarge : ¬ Matrix.IsWord n)

/-- **What an opcode was read from**: a record with all fields that have to be there, and with a
matrix wherever there is to be one. -/
theorem exists_of_ofJson? {v : Json} {op : Opcode} (h : ofJson? v = some op) :
    ∃ r, v.record? fieldNames = some r
      ∧ (∀ name ∈ fieldNames, name ∉ omittable → ∃ value, r.lookup name = some value)
      ∧ ∀ name ∈ matrices, ∃ value, r.lookup name = some value
        ∧ ∃ m, Matrix.ofJson? value = some m := by
  obtain ⟨r, hr, h⟩ := Option.bind_eq_some_iff.mp h
  obtain ⟨_, hname, h⟩ := Option.bind_eq_some_iff.mp h
  obtain ⟨_, hcode, h⟩ := Option.bind_eq_some_iff.mp h
  obtain ⟨_, hsyntax, h⟩ := Option.bind_eq_some_iff.mp h
  obtain ⟨_, hmode, h⟩ := Option.bind_eq_some_iff.mp h
  obtain ⟨_, hoperands, h⟩ := Option.bind_eq_some_iff.mp h
  obtain ⟨_, hsteps, h⟩ := Option.bind_eq_some_iff.mp h
  obtain ⟨_, hpageCross, h⟩ := Option.bind_eq_some_iff.mp h
  obtain ⟨_, hbranchBit, h⟩ := Option.bind_eq_some_iff.mp h
  obtain ⟨_, hbranchSet, h⟩ := Option.bind_eq_some_iff.mp h
  obtain ⟨_, hvirtual, h⟩ := Option.bind_eq_some_iff.mp h
  obtain ⟨_, hlines, h⟩ := Option.bind_eq_some_iff.mp h
  obtain ⟨_, hpresets, h⟩ := Option.bind_eq_some_iff.mp h
  have hthere {α : Type} {name : String} {reader : Json → Option α} {a : α}
      (h : r.field? name reader = some a) : ∃ value, r.lookup name = some value :=
    (Record.exists_of_field? h).imp fun _ => And.left
  have hmatrix {name : String} {m : Matrix} (h : r.field? name Matrix.ofJson? = some m) :
      ∃ value, r.lookup name = some value ∧ ∃ m, Matrix.ofJson? value = some m :=
    (Record.exists_of_field? h).imp fun _ => .imp_right fun hm => ⟨m, hm⟩
  refine ⟨r, hr, ?_, ?_⟩
  · simp only [fieldNames, List.forall_mem_cons]
    exact ⟨fun _ => hthere hname, fun _ => hthere hcode, fun _ => hthere hsyntax,
      fun _ => hthere hmode, fun _ => hthere hoperands, fun _ => hthere hsteps,
      fun _ => hthere hpageCross, fun _ => hthere hbranchBit, fun _ => hthere hbranchSet,
      fun _ => hthere hvirtual, fun _ => hthere hlines, fun _ => hthere hpresets,
      fun hneeded => absurd (by decide) hneeded, fun hneeded => absurd (by decide) hneeded,
      fun _ hmem => absurd hmem List.not_mem_nil⟩
  · simp only [matrices, List.forall_mem_cons]
    exact ⟨hmatrix hlines, hmatrix hpresets, fun _ hmem => absurd hmem List.not_mem_nil⟩

/-- **A fault is refused.** -/
theorem ofJson?_eq_none_of_faulty {v : Json} (h : Faulty v) : ofJson? v = none := by
  refine Option.eq_none_iff_forall_not_mem.mpr fun op hop => ?_
  obtain ⟨r, hr, hthere, hmatrix⟩ := exists_of_ofJson? hop
  have hread {name : String} {value : Json} (hname : name ∈ matrices)
      (hentry : (Text.utf8 name, value) ∈ v.entries fieldNames) :
      value.IsGrid [16, 8, 2] ∧ ∀ n, .number n ∈ value.tokens → Matrix.IsWord n := by
    obtain ⟨found, hfound, m, hm⟩ := hmatrix name hname
    have hlookup := (lookup_eq_some_iff_mem_entries nodup_fieldNames hr
      (matrices_subset hname)).mpr hentry
    cases Option.some.inj (hlookup.symm.trans hfound)
    exact Matrix.isGrid_of_ofJson? hm
  cases h with
  | repeated hname htwice =>
    exact absurd (count_entries_le_one nodup_fieldNames hr hname) (Nat.not_le_of_lt htwice)
  | lacking hname hneeded hmissing =>
    obtain ⟨value, hvalue⟩ := hthere _ hname hneeded
    have hentry := (lookup_eq_some_iff_mem_entries nodup_fieldNames hr hname).mp hvalue
    exact hmissing (List.mem_map.mpr ⟨_, hentry, rfl⟩)
  | misshapen hname hentry hshape => exact hshape (hread hname hentry).1
  | oversized hname hentry hn hlarge => exact hlarge ((hread hname hentry).2 _ hn)

/-! ## Texts -/

/-- **The format is strict and no stricter.** What is printed of an opcode is one of its texts; each
text of a rearrangement, whatever the white space in it, is parsed as the opcode; and no text of a
faulty document is parsed. -/
theorem parses_rearranged_refuses_faulty :
    (∀ op : Opcode, op.Fits → op.toJson.SpelledBy op.toJson.print
      ∧ ∀ (fields : Record) (text : List UInt8), op.Rearranged fields →
        (record fields).SpelledBy text → parse? text = some op)
    ∧ ∀ (v : Json) (text : List UInt8), Faulty v → v.SpelledBy text → parse? text = none := by
  refine ⟨fun op hfits => ⟨spelledBy_print op.plain_toJson, ?_⟩, ?_⟩
  · intro fields text hfields htext
    unfold parse?
    rw [parse?_of_spelledBy htext, Option.bind_eq_bind, Option.bind_some]
    exact ofJson?_of_rearranged hfits hfields
  · intro v text hv htext
    unfold parse?
    rw [parse?_of_spelledBy htext, Option.bind_eq_bind, Option.bind_some]
    exact ofJson?_eq_none_of_faulty hv

end Opcode

end Breadboard
