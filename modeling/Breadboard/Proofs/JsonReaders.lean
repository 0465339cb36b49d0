import Breadboard.Json.Decode
import Breadboard.Proofs.JsonDocument

/-!
# Readers take what was written

One law for each kind of value that is saved: what is written as that kind is
read back as it was. A reader that is built from others has a law that is built
from theirs, so the law of a list asks for that of its items and the law of a
record for the names of its fields only.

Beside it stands, for each kind, that what is written holds no numbers but
integers, which is what a document has to satisfy to be parsed again.
-/

namespace Breadboard.Json

/-! ## Values without other numbers -/

theorem plain_of_token {v : Json} {t : Token} (hv : v.tokens = [t]) (ht : t.Plain) : v.Plain := by
  intro u hu
  rw [hv, List.mem_singleton] at hu
  rw [hu]
  exact ht

theorem plain_nat (n : Nat) : (nat n).Plain := plain_of_token rfl ⟨n, rfl⟩

theorem plain_text (s : String) : (text s).Plain := plain_of_token rfl trivial

theorem plain_bool (b : Bool) : (bool b).Plain := plain_of_token rfl trivial

/-- A token among those of an array's items is a comma or one of an item. -/
theorem mem_itemTokens {t : Token} {items : List Json} (h : t ∈ itemTokens items) :
    t = .comma ∨ ∃ v ∈ items, t ∈ v.tokens := by
  induction items with
  | nil => exact absurd h List.not_mem_nil
  | cons v rest ih =>
    by_cases hempty : rest = []
    · rw [hempty] at h
      exact Or.inr ⟨v, List.mem_cons_self, h⟩
    · rw [itemTokens_cons v hempty] at h
      obtain h | h := List.mem_append.mp h
      · exact Or.inr ⟨v, List.mem_cons_self, h⟩
      obtain h | h := List.mem_cons.mp h
      · exact Or.inl h
      obtain h | ⟨w, hw, h⟩ := ih h
      · exact Or.inl h
      · exact Or.inr ⟨w, List.mem_cons_of_mem v hw, h⟩

/-- A token among those of an object's fields is a number only within a field. -/
theorem mem_fieldTokens {t : Token} {fields : List (List UInt8 × Json)}
    (h : t ∈ fieldTokens fields) : t.isNumber = false ∨ ∃ f ∈ fields, t ∈ f.2.tokens := by
  induction fields with
  | nil => exact absurd h List.not_mem_nil
  | cons field rest ih =>
    obtain ⟨key, v⟩ := field
    by_cases hempty : rest = []
    · rw [hempty] at h
      obtain rfl | h := List.mem_cons.mp h
      · exact Or.inl rfl
      obtain rfl | h := List.mem_cons.mp h
      · exact Or.inl rfl
      · exact Or.inr ⟨(key, v), List.mem_cons_self, h⟩
    · rw [fieldTokens_cons key v hempty] at h
      obtain rfl | h := List.mem_cons.mp h
      · exact Or.inl rfl
      obtain rfl | h := List.mem_cons.mp h
      · exact Or.inl rfl
      obtain h | h := List.mem_append.mp h
      · exact Or.inr ⟨(key, v), List.mem_cons_self, h⟩
      obtain rfl | h := List.mem_cons.mp h
      · exact Or.inl rfl
      obtain h | ⟨f, hf, h⟩ := ih h
      · exact Or.inl h
      · exact Or.inr ⟨f, List.mem_cons_of_mem _ hf, h⟩

theorem plain_of_not_number {t : Token} (h : t.isNumber = false) : t.Plain := by
  cases t with
  | number n => exact absurd h (by simp [Token.isNumber])
  | _ => exact trivial

theorem plain_array {items : List Json} (h : ∀ v ∈ items, v.Plain) : (array items).Plain := by
  intro t ht
  obtain rfl | ht := List.mem_cons.mp ht
  · exact trivial
  obtain ht | ht := List.mem_append.mp ht
  · obtain rfl | ⟨v, hv, ht⟩ := mem_itemTokens ht
    · exact trivial
    · exact h v hv t ht
  · rw [List.mem_singleton.mp ht]
    exact trivial

theorem plain_object {fields : List (List UInt8 × Json)} (h : ∀ f ∈ fields, f.2.Plain) :
    (object fields).Plain := by
  intro t ht
  obtain rfl | ht := List.mem_cons.mp ht
  · exact trivial
  obtain ht | ht := List.mem_append.mp ht
  · obtain hnumber | ⟨f, hf, ht⟩ := mem_fieldTokens ht
    · exact plain_of_not_number hnumber
    · exact h f hf t ht
  · rw [List.mem_singleton.mp ht]
    exact trivial

theorem plain_record {fields : List (String × Json)} (h : ∀ f ∈ fields, f.2.Plain) :
    (record fields).Plain := by
  refine plain_object fun f hf => ?_
  obtain ⟨field, hfield, rfl⟩ := List.mem_map.mp hf
  exact h field hfield

/-! ## Readers -/

@[simp]
theorem bool?_bool (b : Bool) : (bool b).bool? = some b := rfl

@[simp]
theorem text?_text (s : String) : (text s).text? = some s := Text.ofUtf8?_utf8 s

theorem natBelow?_nat {limit n : Nat} (h : n < limit) : (nat n).natBelow? limit = some n :=
  if_pos h

@[simp]
theorem byte?_nat (b : UInt8) : (nat b.toNat).byte? = some b := by
  unfold byte?
  rw [natBelow?_nat b.toNat_lt, Option.map_some, UInt8.ofNat_toNat]

/-- A name is read by whoever knows it. -/
theorem choice?_text {α : Type} {ofName? : String → Option α} {name : String} {a : α}
    (h : ofName? name = some a) : (text name).choice? ofName? = some a := by
  show (Text.ofUtf8? (Text.utf8 name)).bind ofName? = _
  rw [Text.ofUtf8?_utf8, Option.bind_some, h]

/-- **A list is read** by a reader of its items. -/
theorem list?_map {α β : Type} {write : α → Json} {read : Json → Option β} {f : α → β}
    {xs : List α} (h : ∀ x ∈ xs, read (write x) = some (f x)) :
    (array (xs.map write)).list? read = some (xs.map f) := by
  show (xs.map write).mapM read = _
  induction xs with
  | nil => rfl
  | cons x rest ih =>
    rw [List.map_cons, List.mapM_cons, h x List.mem_cons_self,
      ih fun y hy => h y (List.mem_cons_of_mem x hy)]
    rfl

/-- A list is read item by item. -/
theorem mapM_cons_eq_some_iff {α : Type} {read : Json → Option α} {item : Json}
    {rest : List Json} {xs : List α} :
    (item :: rest).mapM read = some xs
      ↔ ∃ a as, read item = some a ∧ rest.mapM read = some as ∧ xs = a :: as := by
  rw [List.mapM_cons, Option.bind_eq_bind, Option.bind_eq_some_iff]
  refine exists_congr fun a => ?_
  rw [Option.bind_eq_bind, Option.bind_eq_some_iff]
  constructor
  · rintro ⟨ha, as, has, h⟩
    exact ⟨as, ha, has, (Option.some.inj h).symm⟩
  · rintro ⟨as, ha, has, rfl⟩
    exact ⟨ha, as, has, rfl⟩

/-- What holds of all that a reader gives holds of the items of a list it gives. -/
theorem forall_mem_of_list? {α : Type} {read : Json → Option α} {p : α → Prop}
    (hread : ∀ {v a}, read v = some a → p a) {v : Json} {xs : List α}
    (h : v.list? read = some xs) : ∀ x ∈ xs, p x := by
  cases v with
  | array items =>
    change items.mapM read = some xs at h
    induction items generalizing xs with
    | nil =>
      rw [← Option.some.inj h]
      exact fun _ hx => absurd hx List.not_mem_nil
    | cons item rest ih =>
      obtain ⟨a, as, ha, has, rfl⟩ := mapM_cons_eq_some_iff.mp h
      exact List.forall_mem_cons.mpr ⟨hread ha, ih has⟩
  | _ => exact absurd h (by simp [list?])

/-- **The order of items** is kept and plays no other part in the reading of a list. -/
theorem list?_perm {α : Type} {read : Json → Option α} {items items' : List Json}
    (h : items.Perm items') {xs : List α} (hread : (array items).list? read = some xs) :
    ∃ xs', (array items').list? read = some xs' ∧ xs.Perm xs' := by
  change items.mapM read = some xs at hread
  show ∃ xs', items'.mapM read = some xs' ∧ xs.Perm xs'
  induction h generalizing xs with
  | nil => exact ⟨xs, hread, .refl xs⟩
  | cons item _ ih =>
    obtain ⟨a, as, ha, has, rfl⟩ := mapM_cons_eq_some_iff.mp hread
    obtain ⟨as', has', hperm⟩ := ih has
    exact ⟨a :: as', mapM_cons_eq_some_iff.mpr ⟨a, as', ha, has', rfl⟩, hperm.cons a⟩
  | swap first second rest =>
    obtain ⟨b, _, hb, hrest, rfl⟩ := mapM_cons_eq_some_iff.mp hread
    obtain ⟨a, as, ha, has, rfl⟩ := mapM_cons_eq_some_iff.mp hrest
    exact ⟨a :: b :: as, mapM_cons_eq_some_iff.mpr
      ⟨a, b :: as, ha, mapM_cons_eq_some_iff.mpr ⟨b, as, hb, has, rfl⟩, rfl⟩, .swap a b as⟩
  | trans _ _ ih ih' =>
    obtain ⟨as, has, hperm⟩ := ih hread
    obtain ⟨as', has', hperm'⟩ := ih' has
    exact ⟨as', has', hperm.trans hperm'⟩

/-- **A record is read** as those of its fields that were asked for, if no two of them have the same
name. -/
theorem record?_record_eq (names : List String) (fields : Record) :
    (record fields).record? names
      = if ((fields.filter (names.contains ·.1)).map (·.1)).Nodup then
          some (fields.filter (names.contains ·.1))
        else none := by
  have hnamed : (fields.map fun f => (Text.utf8 f.1, f.2)).mapM
      (fun f => (·, f.2) <$> Text.ofUtf8? f.1) = some fields := by
    induction fields with
    | nil => rfl
    | cons field rest ih =>
      rw [List.map_cons, List.mapM_cons, ih]
      show ((·, field.2) <$> Text.ofUtf8? (Text.utf8 field.1) >>= fun named => _) = _
      rw [Text.ofUtf8?_utf8]
      rfl
  show ((fields.map fun f => (Text.utf8 f.1, f.2)).mapM
    (fun f => (·, f.2) <$> Text.ofUtf8? f.1) >>= fun named => _) = _
  rw [hnamed]
  rfl

/-- **A record is read** with all its fields, if their names are those that were
asked for. -/
theorem record?_record {names : List String} {fields : Record}
    (hnames : fields.map (·.1) = names) (hnodup : names.Nodup) :
    (record fields).record? names = some fields := by
  have hknown : fields.filter (names.contains ·.1) = fields := by
    refine List.filter_eq_self.mpr fun f hf => List.contains_iff_mem.mpr ?_
    rw [← hnames]
    exact List.mem_map_of_mem hf
  rw [record?_record_eq, hknown, hnames, if_pos hnodup]

namespace Record

variable {α : Type} {r : Record} {name : String} {reader : Json → Option α} {v : Json} {a : α}

/-- A field is read by its reader. -/
theorem field?_eq (hv : r.lookup name = some v) (ha : reader v = some a) :
    r.field? name reader = some a := by
  unfold field?
  rw [hv]
  exact ha

/-- What a field holds was read of what is found under it. -/
theorem exists_of_field? (h : r.field? name reader = some a) :
    ∃ v, r.lookup name = some v ∧ reader v = some a :=
  Option.bind_eq_some_iff.mp h

theorem fieldOr?_eq {absent : α} (hv : r.lookup name = some v) (ha : reader v = some a) :
    r.fieldOr? name absent reader = some a := by
  unfold fieldOr?
  rw [hv]
  exact ha

end Record

end Breadboard.Json
