import Breadboard.Proofs.JsonReaders

/-!
# Documents that are texts

A string of a document can be any bytes, and so can what is printed of it. If the strings are texts
and the numbers integers, the printed document is a text as well. Only bytes of one-byte characters
are ever escaped, and their escapes are made of such bytes, so escaping goes character by character
and leaves every other character whole.
-/

namespace Breadboard

namespace Text

/-- **Encoded**: bytes that are the encoding of a text. -/
def Encoded (bytes : List UInt8) : Prop := ∃ s, utf8 s = bytes

theorem utf8_append (s t : String) : utf8 (s ++ t) = utf8 s ++ utf8 t := by
  simp [utf8, String.toUTF8]

/-- A text is encoded character by character. -/
theorem utf8_ofList (cs : List Char) :
    utf8 (String.ofList cs) = cs.flatMap String.utf8EncodeChar := by
  simp [utf8, String.toUTF8, List.utf8Encode]

theorem Encoded.append {xs ys : List UInt8} (hxs : Encoded xs) (hys : Encoded ys) :
    Encoded (xs ++ ys) := by
  obtain ⟨s, rfl⟩ := hxs
  obtain ⟨t, rfl⟩ := hys
  exact ⟨s ++ t, utf8_append s t⟩

theorem encoded_flatMap {α : Type} {f : α → List UInt8} {xs : List α}
    (h : ∀ x ∈ xs, Encoded (f x)) : Encoded (xs.flatMap f) := by
  induction xs with
  | nil => exact ⟨"", rfl⟩
  | cons x rest ih =>
    rw [List.flatMap_cons]
    exact (h x List.mem_cons_self).append (ih fun y hy => h y (List.mem_cons_of_mem x hy))

/-- **Bytes of one-byte characters.** -/
theorem encoded_of_forall_lt {bytes : List UInt8} (h : ∀ b ∈ bytes, b < 0x80) : Encoded bytes := by
  have hchar : ∀ n < 128, String.utf8EncodeChar (Char.ofNat n) = [UInt8.ofNat n] := by decide
  rw [← List.flatMap_singleton' bytes]
  refine encoded_flatMap fun b hb => ⟨String.ofList [Char.ofNat b.toNat], ?_⟩
  rw [utf8_ofList, List.flatMap_singleton, hchar b.toNat (UInt8.lt_iff_toNat_lt.mp (h b hb)),
    UInt8.ofNat_toNat]

/-- A character that is encoded by one byte, or by bytes that are no one-byte characters. -/
theorem utf8EncodeChar_cases (c : Char) :
    (∀ b ∈ String.utf8EncodeChar c, b < 0x80) ∨ ∀ b ∈ String.utf8EncodeChar c, 0x80 ≤ b := by
  have hbyte {n : Nat} (h : n < 256) : (UInt8.ofNat n).toNat = n := UInt8.toNat_ofNat_of_lt' h
  unfold String.utf8EncodeChar
  dsimp only
  split
  · refine .inl (List.forall_mem_singleton.mpr (UInt8.lt_iff_toNat_lt.mpr ?_))
    rw [hbyte (by omega)]
    exact Nat.lt_succ_of_le ‹_›
  · have hlarge {n : Nat} (h : 128 ≤ n ∧ n < 256) : 0x80 ≤ UInt8.ofNat n := by
      rw [UInt8.le_iff_toNat_le, hbyte h.2]
      exact h.1
    right
    split_ifs
    all_goals
      simp only [List.forall_mem_cons, List.not_mem_nil, false_imp_iff, implies_true, and_true]
    · exact ⟨hlarge (by omega), hlarge (by omega)⟩
    · exact ⟨hlarge (by omega), hlarge (by omega), hlarge (by omega)⟩
    · exact ⟨hlarge (by omega), hlarge (by omega), hlarge (by omega), hlarge (by omega)⟩

end Text

namespace Json

open Text

/-- **One byte** of a one-byte character is escaped by such bytes. -/
theorem escape_lt {b : UInt8} (h : b < 0x80) : ∀ c ∈ escape b, c < 0x80 := by
  have hescape : ∀ n < 128, (escape (UInt8.ofNat n)).all (· < 0x80) = true := by decide
  have hb := hescape b.toNat (UInt8.lt_iff_toNat_lt.mp h)
  rw [UInt8.ofNat_toNat] at hb
  exact fun c hc => of_decide_eq_true (List.all_eq_true.mp hb c hc)

/-- **Other bytes** are not escaped. -/
theorem escape_of_le {b : UInt8} (h : 0x80 ≤ b) : escape b = [b] := by
  have hne {c : UInt8} (hc : c < 0x80) : (b == c) = false :=
    beq_eq_false_iff_ne.mpr (UInt8.ne_of_lt (UInt8.lt_of_lt_of_le hc h)).symm
  have hcontrol : ¬ b < 0x20 := UInt8.not_lt.mpr (UInt8.le_trans (by decide) h)
  simp [escape, hne, hcontrol]

/-! ## Printing -/

/-- **Textual** tokens: the strings are texts and the numbers integers. -/
def Token.Textual : Token → Prop
  | .string content => Encoded content
  | t => t.Plain

/-- **Textual** values. -/
def Textual (v : Json) : Prop := ∀ t ∈ v.tokens, t.Textual

theorem spellNat_lt (n : Nat) : ∀ b ∈ spellNat n, b < 0x80 := by
  have hdigit (d : Nat) (hd : d < 10) : UInt8.ofNat (0x30 + d) < 0x80 := by
    revert d
    decide
  induction n using spellNat.induct with
  | case1 n h =>
    rw [spellNat, if_pos h]
    exact List.forall_mem_singleton.mpr (hdigit n h)
  | case2 n h ih =>
    rw [spellNat, if_neg h]
    exact List.forall_mem_append.mpr
      ⟨ih, List.forall_mem_singleton.mpr (hdigit _ (Nat.mod_lt n (by decide)))⟩

/-- **A text stays one** when it is escaped. -/
theorem encoded_escape {content : List UInt8} (h : Encoded content) :
    Encoded (content.flatMap escape) := by
  obtain ⟨s, rfl⟩ := h
  rw [← String.ofList_toList (s := s), utf8_ofList, List.flatMap_assoc]
  refine encoded_flatMap fun c _ => ?_
  obtain hsmall | hlarge := utf8EncodeChar_cases c
  · refine encoded_of_forall_lt fun b hb => ?_
    obtain ⟨original, horiginal, hb⟩ := List.mem_flatMap.mp hb
    exact escape_lt (hsmall original horiginal) b hb
  · have hwhole : (String.utf8EncodeChar c).flatMap escape = String.utf8EncodeChar c := by
      rw [List.flatMap_congr fun b hb => escape_of_le (hlarge b hb), List.flatMap_singleton']
    refine ⟨String.ofList [c], ?_⟩
    rw [hwhole, utf8_ofList, List.flatMap_singleton]

theorem Token.encoded_spelling {t : Token} (h : t.Textual) : Encoded t.spelling := by
  cases t with
  | string content =>
    have hmark : Encoded [0x22] := encoded_of_forall_lt (by simp)
    exact (hmark.append (encoded_escape h)).append hmark
  | number n =>
    obtain ⟨value, rfl⟩ := h
    refine encoded_of_forall_lt ?_
    cases value with
    | ofNat n => exact spellNat_lt n
    | negSucc n => exact List.forall_mem_cons.mpr ⟨by decide, spellNat_lt (n + 1)⟩
  | bool b => cases b <;> exact encoded_of_forall_lt (by simp [Token.spelling])
  | _ => exact encoded_of_forall_lt (by simp [Token.spelling])

/-- **The document of a textual value** is a text. -/
theorem Textual.encoded_print {v : Json} (h : v.Textual) : Encoded v.print :=
  encoded_flatMap fun t ht => Token.encoded_spelling (h t ht)

/-- A textual value is plain. -/
theorem Textual.plain {v : Json} (h : v.Textual) : v.Plain := by
  intro t ht
  have := h t ht
  cases t with
  | string content => exact trivial
  | _ => exact this

/-! ## Textual values -/

theorem textual_null : Textual null := List.forall_mem_singleton.mpr trivial

theorem textual_nat (n : Nat) : (nat n).Textual := List.forall_mem_singleton.mpr ⟨n, rfl⟩

theorem textual_text (s : String) : (text s).Textual := List.forall_mem_singleton.mpr ⟨s, rfl⟩

/-- **Records** have texts for names, so only their values matter. -/
theorem textual_record {fields : Record} (h : ∀ f ∈ fields, f.2.Textual) :
    (record fields).Textual := by
  have hfields : ∀ t ∈ fieldTokens (fields.map fun f => (utf8 f.1, f.2)), t.Textual := by
    induction fields with
    | nil => exact fun t ht => absurd ht List.not_mem_nil
    | cons f rest ih =>
      obtain ⟨key, v⟩ := f
      obtain ⟨hv, hrest⟩ := List.forall_mem_cons.mp h
      have hkey : Token.Textual (.string (utf8 key)) := ⟨key, rfl⟩
      rw [List.map_cons]
      by_cases hempty : rest.map (fun f => (utf8 f.1, f.2)) = []
      · rw [hempty]
        exact List.forall_mem_cons.mpr ⟨hkey, List.forall_mem_cons.mpr ⟨trivial, hv⟩⟩
      · rw [fieldTokens_cons _ v hempty]
        exact List.forall_mem_cons.mpr ⟨hkey, List.forall_mem_cons.mpr ⟨trivial,
          List.forall_mem_append.mpr ⟨hv, List.forall_mem_cons.mpr ⟨trivial, ih hrest⟩⟩⟩⟩
  exact List.forall_mem_cons.mpr
    ⟨trivial, List.forall_mem_append.mpr ⟨hfields, List.forall_mem_singleton.mpr trivial⟩⟩

end Json

end Breadboard
