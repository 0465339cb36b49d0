import Breadboard.Text.Hex
import Mathlib.Data.List.TakeWhile
import Mathlib.Data.String.Basic

/-!
# Numbers in base sixteen, read back

Padding changes how long a number is, and nothing else: the digits in front are zeros, and what is
read of the whole is the number. In the texts that are shown to the operator a number stands behind
a dollar sign. It ends with the first character that is no digit, so it can be read without knowing
how many digits it was padded to.
-/

namespace Breadboard

namespace Hex

/-! ## Lengths -/

/-- A number has no more digits than the width that is enough for it. -/
theorem length_digitValues_le {width n : Nat} (h : n < 16 ^ (width + 1)) :
    (digitValues n).length ≤ width + 1 := by
  induction width generalizing n with
  | zero =>
    rw [digitValues, if_pos (by omega)]
    rfl
  | succ width ih =>
    rw [digitValues]
    split
    · simp
    · have hrest : n / 16 < 16 ^ (width + 1) := by
        rw [pow_succ] at h
        omega
      rw [List.length_append, List.length_singleton]
      exact Nat.succ_le_succ (ih hrest)

theorem length_padded (width : Nat) {n : Nat} (h : n < 16 ^ (width + 1)) :
    (padded (width + 1) n).length = width + 1 := by
  have hdigits := length_digitValues_le h
  unfold padded
  rw [String.length_ofList, List.length_append, List.length_replicate, List.length_map]
  omega

theorem length_byte (b : UInt8) : (byte b).length = 2 :=
  length_padded 1 (by have := b.toNat_lt; omega)

theorem length_padded_address (a : UInt16) : (padded 4 a.toNat).length = 4 :=
  length_padded 3 (by have := a.toNat_lt; omega)

/-! ## Reading digits -/

theorem digitValue?_digit {d : Nat} (h : d < 16) : digitValue? (digit d) = some d := by
  have hall : ∀ d : Fin 16, digitValue? (digit d) = some d.val := by decide
  exact hall ⟨d, h⟩

theorem lt_of_mem_digitValues {n d : Nat} (h : d ∈ digitValues n) : d < 16 := by
  fun_induction digitValues n with
  | case1 n hn => exact List.mem_singleton.mp h ▸ hn
  | case2 n hn ih =>
    obtain hfront | hlast := List.mem_append.mp h
    · exact ih hfront
    · exact List.mem_singleton.mp hlast ▸ Nat.mod_lt n (by decide)

/-- The digit values of a number make up the number. -/
theorem foldl_digitValues (n : Nat) :
    (digitValues n).foldl (fun acc d => acc * 16 + d) 0 = n := by
  fun_induction digitValues n with
  | case1 n hn => exact Nat.zero_add n
  | case2 n hn ih =>
    rw [List.foldl_append, ih]
    exact Nat.div_add_mod' n 16

/-- Digits are read one by one. -/
theorem foldlM_digits {values : List Nat} (h : ∀ d ∈ values, d < 16) (acc : Nat) :
    (values.map digit).foldlM (fun acc c => (acc * 16 + ·) <$> digitValue? c) acc
      = some (values.foldl (fun acc d => acc * 16 + d) acc) := by
  induction values generalizing acc with
  | nil => rfl
  | cons d rest ih =>
    rw [List.map_cons, List.foldlM_cons, digitValue?_digit (h d List.mem_cons_self)]
    exact ih (fun d hd => h d (List.mem_cons_of_mem _ hd)) _

/-- A padded number is written in digits, of which those in front are zeros. -/
theorem toList_padded (width n : Nat) :
    ∃ k, (padded width n).toList = (List.replicate k 0 ++ digitValues n).map digit := by
  refine ⟨width - ((digitValues n).map digit).length, ?_⟩
  unfold padded
  rw [String.toList_ofList, List.map_append, List.map_replicate]
  rfl

theorem lt_of_mem_replicate_append {k n d : Nat} (h : d ∈ List.replicate k 0 ++ digitValues n) :
    d < 16 := by
  obtain hzero | hdigit := List.mem_append.mp h
  · exact List.eq_of_mem_replicate hzero ▸ (by decide)
  · exact lt_of_mem_digitValues hdigit

/-- Zeros in front add nothing. -/
theorem foldl_replicate_zero (k : Nat) :
    (List.replicate k 0).foldl (fun acc d => acc * 16 + d) 0 = 0 := by
  induction k with
  | zero => rfl
  | succ k ih => exact ih

/-- **A padded number is read back.** -/
theorem number?_padded (width n : Nat) : number? (padded width n).toList = some n := by
  obtain ⟨k, hdigits⟩ := toList_padded width n
  have hne : ((List.replicate k 0 ++ digitValues n).map digit).isEmpty = false := by
    rw [digitValues]
    split <;> simp
  unfold number?
  rw [hdigits, hne, if_neg Bool.false_ne_true, foldlM_digits fun d => lt_of_mem_replicate_append,
    List.foldl_append, foldl_replicate_zero, foldl_digitValues]

/-! ## Numbers on display -/

/-- **The number a text shows**: the digits behind its first dollar sign. -/
def shown? (text : String) : Option Nat :=
  number? (((text.toList.dropWhile (· != '$')).drop 1).takeWhile fun c => (digitValue? c).isSome)

/-- A number behind a dollar sign is shown, if nothing before it has one and no digit follows. -/
theorem shown?_of_toList {text : String} (front back : List Char) {width n : Nat}
    (h : text.toList = front ++ '$' :: ((padded width n).toList ++ back))
    (hfront : ∀ c ∈ front, c ≠ '$') (hback : ∀ c ∈ back.head?, digitValue? c = none) :
    shown? text = some n := by
  have hdigits : ∀ c ∈ (padded width n).toList, (digitValue? c).isSome = true := by
    obtain ⟨k, hdigits⟩ := toList_padded width n
    intro c hc
    rw [hdigits] at hc
    obtain ⟨d, hd, rfl⟩ := List.mem_map.mp hc
    rw [digitValue?_digit (lt_of_mem_replicate_append hd)]
    rfl
  have hend : back.takeWhile (fun c => (digitValue? c).isSome) = [] := by
    cases back with
    | nil => rfl
    | cons c rest => exact List.takeWhile_cons_of_neg (by simp [hback c rfl])
  unfold shown?
  rw [h, List.dropWhile_append_of_pos fun c hc => bne_iff_ne.mpr (hfront c hc),
    List.dropWhile_cons_of_neg (by simp), List.drop_one, List.tail_cons,
    List.takeWhile_append_of_pos hdigits, hend, List.append_nil, number?_padded]

/-- A text without a dollar sign shows no number. -/
theorem shown?_eq_none {text : String} (h : ∀ c ∈ text.toList, c ≠ '$') : shown? text = none := by
  unfold shown?
  rw [List.dropWhile_eq_nil_iff.mpr fun c hc => bne_iff_ne.mpr (h c hc)]
  rfl

end Hex

end Breadboard
