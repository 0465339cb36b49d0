import Breadboard.Proofs.JsonDocument
import Mathlib.Logic.Basic

/-!
# Where a document ends

A value is over with the last of its tokens: a reader that has all of it takes
no further one. So if a document is followed by bytes that make another document
of it, these bytes are white space. Numbers are the one exception, because a
number has no closing byte: `1` is a document and so is `12`.

It follows that a printed value that is no number has no proper prefix that is a
document, which is how a file that was not written to its end is told from one
that was.

Most of this is about the scanner. It takes no token back, so what it has read
after a prefix comes first in what it has read in the end, and a token that it
is in the middle of comes next. Only a number that it is in the middle of may
have counted as a token where the prefix ends. It may become another number, but
a number it will be, and the reader does not look at which.
-/

namespace Breadboard.Json

/-! ## Bytes after a prefix -/

/-- Whether the scanner is in the middle of a number. -/
def Stage.isNumber : Stage → Bool
  | number _ _ => true
  | _ => false

namespace Scanner

variable {s s' : Scanner} {tokens : List Token}

/-- **What a first byte can be**: white space, a token, or the beginning of one. -/
theorem begin?_cases {b : UInt8} (h : begin? tokens b = some s) :
    isSpace b = true ∧ s = ⟨.between, tokens⟩
      ∨ (∃ t, s = ⟨.between, t :: tokens⟩)
      ∨ s.stage ≠ .between ∧ s.tokens = tokens := by
  obtain ⟨hspace, h⟩ | ⟨-, h⟩ := ite_eq_iff.mp h
  · exact Or.inl ⟨hspace, (Option.some.inj h).symm⟩
  refine Or.inr ?_
  -- Six tokens of one byte, then the seven ways to begin one of more.
  iterate 6
    obtain ⟨-, h⟩ | ⟨-, h⟩ := ite_eq_iff.mp h
    · exact Or.inl ⟨_, (Option.some.inj h).symm⟩
  iterate 7
    obtain ⟨-, h⟩ | ⟨-, h⟩ := ite_eq_iff.mp h
    · rw [← Option.some.inj h]
      exact Or.inr ⟨by simp, rfl⟩
  exact absurd h (by simp)

/-- It takes no token back. -/
theorem suffix_of_begin? {b : UInt8} (h : begin? tokens b = some s) : tokens <:+ s.tokens := by
  obtain ⟨-, rfl⟩ | ⟨t, rfl⟩ | ⟨-, rfl⟩ := begin?_cases h
  · exact List.suffix_rfl
  · exact List.suffix_cons t tokens
  · exact List.suffix_rfl

/-- **Ahead**: what a scanner can have become. Either it has read no token, and
then nothing but white space came or it is in the middle of one; or it has read
one. The number that it was in the middle of is still the same token or the
first that it has read. -/
def Ahead (s : Scanner) (bytes : List UInt8) (s' : Scanner) : Prop :=
  (s.stage = .between ∧ s' = s ∧ ∀ b ∈ bytes, isSpace b = true)
    ∨ (s'.tokens = s.tokens ∧ s'.stage ≠ .between
        ∧ (s.stage.isNumber = true → s'.stage.isNumber = true))
    ∨ ∃ t, t :: s.tokens <:+ s'.tokens ∧ (s.stage.isNumber = true → t.isNumber = true)

theorem Ahead.suffix {bytes : List UInt8} (h : s.Ahead bytes s') : s.tokens <:+ s'.tokens := by
  obtain ⟨-, rfl, -⟩ | ⟨h, -⟩ | ⟨t, h, -⟩ := h
  · exact List.suffix_rfl
  · exact h ▸ List.suffix_rfl
  · exact (List.suffix_cons t _).trans h

/-- One byte within a string. -/
theorem ahead_stringStep? {pieces : List Piece} {stage : StringStage} {b : UInt8}
    (h : stringStep? pieces stage tokens b = some s) :
    Ahead ⟨.string pieces stage, tokens⟩ [b] s := by
  have within {pieces' : List Piece} {stage' : StringStage}
      (h : s = ⟨.string pieces' stage', tokens⟩) : Ahead ⟨.string pieces stage, tokens⟩ [b] s := by
    rw [h]
    exact Or.inr (Or.inl ⟨rfl, by simp, by simp [Stage.isNumber]⟩)
  unfold stringStep? at h
  cases stage with
  | plain =>
    dsimp only at h
    split at h
    · rw [← Option.some.inj h]
      exact Or.inr (Or.inr ⟨_, List.suffix_rfl, by simp [Stage.isNumber]⟩)
    split at h
    · exact within (Option.some.inj h).symm
    split at h
    · exact absurd h (by simp)
    · exact within (Option.some.inj h).symm
  | escape =>
    dsimp only at h
    split at h
    · exact within (Option.some.inj h).symm
    · obtain ⟨c, -, h⟩ := Option.map_eq_some_iff.mp h
      exact within h.symm
  | digits missing value =>
    obtain ⟨digit, -, h⟩ := Option.map_eq_some_iff.mp h
    dsimp only at h
    split at h
    · exact within h.symm
    · exact within h.symm

/-- **One byte.** -/
theorem ahead_step? {b : UInt8} (h : s.step? b = some s') : s.Ahead [b] s' := by
  obtain ⟨stage, tokens⟩ := s
  cases stage with
  | between =>
    obtain ⟨hspace, rfl⟩ | ⟨t, rfl⟩ | ⟨hstage, htokens⟩ := begin?_cases h
    · exact Or.inl ⟨rfl, rfl, List.forall_mem_singleton.mpr hspace⟩
    · exact Or.inr (Or.inr ⟨t, List.suffix_rfl, by simp [Stage.isNumber]⟩)
    · exact Or.inr (Or.inl ⟨htokens, hstage, by simp [Stage.isNumber]⟩)
  | word missing token =>
    unfold step? at h
    dsimp only at h
    split at h
    · exact absurd h (by simp)
    · split at h
      · rw [← Option.some.inj h]
        exact Or.inr (Or.inr ⟨token, List.suffix_rfl, by simp [Stage.isNumber]⟩)
      · exact absurd h (by simp)
    · split at h
      · rw [← Option.some.inj h]
        exact Or.inr (Or.inl ⟨rfl, by simp, by simp [Stage.isNumber]⟩)
      · exact absurd h (by simp)
  | number spelled stage =>
    unfold step? at h
    dsimp only at h
    split at h
    · rw [← Option.some.inj h]
      exact Or.inr (Or.inl ⟨rfl, by simp, fun _ => rfl⟩)
    · split at h
      -- The byte ends the number and is looked at again.
      · exact Or.inr (Or.inr ⟨_, suffix_of_begin? h, fun _ => rfl⟩)
      · exact absurd h (by simp)
  | string pieces stage => exact ahead_stringStep? h

/-- **Any bytes.** -/
theorem ahead_feed? {bytes : List UInt8} (h : s.feed? bytes = some s') : s.Ahead bytes s' := by
  induction bytes generalizing s with
  | nil =>
    obtain rfl := Option.some.inj h
    by_cases hstage : s.stage = .between
    · exact Or.inl ⟨hstage, rfl, fun _ hb => absurd hb List.not_mem_nil⟩
    · exact Or.inr (Or.inl ⟨rfl, hstage, id⟩)
  | cons b rest ih =>
    obtain ⟨s₁, hstep, hrest⟩ := Option.bind_eq_some_iff.mp h
    have hahead := ih hrest
    obtain ⟨hstage, rfl, hspace⟩ | ⟨htokens, hstage, hnumber⟩ | ⟨t, ht, hnumber⟩ :=
      ahead_step? hstep
    · obtain ⟨-, rfl, hspaces⟩ | hahead := hahead
      · exact Or.inl ⟨hstage, rfl, List.forall_mem_cons.mpr ⟨hspace b (by simp), hspaces⟩⟩
      · exact Or.inr hahead
    · obtain ⟨hbetween, -⟩ | ⟨htokens', hstage', hnumber'⟩ | ⟨t, ht, hnumber'⟩ := hahead
      · exact absurd hbetween hstage
      · exact Or.inr (Or.inl ⟨htokens'.trans htokens, hstage', fun h => hnumber' (hnumber h)⟩)
      · exact Or.inr (Or.inr ⟨t, htokens ▸ ht, fun h => hnumber' (hnumber h)⟩)
    · exact Or.inr (Or.inr ⟨t, ht.trans hahead.suffix, hnumber⟩)

/-- **The tokens of a longer document.** Those that a scanner has read come first,
and if there are others, a number that it is in the middle of is the next. If
there are none, only white space has come. -/
theorem finish?_of_feed? {bytes : List UInt8} {all : List Token} (h : s.feed? bytes = some s')
    (hall : s'.finish? = some all) :
    (s.stage = .between ∧ all = s.tokens.reverse ∧ ∀ b ∈ bytes, isSpace b = true)
      ∨ ∃ t rest, all = s.tokens.reverse ++ t :: rest
        ∧ (s.stage.isNumber = true → t.isNumber = true) := by
  -- What a scanner has read is part of what it gives in the end.
  have hread : ∃ last, all = s'.tokens.reverse ++ last
      ∧ (s'.stage ≠ .between → ∃ n, last = [.number n]) := by
    obtain ⟨stage, tokens⟩ := s'
    cases stage with
    | between => exact ⟨[], by simpa using (Option.some.inj hall).symm, fun h => absurd rfl h⟩
    | number spelled stage =>
      unfold finish? at hall
      dsimp only at hall
      split at hall
      · exact ⟨[.number _], by simpa using (Option.some.inj hall).symm, fun _ => ⟨_, rfl⟩⟩
      · exact absurd hall (by simp)
    | _ => exact absurd hall (by simp [finish?])
  obtain ⟨last, rfl, hlast⟩ := hread
  obtain ⟨hstage, rfl, hspace⟩ | ⟨htokens, hstage, -⟩ | ⟨t, ⟨more, htokens⟩, hnumber⟩ := ahead_feed? h
  · refine Or.inl ⟨hstage, ?_, hspace⟩
    rw [show s'.finish? = some s'.tokens.reverse by unfold finish?; rw [hstage]] at hall
    exact (Option.some.inj hall).symm
  · obtain ⟨n, rfl⟩ := hlast hstage
    exact Or.inr ⟨.number n, [], by rw [htokens], fun _ => rfl⟩
  · refine Or.inr ⟨t, more.reverse ++ last, ?_, hnumber⟩
    rw [← htokens]
    simp

end Scanner

/-! ## Tokens after a value -/

namespace Reader

/-- A reader that has a whole value takes no further token. -/
theorem eq_nil_of_feed?_done {v : Json} {tokens : List Token} {r : Reader}
    (h : feed? (.done v) tokens = some r) : tokens = [] := by
  cases tokens with
  | nil => rfl
  | cons t rest => exact absurd h (by simp [feed?_cons, step?])

theorem eq_done_of_finish? {r : Reader} {v : Json} (h : r.finish? = some v) : r = .done v := by
  cases r with
  | done w => exact congrArg Reader.done (Option.some.inj h)
  | _ => exact absurd h (by simp [finish?])

/-- **A number that completes a value** is that value, and so would any other be. -/
theorem step?_number_eq_done {r : Reader} {n : Numeral} {v : Json}
    (h : r.step? (.number n) = some (.done v)) (m : Numeral) :
    r.step? (.number m) = some (.done (.number m)) := by
  cases r with
  | awaitValue stack =>
    cases stack with
    | nil => rfl
    | cons frame stack => cases frame <;> exact absurd h (by simp [step?, begin?, supply])
  | _ => exact absurd h (by simp [step?, begin?, supply])

end Reader

/-- Tokens that spell a value lead to a reader that has it. -/
theorem feed?_eq_done_of_ofTokens? {tokens : List Token} {v : Json}
    (h : ofTokens? tokens = some v) :
    Reader.feed? (.awaitValue []) tokens = some (.done v) := by
  obtain ⟨r, hr, hv⟩ := Option.bind_eq_some_iff.mp h
  rw [← Reader.eq_done_of_finish? hv]
  exact hr

/-- **Tokens that spell a value end with it.** -/
theorem eq_nil_of_ofTokens?_append {tokens more : List Token} {v w : Json}
    (h : ofTokens? tokens = some v) (hmore : ofTokens? (tokens ++ more) = some w) : more = [] := by
  have hfeed := feed?_eq_done_of_ofTokens? hmore
  rw [Reader.feed?_append, feed?_eq_done_of_ofTokens? h] at hfeed
  exact Reader.eq_nil_of_feed?_done hfeed

/-- **A last number** that can be another number is the whole value. -/
theorem eq_number_of_ofTokens?_append {tokens more : List Token} {n m : Numeral} {v w : Json}
    (h : ofTokens? (tokens ++ [.number n]) = some v)
    (hmore : ofTokens? (tokens ++ .number m :: more) = some w) : w = .number m := by
  have hfeed := feed?_eq_done_of_ofTokens? h
  rw [Reader.feed?_append] at hfeed
  obtain ⟨r, hr, hstep⟩ := Option.bind_eq_some_iff.mp hfeed
  rw [Reader.feed?_cons] at hstep
  obtain ⟨r', hstep, hr'⟩ := Option.bind_eq_some_iff.mp hstep
  rw [Option.some.inj hr'] at hstep
  have hother := Reader.step?_number_eq_done hstep m
  have hfeed' := feed?_eq_done_of_ofTokens? hmore
  rw [Reader.feed?_append, hr, Option.bind_some, Reader.feed?_cons, hother, Option.bind_some]
    at hfeed'
  rw [Reader.eq_nil_of_feed?_done hfeed'] at hfeed'
  exact Reader.done.inj (Option.some.inj hfeed').symm

/-! ## Documents -/

/-- **What follows a document is white space**, if what it makes of it is a
document as well and no number. -/
theorem isSpace_of_parse?_append {bytes more : List UInt8} {v w : Json}
    (h : parse? bytes = some v) (hmore : parse? (bytes ++ more) = some w)
    (hw : ∀ n, w ≠ .number n) : ∀ b ∈ more, isSpace b = true := by
  obtain ⟨tokens, htokens, hv⟩ := Option.bind_eq_some_iff.mp h
  obtain ⟨s, hs, hfinish⟩ := Option.bind_eq_some_iff.mp htokens
  obtain ⟨all, hall, hw'⟩ := Option.bind_eq_some_iff.mp hmore
  obtain ⟨s', hs', hfinish'⟩ := Option.bind_eq_some_iff.mp hall
  have hfeed : s.feed? more = some s' := by
    have hs' : Scanner.start.feed? (bytes ++ more) = some s' := hs'
    rw [Scanner.feed?_append, show Scanner.start.feed? bytes = some s from hs] at hs'
    exact hs'
  obtain ⟨-, -, hspace⟩ | ⟨t, rest, rfl, hnumber⟩ := Scanner.finish?_of_feed? hfeed hfinish'
  · exact hspace
  -- There was a token after the value.
  obtain ⟨stage, before⟩ := s
  cases stage with
  | between =>
    obtain rfl := Option.some.inj hfinish
    exact absurd (eq_nil_of_ofTokens?_append hv hw') (List.cons_ne_nil t rest)
  | number spelled stage =>
    unfold Scanner.finish? at hfinish
    dsimp only at hfinish
    split at hfinish
    · rw [← Option.some.inj hfinish, List.reverse_cons] at hv
      cases t with
      | number m => exact absurd (eq_number_of_ofTokens?_append hv hw') (hw m)
      | _ => exact absurd (hnumber rfl) (by simp [Token.isNumber])
    · exact absurd hfinish (by simp)
  | _ => exact absurd hfinish (by simp [Scanner.finish?])

/-- A printed value that is no number does not end in white space. -/
theorem exists_print_eq_concat {v : Json} (hv : ∀ n, v ≠ .number n) :
    ∃ bytes last, v.print = bytes ++ [last] ∧ isSpace last = false := by
  cases v with
  | null => exact ⟨[0x6E, 0x75, 0x6C], 0x6C, rfl, rfl⟩
  | bool b =>
    cases b with
    | true => exact ⟨[0x74, 0x72, 0x75], 0x65, rfl, rfl⟩
    | false => exact ⟨[0x66, 0x61, 0x6C, 0x73], 0x65, rfl, rfl⟩
  | number n => exact absurd rfl (hv n)
  | string content =>
    exact ⟨0x22 :: content.flatMap escape, 0x22, List.append_nil _, rfl⟩
  | array items =>
    refine ⟨0x5B :: (itemTokens items).flatMap Token.spelling, 0x5D, ?_, rfl⟩
    simp [print, tokens, Token.spelling]
  | object fields =>
    refine ⟨0x7B :: (fieldTokens fields).flatMap Token.spelling, 0x7D, ?_, rfl⟩
    simp [print, tokens, Token.spelling]

/-- **A torn document is no document**: of a printed value that is no number no
proper prefix can be parsed. -/
theorem parse?_eq_none_of_torn {v : Json} (hplain : v.Plain) (hv : ∀ n, v ≠ .number n)
    {torn : List UInt8} (htorn : torn <+: v.print) (hne : torn ≠ v.print) :
    parse? torn = none := by
  obtain ⟨more, hmore⟩ := htorn
  refine Option.eq_none_iff_forall_not_mem.mpr fun w hw => ?_
  have hspace := isSpace_of_parse?_append hw (by rw [hmore]; exact parse?_print hplain) hv
  obtain ⟨bytes, last, hprint, hlast⟩ := exists_print_eq_concat hv
  -- The last byte printed is among those that are missing.
  obtain rfl | ⟨init, b, rfl⟩ := List.eq_nil_or_concat' more
  · exact hne (by simpa using hmore)
  · rw [hprint, ← List.append_assoc] at hmore
    rw [List.singleton_inj.mp (List.append_inj_right' hmore rfl)] at hspace
    exact absurd (hspace last (by simp)) (by simp [hlast])

end Breadboard.Json
