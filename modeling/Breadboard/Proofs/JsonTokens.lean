import Breadboard.Json.Document
import Mathlib.Data.List.Chain
import Mathlib.Data.List.Induction
import Mathlib.Tactic.IntervalCases

/-!
# Spelled tokens are scanned again

The scanner looks at one byte at a time, so what it makes of a document is put
together from what it makes of its tokens. All tokens but one end by themselves:
whatever comes next, they have been read. A number ends only where a byte cannot
continue it, and since none of the bytes that begin another token can, it is
enough that no two numbers stand side by side.

How much a scanner has read is measured by the tokens it would give if the
document ended there. A number that has not ended counts as read, so this
measure grows by one token with the spelling of each.
-/

namespace Breadboard.Json

/-! ## Digits -/

/-- The digit of a value below ten. -/
def digit (n : Nat) : UInt8 := UInt8.ofNat (0x30 + n)

theorem isDigit_digit {n : Nat} (h : n < 10) : isDigit (digit n) = true := by
  have hall : ∀ n < 10, isDigit (digit n) = true := by decide
  exact hall n h

theorem digit_value {n : Nat} (h : n < 10) : (digit n).toNat - 0x30 = n := by
  have hall : ∀ n < 10, (digit n).toNat - 0x30 = n := by decide
  exact hall n h

theorem spellNat_of_lt {n : Nat} (h : n < 10) : spellNat n = [digit n] := by
  rw [spellNat, if_pos h]
  rfl

theorem spellNat_of_le {n : Nat} (h : 10 ≤ n) :
    spellNat n = spellNat (n / 10) ++ [digit (n % 10)] := by
  rw [spellNat, if_neg (Nat.not_lt.mpr h)]
  rfl

theorem all_isDigit_spellNat (n : Nat) : (spellNat n).all isDigit = true := by
  induction n using Nat.strongRecOn with
  | ind n ih =>
    by_cases h : n < 10
    · rw [spellNat_of_lt h, List.all_cons, isDigit_digit h]
      rfl
    · rw [spellNat_of_le (Nat.le_of_not_lt h), List.all_append, ih (n / 10) (by omega),
        List.all_cons, isDigit_digit (Nat.mod_lt n (by decide))]
      rfl

theorem ofDigits_concat (digits : List UInt8) (b : UInt8) :
    Numeral.ofDigits (digits ++ [b]) = Numeral.ofDigits digits * 10 + (b.toNat - 0x30) := by
  unfold Numeral.ofDigits
  rw [List.foldl_append]
  rfl

/-- **Digits spell their number.** -/
theorem ofDigits_spellNat (n : Nat) : Numeral.ofDigits (spellNat n) = n := by
  induction n using Nat.strongRecOn with
  | ind n ih =>
    by_cases h : n < 10
    · rw [spellNat_of_lt h]
      show 0 * 10 + ((digit n).toNat - 0x30) = n
      rw [digit_value h, Nat.zero_mul, Nat.zero_add]
    · rw [spellNat_of_le (Nat.le_of_not_lt h), ofDigits_concat, ih (n / 10) (by omega),
        digit_value (Nat.mod_lt n (by decide))]
      omega

/-! ## Numbers -/

/-- A spelling that begins with no sign is that of a natural number if it has
digits only. -/
theorem ofLiteral_of_all {digits : List UInt8} (h : digits.all isDigit = true) :
    Numeral.ofLiteral digits = .integer (Numeral.ofDigits digits) := by
  unfold Numeral.ofLiteral
  split
  · exact absurd h (by simp [isDigit])
  · rw [if_pos h]

/-- **The spelling of an integer is a literal of it.** -/
theorem ofLiteral_spelling (i : Int) :
    Numeral.ofLiteral (Numeral.integer i).spelling = .integer i := by
  cases i with
  | ofNat n =>
    show Numeral.ofLiteral (spellNat n) = _
    rw [ofLiteral_of_all (all_isDigit_spellNat n), ofDigits_spellNat]
    rfl
  | negSucc n =>
    -- The digits are not those of zero.
    have hne : spellNat (n + 1) ≠ [0x30] := by
      intro h
      have hvalue := ofDigits_spellNat (n + 1)
      rw [h] at hvalue
      exact absurd hvalue (Nat.succ_ne_zero n).symm
    show (if ((spellNat (n + 1)).all isDigit && spellNat (n + 1) != [0x30]) = true then
      Numeral.integer (-(Numeral.ofDigits (spellNat (n + 1)))) else _) = _
    rw [if_pos (by rw [all_isDigit_spellNat]; simpa using hne), ofDigits_spellNat]
    rfl

/-! ## Feeding a scanner -/

namespace Scanner

/-- The scanner after some bytes. -/
def feed? (s : Scanner) (bytes : List UInt8) : Option Scanner := bytes.foldlM step? s

@[simp]
theorem feed?_nil (s : Scanner) : s.feed? [] = some s := rfl

theorem feed?_cons (s : Scanner) (b : UInt8) (rest : List UInt8) :
    s.feed? (b :: rest) = (s.step? b).bind (·.feed? rest) := rfl

theorem feed?_append (s : Scanner) (xs ys : List UInt8) :
    s.feed? (xs ++ ys) = (s.feed? xs).bind (·.feed? ys) := by
  unfold feed?
  rw [List.foldlM_append]
  rfl

/-! ### Numbers -/

/-- Digits keep a number in its digits before the point. -/
theorem step?_whole (spelled : List UInt8) (tokens : List Token) {n : Nat} (h : n < 10) :
    step? ⟨.number spelled .whole, tokens⟩ (digit n)
      = some ⟨.number (digit n :: spelled) .whole, tokens⟩ := by
  simp only [step?, NumberStage.next?, isDigit_digit h, if_true]

/-- The digits of a positive number, wherever its first digit begins one. -/
theorem feed?_spellNat {s : Scanner} {spelled : List UInt8} {tokens : List Token}
    (hfirst : ∀ d, 0 < d → d < 10 →
      s.step? (digit d) = some ⟨.number (digit d :: spelled) .whole, tokens⟩)
    {n : Nat} (hn : 0 < n) :
    s.feed? (spellNat n) = some ⟨.number ((spellNat n).reverse ++ spelled) .whole, tokens⟩ := by
  induction n using Nat.strongRecOn with
  | ind n ih =>
    by_cases h : n < 10
    · rw [spellNat_of_lt h, feed?_cons, hfirst n hn h]
      rfl
    · rw [spellNat_of_le (Nat.le_of_not_lt h), feed?_append, ih (n / 10) (by omega) (by omega)]
      show Option.bind (step? _ _) _ = _
      rw [step?_whole _ _ (Nat.mod_lt n (by decide)), List.reverse_append]
      rfl

theorem begin?_digit {d : Nat} (hpos : 0 < d) (h : d < 10) (tokens : List Token) :
    begin? tokens (digit d) = some ⟨.number [digit d] .whole, tokens⟩ := by
  interval_cases d <;> rfl

theorem step?_sign_digit {d : Nat} (hpos : 0 < d) (h : d < 10) (spelled : List UInt8)
    (tokens : List Token) :
    step? ⟨.number spelled .sign, tokens⟩ (digit d)
      = some ⟨.number (digit d :: spelled) .whole, tokens⟩ := by
  interval_cases d <;> rfl

/-- **An integer is scanned** to where it could end. -/
theorem feed?_integer (i : Int) (tokens : List Token) :
    ∃ stage : NumberStage, stage.isComplete = true ∧
      feed? ⟨.between, tokens⟩ (Numeral.integer i).spelling
        = some ⟨.number (Numeral.integer i).spelling.reverse stage, tokens⟩ := by
  cases i with
  | ofNat n =>
    show ∃ stage : NumberStage, _ ∧ feed? _ (spellNat n) = some ⟨.number (spellNat n).reverse _, _⟩
    cases n with
    | zero => exact ⟨.zero, rfl, by rw [spellNat_of_lt (by decide)]; rfl⟩
    | succ n =>
      refine ⟨.whole, rfl, ?_⟩
      have hfirst (d : Nat) (hpos : 0 < d) (hd : d < 10) :
          step? ⟨.between, tokens⟩ (digit d) = some ⟨.number [digit d] .whole, tokens⟩ :=
        begin?_digit hpos hd tokens
      rw [feed?_spellNat hfirst (Nat.succ_pos n), List.append_nil]
  | negSucc n =>
    refine ⟨.whole, rfl, ?_⟩
    show feed? ⟨.number [0x2D] .sign, tokens⟩ (spellNat (n + 1)) = _
    rw [feed?_spellNat (fun d hpos hd => step?_sign_digit hpos hd _ tokens) (Nat.succ_pos n),
      ← List.reverse_cons]
    rfl

/-! ### Strings -/

/-- How a byte of a string's content is read back: a control character that no
letter stands for is read as a unit. -/
def written (b : UInt8) : Piece :=
  if b < 0x20 ∧ b ∉ [0x08, 0x0C, 0x0A, 0x0D, 0x09] then .unit b.toNat else .byte b

theorem hexValue?_hexLetter {n : Nat} (h : n < 16) : hexValue? (hexLetter n) = some n := by
  have hall : ∀ n < 16, hexValue? (hexLetter n) = some n := by decide
  exact hall n h

/-- The three ways in which a byte is written. -/
theorem escape_cases (b : UInt8) :
    (escape b = [b] ∧ b ≠ 0x22 ∧ b ≠ 0x5C ∧ ¬ b < 0x20 ∧ written b = .byte b)
    ∨ (∃ letter, escape b = [0x5C, letter] ∧ letter ≠ 0x75 ∧ escaped? letter = some b
        ∧ written b = .byte b)
    ∨ (escape b = [0x5C, 0x75, 0x30, 0x30, hexLetter (b.toNat / 16), hexLetter (b.toNat % 16)]
        ∧ b < 0x20 ∧ written b = .unit b.toNat) := by
  unfold escape
  by_cases h0 : b = 0x22
  · exact Or.inr (Or.inl ⟨0x22, by rw [h0]; decide⟩)
  by_cases h1 : b = 0x5C
  · exact Or.inr (Or.inl ⟨0x5C, by rw [h1]; decide⟩)
  by_cases h2 : b = 0x08
  · exact Or.inr (Or.inl ⟨0x62, by rw [h2]; decide⟩)
  by_cases h3 : b = 0x0C
  · exact Or.inr (Or.inl ⟨0x66, by rw [h3]; decide⟩)
  by_cases h4 : b = 0x0A
  · exact Or.inr (Or.inl ⟨0x6E, by rw [h4]; decide⟩)
  by_cases h5 : b = 0x0D
  · exact Or.inr (Or.inl ⟨0x72, by rw [h5]; decide⟩)
  by_cases h6 : b = 0x09
  · exact Or.inr (Or.inl ⟨0x74, by rw [h6]; decide⟩)
  by_cases h7 : b < 0x20
  · exact Or.inr (Or.inr ⟨by simp [h0, h1, h2, h3, h4, h5, h6, h7], h7,
      by simp [written, h2, h3, h4, h5, h6, h7]⟩)
  · exact Or.inl ⟨by simp [h0, h1, h2, h3, h4, h5, h6, h7], h0, h1, h7, by simp [written, h7]⟩

/-- **A byte of a string is scanned** as it is read back. -/
theorem feed?_escape (pieces : List Piece) (tokens : List Token) (b : UInt8) :
    feed? ⟨.string pieces .plain, tokens⟩ (escape b)
      = some ⟨.string (written b :: pieces) .plain, tokens⟩ := by
  obtain ⟨hescape, hquote, hslash, hcontrol, hwritten⟩ | ⟨letter, hescape, hunit, hletter, hwritten⟩
    | ⟨hescape, hcontrol, hwritten⟩ := escape_cases b
  · rw [hescape, hwritten, feed?_cons]
    simp [step?, stringStep?, hquote, hslash, hcontrol]
  · rw [hescape, hwritten]
    show (stringStep? pieces .escape tokens letter).bind _ = _
    simp [stringStep?, hunit, hletter]
  · have hlt : b.toNat < 0x20 := hcontrol
    rw [hescape, hwritten]
    show feed? ⟨.string pieces (.digits 2 0), tokens⟩ [hexLetter _, hexLetter _] = _
    rw [feed?_cons]
    simp only [step?, stringStep?, hexValue?_hexLetter (show b.toNat / 16 < 16 by omega)]
    show (stringStep? pieces (.digits 1 _) tokens (hexLetter _)).bind _ = _
    simp only [stringStep?, hexValue?_hexLetter (Nat.mod_lt b.toNat (show 0 < 16 by decide))]
    show some (⟨.string (.unit ((0 * 16 + b.toNat / 16) * 16 + b.toNat % 16) :: pieces) .plain,
      tokens⟩ : Scanner) = _
    rw [show (0 * 16 + b.toNat / 16) * 16 + b.toNat % 16 = b.toNat by omega]

/-- A unit that is not the first half of a pair stands for itself. -/
theorem content_unit {n : Nat} (h : Piece.isHigh n = false) (rest : List Piece) :
    Piece.content (.unit n :: rest) = Piece.encode n ++ Piece.content rest := by
  cases rest with
  | nil => rfl
  | cons p rest =>
    cases p with
    | byte b => rfl
    | unit low => simp [Piece.content, h]

/-- **What is read back is the content.** -/
theorem content_written (content : List UInt8) :
    Piece.content (content.map written) = content := by
  induction content with
  | nil => rfl
  | cons b rest ih =>
    rw [List.map_cons]
    obtain ⟨-, -, -, -, h⟩ | ⟨-, -, -, -, h⟩ | ⟨-, hcontrol, h⟩ := escape_cases b
    · rw [h, Piece.content, ih]
    · rw [h, Piece.content, ih]
    · have hlt : b.toNat < 0x20 := hcontrol
      rw [h, content_unit (by simp [Piece.isHigh]; omega), ih, Piece.encode,
        if_pos (Nat.lt_trans hlt (by decide)), UInt8.ofNat_toNat]
      rfl

/-- **A string is scanned.** -/
theorem feed?_string (content : List UInt8) (tokens : List Token) :
    feed? ⟨.between, tokens⟩ (Token.string content).spelling
      = some ⟨.between, .string content :: tokens⟩ := by
  have hbody (content : List UInt8) (pieces : List Piece) :
      feed? ⟨.string pieces .plain, tokens⟩ (content.flatMap escape)
        = some ⟨.string ((content.map written).reverse ++ pieces) .plain, tokens⟩ := by
    induction content generalizing pieces with
    | nil => rfl
    | cons b rest ih =>
      rw [List.flatMap_cons, feed?_append, feed?_escape, Option.bind_some, ih]
      simp
  show feed? ⟨.string [] .plain, tokens⟩ (content.flatMap escape ++ [0x22]) = _
  rw [feed?_append, hbody, Option.bind_some, List.append_nil]
  show some (⟨.between, .string (Piece.content (content.map written).reverse.reverse) :: tokens⟩
    : Scanner) = _
  rw [List.reverse_reverse, content_written]

/-! ### Tokens -/

end Scanner

/-- Whether a token is a number. -/
def Token.isNumber : Token → Bool
  | number _ => true
  | _ => false

/-- **Plain** tokens: those whose number, if they are one, is an integer. -/
def Token.Plain : Token → Prop
  | number n => ∃ i : Int, n = .integer i
  | _ => True

namespace Scanner

/-- **A token is scanned** where nothing else is being read. Only a number is
still open then. -/
theorem feed?_spelling {t : Token} (ht : t.Plain) (tokens : List Token) :
    ∃ s : Scanner, feed? ⟨.between, tokens⟩ t.spelling = some s
      ∧ s.finish? = some (tokens.reverse ++ [t])
      ∧ (t.isNumber = false → s.stage = .between) := by
  have closed {t : Token} (h : feed? ⟨.between, tokens⟩ t.spelling = some ⟨.between, t :: tokens⟩) :
      ∃ s : Scanner, feed? ⟨.between, tokens⟩ t.spelling = some s
        ∧ s.finish? = some (tokens.reverse ++ [t])
        ∧ (t.isNumber = false → s.stage = .between) :=
    ⟨_, h, congrArg some List.reverse_cons, fun _ => rfl⟩
  cases t with
  | number n =>
    obtain ⟨i, rfl⟩ := ht
    obtain ⟨stage, hstage, hfeed⟩ := feed?_integer i tokens
    refine ⟨_, hfeed, ?_, fun h => absurd h (by simp [Token.isNumber])⟩
    show (if _ then _ else _) = _
    rw [if_pos hstage, List.reverse_reverse, ofLiteral_spelling, List.reverse_cons]
  | string content => exact closed (feed?_string content tokens)
  | bool value => cases value <;> exact closed rfl
  | _ => exact closed rfl

/-- What continues a number that could end is a digit, a point or an exponent. -/
theorem next?_eq_none {stage : NumberStage} (hstage : stage.isComplete = true) {b : UInt8}
    (hdigit : isDigit b = false) (hother : b ∉ [0x2E, 0x65, 0x45]) : stage.next? b = none := by
  simp only [List.mem_cons, List.not_mem_nil, or_false, not_or] at hother
  cases stage with
  | sign | point | exponent | exponentSign => exact absurd hstage (by decide)
  | _ =>
    simp [NumberStage.next?, NumberStage.next?.afterWhole, NumberStage.next?.isExponentLetter,
      hdigit, hother]

/-- No token but a number begins with such a byte. -/
theorem exists_first {t : Token} (ht : t.isNumber = false) :
    ∃ b rest, t.spelling = b :: rest ∧ isDigit b = false ∧ b ∉ [0x2E, 0x65, 0x45] := by
  cases t with
  | number n => exact absurd ht (by simp [Token.isNumber])
  | bool value => cases value <;> exact ⟨_, _, rfl, by decide, by decide⟩
  | _ => exact ⟨_, _, rfl, by decide, by decide⟩

/-- **A byte that continues no number ends whatever is being read**: what comes of it is what would
come of it if nothing were. -/
theorem step?_of_finish? {s : Scanner} {tokens : List Token} (hs : s.finish? = some tokens)
    {b : UInt8} (hdigit : isDigit b = false) (hother : b ∉ [0x2E, 0x65, 0x45]) :
    s.step? b = step? ⟨.between, tokens.reverse⟩ b := by
  obtain ⟨stage, before⟩ := s
  cases stage with
  | between =>
    rw [← Option.some.inj hs, List.reverse_reverse]
  | number spelled stage =>
    by_cases hstage : stage.isComplete = true
    · rw [show finish? ⟨.number spelled stage, before⟩ = _ from if_pos hstage] at hs
      rw [← Option.some.inj hs, List.reverse_reverse]
      simp only [step?, next?_eq_none hstage hdigit hother, hstage, if_true]
    · rw [show finish? ⟨.number spelled stage, before⟩ = _ from if_neg hstage] at hs
      exact absurd hs (by simp)
  | _ => exact absurd hs (by simp [finish?])

/-- **A token that is no number ends whatever is being read**: it is scanned as
if nothing were. -/
theorem feed?_of_finish? {s : Scanner} {tokens : List Token} (hs : s.finish? = some tokens)
    {t : Token} (ht : t.isNumber = false) :
    s.feed? t.spelling = feed? ⟨.between, tokens.reverse⟩ t.spelling := by
  obtain ⟨b, rest, hspelling, hdigit, hother⟩ := exists_first ht
  rw [hspelling, feed?_cons, feed?_cons, step?_of_finish? hs hdigit hother]

/-- A scanner between two tokens is told by the tokens it has read. -/
theorem eq_of_between {s : Scanner} {tokens : List Token} (hs : s.finish? = some tokens)
    (hstage : s.stage = .between) : s = ⟨.between, tokens.reverse⟩ := by
  obtain ⟨stage, before⟩ := s
  obtain rfl : stage = .between := hstage
  rw [← Option.some.inj hs, List.reverse_reverse]

end Scanner

/-! ## Documents -/

/-- **Apart**: of two tokens side by side at most one is a number. -/
def Token.Apart (a b : Token) : Prop := a.isNumber = false ∨ b.isNumber = false

/-- How far the spelling of some tokens leads. -/
theorem Scanner.exists_feed?_flatMap {tokens : List Token} (hplain : ∀ t ∈ tokens, t.Plain)
    (hapart : tokens.IsChain Token.Apart) :
    ∃ s : Scanner, start.feed? (tokens.flatMap Token.spelling) = some s
      ∧ s.finish? = some tokens
      ∧ ((∀ t ∈ tokens.getLast?, t.isNumber = false) → s.stage = .between) := by
  induction tokens using List.reverseRecOn with
  | nil => exact ⟨start, rfl, rfl, fun _ => rfl⟩
  | append_singleton tokens t ih =>
    obtain ⟨hbefore, -, hlast⟩ := List.isChain_append.mp hapart
    obtain ⟨s, hfeed, hfinish, hstage⟩ :=
      ih (fun u hu => hplain u (List.mem_append_left _ hu)) hbefore
    obtain ⟨s', hfeed', hfinish', hstage'⟩ :=
      feed?_spelling (hplain t (by simp)) tokens.reverse
    -- Either nothing is being read, or it is a number and `t` is none.
    have hstep : s.feed? t.spelling = feed? ⟨.between, tokens.reverse⟩ t.spelling := by
      cases ht : t.isNumber with
      | false => exact feed?_of_finish? hfinish ht
      | true =>
        refine congrArg (feed? · t.spelling) (eq_of_between hfinish (hstage fun u hu => ?_))
        obtain h | h := hlast u hu t rfl
        · exact h
        · exact absurd h (by simp [ht])
    refine ⟨s', ?_, ?_, fun h => hstage' (h t (by simp))⟩
    · rw [List.flatMap_append, feed?_append, hfeed, Option.bind_some, List.flatMap_singleton,
        hstep, hfeed']
    · rw [hfinish', List.reverse_reverse]

/-- **Spelled tokens are scanned again**, if their numbers are integers and no
two of them stand side by side. -/
theorem Token.scan?_spelling {tokens : List Token} (hplain : ∀ t ∈ tokens, t.Plain)
    (hapart : tokens.IsChain Token.Apart) :
    Token.scan? (tokens.flatMap Token.spelling) = some tokens := by
  obtain ⟨s, hfeed, hfinish, -⟩ := Scanner.exists_feed?_flatMap hplain hapart
  show (Scanner.start.feed? _).bind Scanner.finish? = _
  rw [hfeed, Option.bind_some, hfinish]

end Breadboard.Json
