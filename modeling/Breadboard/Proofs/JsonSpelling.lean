import Breadboard.Proofs.JsonReaders

/-!
# The texts of a JSON value

A value has many texts. White space may stand before and behind every token, a character of a
string can be written as itself, by its letter or by its number, and a number is any literal of
it. The texts of a value are those that spell its tokens in any of these ways. They are described
by the grammar of the tokens, which says nothing of a scanner, and every one of them is parsed as
the value.

Most of the way is to follow the scanner through the grammar. What cannot be told from a token
alone is where a number ends: it takes the byte that comes next, and no two numbers stand side by
side among the tokens of a value. In the end the document that is printed is shown to be one of
the texts.
-/

namespace Breadboard.Json

/-! ## Spellings of a token -/

/-- A run of digits. -/
def Digits (bytes : List UInt8) : Prop := bytes ≠ [] ∧ ∀ b ∈ bytes, isDigit b = true

/-- The digits before the point: a zero, or digits that begin with none. -/
inductive WholePart : List UInt8 → Prop where
  | zero : WholePart [0x30]
  | digits {first : UInt8} {rest : List UInt8} (hfirst : isDigit first = true) (hne : first ≠ 0x30)
    (hrest : ∀ b ∈ rest, isDigit b = true) : WholePart (first :: rest)

/-- A point with digits behind it, or nothing. -/
inductive FractionPart : List UInt8 → Prop where
  | absent : FractionPart []
  | digits {digits : List UInt8} (h : Digits digits) : FractionPart (0x2E :: digits)

/-- The letter of the exponent with digits behind it, signed or not, or nothing. -/
inductive ExponentPart : List UInt8 → Prop where
  | absent : ExponentPart []
  | digits {letter : UInt8} {sign digits : List UInt8} (hletter : letter = 0x65 ∨ letter = 0x45)
    (hsign : sign ∈ [[], [0x2B], [0x2D]]) (h : Digits digits) :
    ExponentPart (letter :: (sign ++ digits))

/-- **A literal** of a number. -/
inductive Literal : List UInt8 → Prop where
  | mk {sign whole fraction exponent : List UInt8} (hsign : sign ∈ [[], [0x2D]])
    (hwhole : WholePart whole) (hfraction : FractionPart fraction)
    (hexponent : ExponentPart exponent) : Literal (sign ++ (whole ++ (fraction ++ exponent)))

/-- **The ways to write a piece** of a string: a byte as itself, unless it is a quotation mark, a
backslash or a control character; a byte by its letter; a unit by its four digits. -/
inductive Piece.SpelledBy : Piece → List UInt8 → Prop where
  | itself {b : UInt8} (hcontrol : ¬ b < 0x20) (hquote : b ≠ 0x22) (hslash : b ≠ 0x5C) :
    Piece.SpelledBy (.byte b) [b]
  | letter {b letter : UInt8} (h : escaped? letter = some b) :
    Piece.SpelledBy (.byte b) [0x5C, letter]
  | digits {b₃ b₂ b₁ b₀ : UInt8} {d₃ d₂ d₁ d₀ : Nat} (h₃ : hexValue? b₃ = some d₃)
    (h₂ : hexValue? b₂ = some d₂) (h₁ : hexValue? b₁ = some d₁) (h₀ : hexValue? b₀ = some d₀) :
    Piece.SpelledBy (.unit (((d₃ * 16 + d₂) * 16 + d₁) * 16 + d₀)) [0x5C, 0x75, b₃, b₂, b₁, b₀]

/-- **The ways to write a token.** Only numbers and strings have more than one. -/
inductive Token.SpelledBy : Token → List UInt8 → Prop where
  | exact {t : Token} (hnumber : t.isNumber = false) (hstring : ∀ content, t ≠ .string content) :
    Token.SpelledBy t t.spelling
  | number {literal : List UInt8} (h : Literal literal) :
    Token.SpelledBy (.number (Numeral.ofLiteral literal)) literal
  | string {pieces : List Piece} {spellings : List (List UInt8)}
    (h : List.Forall₂ Piece.SpelledBy pieces spellings) :
    Token.SpelledBy (.string (Piece.content pieces)) (0x22 :: (spellings.flatten ++ [0x22]))

/-- **The texts of some tokens**, with white space before each of them and behind the last one. -/
inductive TokensSpelledBy : List Token → List UInt8 → Prop where
  | nil {space : List UInt8} (hspace : ∀ b ∈ space, isSpace b = true) : TokensSpelledBy [] space
  | cons {t : Token} {rest : List Token} {space spelling text : List UInt8}
    (hspace : ∀ b ∈ space, isSpace b = true) (ht : t.SpelledBy spelling)
    (hrest : TokensSpelledBy rest text) : TokensSpelledBy (t :: rest) (space ++ (spelling ++ text))

/-- **The texts of a value.** -/
def SpelledBy (v : Json) (text : List UInt8) : Prop := TokensSpelledBy v.tokens text

/-! ## Literals are scanned -/

namespace NumberStage

/-- The stage after some more bytes of a number. -/
def run? (stage : NumberStage) (bytes : List UInt8) : Option NumberStage := bytes.foldlM next? stage

theorem run?_append (stage : NumberStage) (xs ys : List UInt8) :
    stage.run? (xs ++ ys) = (stage.run? xs).bind (·.run? ys) := by
  unfold run?
  rw [List.foldlM_append]
  rfl

/-- Digits continue the part that they are in. -/
theorem run?_digits {stage : NumberStage}
    (hstays : ∀ b, isDigit b = true → stage.next? b = some stage) {digits : List UInt8}
    (h : ∀ b ∈ digits, isDigit b = true) : stage.run? digits = some stage := by
  induction digits with
  | nil => rfl
  | cons b rest ih =>
    show (stage.next? b).bind (·.run? rest) = some stage
    rw [hstays b (h b List.mem_cons_self)]
    exact ih fun b hb => h b (List.mem_cons_of_mem _ hb)

/-- **Digits that begin a part** lead to where that part is. -/
theorem run?_of_digits {stage stage' : NumberStage}
    (hbegins : ∀ b, isDigit b = true → stage.next? b = some stage')
    (hstays : ∀ b, isDigit b = true → stage'.next? b = some stage') {digits : List UInt8}
    (h : Digits digits) : stage.run? digits = some stage' := by
  cases digits with
  | nil => exact absurd rfl h.1
  | cons b rest =>
    show (stage.next? b).bind (·.run? rest) = some stage'
    rw [hbegins b (h.2 b List.mem_cons_self)]
    exact run?_digits hstays fun b hb => h.2 b (List.mem_cons_of_mem _ hb)

/-- An exponent may follow wherever a number may end. -/
theorem run?_exponent {stage : NumberStage} (hcomplete : stage.isComplete = true)
    (hletter : stage.next? 0x65 = some .exponent ∧ stage.next? 0x45 = some .exponent)
    {bytes : List UInt8} (h : ExponentPart bytes) :
    ∃ stage', stage'.isComplete = true ∧ stage.run? bytes = some stage' := by
  cases h with
  | absent => exact ⟨stage, hcomplete, rfl⟩
  | @digits letter sign digits hbegins hsign h =>
    refine ⟨.exponentDigits, rfl, ?_⟩
    have hexponent : stage.next? letter = some .exponent := by
      obtain rfl | rfl := hbegins
      · exact hletter.1
      · exact hletter.2
    show (stage.next? letter).bind (·.run? (sign ++ digits)) = some exponentDigits
    rw [hexponent, Option.bind_some]
    have hunsigned (b : UInt8) (hb : isDigit b = true) :
        exponent.next? b = some exponentDigits := by
      have hsigns : b ≠ 0x2B ∧ b ≠ 0x2D := by
        constructor <;> rintro rfl <;> cases hb
      simp [next?, hsigns, hb]
    have hsigned (b : UInt8) (hb : isDigit b = true) :
        exponentSign.next? b = some exponentDigits := if_pos hb
    have hstays (b : UInt8) (hb : isDigit b = true) :
        exponentDigits.next? b = some exponentDigits := if_pos hb
    simp only [List.mem_cons, List.not_mem_nil, or_false] at hsign
    obtain rfl | rfl | rfl := hsign
    · exact run?_of_digits hunsigned hstays h
    · exact run?_of_digits hsigned hstays h
    · exact run?_of_digits hsigned hstays h

/-- **What may follow the digits before the point.** -/
theorem run?_tail {stage : NumberStage} (hstage : stage = .zero ∨ stage = .whole)
    {front back : List UInt8} (hfraction : FractionPart front) (hexponent : ExponentPart back) :
    ∃ stage', stage'.isComplete = true ∧ stage.run? (front ++ back) = some stage' := by
  cases hfraction with
  | absent => obtain rfl | rfl := hstage <;> exact run?_exponent rfl ⟨rfl, rfl⟩ hexponent
  | @digits digits h =>
    have hpoint : stage.next? 0x2E = some .point := by obtain rfl | rfl := hstage <;> rfl
    have hbegins (b : UInt8) (hb : isDigit b = true) : point.next? b = some fraction := if_pos hb
    have hstays (b : UInt8) (hb : isDigit b = true) : fraction.next? b = some fraction := if_pos hb
    obtain ⟨stage', hcomplete, hrun⟩ : ∃ stage', stage'.isComplete = true
      ∧ fraction.run? back = some stage' := run?_exponent rfl ⟨rfl, rfl⟩ hexponent
    refine ⟨stage', hcomplete, ?_⟩
    rw [run?_append]
    show ((stage.next? 0x2E).bind (·.run? digits)).bind (·.run? back) = some stage'
    rw [hpoint, Option.bind_some, run?_of_digits hbegins hstays h, Option.bind_some, hrun]

end NumberStage

namespace Scanner

/-- A number that is being read goes on. -/
theorem feed?_number {stage stage' : NumberStage} {bytes : List UInt8}
    (h : stage.run? bytes = some stage') (spelled : List UInt8) (tokens : List Token) :
    feed? ⟨.number spelled stage, tokens⟩ bytes
      = some ⟨.number (bytes.reverse ++ spelled) stage', tokens⟩ := by
  induction bytes generalizing stage spelled with
  | nil =>
    cases h
    rfl
  | cons b rest ih =>
    obtain ⟨next, hnext, hrest⟩ := Option.bind_eq_some_iff.mp h
    have hstep : step? ⟨.number spelled stage, tokens⟩ b
        = some ⟨.number (b :: spelled) next, tokens⟩ := by
      simp only [step?, hnext]
    rw [feed?_cons, hstep, Option.bind_some, ih hrest, List.reverse_cons, List.append_assoc]
    rfl

theorem exists_digit {b : UInt8} (h : isDigit b = true) : ∃ d < 10, b = digit d := by
  obtain ⟨hzero, hnine⟩ : 0x30 ≤ b ∧ b ≤ 0x39 := by simpa [isDigit] using h
  rw [UInt8.le_iff_toNat_le] at hzero hnine
  change 0x30 ≤ b.toNat at hzero
  change b.toNat ≤ 0x39 at hnine
  refine ⟨b.toNat - 0x30, by omega, ?_⟩
  unfold digit
  rw [Nat.add_sub_cancel' hzero, UInt8.ofNat_toNat]

/-- **The digits before the point**, behind a sign or not. -/
theorem exists_feed?_whole {whole : List UInt8} (h : WholePart whole) (tokens : List Token) :
    ∃ stage : NumberStage, (stage = .zero ∨ stage = .whole)
      ∧ feed? ⟨.between, tokens⟩ whole = some ⟨.number whole.reverse stage, tokens⟩
      ∧ NumberStage.sign.run? whole = some stage := by
  cases h with
  | zero => exact ⟨.zero, .inl rfl, rfl, rfl⟩
  | @digits first rest hfirst hne hrest =>
    obtain ⟨d, hd, rfl⟩ := exists_digit hfirst
    have hpos : 0 < d := Nat.pos_of_ne_zero (by rintro rfl; exact hne rfl)
    have hstays (b : UInt8) (hb : isDigit b = true) :
        NumberStage.whole.next? b = some .whole := if_pos hb
    have hwhole : NumberStage.whole.run? rest = some .whole := NumberStage.run?_digits hstays hrest
    refine ⟨.whole, .inr rfl, ?_, ?_⟩
    · rw [feed?_cons]
      show (begin? tokens (digit d)).bind _ = _
      rw [begin?_digit hpos hd, Option.bind_some, feed?_number hwhole, List.reverse_cons]
    · show (NumberStage.sign.next? (digit d)).bind (·.run? rest) = some .whole
      have hbegins : NumberStage.sign.next? (digit d) = some .whole := by
        simp [NumberStage.next?, hne, hfirst]
      rw [hbegins]
      exact hwhole

/-- **A literal is scanned** to where it could end. -/
theorem exists_feed?_literal {literal : List UInt8} (h : Literal literal) (tokens : List Token) :
    ∃ stage : NumberStage, stage.isComplete = true
      ∧ feed? ⟨.between, tokens⟩ literal = some ⟨.number literal.reverse stage, tokens⟩ := by
  obtain @⟨sign, whole, front, back, hsign, hwhole, hfraction, hexponent⟩ := h
  obtain ⟨stage, hstage, hplain, hsigned⟩ := exists_feed?_whole hwhole tokens
  obtain ⟨stage', hcomplete, htail⟩ := NumberStage.run?_tail hstage hfraction hexponent
  refine ⟨stage', hcomplete, ?_⟩
  simp only [List.mem_cons, List.not_mem_nil, or_false] at hsign
  obtain rfl | rfl := hsign
  · rw [List.nil_append, feed?_append, hplain, Option.bind_some, feed?_number htail,
      ← List.reverse_append]
  · show feed? ⟨.number [0x2D] .sign, tokens⟩ (whole ++ (front ++ back)) = _
    rw [feed?_append, feed?_number hsigned, Option.bind_some, feed?_number htail]
    simp

/-! ## Strings are scanned -/

theorem feed?_piece {p : Piece} {bytes : List UInt8} (h : p.SpelledBy bytes) (pieces : List Piece)
    (tokens : List Token) :
    feed? ⟨.string pieces .plain, tokens⟩ bytes = some ⟨.string (p :: pieces) .plain, tokens⟩ := by
  cases h with
  | itself hcontrol hquote hslash =>
    rw [feed?_cons]
    simp [step?, stringStep?, hquote, hslash, hcontrol]
  | @letter b letter h =>
    have hunit : letter ≠ 0x75 := by
      rintro rfl
      cases h
    show (stringStep? pieces .escape tokens letter).bind _ = _
    simp [stringStep?, hunit, h]
  | @digits b₃ b₂ b₁ b₀ d₃ d₂ d₁ d₀ h₃ h₂ h₁ h₀ =>
    show feed? ⟨.string pieces (.digits 4 0), tokens⟩ [b₃, b₂, b₁, b₀] = _
    simp [feed?_cons, step?, stringStep?, h₃, h₂, h₁, h₀]

theorem feed?_pieces {pieces : List Piece} {spellings : List (List UInt8)}
    (h : List.Forall₂ Piece.SpelledBy pieces spellings) (before : List Piece)
    (tokens : List Token) :
    feed? ⟨.string before .plain, tokens⟩ spellings.flatten
      = some ⟨.string (pieces.reverse ++ before) .plain, tokens⟩ := by
  induction h generalizing before with
  | nil => rfl
  | cons hpiece _ ih =>
    rw [List.flatten_cons, feed?_append, feed?_piece hpiece, Option.bind_some, ih,
      List.reverse_cons, List.append_assoc]
    rfl

/-! ## Texts are scanned -/

/-- **A token is scanned** in whatever way it is written, where nothing else is being read. -/
theorem exists_feed?_spelledBy {t : Token} {spelling : List UInt8} (h : t.SpelledBy spelling)
    (tokens : List Token) :
    ∃ s : Scanner, feed? ⟨.between, tokens⟩ spelling = some s
      ∧ s.finish? = some (tokens.reverse ++ [t])
      ∧ (t.isNumber = false → s.stage = .between) := by
  cases h with
  | exact hnumber => exact feed?_spelling (plain_of_not_number hnumber) tokens
  | number h =>
    obtain ⟨stage, hcomplete, hfeed⟩ := exists_feed?_literal h tokens
    refine ⟨_, hfeed, ?_, fun hnumber => absurd hnumber (by simp [Token.isNumber])⟩
    show (if _ then _ else _) = _
    rw [if_pos hcomplete, List.reverse_reverse, List.reverse_cons]
  | @string pieces spellings h =>
    have hfeed : feed? ⟨.between, tokens⟩ (0x22 :: (spellings.flatten ++ [0x22]))
        = some ⟨.between, .string (Piece.content pieces) :: tokens⟩ := by
      show feed? ⟨.string [] .plain, tokens⟩ (spellings.flatten ++ [0x22]) = _
      rw [feed?_append, feed?_pieces h, Option.bind_some, List.append_nil]
      show some (⟨.between, .string (Piece.content pieces.reverse.reverse) :: tokens⟩
        : Scanner) = _
      rw [List.reverse_reverse]
    exact ⟨_, hfeed, congrArg some List.reverse_cons, fun _ => rfl⟩

/-- No token but a number begins with a byte that could continue one. -/
theorem exists_first_of_spelledBy {t : Token} (ht : t.isNumber = false) {spelling : List UInt8}
    (h : t.SpelledBy spelling) :
    ∃ b rest, spelling = b :: rest ∧ isDigit b = false ∧ b ∉ [0x2E, 0x65, 0x45] := by
  cases h with
  | exact => exact exists_first ht
  | number => cases ht
  | string => exact ⟨_, _, rfl, by decide, by decide⟩

/-- **White space** ends whatever is being read, and leaves no trace. -/
theorem exists_feed?_space {s : Scanner} {tokens : List Token} (hs : s.finish? = some tokens)
    {space : List UInt8} (hspace : ∀ b ∈ space, isSpace b = true) :
    s.feed? space = some s ∧ space = [] ∨ s.feed? space = some ⟨.between, tokens.reverse⟩ := by
  have hbetween {rest : List UInt8} (hrest : ∀ b ∈ rest, isSpace b = true) :
      feed? ⟨.between, tokens.reverse⟩ rest = some ⟨.between, tokens.reverse⟩ := by
    induction rest with
    | nil => rfl
    | cons b rest ih =>
      obtain ⟨hb, hrest⟩ := List.forall_mem_cons.mp hrest
      rw [feed?_cons, show step? ⟨.between, tokens.reverse⟩ b = some ⟨.between, tokens.reverse⟩ from
        if_pos hb]
      exact ih hrest
  cases space with
  | nil => exact .inl ⟨rfl, rfl⟩
  | cons b rest =>
    have hb := hspace b List.mem_cons_self
    have hfirst : isDigit b = false ∧ b ∉ [0x2E, 0x65, 0x45] := by
      simp only [isSpace, Bool.or_eq_true, beq_iff_eq] at hb
      obtain ((rfl | rfl) | rfl) | rfl := hb <;> decide
    refine .inr ?_
    rw [feed?_cons, step?_of_finish? hs hfirst.1 hfirst.2, ← feed?_cons]
    exact hbetween hspace

/-- Where a token may be scanned, whatever is being read ends before it. -/
theorem feed?_spelledBy_of_finish? {s : Scanner} {before : List Token}
    (hs : s.finish? = some before) {t : Token} {spelling : List UInt8} (ht : t.SpelledBy spelling)
    (hready : s.stage = .between ∨ t.isNumber = false) :
    s.feed? spelling = feed? ⟨.between, before.reverse⟩ spelling := by
  obtain hbetween | hnumber := hready
  · rw [eq_of_between hs hbetween]
  · obtain ⟨b, rest, rfl, hdigit, hother⟩ := exists_first_of_spelledBy hnumber ht
    rw [feed?_cons, feed?_cons, step?_of_finish? hs hdigit hother]

/-- **The text of some tokens is scanned**, if no two numbers among them stand side by side. -/
theorem exists_feed?_text {tokens : List Token} {text : List UInt8}
    (h : TokensSpelledBy tokens text) (hapart : tokens.IsChain Token.Apart) {s : Scanner}
    {before : List Token} (hs : s.finish? = some before)
    (hready : s.stage = .between ∨ ∀ t ∈ tokens.head?, t.isNumber = false) :
    ∃ s', s.feed? text = some s' ∧ s'.finish? = some (before ++ tokens) := by
  have hbetween (before : List Token) : finish? ⟨.between, before.reverse⟩ = some before :=
    congrArg some (List.reverse_reverse before)
  induction h generalizing s before with
  | nil hspace =>
    rw [List.append_nil]
    obtain ⟨hfeed, -⟩ | hfeed := exists_feed?_space hs hspace
    · exact ⟨s, hfeed, hs⟩
    · exact ⟨_, hfeed, hbetween before⟩
  | @cons t rest space spelling text hspace ht _ ih =>
    obtain ⟨hnext, hrest⟩ := List.isChain_cons.mp hapart
    -- White space changes nothing but that a number before it has ended.
    obtain ⟨s₁, hfeed₁, hs₁, hready₁⟩ : ∃ s₁, s.feed? space = some s₁ ∧ s₁.finish? = some before
        ∧ (s₁.stage = .between ∨ t.isNumber = false) := by
      obtain ⟨hfeed, -⟩ | hfeed := exists_feed?_space hs hspace
      · exact ⟨s, hfeed, hs, hready.imp_right fun hhead => hhead t rfl⟩
      · exact ⟨_, hfeed, hbetween before, .inl rfl⟩
    obtain ⟨s₂, hfeed₂, hs₂, hstage₂⟩ := exists_feed?_spelledBy ht before.reverse
    rw [List.reverse_reverse] at hs₂
    have hready₂ : s₂.stage = .between ∨ ∀ u ∈ rest.head?, u.isNumber = false := by
      cases hnumber : t.isNumber with
      | false => exact .inl (hstage₂ hnumber)
      | true => exact .inr fun u hu => (hnext u hu).resolve_left (by simp [hnumber])
    obtain ⟨s₃, hfeed₃, hs₃⟩ := ih hrest hs₂ hready₂
    refine ⟨s₃, ?_, by rw [hs₃, List.append_assoc]; rfl⟩
    rw [feed?_append, hfeed₁, Option.bind_some, feed?_append,
      feed?_spelledBy_of_finish? hs₁ ht hready₁, hfeed₂, Option.bind_some, hfeed₃]

end Scanner

/-- **Every text of a value is parsed as that value.** -/
theorem parse?_of_spelledBy {v : Json} {text : List UInt8} (h : v.SpelledBy text) :
    parse? text = some v := by
  obtain ⟨s, hfeed, hfinish⟩ : ∃ s, Scanner.start.feed? text = some s
      ∧ s.finish? = some ([] ++ v.tokens) :=
    Scanner.exists_feed?_text h (isChain_apart_tokens v) rfl (.inl rfl)
  show ((Scanner.start.feed? text).bind Scanner.finish?).bind ofTokens? = some v
  rw [hfeed, Option.bind_some, hfinish]
  exact ofTokens?_tokens v

/-! ## What is printed is a text -/

theorem wholePart_spellNat (n : Nat) : WholePart (spellNat n) := by
  have hpos {n : Nat} (hn : 0 < n) : ∃ first rest, spellNat n = first :: rest
      ∧ isDigit first = true ∧ first ≠ 0x30 ∧ ∀ b ∈ rest, isDigit b = true := by
    induction n using Nat.strongRecOn with
    | ind n ih =>
      by_cases h : n < 10
      · refine ⟨digit n, [], spellNat_of_lt h, isDigit_digit h, fun hzero => ?_, by simp⟩
        have hvalue := digit_value h
        rw [hzero] at hvalue
        exact absurd hvalue (Nat.ne_of_lt hn)
      · obtain ⟨first, rest, hspell, hfirst, hne, hrest⟩ := ih (n / 10) (by omega) (by omega)
        refine ⟨first, rest ++ [digit (n % 10)], ?_, hfirst, hne, ?_⟩
        · rw [spellNat_of_le (Nat.le_of_not_lt h), hspell]
          rfl
        · intro b hb
          obtain hb | hb := List.mem_append.mp hb
          · exact hrest b hb
          · rw [List.mem_singleton.mp hb]
            exact isDigit_digit (Nat.mod_lt n (by decide))
  obtain rfl | hn := Nat.eq_zero_or_pos n
  · rw [spellNat_of_lt (by decide)]
    exact .zero
  · obtain ⟨first, rest, hspell, hfirst, hne, hrest⟩ := hpos hn
    rw [hspell]
    exact .digits hfirst hne hrest

theorem literal_spelling (i : Int) : Literal (Numeral.integer i).spelling := by
  have hliteral {sign : List UInt8} (hsign : sign ∈ [[], [0x2D]]) (n : Nat) :
      Literal (sign ++ spellNat n) := by
    have h := Literal.mk hsign (wholePart_spellNat n) .absent .absent
    rw [List.append_nil, List.append_nil] at h
    exact h
  cases i with
  | ofNat n => exact hliteral List.mem_cons_self n
  | negSucc n => exact hliteral (List.mem_cons_of_mem _ List.mem_cons_self) (n + 1)

theorem spelledBy_escape (b : UInt8) : (Scanner.written b).SpelledBy (escape b) := by
  obtain ⟨hescape, hquote, hslash, hcontrol, hwritten⟩ | ⟨letter, hescape, -, hletter, hwritten⟩
    | ⟨hescape, hcontrol, hwritten⟩ := Scanner.escape_cases b
  · rw [hescape, hwritten]
    exact .itself hcontrol hquote hslash
  · rw [hescape, hwritten]
    exact .letter hletter
  · have hlt : b.toNat < 0x20 := hcontrol
    have hhigh := Scanner.hexValue?_hexLetter (show b.toNat / 16 < 16 by omega)
    have hlow := Scanner.hexValue?_hexLetter (Nat.mod_lt b.toNat (show 0 < 16 by decide))
    have hzero : hexValue? 0x30 = some 0 := rfl
    have hunit : ((0 * 16 + 0) * 16 + b.toNat / 16) * 16 + b.toNat % 16 = b.toNat := by omega
    have hdigits := Piece.SpelledBy.digits hzero hzero hhigh hlow
    rw [hunit] at hdigits
    rw [hescape, hwritten]
    exact hdigits

theorem Token.spelledBy_spelling {t : Token} (ht : t.Plain) : t.SpelledBy t.spelling := by
  cases t with
  | number n =>
    obtain ⟨i, rfl⟩ := ht
    have h := Token.SpelledBy.number (literal_spelling i)
    rw [ofLiteral_spelling] at h
    exact h
  | string content =>
    have hpieces : List.Forall₂ Piece.SpelledBy (content.map Scanner.written)
        (content.map escape) := by
      rw [List.forall₂_map_left_iff, List.forall₂_map_right_iff]
      exact List.forall₂_same.mpr fun b _ => spelledBy_escape b
    have h := Token.SpelledBy.string hpieces
    rw [Scanner.content_written, ← List.flatMap_def] at h
    exact h
  | _ => exact .exact rfl (by simp)

/-- **What is printed is a text** of the value, if its numbers are integers. -/
theorem spelledBy_print {v : Json} (hplain : v.Plain) : v.SpelledBy v.print := by
  have htokens {tokens : List Token} (h : ∀ t ∈ tokens, t.Plain) :
      TokensSpelledBy tokens (tokens.flatMap Token.spelling) := by
    induction tokens with
    | nil => exact .nil (by simp)
    | cons t rest ih =>
      obtain ⟨ht, hrest⟩ := List.forall_mem_cons.mp h
      show TokensSpelledBy (t :: rest) ([] ++ (t.spelling ++ rest.flatMap Token.spelling))
      exact .cons (by simp) (Token.spelledBy_spelling ht) (ih hrest)
  exact htokens hplain

end Breadboard.Json
