import Breadboard.Instruction.Description
import Breadboard.Proofs.BuiltinTable
import Breadboard.Proofs.DashboardOverlay
import Breadboard.Proofs.TextPieces

/-!
# Descriptions read back

A description of a cell loses nothing. Its groups come apart into the names of the lines
that the cell asserts, each once and the highest bit first, and the names are read as the
word that was described. What the groups add is where they end, and that is settled by the
positions of the lines alone: the lines of a group lie in one run of positions, and no two
groups have lines of the same run.

A summary is read back in the same way, the timer reset apart.
-/

namespace Breadboard

/-! ## Positions -/

/-- The place of a line in the displayed order, the highest bit first. -/
def Line.place (line : Line) : Nat := line.bit.rev

/-- **Consecutive** elements: their keys count up from a number. -/
def Consecutive {α : Type} (key : α → Nat) (start : Nat) (xs : List α) : Prop :=
  ∀ i (h : i < xs.length), key xs[i] = start + i

namespace Consecutive

variable {α : Type} {key : α → Nat} {start : Nat} {xs : List α}

theorem key_of_mem (h : Consecutive key start xs) {x : α} (hx : x ∈ xs) :
    start ≤ key x ∧ key x < start + xs.length := by
  obtain ⟨i, hi, rfl⟩ := List.mem_iff_getElem.mp hx
  rw [h i hi]
  omega

theorem take (h : Consecutive key start xs) (n : Nat) : Consecutive key start (xs.take n) := by
  intro i hi
  rw [List.getElem_take]
  exact h i _

theorem drop (h : Consecutive key start xs) (n : Nat) :
    Consecutive key (start + n) (xs.drop n) := by
  intro i hi
  rw [List.getElem_drop, h]
  omega

/-- So many elements from a multiple of the number on have the same quotient. -/
theorem div_eq {n k : Nat} (h : Consecutive key (n * k) xs) (hshort : xs.length ≤ n) {x : α}
    (hx : x ∈ xs) : key x / n = k := by
  have hkey := h.key_of_mem hx
  have hnext : n * (k + 1) = n * k + n := Nat.mul_succ n k
  exact Nat.div_eq_of_lt_le (by rw [Nat.mul_comm]; omega) (by rw [Nat.mul_comm]; omega)

end Consecutive

/-! ## Runs -/

theorem flatten_runs {α : Type} (n : Nat) (xs : List α) : (runs n xs).flatten = xs := by
  induction xs using runs.induct n with
  | case1 xs hshort hempty =>
    rw [runs, if_pos hshort, if_pos hempty]
    exact (List.isEmpty_iff.mp hempty).symm
  | case2 xs hshort hempty =>
    rw [runs, if_pos hshort, if_neg hempty]
    exact List.append_nil xs
  | case3 xs hlong ih =>
    rw [runs, if_neg hlong, List.flatten_cons, ih, List.take_append_drop]

/-- **Two runs** of consecutive elements are told apart by the quotients of the keys. -/
theorem runs_div {α : Type} {key : α → Nat} {n k : Nat} {xs : List α} (hn : 0 < n)
    (h : Consecutive key (n * k) xs) :
    (∀ run ∈ runs n xs, ∃ j, k ≤ j ∧ ∀ x ∈ run, key x / n = j)
      ∧ (runs n xs).Pairwise fun run later => ∀ x ∈ run, ∀ y ∈ later, key x / n < key y / n := by
  induction xs using runs.induct n generalizing k with
  | case1 xs hshort hempty =>
    rw [runs, if_pos hshort, if_pos hempty]
    exact ⟨fun run hrun => absurd hrun List.not_mem_nil, List.Pairwise.nil⟩
  | case2 xs hshort hempty =>
    rw [runs, if_pos hshort, if_neg hempty]
    have hlength : xs.length ≤ n := hshort.resolve_right (Nat.ne_of_gt hn)
    refine ⟨fun run hrun => ⟨k, Nat.le_refl k, fun x hx => ?_⟩, List.pairwise_singleton _ _⟩
    obtain rfl := List.mem_singleton.mp hrun
    exact h.div_eq hlength hx
  | case3 xs hlong ih =>
    rw [runs, if_neg hlong]
    have hfirst : ∀ x ∈ xs.take n, key x / n = k :=
      fun x hx => (h.take n).div_eq (List.length_take_le n xs) hx
    obtain ⟨hquotients, hapart⟩ := ih (k := k + 1) (h.drop n)
    refine ⟨fun run hrun => ?_, List.pairwise_cons.mpr ⟨fun later hlater x hx y hy => ?_, hapart⟩⟩
    · obtain rfl | hrun := List.mem_cons.mp hrun
      · exact ⟨k, Nat.le_refl k, hfirst⟩
      · obtain ⟨j, hj, hrest⟩ := hquotients run hrun
        exact ⟨j, Nat.le_of_succ_le hj, hrest⟩
    · obtain ⟨j, hj, hrest⟩ := hquotients later hlater
      rw [hfirst x hx, hrest y hy]
      exact hj

namespace Line

theorem consecutive_descending : Consecutive place 0 descending := by
  have hplaces : descending.map place = List.range descending.length := by decide
  intro i hi
  have hplace : (descending.map place)[i]? = (List.range descending.length)[i]? :=
    congrArg (·[i]?) hplaces
  rw [List.getElem?_map, List.getElem?_eq_getElem hi, List.getElem?_range hi] at hplace
  rw [Nat.zero_add]
  exact Option.some.inj hplace

theorem mem_descending (line : Line) : line ∈ descending := by
  cases line <;> decide

/-- The displayed order goes from the highest bit to the lowest. -/
theorem descending_pairwise : descending.Pairwise fun a b => b.bit < a.bit := by
  decide

end Line

/-! ## Names -/

/-- A text without blanks. -/
def Text.Unbroken (s : String) : Prop := ∀ c ∈ s.toList, Text.isBlank c = false

-- By going through the text, for there are too many characters to go through those.
instance : DecidablePred Text.Unbroken :=
  fun s => List.decidableBAll (fun c => Text.isBlank c = false) s.toList

namespace Line

/-- **A name is read** as the line that has it. -/
theorem ofMnemonic?_mnemonic (line : Line) (phase : Phase) :
    ofMnemonic? (line.mnemonic phase) phase = some line := by
  have hall : ∀ bit : Fin count, ∀ phase ∈ Phase.all,
      ofMnemonic? ((ofBit bit).mnemonic phase) phase = some (ofBit bit) := by
    decide +kernel
  rw [← ofBit_bit line]
  exact hall line.bit phase (by cases phase <;> simp [Phase.all])

theorem unbroken_mnemonic (line : Line) (phase : Phase) :
    Text.Unbroken (line.mnemonic phase) := by
  have hall : ∀ bit : Fin count, ∀ phase ∈ Phase.all,
      Text.Unbroken ((ofBit bit).mnemonic phase) := by
    decide +kernel
  rw [← ofBit_bit line]
  exact hall line.bit phase (by cases phase <;> simp [Phase.all])

end Line

/-- The name of a line behind a lead. -/
def Line.name (lead : String) (phase : Phase) (line : Line) : String := lead ++ line.mnemonic phase

variable {lead joiner : String} {phase : Phase}

theorem Line.unbroken_name (hlead : Text.Unbroken lead) (phase : Phase) (line : Line) :
    Text.Unbroken (line.name lead phase) := by
  intro c hc
  unfold name at hc
  rw [String.toList_append] at hc
  exact (List.mem_append.mp hc).elim (hlead c) (line.unbroken_mnemonic phase c)

namespace ControlWord

/-- **Names are read back** as the word of their lines. -/
theorem ofMnemonics?_names (hlead : Text.Unbroken lead) (phase : Phase) (lines : List Line) :
    ofMnemonics? (lines.map (Line.name lead phase)) phase lead = some (ofLines lines) := by
  have hname : ∀ line : Line,
      Line.ofMnemonic? (Text.dropLead lead (Text.trim (line.name lead phase))) phase
        = some line := by
    intro line
    rw [Text.trim_eq_self (line.unbroken_name hlead phase), Line.name, Text.dropLead_append,
      Line.ofMnemonic?_mnemonic]
  have hlines : (lines.map (Line.name lead phase)).mapM (fun name =>
      Line.ofMnemonic? (Text.dropLead lead (Text.trim name)) phase) = some lines := by
    induction lines with
    | nil => rfl
    | cons line rest ih => rw [List.map_cons, List.mapM_cons, hname, ih]; rfl
  unfold ofMnemonics?
  rw [hlines]
  rfl

variable {w : ControlWord} {lines : List Line}

theorem mem_lines {line : Line} : line ∈ w.lines ↔ w.has line = true := by
  unfold ControlWord.lines
  rw [List.mem_filter]
  exact and_iff_right line.mem_descending

/-- The lines of a word come highest bit first. -/
theorem lines_pairwise (w : ControlWord) : w.lines.Pairwise fun a b => b.bit < a.bit :=
  Line.descending_pairwise.filter _

/-- **A word that fits is told by its lines.** -/
theorem ofLines_eq (hfits : w.fits = true) (h : ∀ line, line ∈ lines ↔ w.has line = true) :
    ofLines lines = w := by
  refine eq_of_bit fun i => Bool.eq_iff_iff.mpr ?_
  rw [bit_ofLines]
  constructor
  · rintro ⟨line, hline, rfl⟩
    exact (h line).mp hline
  · intro hbit
    have hi : i < Line.count := by
      by_contra hout
      rw [(fits_iff w).mp hfits i (Nat.le_of_not_lt hout)] at hbit
      exact absurd hbit (by simp)
    have hplace : i = (Line.ofBit ⟨i, hi⟩).bit.val := by rw [Line.bit_ofBit]
    refine ⟨Line.ofBit ⟨i, hi⟩, (h _).mpr ?_, hplace⟩
    rw [← bit_line, ← hplace]
    exact hbit

end ControlWord

/-! ## Groups -/

/-- **Groups of the lines of a word.** Every line that is set stands in them once, the
highest bit first. The lines of a group lie in one run of so many positions, and groups that
follow each other in different runs, so that a group ends with the last line of its run. -/
structure ControlWord.Groups (w : ControlWord) (size : Nat) (groups : List (List Line)) :
    Prop where
  mem_iff : ∀ line, line ∈ groups.flatten ↔ w.has line = true
  descending : groups.flatten.Pairwise fun a b => b.bit < a.bit
  nonempty : [] ∉ groups
  together : ∀ group ∈ groups, ∀ a ∈ group, ∀ b ∈ group, a.place / size = b.place / size
  apart : groups.Pairwise fun group later =>
    ∀ a ∈ group, ∀ b ∈ later, a.place / size < b.place / size

/-- The lines of a word cut into groups. -/
def ControlWord.groups (w : ControlWord) (size : Nat) : List (List Line) :=
  ((runs size Line.descending).map (·.filter w.has)).filter (!·.isEmpty)

theorem ControlWord.flatten_groups (w : ControlWord) (size : Nat) :
    (w.groups size).flatten = w.lines := by
  unfold groups
  rw [List.flatten_filter_not_isEmpty, ← List.filter_flatten, flatten_runs]
  rfl

/-- The runs with a line set are groups of the word. -/
theorem ControlWord.groups_spec (w : ControlWord) {size : Nat} (hsize : 0 < size) :
    w.Groups size (w.groups size) := by
  obtain ⟨hquotients, hapart⟩ :=
    runs_div (k := 0) hsize Line.consecutive_descending
  refine ⟨fun line => ?_, ?_, ?_, ?_, ?_⟩
  · rw [flatten_groups]
    exact mem_lines
  · rw [flatten_groups]
    exact lines_pairwise w
  · intro hempty
    exact absurd (List.mem_filter.mp hempty).2 (by simp)
  · intro group hgroup a ha b hb
    obtain ⟨run, hrun, rfl⟩ := List.mem_map.mp (List.mem_filter.mp hgroup).1
    obtain ⟨j, -, hj⟩ := hquotients run hrun
    rw [hj a (List.mem_filter.mp ha).1, hj b (List.mem_filter.mp hb).1]
  · refine List.Pairwise.filter _ (List.pairwise_map.mpr (hapart.imp ?_))
    intro run later h a ha b hb
    exact h a (List.mem_filter.mp ha).1 b (List.mem_filter.mp hb).1

/-- **Joined names come apart**, whether they are joined by a blank or by a bar between blanks. -/
theorem Line.pieces_names (hjoiner : joiner = " " ∨ joiner = " | ") (hlead : Text.Unbroken lead)
    (phase : Phase) {lines : List Line} (hne : lines ≠ []) :
    Text.pieces joiner (joiner.intercalate (lines.map (name lead phase)))
      = lines.map (name lead phase) := by
  obtain ⟨tail, htail⟩ : ∃ tail, joiner.toList = ' ' :: tail := by
    obtain rfl | rfl := hjoiner
    · exact ⟨_, rfl⟩
    · exact ⟨_, rfl⟩
  refine Text.pieces_intercalate htail (by simpa using hne) fun part hpart hblank => ?_
  obtain ⟨line, -, rfl⟩ := List.mem_map.mp hpart
  have hunbroken := line.unbroken_name hlead phase ' ' hblank
  exact absurd hunbroken (by decide)

/-! ## Words that are described -/

theorem ControlWord.fits_ofLines (lines : List Line) : (ofLines lines).fits = true := by
  rw [fits_iff]
  intro i hi
  refine Bool.eq_false_iff.mpr fun hbit => ?_
  obtain ⟨line, -, rfl⟩ := (bit_ofLines lines i).mp hbit
  exact absurd line.bit.isLt (Nat.not_lt.mpr hi)

/-- An addressing skeleton flips nothing but lines. -/
theorem AddressMode.fits_skeleton (mode : AddressMode) (carry : Bool) :
    ∀ stroke ∈ mode.skeleton carry, stroke.lines.fits = true := by
  cases mode <;> cases carry <;> decide +kernel

/-- Nor does a trailer. -/
theorem Form.fits_trailer (form : Form) : ∀ stroke ∈ form.trailer, stroke.lines.fits = true := by
  intro stroke hstroke
  unfold trailer finish at hstroke
  rw [if_pos rfl] at hstroke
  obtain rfl | hstroke := List.mem_cons.mp hstroke
  · exact ControlWord.fits_ofLines _
  · obtain rfl := List.mem_singleton.mp hstroke
    exact ControlWord.fits_ofLines _

namespace Opcode

variable {op : Opcode} {c : Cell}

/-- A cell of the skeleton. -/
theorem get_skeleton (op : Opcode) (c : Cell) :
    op.skeleton.get c = Stroke.contribution
      ((if op.usesAddressing then op.mode.skeleton (c.flags.val.testBit 0) else [])
        ++ (if op.usesTrailer then op.form.trailer else [])) c.step c.phase := by
  unfold skeleton Matrix.ofStrokes
  simp only [Matrix.get_ofFn, Fin.getElem_fin, Vector.getElem_ofFn]

theorem fits_skeleton (op : Opcode) (c : Cell) : (op.skeleton.get c).fits = true := by
  rw [get_skeleton]
  refine Stroke.fits_contribution (fun stroke hstroke => ?_) c.step c.phase
  obtain hmode | htrailer := List.mem_append.mp hstroke
  · split at hmode
    · exact op.mode.fits_skeleton _ stroke hmode
    · exact absurd hmode List.not_mem_nil
  · split at htrailer
    · exact op.form.fits_trailer stroke htrailer
    · exact absurd htrailer List.not_mem_nil

/-- What is described fits if the word of the cell does. -/
theorem fits_asserted (h : (op.word c).fits = true) (skipAddressing : Bool) :
    (op.asserted c skipAddressing).fits = true := by
  have hdefault : (ControlWord.default c.phase).fits = true := by
    cases c.phase <;> decide
  unfold asserted
  cases skipAddressing with
  | false => exact ControlWord.fits_xor h hdefault
  | true => exact ControlWord.fits_xor (ControlWord.fits_xor h hdefault) (op.fits_skeleton c)

/-- **A description** names the lines of the groups. -/
theorem describe_eq_map_groups (op : Opcode) (c : Cell) (style : DescriptionStyle) :
    op.describe c style
      = ((op.asserted c style.skipAddressing).groups (max style.groupSize 1)).map fun group =>
        style.joiner.intercalate (group.map (Line.name style.lead c.phase)) := rfl

/-- Its groups come apart into the names. -/
theorem pieces_describe {style : DescriptionStyle}
    (hjoiner : style.joiner = " " ∨ style.joiner = " | ") (hlead : Text.Unbroken style.lead)
    (op : Opcode) (c : Cell) :
    (op.describe c style).map (Text.pieces style.joiner)
      = ((op.asserted c style.skipAddressing).groups (max style.groupSize 1)).map
        (·.map (Line.name style.lead c.phase)) := by
  have hgroups := (op.asserted c style.skipAddressing).groups_spec
    (Nat.lt_of_lt_of_le Nat.one_pos (Nat.le_max_right style.groupSize 1))
  rw [describe_eq_map_groups, List.map_map]
  refine List.map_congr_left fun group hgroup => ?_
  have hne : group ≠ [] := fun hempty => hgroups.nonempty (hempty ▸ hgroup)
  exact Line.pieces_names hjoiner hlead c.phase hne

/-- What the names are read as. -/
theorem ofMnemonics?_describe {style : DescriptionStyle} (hfits : (op.word c).fits = true)
    (hjoiner : style.joiner = " " ∨ style.joiner = " | ") (hlead : Text.Unbroken style.lead) :
    ControlWord.ofMnemonics? ((op.describe c style).flatMap (Text.pieces style.joiner)) c.phase
      style.lead = some (op.asserted c style.skipAddressing) := by
  have hnames : (op.describe c style).flatMap (Text.pieces style.joiner)
      = (op.asserted c style.skipAddressing).lines.map (Line.name style.lead c.phase) := by
    rw [List.flatMap, pieces_describe hjoiner hlead, ← List.map_flatten,
      ControlWord.flatten_groups]
  rw [hnames, ControlWord.ofMnemonics?_names hlead,
    ControlWord.ofLines_eq (fits_asserted hfits _) fun _ => ControlWord.mem_lines]

/-! ## Summaries -/

/-- The lines of a summary. -/
def summarized (op : Opcode) (c : Cell) (skipAddressing : Bool) : List Line :=
  (op.asserted c skipAddressing).lines.filter (· != .ctmr)

variable {skipAddressing : Bool}

theorem mem_summarized {line : Line} :
    line ∈ op.summarized c skipAddressing
      ↔ (op.asserted c skipAddressing).has line = true ∧ line ≠ .ctmr := by
  unfold summarized
  rw [List.mem_filter, ControlWord.mem_lines, bne_iff_ne]

/-- **A summary** joins the names of its lines, if there is one. -/
theorem summary?_eq (op : Opcode) (c : Cell) (skipAddressing : Bool) :
    op.summary? c skipAddressing
      = if op.summarized c skipAddressing = [] then none
        else some (" | ".intercalate
          ((op.summarized c skipAddressing).map (Line.name "CL_" c.phase))) := by
  refine if_congr ?_ rfl rfl
  exact List.isEmpty_iff

/-! ## Peeling -/

/-- A joined text without the timer reset at its beginning. -/
def peelTimer (s : String) : String :=
  if "CL_CTMR | ".toList.isPrefixOf s.toList then Text.dropLead "CL_CTMR | " s
  else Text.dropLead "CL_CTMR" s

/-- In a word that has it, the timer reset comes first, and nowhere else. -/
theorem lines_eq_cons_or (w : ControlWord) :
    w.lines = .ctmr :: w.lines.filter (· != .ctmr) ∨ w.lines.filter (· != .ctmr) = w.lines := by
  have hpairwise := w.lines_pairwise
  cases hlines : w.lines with
  | nil => exact .inr rfl
  | cons line rest =>
    rw [hlines] at hpairwise
    obtain ⟨hbelow, -⟩ := List.pairwise_cons.mp hpairwise
    have hrest : rest.filter (· != .ctmr) = rest := by
      refine List.filter_eq_self.mpr fun other hother => bne_iff_ne.mpr ?_
      rintro rfl
      -- No line has a higher bit than the timer reset.
      exact absurd (hbelow _ hother) (Nat.not_lt.mpr (Nat.le_of_lt_succ line.bit.isLt))
    by_cases hctmr : line = .ctmr
    · subst hctmr
      left
      rw [List.filter_cons_of_neg (by simp), hrest]
    · right
      rw [List.filter_cons_of_pos (by simpa using hctmr), hrest]

theorem name_ctmr (phase : Phase) : Line.ctmr.name "CL_" phase = "CL_CTMR" := by
  cases phase <;> decide

/-- A text that begins with the name of another line does not begin with the timer reset. -/
theorem not_timer_prefix {line : Line} (hline : line ≠ .ctmr) (phase : Phase) (rest : String) :
    ¬ "CL_CTMR".toList <+: (line.name "CL_" phase ++ rest).toList := by
  have hlead : "CL_CTMR".toList = "CL_".toList ++ "CTMR".toList := by decide
  rw [Line.name, String.toList_append, String.toList_append, hlead, List.append_assoc,
    List.prefix_append_right_inj]
  intro hprefix
  -- All names have four letters, so the name itself would have to be the one of the reset.
  have hname : "CTMR".toList <+: (line.mnemonic phase).toList := by
    refine List.prefix_of_prefix_length_le hprefix (List.prefix_append _ _) ?_
    rw [String.length_toList, String.length_toList, line.length_mnemonic]
    decide
  have hsame : Line.ctmr.mnemonic phase = line.mnemonic phase := by
    refine String.toList_injective (hname.eq_of_length ?_)
    rw [String.length_toList, String.length_toList, line.length_mnemonic]
    decide
  have hread := line.ofMnemonic?_mnemonic phase
  rw [← hsame, Line.ofMnemonic?_mnemonic] at hread
  exact hline (Option.some.inj hread).symm

/-- Such a text is left alone. -/
theorem peelTimer_of_ne {line : Line} (hline : line ≠ .ctmr) (phase : Phase) (rest : String) :
    peelTimer (line.name "CL_" phase ++ rest) = line.name "CL_" phase ++ rest := by
  have hshort := not_timer_prefix hline phase rest
  have hlong : ¬ "CL_CTMR | ".toList <+: (line.name "CL_" phase ++ rest).toList :=
    fun hprefix => hshort (List.IsPrefix.trans (by decide) hprefix)
  unfold peelTimer
  rw [if_neg (by rwa [List.isPrefixOf_iff_prefix]), Text.dropLead_eq_self hshort]

/-- The timer reset is peeled off with the bar behind it. -/
theorem peelTimer_timer_append (rest : String) :
    peelTimer ("CL_CTMR" ++ " | " ++ rest) = rest := by
  have hlead : "CL_CTMR" ++ " | " = "CL_CTMR | " := by decide
  have hprefix : "CL_CTMR | ".toList <+: ("CL_CTMR | " ++ rest).toList := by
    rw [String.toList_append]
    exact List.prefix_append _ _
  unfold peelTimer
  rw [hlead, if_pos (List.isPrefixOf_iff_prefix.mpr hprefix), Text.dropLead_append]

/-- With one run for all positions there is one group, if a line is set. -/
theorem groups_of_count_le (w : ControlWord) {size : Nat} (h : Line.count ≤ size) :
    w.groups size = if w.lines = [] then [] else [w.lines] := by
  have hlength : Line.descending.length ≤ size := h
  have hrun : runs size Line.descending = [Line.descending] := by
    rw [runs, if_pos (Or.inl hlength)]
    rfl
  unfold ControlWord.groups ControlWord.lines
  rw [hrun, List.map_singleton]
  cases Line.descending.filter w.has <;> rfl

/-- Joined names begin with the first one. -/
theorem exists_intercalate_eq_append (joiner name : String) (names : List String) :
    ∃ more, joiner.intercalate (name :: names) = name ++ more := by
  cases names with
  | nil => exact ⟨"", by simp⟩
  | cons next rest => exact ⟨_, String.intercalate_cons_cons.trans String.append_assoc⟩

theorem isEmpty_name_append (line : Line) (phase : Phase) (rest : String) :
    (line.name "CL_" phase ++ rest).isEmpty = false := by
  simp [Line.name]

/-- **A summary peels the timer reset** off the description that has all lines in one group. -/
theorem summary?_eq_peeled (op : Opcode) (c : Cell) (skipAddressing : Bool) :
    op.summary? c skipAddressing
      = (op.describe c ⟨64, " | ", "CL_", skipAddressing⟩).head?.bind fun text =>
        if (peelTimer text).isEmpty then none else some (peelTimer text) := by
  have hcases : (op.asserted c skipAddressing).lines = .ctmr :: op.summarized c skipAddressing
      ∨ op.summarized c skipAddressing = (op.asserted c skipAddressing).lines :=
    lines_eq_cons_or _
  rw [summary?_eq, describe_eq_map_groups]
  show _ = (((op.asserted c skipAddressing).groups 64).map fun group =>
    " | ".intercalate (group.map (Line.name "CL_" c.phase))).head?.bind _
  rw [groups_of_count_le _ (by decide)]
  obtain htimer | hsame := hcases
  · rw [htimer, if_neg (List.cons_ne_nil _ _), List.map_singleton, List.head?_cons,
      Option.bind_some, List.map_cons, name_ctmr]
    cases op.summarized c skipAddressing with
    | nil =>
      have halone : peelTimer (" | ".intercalate ["CL_CTMR"]) = "" := by decide +kernel
      rw [if_pos rfl, List.map_nil, halone]
      rfl
    | cons line rest =>
      obtain ⟨more, hmore⟩ := exists_intercalate_eq_append " | " (line.name "CL_" c.phase)
        (rest.map (Line.name "CL_" c.phase))
      rw [if_neg (List.cons_ne_nil _ _), List.map_cons, String.intercalate_cons_cons,
        peelTimer_timer_append, hmore, isEmpty_name_append]
      rfl
  · rw [← hsame]
    cases hlines : op.summarized c skipAddressing with
    | nil => rfl
    | cons line rest =>
      have hline : line ≠ .ctmr := (mem_summarized.mp (hlines ▸ List.mem_cons_self)).2
      obtain ⟨more, hmore⟩ := exists_intercalate_eq_append " | " (line.name "CL_" c.phase)
        (rest.map (Line.name "CL_" c.phase))
      rw [if_neg (List.cons_ne_nil _ _), if_neg (List.cons_ne_nil _ _), List.map_singleton,
        List.head?_cons, Option.bind_some, List.map_cons, hmore, peelTimer_of_ne hline,
        isEmpty_name_append]
      rfl

/-! ## Reading back -/

/-- **Descriptions are read back.** The word of the cell has no bit past the last line, the
names are joined by a blank or by a bar between blanks, and the lead has no blank. What is
described is the word against the default of the phase, and against the skeleton as well if the
addressing is skipped. Cutting the texts of the description gives the names of its lines, in
groups that end with the runs of positions, and the names are read as the word that was
described. A summary comes apart into the names of the same lines without the timer reset, and
there is none exactly if no other line is set. -/
theorem description_reads_back (style : DescriptionStyle) (hfits : (op.word c).fits = true)
    (hjoiner : style.joiner = " " ∨ style.joiner = " | ") (hlead : Text.Unbroken style.lead) :
    let word := if style.skipAddressing then
        op.word c ^^^ ControlWord.default c.phase ^^^ op.skeleton.get c
      else op.word c ^^^ ControlWord.default c.phase
    (∃ groups, word.Groups (max style.groupSize 1) groups
        ∧ (op.describe c style).map (Text.pieces style.joiner)
          = groups.map (·.map (Line.name style.lead c.phase)))
      ∧ ControlWord.ofMnemonics? ((op.describe c style).flatMap (Text.pieces style.joiner)) c.phase
          style.lead = some word
      ∧ (op.summary? c style.skipAddressing = none
        ↔ ∀ line, word.has line = true → line = .ctmr)
      ∧ ∀ summary, op.summary? c style.skipAddressing = some summary →
        ∃ lines : List Line, (∀ line, line ∈ lines ↔ word.has line = true ∧ line ≠ .ctmr)
          ∧ lines.Pairwise (fun a b => b.bit < a.bit)
          ∧ Text.pieces " | " summary = lines.map (Line.name "CL_" c.phase) := by
  intro word
  have hword : word = op.asserted c style.skipAddressing := rfl
  clear_value word
  subst hword
  have hsize : 0 < max style.groupSize 1 :=
    Nat.lt_of_lt_of_le Nat.one_pos (Nat.le_max_right style.groupSize 1)
  refine ⟨⟨_, ControlWord.groups_spec _ hsize, pieces_describe hjoiner hlead op c⟩,
    ofMnemonics?_describe hfits hjoiner hlead, ?_, fun summary hsummary => ?_⟩
  · rw [summary?_eq, ite_eq_left_iff, List.eq_nil_iff_forall_not_mem]
    simp only [mem_summarized, not_and, not_not, reduceCtorEq, imp_false]
  · rw [summary?_eq] at hsummary
    split at hsummary
    · exact absurd hsummary (by simp)
    · rename_i hne
      rw [← Option.some.inj hsummary]
      exact ⟨op.summarized c style.skipAddressing, fun _ => mem_summarized,
        (ControlWord.lines_pairwise _).filter _,
        Line.pieces_names (.inr rfl) (by decide) c.phase hne⟩

/-- The general statement at the last step of an addition. The addressing counts the program
counter up there, and that line is not among those that are read. -/
theorem description_reads_back_adc :
    ((OpcodeTable.builtin.lookup 0x69).word (.wrap 0 1 .phi2)).fits = true
      ∧ Text.Unbroken "CL_"
      ∧ ControlWord.ofMnemonics?
          (((OpcodeTable.builtin.lookup 0x69).describe (.wrap 0 1 .phi2)
            ⟨8, " | ", "CL_", true⟩).flatMap (Text.pieces " | ")) .phi2 "CL_"
        = some (.ofLines [.ctmr, .dbd0, .dbd2, .sbla, .sbd2, .fsva, .fsca, .fsia, .cenb]) := by
  have hfits : ((OpcodeTable.builtin.lookup 0x69).word (.wrap 0 1 .phi2)).fits = true := by
    rw [OpcodeTable.lookup_builtin]
    exact Declaration.fits_word (Catalogue.declaration_behaves 0x69) _
  have hlead : Text.Unbroken "CL_" := by decide
  have hread := description_reads_back ⟨8, " | ", "CL_", true⟩ hfits (.inr rfl) hlead
  have hword : (OpcodeTable.builtin.lookup 0x69).word (.wrap 0 1 .phi2)
        ^^^ ControlWord.default .phi2
        ^^^ (OpcodeTable.builtin.lookup 0x69).skeleton.get (.wrap 0 1 .phi2)
      = .ofLines [.ctmr, .dbd0, .dbd2, .sbla, .sbd2, .fsva, .fsca, .fsia, .cenb] := by
    decide +kernel
  exact ⟨hfits, hlead, hread.2.1.trans (congrArg some hword)⟩

end Opcode

end Breadboard
