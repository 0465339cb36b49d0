import Breadboard.Proofs.PageOverlay

/-!
# Drawing the dashboard over itself

Most of the dashboard has its place and its width whatever is shown. Some of it has not.
The matrix has as many rows as the opcode has steps, and what stands below it moves with
them. The title, the listing and the help line are filled up, but only to a width that the
names of a table can exceed, and so does the help of one line. The listing ends where an
opcode is not defined, and the cell under the cursor has as many groups of lines as it
happens to have.

So the dashboard can be drawn over itself as long as none of these becomes less.
-/

namespace Breadboard

/-! ## Widths -/

theorem Line.length_mnemonic (line : Line) (phase : Phase) :
    (line.mnemonic phase).length = 4 := by
  have hall : ∀ bit : Fin Line.count, ∀ phase ∈ Phase.all,
      ((Line.ofBit bit).mnemonic phase).length = 4 := by
    decide +kernel
  rw [← Line.ofBit_bit line]
  exact hall line.bit phase (by cases phase <;> simp [Phase.all])

/-- There is room for a bus and its source. -/
theorem Bus.length_source_le (bus : Bus) (word : ControlWord) :
    (Text.padEnd 6 bus.label ++ bus.sourceName word).length ≤ 30 := by
  have hname : ∀ source ∈ bus.sources, source.name.length ≤ 24 := by
    cases bus <;> decide +kernel
  have hlabel : (Text.padEnd 6 bus.label).length = 6 := by
    cases bus <;> decide +kernel
  rw [String.length_append, hlabel]
  have hchosen : (bus.sourceName word).length ≤ 24 := by
    unfold sourceName sourceOf?
    cases hsource : (do bus.sources[← bus.resolve? word]? : Option BusSource) with
    | none => decide +kernel
    | some source =>
      obtain ⟨index, -, hindex⟩ := Option.bind_eq_some_iff.mp hsource
      exact hname source (List.mem_of_getElem? hindex)
  omega

/-- A level is shown by one digit. -/
theorem length_bit (set : Bool) : (if set then "1" else "0").length = 1 := by
  cases set <;> rfl

/-- A run is not longer than it may be. -/
theorem length_le_of_mem_runs {α : Type} {n : Nat} {xs run : List α} (hn : 0 < n)
    (h : run ∈ runs n xs) : run.length ≤ n := by
  induction xs using runs.induct n with
  | case1 xs hshort hempty =>
    rw [runs, if_pos hshort, if_pos hempty] at h
    exact absurd h List.not_mem_nil
  | case2 xs hshort hempty =>
    rw [runs, if_pos hshort, if_neg hempty] at h
    rw [List.mem_singleton.mp h]
    omega
  | case3 xs hlong ih =>
    rw [runs, if_neg hlong] at h
    obtain rfl | h := List.mem_cons.mp h
    · rw [List.length_take]
      omega
    · exact ih h

/-- Words of one length with something between them. -/
theorem length_intercalate_le (joiner : String) {n : Nat} {words : List String}
    (h : ∀ word ∈ words, word.length = n) :
    (joiner.intercalate words).length ≤ words.length * (n + joiner.length) := by
  induction words with
  | nil => simp
  | cons word rest ih =>
    have hword := h word List.mem_cons_self
    have hrest := ih fun w hw => h w (List.mem_cons_of_mem _ hw)
    cases rest with
    | nil =>
      rw [String.intercalate_singleton, hword, List.length_singleton]
      omega
    | cons next rest =>
      rw [String.intercalate_cons_cons, String.length_append, String.length_append, hword,
        List.length_cons, Nat.succ_mul]
      omega

namespace Console

open DrawOp (print Overlays overlays_print overlays_map overlays_flatMap overlays_mapIdx
  overlays_cursor overlays_lines overlays_nil)
open Text (Fits)

variable {c d : Console} {op op' : Opcode} {cols rows : Nat}

/-- A text overlays one of the same length, whatever their colours are. -/
theorem overlays_recolored {col row : Nat} {color color' : Color} {s s' : String}
    (h : s.length = s'.length) :
    Overlays cols [print col row color' s'] [print col row color s] :=
  overlays_print (by omega)

/-- A text that is filled up overlays one that is not longer than it is filled up to. -/
theorem overlays_filled {width col row : Nat} {color color' : Color} {s s' : String}
    (h : s.length ≤ width) :
    Overlays cols [print col row color' (Text.padEnd width s')]
      [print col row color (Text.padEnd width s)] := by
  refine overlays_print ?_
  rw [Text.length_padEnd, Text.length_padEnd]
  omega

/-- A single line that fits overlays the old one. -/
theorem overlays_line {width col row : Nat} {color color' : Color} {s s' : String}
    (h : Fits width [s'] [s]) :
    Overlays cols [print col row color' (Text.padEnd width s')]
      [print col row color (Text.padEnd width s)] :=
  overlays_lines (fun _ => color) (fun _ => color') h

/-! ## Around the matrix -/

theorem overlays_titleOps (h : Fits 40 [d.title] [c.title]) (connected : Bool) :
    Overlays cols (d.titleOps connected) (c.titleOps connected) :=
  .cons (.refl _ _) (overlays_line h)

theorem overlays_nearbyOps (c d : Console) : Overlays cols d.nearbyOps c.nearbyOps := by
  refine overlays_map (fun _ => id) fun i _ => overlays_print ?_
  rw [Memory.length_dumpRow, Memory.length_dumpRow]
  omega

/-- The processor's state takes as much room as there are steps and instructions. -/
theorem overlays_processorOps (hsteps : c.editor.steps ≤ d.editor.steps)
    (hupcoming : Fits 24 d.upcoming c.upcoming) :
    Overlays cols d.processorOps c.processorOps := by
  have hrange : ∀ step ∈ List.range c.editor.steps.toNat,
      step ∈ List.range d.editor.steps.toNat := by
    intro step hstep
    rw [List.mem_range] at hstep ⊢
    exact Nat.lt_of_lt_of_le hstep hsteps
  have hphase (phase : Phase) : (phaseText phase).length = 7 := by
    cases phase <;> rfl
  have hlevels (e : Console) : ("Address $" ++ Hex.padded 4 e.live.address.toNat
      ++ "  Data $" ++ Hex.byte (e.memory.read e.live.address)).length = 23 := by
    simp only [String.length_append, Hex.length_padded_address, Hex.length_byte]
    rfl
  unfold processorOps
  dsimp only
  -- The flags, the steps, the phase and the pins, and the two buses stand above the listing.
  refine .append (.append (.append (.append ?_ ?_) ?_) ?_) (overlays_lines _ _ hupcoming)
  · refine .cons (.refl _ _) (overlays_mapIdx fun i flag hflag => ⟨flag, hflag, ?_⟩)
    exact overlays_recolored rfl
  · exact .cons (.refl _ _) (overlays_map hrange fun step _ => overlays_recolored rfl)
  · exact .cons (overlays_recolored ((hphase _).trans (hphase _).symm))
      (.cons (overlays_recolored rfl) (.cons (overlays_recolored rfl)
        (.cons (overlays_recolored rfl) (.refl _ _))))
  · exact .cons (overlays_recolored ((hlevels c).trans (hlevels d).symm)) (.refl _ _)

theorem overlays_headingOp (c d : Console) : Overlays cols [d.headingOp] [c.headingOp] := by
  unfold headingOp
  refine overlays_filled ?_
  cases c.ignoresFlags with
  | true =>
    rw [if_pos rfl]
    decide
  | false =>
    simp only [Bool.false_eq_true, if_false, String.length_append, length_bit]
    decide

/-! ## The matrix -/

theorem overlays_namesOps (phase phase' : Phase) :
    Overlays cols (namesOps phase') (namesOps phase) := by
  have hone (char : Char) : char.toString.length = 1 := String.length_singleton
  unfold namesOps
  refine overlays_flatMap (fun _ => id) fun i _ => overlays_map (fun _ => id) fun column _ => ?_
  exact overlays_recolored ((hone _).trans (hone _).symm)

/-- A row of the matrix overlays the row of the same cell. -/
theorem overlays_rowOps (hsteps : d.editor.steps = c.editor.steps) (op op' : Opcode)
    (step : UInt8) (phase : Phase) :
    Overlays cols (d.rowOps op' step phase) (c.rowOps op step phase) := by
  unfold rowOps Opcode.classify
  -- Both rows go through the same lines and columns; only what is said of them differs.
  rw [hsteps, List.zip_map_left, List.zip_map_left]
  dsimp only
  rw [List.map_map, List.map_map]
  refine .cons (overlays_recolored rfl) (overlays_map (fun _ => id) fun bit _ => ?_)
  exact overlays_recolored ((length_bit _).trans (length_bit _).symm)

/-- The matrix and what stands below it, as long as the rows are the same ones. -/
theorem overlays_matrixOps (hsteps : d.editor.steps = c.editor.steps)
    (hhelp : Fits 62 [d.helpLine] [c.helpLine]) :
    Overlays cols (d.matrixOps op') (c.matrixOps op) := by
  unfold matrixOps behindMatrix
  rw [hsteps]
  refine .append (.append (overlays_namesOps _ _) ?_) (overlays_line hhelp)
  refine overlays_flatMap (fun _ => id) fun step _ => ?_
  exact overlays_flatMap (fun _ => id) fun phase _ => overlays_rowOps hsteps op op' _ phase

/-! ## The buses and the groups of lines -/

/-- **A group of lines** has room: it is eight names at most. -/
theorem length_group_le (op : Opcode) (cell : Cell) :
    ∀ group ∈ op.describe cell {}, group.length ≤ 40 := by
  intro group hgroup
  obtain ⟨lines, hlines, rfl⟩ := List.mem_map.mp hgroup
  obtain ⟨run, hrun, rfl⟩ := List.mem_map.mp (List.mem_filter.mp hlines).1
  have height : run.length ≤ 8 := length_le_of_mem_runs (by decide) hrun
  have hasserted := List.length_filter_le (op.asserted cell false).has run
  have hnames : ∀ word ∈ (run.filter (op.asserted cell false).has).map
      (fun line => "" ++ line.mnemonic cell.phase), word.length = 4 := by
    intro word hword
    obtain ⟨line, -, rfl⟩ := List.mem_map.mp hword
    rw [String.length_append, Line.length_mnemonic]
    rfl
  have hjoined := length_intercalate_le " " hnames
  rw [List.length_map, show (" " : String).length = 1 from rfl] at hjoined
  exact hjoined.trans (by omega)

/-- The buses and the groups of lines, as long as the groups do not become fewer. -/
theorem overlays_busOps (hgroups : (c.lineGroups op).length ≤ (d.lineGroups op').length) :
    Overlays cols (d.busOps op') (c.busOps op) := by
  have hmode (busMode : Bool) :
      (if busMode then "Buses (bus mode)" else "Buses           ").length = 16 := by
    cases busMode <;> decide
  unfold busOps
  dsimp only
  refine .append (.cons (overlays_recolored ((hmode _).trans (hmode _).symm)) ?_) ?_
  · unfold LineEditor.projections
    refine overlays_mapIdx fun i shown hshown => ?_
    rw [List.getElem?_map] at hshown
    obtain ⟨bus, hbus, rfl⟩ := Option.map_eq_some_iff.mp hshown
    refine ⟨_, by rw [List.getElem?_map, hbus]; rfl, ?_⟩
    exact overlays_filled (Bus.length_source_le _ _)
  · unfold below
    refine overlays_mapIdx fun i line hline => ?_
    rw [List.getElem?_map] at hline
    obtain ⟨group, hgroup, rfl⟩ := Option.map_eq_some_iff.mp hline
    obtain ⟨hi, rfl⟩ := List.getElem?_eq_some_iff.mp hgroup
    refine ⟨_, by rw [List.getElem?_map, List.getElem?_eq_getElem (hi.trans_le hgroups)]; rfl, ?_⟩
    exact overlays_filled (length_group_le op _ _ (List.getElem_mem hi))

theorem overlays_noteOps (hsteps : d.editor.steps = c.editor.steps)
    (hlength : c.notices.history.length ≤ d.notices.history.length) :
    Overlays cols (d.noteOps cols rows) (c.noteOps cols rows) := by
  unfold noteOps behindMatrix
  rw [hsteps]
  dsimp only
  split
  · refine overlays_notes ?_
    rw [length_recent, length_recent]
    omega
  · exact .refl _ _

/-! ## The whole dashboard -/

/-- **Steady**: nothing on the dashboard becomes less in a way that is not filled up. -/
structure Steady (d c : Console) : Prop where
  /-- The listing is not shorter, and neither are its lines. -/
  upcoming : Fits 24 d.upcoming c.upcoming
  title : Fits 40 [d.title] [c.title]
  steps : c.editor.steps ≤ d.editor.steps
  /-- If there is a matrix, it keeps its rows. -/
  rows : c.opcode?.isSome = true → d.editor.steps = c.editor.steps
  help : c.opcode?.isSome = true → Fits 62 [d.helpLine] [c.helpLine]
  /-- The groups of lines do not become fewer. -/
  groups : ∀ op op', c.opcode? = some op → d.opcode? = some op' →
    (c.lineGroups op).length ≤ (d.lineGroups op').length

/-- **A steady dashboard overlays itself**, unless its opcode or its notifications go
away. -/
theorem overlays_dashboardOps (h : Steady d c) (connected : Bool)
    (hbound : c.opcode?.isSome = true → d.opcode?.isSome = true)
    (hlength : c.notices.history.length ≤ d.notices.history.length) :
    Overlays cols (d.dashboardOps cols rows connected) (c.dashboardOps cols rows connected) := by
  have haround : Overlays cols (d.titleOps connected ++ d.nearbyOps ++ d.processorOps)
      (c.titleOps connected ++ c.nearbyOps ++ c.processorOps) :=
    .append (.append (overlays_titleOps h.title connected) (overlays_nearbyOps c d))
      (overlays_processorOps h.steps h.upcoming)
  unfold dashboardOps
  dsimp only
  refine .append haround (.cons (overlays_headingOp c d) ?_)
  cases hop : c.opcode? with
  -- Without an opcode there is nothing below the heading.
  | none => exact overlays_cursor _ _ _
  | some op =>
    have hsome : c.opcode?.isSome = true := by rw [hop]; rfl
    obtain ⟨op', hop'⟩ := Option.isSome_iff_exists.mp (hbound hsome)
    rw [hop']
    exact .append (.append (.append (overlays_matrixOps (h.rows hsome) (h.help hsome))
      (overlays_busOps (h.groups op op' hop hop'))) (overlays_noteOps (h.rows hsome) hlength))
      (overlays_cursor _ _ _)

end Console

end Breadboard
