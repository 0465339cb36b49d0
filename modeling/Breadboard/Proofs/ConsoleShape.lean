import Breadboard.Proofs.ConsoleRun

/-!
# The shape of the console

Whoever draws the console or types at it relies on a few things: that there is always a
view to show and the lowest one is the dashboard, that the cursor is on a row that is
shown, and that the rows are those of the opcode that is bound.

The last two depend on each other. A tick that binds an opcode hands the editor the
step count of that opcode, but only if it is another opcode than before, and the editor
sends the cursor home only if it is another count. When the cursor follows the live cell
it stays where it is if the editor has no such row. So neither can be shown without the
other, nor without what edits leave alone, which is the number of steps of every opcode.

The first has to be shown as well, for nothing in a list of views keeps the dashboard where
it is. A key that is pressed without any view ends the session, and so does one that closes
the last. Neither happens, because only pages are laid and only pages are taken away.
-/

namespace Breadboard

/-- Every opcode has a step, and a matrix has room for all its steps. -/
theorem OpcodeTable.steps_lookup (t : OpcodeTable) (code : UInt8) :
    1 ≤ (t.lookup code).steps.toNat ∧ (t.lookup code).steps.toNat ≤ Cell.maxSteps :=
  t.steps_mem (place code)

namespace LineEditor

variable {e e' : LineEditor}

/-! ## The cursor -/

/-- **The cursor is inside** the matrix that is shown, and that matrix is one an opcode
can have. -/
structure Inside (e : LineEditor) : Prop where
  row_lt : e.cursor.row.toNat < 2 * e.steps.toNat
  steps_le : e.steps.toNat ≤ Cell.maxSteps

theorem inside_start : start.Inside := ⟨by decide, by decide⟩

/-- The number of rows does not leave the range of a byte. -/
theorem Inside.toNat_rows (h : e.Inside) : e.rows.toNat = 2 * e.steps.toNat := by
  have hle : e.steps.toNat ≤ 8 := h.steps_le
  unfold rows
  rw [UInt8.toNat_mul]
  show e.steps.toNat * 2 % 256 = 2 * e.steps.toNat
  omega

/-- Being inside is being on a row that is shown. -/
theorem Inside.iff_lt_rows (h : e.Inside) (hsteps : e'.steps = e.steps) :
    e'.Inside ↔ e'.cursor.row < e.rows := by
  rw [UInt8.lt_iff_toNat_lt, h.toNat_rows, ← hsteps]
  exact ⟨Inside.row_lt, fun hrow => ⟨hrow, hsteps ▸ h.steps_le⟩⟩

/-- **What a move can do**: it keeps the number of steps, and goes up, stays on its row or
goes to a row that is shown. -/
theorem Moves.steps_row (h : e.Moves e') :
    e'.steps = e.steps ∧ (e'.cursor.row ≤ e.cursor.row ∨ e'.cursor.row < e.rows) := by
  cases h with
  | @navigated _ d h =>
    unfold navigate? at h
    cases d with
    | up =>
      obtain ⟨hrow, h⟩ := Option.ite_none_left_eq_some.mp h
      cases h
      have hrow : 1 ≤ e.cursor.row := UInt8.pos_iff_ne_zero.mpr hrow
      refine ⟨rfl, .inl ?_⟩
      rw [UInt8.le_iff_toNat_le, UInt8.toNat_sub_of_le _ _ hrow]
      exact Nat.sub_le _ _
    | down =>
      obtain ⟨hrow, h⟩ := Option.ite_none_right_eq_some.mp h
      cases h
      exact ⟨rfl, .inr hrow⟩
    | left | right =>
      dsimp only at h
      split at h
      · cases h
        exact ⟨rfl, .inl (UInt8.le_refl _)⟩
      · cases h
  | @selected _ d h =>
    unfold selectBus? at h
    cases d with
    | up | down =>
      dsimp only at h
      split at h
      · cases h
        exact ⟨rfl, .inl (UInt8.le_refl _)⟩
      · cases h
    | left | right => cases h
  | toggled => exact ⟨rfl, .inl (UInt8.le_refl _)⟩

theorem Moves.inside (hmoves : e.Moves e') (h : e.Inside) : e'.Inside := by
  obtain ⟨hsteps, hrow⟩ := hmoves.steps_row
  rw [h.iff_lt_rows hsteps]
  have hlt : e.cursor.row < e.rows := (h.iff_lt_rows rfl).mp h
  exact hrow.elim (UInt8.lt_of_le_of_lt · hlt) id

/-- The cursor follows the live cell only to a row that is shown. -/
theorem Inside.follow (h : e.Inside) (step : UInt8) (phase : Phase) :
    (e.follow step phase).Inside ∧ (e.follow step phase).steps = e.steps := by
  unfold LineEditor.follow
  dsimp only
  split
  · rename_i hrow
    refine ⟨(h.iff_lt_rows ?_).mpr hrow, rfl⟩
    rfl
  · exact ⟨h, rfl⟩

/-- **The editor takes over** the step count of an opcode, with the cursor at home unless
it is the count it has. -/
theorem Inside.bind (h : e.Inside) {steps : UInt8} (hpos : 1 ≤ steps.toNat)
    (hle : steps.toNat ≤ Cell.maxSteps) :
    ((e.bind? steps).getD e).Inside ∧ ((e.bind? steps).getD e).steps = steps := by
  have hmax : max steps 1 = steps := by
    show (if steps ≤ 1 then 1 else steps) = steps
    split
    · rename_i hone
      exact UInt8.le_antisymm (UInt8.le_iff_toNat_le.mpr hpos) hone
    · rfl
  unfold bind?
  dsimp only
  rw [hmax]
  split
  · rename_i hsteps
    exact ⟨h, hsteps.symm⟩
  · refine ⟨⟨?_, hle⟩, rfl⟩
    show 0 < 2 * steps.toNat
    omega

end LineEditor

/-- **Well-formed works**: the cursor is inside the matrix, and the matrix has the steps of
the bound opcode. -/
structure Works.WellFormed (w : Works) : Prop where
  inside : w.editor.Inside
  steps_eq : ∀ code, w.live.opCode = some code → w.editor.steps = (w.table.lookup code).steps

/-! ## Views -/

/-- **Stacked views**: the dashboard, and pages on it. -/
inductive Stacked : List View → Prop where
  | ground : Stacked [.dashboard]
  | laid (p : Page) {below : List View} (h : Stacked below) : Stacked (.page p :: below)

namespace Stacked

variable {views views' below : List View} {p : Page}

theorem getLast?_eq (h : Stacked views) : views.getLast? = some .dashboard := by
  induction h with
  | ground => rfl
  | laid p _ ih => rw [List.getLast?_cons, ih, Option.getD_some]

theorem ne_nil (h : Stacked views) : views ≠ [] := by
  cases h <;> exact List.cons_ne_nil _ _

theorem notMem_dropLast (h : Stacked views) : .dashboard ∉ views.dropLast := by
  induction h with
  | ground => exact List.not_mem_nil
  | laid p h ih =>
    rw [List.dropLast_cons_of_ne_nil h.ne_nil, List.mem_cons]
    exact fun hmem => hmem.elim nofun ih

/-- What lies under a page. -/
theorem of_cons (h : Stacked (.page p :: below)) : Stacked below := by
  cases h with
  | laid _ h => exact h

/-- **Turning a page** keeps the views stacked. -/
theorem turn (h : Stacked views) (hturned : Turned views views') : Stacked views' := by
  cases hturned with
  | kept => exact h
  | laid p => exact .laid p h
  | lifted => exact h.of_cons
  | exchanged _ p' => exact .laid p' h.of_cons

end Stacked

namespace Console

variable {c d : Console} {phase : Phase} {r : BoardReplies}

/-! ## Steps of the console -/

/-- Binding keeps both, whether the opcode is another one or not. -/
theorem wellFormed_boundEditor (h : c.works.WellFormed) (code : UInt8) :
    (c.boundEditor code).Inside
      ∧ (c.boundEditor code).steps = (c.table.lookup code).steps := by
  unfold boundEditor
  split
  · rename_i hcode
    exact ⟨h.inside, h.steps_eq code hcode⟩
  · obtain ⟨hpos, hle⟩ := c.table.steps_lookup code
    exact LineEditor.Inside.bind h.inside hpos hle

theorem Facing.wellFormed {b : BoardReport} (hfacing : Facing c phase b d)
    (h : c.works.WellFormed) : d.works.WellFormed := by
  obtain ⟨hinside, hsteps⟩ := wellFormed_boundEditor h (c.tickOpcode phase b)
  rw [← hfacing.editor_eq] at hinside hsteps
  refine ⟨hinside, fun code hcode => ?_⟩
  obtain rfl := Option.some.inj (hfacing.opCode_eq.symm.trans hcode)
  show d.editor.steps = (d.table.lookup (c.tickOpcode phase b)).steps
  rw [hfacing.table_eq]
  exact hsteps

theorem wellFormed_perform (h : c.works.WellFormed) (r : BoardReplies) :
    (c.perform r).works.WellFormed := by
  obtain ⟨address, editor, memory, notices, deeds, hperform, heditor⟩ := exists_perform_eq c r
  rw [hperform]
  obtain rfl | rfl := heditor
  · exact ⟨h.inside, h.steps_eq⟩
  · obtain ⟨hinside, hsteps⟩ := LineEditor.Inside.follow h.inside c.live.step c.live.phase
    exact ⟨hinside, fun code hcode => hsteps.trans (h.steps_eq code hcode)⟩

theorem wellFormed_tick (h : c.works.WellFormed) (phase : Phase) (r : BoardReplies) :
    (c.tick phase r).works.WellFormed := by
  obtain ⟨d, hfacing, htick, -⟩ | ⟨-, -, live, notices, deeds, htick, hcode⟩ := tick_cases c phase r
  · rw [htick]
    exact wellFormed_perform (hfacing.wellFormed h) r
  · rw [htick]
    exact ⟨h.inside, fun code hlive => h.steps_eq code (hcode.symm.trans hlive)⟩

theorem wellFormed_press (h : c.works.WellFormed) (key : Key) (reply : Except LinkError Unit) :
    (c.press key reply).1.works.WellFormed := by
  have heffect := keyEffect_press c key reply
  generalize (c.press key reply).1.works = w at heffect ⊢
  cases heffect with
  | turned | switched => exact ⟨h.inside, h.steps_eq⟩
  | moved hmoves =>
    exact ⟨hmoves.inside h.inside,
      fun code hcode => hmoves.steps_row.1.trans (h.steps_eq code hcode)⟩
  | @edited code edited =>
    exact ⟨h.inside, fun d hd =>
      (h.steps_eq d hd).trans (steps_setLines c.table code d edited.1.lines).symm⟩

theorem wellFormed_undergo (h : c.works.WellFormed) (happening : Happening) :
    (c.undergo happening).works.WellFormed := by
  cases happening with
  | tick phase r => exact wellFormed_tick h phase r
  | press key reply => exact wellFormed_press h key reply
  | status change => cases change <;> exact ⟨h.inside, h.steps_eq⟩

theorem wellFormed_through (h : c.works.WellFormed) (run : List Happening) :
    (c.through run).works.WellFormed := by
  induction run generalizing c with
  | nil => exact h
  | cons happening rest ih => exact ih (wellFormed_undergo h happening)

/-- The console before anything has been read: the editor is at its start, and no opcode
is bound. -/
def begun (c : Console) : Console := { c with editor := .start, live := {} }

theorem wellFormed_begun (c : Console) : c.begun.works.WellFormed :=
  ⟨LineEditor.inside_start, fun _ hcode => absurd hcode (by simp [begun, works])⟩

/-! ## Pages that are turned -/

/-- A happening turns one page at most. -/
theorem turned_undergo (c : Console) (happening : Happening) :
    Turned c.views (c.undergo happening).views := by
  cases happening with
  | tick phase r =>
    obtain ⟨live, editor, memory, notices, deeds, htick⟩ := exists_tick_eq c phase r
    show Turned c.views (c.tick phase r).views
    rw [htick]
    exact .kept c.views
  | press key reply =>
    show Turned c.views (c.press key reply).1.works.views
    have heffect := keyEffect_press c key reply
    generalize (c.press key reply).1.works = w at heffect ⊢
    cases heffect with
    | turned hturned => exact hturned
    | moved | edited | switched => exact .kept c.views
  | status change => cases change <;> exact .kept c.views

/-- **A run** keeps the views stacked. -/
theorem stacked_through (h : Stacked c.views) (run : List Happening) :
    Stacked (c.through run).views := by
  induction run generalizing c with
  | nil => exact h
  | cons happening rest ih => exact ih (h.turn (turned_undergo c happening))

/-! ## The end of a session -/

theorem dashboardKey_ends_iff (c : Console) (key : Key) (reply : Except LinkError Unit) :
    (c.dashboardKey key reply).2 = true ↔ key = .char 'q' := by
  unfold dashboardKey
  split
  · rename_i d hd
    refine ⟨fun h => absurd h (by simp), ?_⟩
    rintro rfl
    cases hd
  · split <;> simp
    assumption

/-- Under a page there is a view, so the session goes on when the page is closed. -/
theorem not_ends_popView {p : Page} {below : List View} (h : Stacked (.page p :: below)) :
    (c.popView below).orEnd.2 = false :=
  List.isEmpty_eq_false_iff.mpr h.of_cons.ne_nil

/-- **A key ends the session** only if it is the one for that, on the dashboard. -/
theorem press_ends_iff (h : Stacked c.views) (key : Key) (reply : Except LinkError Unit) :
    (c.press key reply).2 = true ↔ key = .char 'q' ∧ c.views.head? = some .dashboard := by
  unfold press
  split
  · simp
  · split
    · rename_i hviews
      exact absurd hviews h.ne_nil
    · rename_i hviews
      rw [dashboardKey_ends_iff, hviews]
      simp
    · rename_i offset below hviews
      rw [hviews] at h ⊢
      split
      · simp [orEnd]
      · simp [not_ends_popView h]
    · rename_i cursor below hviews
      rw [hviews] at h ⊢
      split
      · simp [orEnd]
      · simp [not_ends_popView h]
    · rename_i p below _ _ hviews
      rw [hviews] at h ⊢
      simp [not_ends_popView h]

/-- **A fresh console**: nothing has been read, and no page was opened. -/
def fresh (c : Console) : Console := { c.begun with views := [.dashboard] }

theorem wellFormed_fresh (c : Console) : c.fresh.works.WellFormed :=
  ⟨(wellFormed_begun c).inside, (wellFormed_begun c).steps_eq⟩

/-- **The console keeps its shape**, whatever happens to it and whatever the board
answers. The dashboard is the lowest view and no other one; the cursor is inside the
matrix and the bus selector on a routed bus; while an opcode is bound, the matrix has its
steps; and the session ends when its key is pressed with the dashboard on show, and only
then. One page at most is turned at a time. -/
theorem keeps_shape (c : Console) (run : List Happening) :
    let now := c.fresh.through run
    (now.views ≠ [] ∧ now.views.getLast? = some .dashboard ∧ .dashboard ∉ now.views.dropLast)
      ∧ (1 ≤ now.editor.cursor.columnNumber ∧ now.editor.cursor.columnNumber ≤ 48)
      ∧ now.editor.cursor.row.toNat < 2 * now.editor.steps.toNat
      ∧ now.editor.bus.val < 4
      ∧ (∀ code, now.live.opCode = some code
          → now.editor.steps = (now.table.lookup code).steps)
      ∧ (∀ key reply, (now.press key reply).2 = true
          ↔ key = .char 'q' ∧ now.views.head? = some .dashboard)
      ∧ ∀ happening, Turned now.views (now.undergo happening).views := by
  intro now
  have hnow : now.works.WellFormed := wellFormed_through (wellFormed_fresh c) run
  have hviews : Stacked now.views := stacked_through .ground run
  exact ⟨⟨hviews.ne_nil, hviews.getLast?_eq, hviews.notMem_dropLast⟩,
    ⟨Nat.le_add_left 1 _, now.editor.cursor.column.isLt⟩, hnow.inside.row_lt,
    now.editor.bus.isLt, hnow.steps_eq, press_ends_iff hviews, turned_undergo now⟩

/-- A console is fresh as it is made. -/
example (t : OpcodeTable) : ({ table := t } : Console).fresh = { table := t } := rfl

end Console

end Breadboard
