import Breadboard.Proofs.DashboardOverlay
import Breadboard.Proofs.VisibleChange

/-!
# Drawing without clearing

A change that turns no page is drawn over what the screen shows. Whether it then shows
what it should depends on the page. Help, messages and ports do not change at all, and the
memory page overlays itself. The dashboard does as long as it is steady, and the history
page unless the bell is let ring again: the hint says `on` where it said `off`, and is one
character shorter.
-/

namespace Breadboard

namespace Console

open DrawOp (Written Overlays)

variable {c d : Console} {cols rows : Nat} {connected : Bool}

/-! ## Changes that are drawn without clearing -/

theorem Shown.mild (h : Shown c d) (hquiet : .redraw true ∉ d.since c) : Mild c d := by
  obtain ⟨new, hnew, hmild, -⟩ := h
  rw [since_eq hnew] at hquiet
  exact hmild.resolve_left fun hclear => hquiet hclear.1

/-- Neither a tick nor the key that silences the bell turns a page; whatever else happens
is shown. -/
theorem mild_or_shown (c : Console) (happening : Happening) :
    Mild c (c.undergo happening) ∨ Shown c (c.undergo happening) := by
  cases happening with
  | tick phase r => exact .inl (ended_tick c phase r).pending.1
  | press key reply =>
    obtain hshown | ⟨-, -, hbell⟩ := shown_press c key reply
    · exact .inr hshown
    · have htoggled : Mild c { c with silenced := !c.silenced } := .of_eq rfl rfl rfl rfl
      refine .inl ?_
      show Mild c (c.press key reply).1
      rw [hbell]
      exact htoggled.trans (pending_log _ _).1
  | status change => exact .inr (shown_status c change)

/-- **What does not ask for a clear screen is mild.** -/
theorem mild_undergo {happening : Happening}
    (hquiet : .redraw true ∉ (c.undergo happening).since c) : Mild c (c.undergo happening) :=
  (mild_or_shown c happening).elim id (·.mild hquiet)

/-- **Nothing lets the history outgrow its room.** -/
theorem bounded_undergo (hbounded : c.notices.history.Bounded) (happening : Happening) :
    (c.undergo happening).notices.history.Bounded :=
  (mild_or_shown c happening).elim (fun hmild => (hmild.kept hbounded).1) (·.bounded hbounded)

/-- Nor does a run. -/
theorem bounded_through (hbounded : c.notices.history.Bounded) (run : List Happening) :
    (c.through run).notices.history.Bounded := by
  induction run generalizing c with
  | nil => exact hbounded
  | cons happening rest ih => exact ih (bounded_undergo hbounded happening)

/-! ## The history page -/

variable {offset : Nat}

/-- The heading is written over the whole first row. -/
theorem written_history_heading (hview : d.view = .page (.history offset)) {k : Nat}
    (hk : 0 < k ∧ k ≤ cols) : Written (d.pageOps cols rows connected) 1 k := by
  unfold pageOps
  rw [hview]
  refine DrawOp.written_cons.mpr (.inl ?_)
  rw [DrawOp.isSome_charAt?_print, Text.length_padEnd]
  omega

/-- Whether the end of the hint is left over. -/
def HintLeft (d c : Console) (cols rows : Nat) : Prop :=
  c.silenced = true ∧ d.silenced = false ∧ 2 ≤ rows ∧ (historyHint true).length ≤ cols

/-- The hint loses a character when the bell is let ring again. -/
theorem length_historyHint : (historyHint true).length = (historyHint false).length + 1 := by
  decide +kernel

/-- **A history page refreshes an older one** unless the end of the hint is left over. -/
theorem refreshes_history (hc : c.view = .page (.history offset))
    (hd : d.view = .page (.history offset)) (hmild : Mild c d)
    (hbounded : c.notices.history.Bounded) (hleft : ¬ HintLeft d c cols rows) :
    d.Refreshes c cols rows connected := by
  by_cases hlow : rows < 2
  · rw [refreshes_iff]
    intro r k hseen
    obtain ⟨hinside, hwritten⟩ := DrawOp.written_clip.mp (written_of_screen hseen)
    have hk := DrawOp.pos_of_written hwritten
    obtain rfl : r = 1 := by omega
    exact DrawOp.written_clip.mpr ⟨hinside, written_history_heading hd ⟨hk, hinside.2.2⟩⟩
  · have hlength := length_historyHint
    refine refreshes_of_overlays ?_
    unfold pageOps
    rw [hc, hd]
    refine overlays_historyOps hmild.rows_eq (hmild.kept hbounded).2 ?_
    unfold HintLeft at hleft
    cases hwas : c.silenced with
    | false =>
      cases d.silenced <;> omega
    | true =>
      cases his : d.silenced with
      | true => exact Nat.min_le_left _ _
      | false =>
        have hcut : ¬ (historyHint true).length ≤ cols :=
          fun hfits => hleft ⟨hwas, his, Nat.le_of_not_lt hlow, hfits⟩
        omega

/-- Behind the shorter hint nothing is written. -/
theorem not_written_behind_hint (his : d.silenced = false) (hrows : 2 ≤ rows) :
    ¬ Written (d.historyOps cols rows offset) rows (historyHint true).length := by
  have hlength := length_historyHint
  have hnotes : ¬ Written (notes 2 cols ((d.notices.history.recent offset (d.rows - 3)).take
      (rows - 2))) rows (historyHint true).length := by
    intro hwritten
    obtain ⟨i, n, hn, hprinted⟩ := DrawOp.written_mapIdx.mp hwritten
    obtain ⟨hi, -⟩ := List.getElem?_eq_some_iff.mp hn
    rw [List.length_take] at hi
    rw [DrawOp.isSome_charAt?_print] at hprinted
    omega
  unfold historyOps
  simp only [DrawOp.written_cons, DrawOp.written_append, DrawOp.isSome_charAt?_print, hnotes,
    DrawOp.not_written_nil, his]
  simp only [DrawOp.charAt?, Option.isSome_none, Bool.false_eq_true, or_false]
  omega

/-- **What is left of the hint** is to be seen. -/
theorem not_refreshes_history (hc : c.view = .page (.history offset))
    (hd : d.view = .page (.history offset)) (hleft : HintLeft d c cols rows) :
    ¬ d.Refreshes c cols rows connected := by
  obtain ⟨hwas, his, hrows, hcols⟩ := hleft
  have hhint : (DrawOp.print 1 rows .grey (historyHint true)).charAt? rows
      (historyHint true).length = some 's' := by
    unfold DrawOp.print
    rw [DrawOp.charAt?_text, if_pos ⟨rfl, by decide, by decide⟩]
    decide
  obtain ⟨before, hpage⟩ : ∃ before, c.pageOps cols rows connected
      = before ++ .print 1 rows .grey (historyHint true) :: [.cursor none] := by
    unfold pageOps historyOps
    rw [hc]
    dsimp only
    rw [hwas]
    exact ⟨_, rfl⟩
  have hseen : c.screen cols rows connected rows (historyHint true).length = 's' :=
    screen_of_last hpage ⟨by omega, Nat.le_refl _, hcols⟩ hhint
      (by simp [DrawOp.written_cons, DrawOp.not_written_nil, DrawOp.charAt?])
  rw [refreshes_iff]
  intro hall
  obtain ⟨-, hwritten⟩ := DrawOp.written_clip.mp
    (hall rows (historyHint true).length (by rw [hseen]; decide))
  unfold pageOps at hwritten
  rw [hd] at hwritten
  exact not_written_behind_hint his hrows hwritten

/-! ## All pages -/

/-- **Covered**: what is drawn is written over all that the older page showed. -/
def Covered (d c : Console) (cols rows : Nat) : Prop :=
  match c.view with
  | .dashboard => Steady d c
  | .page (.history _) => ¬ HintLeft d c cols rows
  | .page (.memory cursor) => (cursor.input.getD []).length ≤ 2
  | _ => True

/-- What is on show in the same view. -/
theorem view_of_sameView (h : SameView c.views d.views) :
    d.view = c.view ∨ ∃ cursor cursor', c.view = .page (.memory cursor)
      ∧ d.view = .page (.memory cursor') := by
  unfold view
  generalize c.views = views at h
  generalize d.views = views' at h
  cases h with
  | same => exact .inl rfl
  | moved cursor cursor' => exact .inr ⟨cursor, cursor', rfl, rfl⟩

/-- **A mild change that is covered can be drawn without clearing.** -/
theorem refreshes_of_covered (hmild : Mild c d) (hbounded : c.notices.history.Bounded)
    (hcovered : Covered d c cols rows) : d.Refreshes c cols rows connected := by
  have hlength := (hmild.kept hbounded).2
  have hbound : c.opcode?.isSome = true → d.opcode?.isSome = true := by
    unfold opcode?
    rw [Option.isSome_map, Option.isSome_map]
    exact hmild.bound
  unfold Covered at hcovered
  -- The view is the same, or the memory page with its cursor elsewhere.
  obtain hd | ⟨cursor, cursor', hc, hd⟩ := view_of_sameView hmild.view
  · generalize hc : c.view = view at hd hcovered
    cases view with
    | dashboard =>
      refine refreshes_of_overlays ?_
      unfold pageOps
      rw [hc, hd]
      exact overlays_dashboardOps hcovered connected hbound hlength
    | page p =>
      cases p with
      | history offset => exact refreshes_history hc hd hmild hbounded hcovered
      | memory cursor =>
        refine refreshes_of_overlays ?_
        unfold pageOps
        rw [hc, hd]
        exact overlays_memoryOps hcovered
      | help | error | ports =>
        refine refreshes_of_overlays ?_
        unfold pageOps
        rw [hc, hd]
        exact .refl _ _
  · rw [hc] at hcovered
    refine refreshes_of_overlays ?_
    unfold pageOps
    rw [hc, hd]
    exact overlays_memoryOps hcovered

/-- **When an incremental redraw shows what a full one shows**: after anything that does
not ask for a clear screen it does if what the older page showed is covered. On the history
page there is no other way. That the history is bounded is no restriction: it begins so,
and stays so in every run (`bounded_through`). -/
theorem incremental_redraw (c : Console) (happening : Happening) (cols rows : Nat)
    (connected : Bool) (hbounded : c.notices.history.Bounded)
    (hquiet : .redraw true ∉ (c.undergo happening).since c) :
    ((c.undergo happening).Covered c cols rows
        → (c.undergo happening).Refreshes c cols rows connected)
      ∧ ∀ offset, c.view = .page (.history offset) →
        (c.undergo happening).Refreshes c cols rows connected →
          (c.undergo happening).Covered c cols rows := by
  have hmild := mild_undergo hquiet
  refine ⟨refreshes_of_covered hmild hbounded, fun offset hc hrefreshes => ?_⟩
  have hd : (c.undergo happening).view = .page (.history offset) := by
    obtain hsame | ⟨cursor, cursor', hmemory, -⟩ := view_of_sameView hmild.view
    · exact hsame.trans hc
    · cases hc.symm.trans hmemory
  unfold Covered
  rw [hc]
  exact fun hleft => not_refreshes_history hc hd hleft hrefreshes

/-- **The lines beside the clock** change nothing that takes more room or less. -/
theorem steady_line (c : Console) {change : StatusChange} (h : ∀ up, change ≠ .connected up) :
    Steady (c.status change) c := by
  have hgroups (op op' : Opcode) (hop : c.opcode? = some op) (hop' : c.opcode? = some op') :
      (c.lineGroups op).length ≤ (c.lineGroups op').length := by
    rw [Option.some.inj (hop.symm.trans hop')]
  cases change with
  | connected up => exact absurd rfl (h up)
  | irq | nmi | reset =>
    exact ⟨.refl _ _, .refl _ _, UInt8.le_refl _, fun _ => rfl, fun _ => .refl _ _, hgroups⟩

/-- The dashboard in the second half of the last step of an addition. -/
def addingDashboard : Console :=
  { table := .builtin
    live := { address := 0x0201, opCode := some 0x69, status := 1, phase := .phi2 }
    editor := ((LineEditor.start.bind? 2).getD .start).follow 1 .phi2 }

/-- A line beside the clock that falls is shown there, and the opcode, its matrix and the lines of
the cell stay. -/
theorem incremental_redraw_irq :
    addingDashboard.live.opCode = some 0x69
      ∧ addingDashboard.notices.history.Bounded
      ∧ .redraw true ∉ (addingDashboard.undergo (.status (.irq false))).since addingDashboard
      ∧ (addingDashboard.undergo (.status (.irq false))).Refreshes addingDashboard 100 40 true := by
  have hbounded : addingDashboard.notices.history.Bounded := History.bounded_ofCapacity _
  have hquiet :
      .redraw true ∉ (addingDashboard.undergo (.status (.irq false))).since addingDashboard := by
    decide
  have hsteady : Steady (addingDashboard.status (.irq false)) addingDashboard :=
    steady_line addingDashboard (by simp)
  exact ⟨rfl, hbounded, hquiet,
    (incremental_redraw addingDashboard (.status (.irq false)) 100 40 true hbounded hquiet).1 hsteady⟩

/-! ## A hint that is left over -/

/-- The history page while the bell keeps silent. -/
def silentHistory : Console :=
  { table := .builtin, views := [.page (.history 0), .dashboard], silenced := true }

/-- When the bell is let ring again there, the screen is asked to be drawn without
clearing it. -/
theorem redraws_silentHistory :
    .redraw true ∉ (silentHistory.undergo (.press (.char 's') (.ok ()))).since silentHistory
      ∧ .redraw false
        ∈ (silentHistory.undergo (.press (.char 's') (.ok ()))).since silentHistory := by
  decide +kernel

/-- **The last character of the hint stays** on the screen when the bell is let ring
again. -/
theorem hint_left_over :
    ¬ ∀ (c : Console) (happening : Happening) (cols rows : Nat) (connected : Bool),
      c.notices.history.Bounded → .redraw true ∉ (c.undergo happening).since c →
        .redraw false ∈ (c.undergo happening).since c →
          (c.undergo happening).Refreshes c cols rows connected := by
  intro hall
  obtain ⟨hquiet, hasked⟩ := redraws_silentHistory
  have hrefreshes := hall silentHistory _ 100 40 true (History.bounded_ofCapacity _)
    hquiet hasked
  have hview : silentHistory.view = .page (.history 0) := rfl
  exact not_refreshes_history hview rfl ⟨rfl, rfl, by decide, by decide⟩ hrefreshes

end Console

end Breadboard
