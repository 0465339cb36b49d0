import Breadboard.Proofs.IncrementalRedraw
import Breadboard.Proofs.OperatorEdits

/-!
# The history page has something to show

The offset of a history page says how many of the newest notifications it leaves out. What keeps it
below their number is not one check. Two keys clamp it by what is there when they are pressed, and
by how many rows the screen has at that time. The others only go back. After that the screen may
get another size, and notifications come in, but their number never falls as long as the page is
open, except by the key that clears them, and that one goes back to the beginning.

So the bound is a fact about runs, in which notifications come in at any time: from what the
console does itself, and from elsewhere.
-/

namespace Breadboard

/-- **Occurrence**: something happens to the console, or an event is told from elsewhere. -/
inductive Occurrence where
  | happened (happening : Happening)
  | told (e : Event)

namespace Console

open DrawOp (Written)

variable {c d : Console}

/-- A console after an occurrence. -/
def meet (c : Console) : Occurrence → Console
  | .happened happening => c.undergo happening
  | .told e => c.log e

/-- A console after a run of them. -/
def meetAll (c : Console) (run : List Occurrence) : Console := run.foldl meet c

/-! ## The offset -/

/-- **In view**: of so many notifications an offset leaves one to be seen, or it leaves none out. -/
def InView (length offset : Nat) : Prop := offset = 0 ∨ offset < length

theorem InView.mono {length length' offset : Nat} (h : InView length offset)
    (hle : length ≤ length') : InView length' offset :=
  h.imp_right fun hlt => Nat.lt_of_lt_of_le hlt hle

/-- **A key on the history page** keeps the offset in view. -/
theorem inView_historyKey? {offset offset' : Nat} {key : Key}
    (h : c.historyKey? offset key = some (d, offset')) (hbounded : c.notices.history.Bounded)
    (hoffset : InView c.notices.history.length offset) :
    InView d.notices.history.length offset' := by
  have hor : offset = 0 ∨ offset < c.notices.history.length := hoffset
  unfold historyKey? at h
  dsimp only at h
  split at h
  · cases h
    show offset - 1 = 0 ∨ offset - 1 < c.notices.history.length
    omega
  · -- Whatever the size of the screen, a page has a row, so the last offset leaves one out.
    cases h
    show _ = 0 ∨ _ < c.notices.history.length
    omega
  · cases h
    show _ = 0 ∨ _ < c.notices.history.length
    omega
  · cases h
    show _ = 0 ∨ _ < c.notices.history.length
    omega
  · cases h
    exact .inl rfl
  · cases h
    exact hoffset.mono ((pending_log { c with silenced := !c.silenced } _).1.kept hbounded).2
  · cases h

/-! ## The views -/

/-- **Scrolled within bounds**: one page lies on the dashboard at most, and if it is the history
page its offset is in view. -/
structure Scrolled (c : Console) : Prop where
  bounded : c.notices.history.Bounded
  views : c.views = [.dashboard] ∨ ∃ p, c.views = [.page p, .dashboard]
    ∧ ∀ offset, p = .history offset → InView c.notices.history.length offset

/-- Nothing lies under the dashboard. -/
theorem Scrolled.of_dashboard (h : c.Scrolled) {below : List View}
    (hviews : c.views = .dashboard :: below) : below = [] := by
  obtain hground | ⟨p, hpage, -⟩ := h.views
  · cases hviews.symm.trans hground
    rfl
  · cases hviews.symm.trans hpage

/-- What lies under a page is the dashboard. -/
theorem Scrolled.of_page (h : c.Scrolled) {p : Page} {below : List View}
    (hviews : c.views = .page p :: below) : below = [.dashboard]
      ∧ ∀ offset, p = .history offset → InView c.notices.history.length offset := by
  obtain hground | ⟨p', hpage, hoffset⟩ := h.views
  · cases hviews.symm.trans hground
  · cases hviews.symm.trans hpage
    exact ⟨rfl, hoffset⟩

/-- **Mild changes** take no notification away. -/
theorem Scrolled.of_mild (h : c.Scrolled) (hmild : Mild c d) : d.Scrolled := by
  obtain ⟨hbounded, hle⟩ := hmild.kept h.bounded
  have hview := hmild.view
  refine ⟨hbounded, ?_⟩
  obtain hviews | ⟨p, hviews, hpage⟩ := h.views
  · rw [hviews] at hview
    generalize d.views = views at hview ⊢
    cases hview
    exact .inl rfl
  · rw [hviews] at hview
    generalize d.views = views at hview ⊢
    cases hview with
    | same => exact .inr ⟨p, rfl, fun offset hp => (hpage offset hp).mono hle⟩
    | moved => exact .inr ⟨_, rfl, nofun⟩

/-! ## Runs -/

/-- What a key press leaves: the dashboard, or one page on it. -/
theorem views_press (h : c.Scrolled) (key : Key) (reply : Except LinkError Unit) :
    (c.press key reply).1.views = [.dashboard]
      ∨ ∃ p, (c.press key reply).1.views = [.page p, .dashboard]
        ∧ ∀ offset, p = .history offset →
          InView (c.press key reply).1.notices.history.length offset := by
  unfold Console.press
  split
  · exact h.views
  · split
    · exact h.views
    · rename_i hviews
      obtain rfl := h.of_dashboard hviews
      obtain hkept | ⟨p, hlaid, hpage⟩ := lays_dashboardKey c _ reply
      · exact .inl ((congrArg Prod.snd hkept).trans hviews)
      · refine .inr ⟨p, (congrArg Prod.snd hlaid).trans (congrArg (.page p :: ·) hviews), ?_⟩
        rintro offset rfl
        exact .inl hpage
    · rename_i offset below hviews
      obtain ⟨rfl, hpage⟩ := h.of_page hviews
      split
      · rename_i d offset' hkey
        refine .inr ⟨_, rfl, ?_⟩
        rintro _ ⟨rfl⟩
        show InView d.notices.history.length offset'
        exact inView_historyKey? hkey h.bounded (hpage offset rfl)
      · exact .inl rfl
    · rename_i cursor below hviews
      obtain ⟨rfl, -⟩ := h.of_page hviews
      split
      · exact .inr ⟨_, rfl, nofun⟩
      · exact .inl rfl
    · rename_i p below _ _ hviews
      exact .inl (h.of_page hviews).1

/-- **A key press** keeps the views within bounds. -/
theorem Scrolled.press (h : c.Scrolled) (key : Key) (reply : Except LinkError Unit) :
    (c.press key reply).1.Scrolled :=
  ⟨bounded_undergo h.bounded (.press key reply), views_press h key reply⟩

/-- **One occurrence.** -/
theorem Scrolled.meet (h : c.Scrolled) (occurrence : Occurrence) :
    (c.meet occurrence).Scrolled := by
  cases occurrence with
  | told e => exact h.of_mild (pending_log c e).1
  | happened happening =>
    cases happening with
    | tick phase r => exact h.of_mild (ended_tick c phase r).pending.1
    | press key reply => exact h.press key reply
    | status change => cases change <;> exact ⟨h.bounded, h.views⟩

/-- **A run.** -/
theorem Scrolled.meetAll (h : c.Scrolled) (run : List Occurrence) : (c.meetAll run).Scrolled := by
  induction run generalizing c with
  | nil => exact h
  | cons occurrence rest ih => exact ih (h.meet occurrence)

/-! ## What is on the screen -/

/-- Notifications are drawn one below the other, and each of them above those behind it. -/
theorem exists_notes_eq {i : Nat} {entries : List Notification} {note : Notification}
    (h : entries[i]? = some note) (row cols : Nat) :
    ∃ before rest, notes row cols entries
        = before ++ .print 1 (row + i) (levelColor note.level) (Text.padEnd cols note.text) :: rest
      ∧ ∀ k, ¬ Written rest (row + i) k := by
  obtain ⟨hi, rfl⟩ := List.getElem?_eq_some_iff.mp h
  have hsplit : entries = entries.take i ++ entries[i] :: entries.drop (i + 1) := by
    rw [← List.drop_eq_getElem_cons hi, List.take_append_drop]
  have hlength : (entries.take i).length = i := List.length_take_of_le (Nat.le_of_lt hi)
  have hnotes : notes row cols entries = notes row cols (entries.take i)
      ++ .print 1 (row + i) (levelColor entries[i].level) (Text.padEnd cols entries[i].text)
        :: (entries.drop (i + 1)).mapIdx fun j n =>
          .print 1 (row + (j + 1 + i)) (levelColor n.level) (Text.padEnd cols n.text) := by
    unfold notes
    conv_lhs => rw [hsplit]
    rw [List.mapIdx_append, List.mapIdx_cons, hlength, Nat.zero_add]
  refine ⟨_, _, hnotes, fun k hwritten => ?_⟩
  obtain ⟨j, n, -, hprinted⟩ := DrawOp.written_mapIdx.mp hwritten
  rw [DrawOp.isSome_charAt?_print] at hprinted
  omega

/-- **A row of the history page** shows the notification that is so far behind the offset. -/
theorem after_draw_history {offset i : Nat} {below : List View} {note : Notification}
    (hviews : c.views = .page (.history offset) :: below)
    (hnote : c.notices.history.entries[offset + i]? = some note) {cols rows k : Nat}
    (hknown : i + 3 < c.rows) (hrows : i + 2 < rows) (hk : 1 ≤ k ∧ k ≤ cols)
    (connected clear : Bool) (g : Grid) :
    (Text.padEnd cols note.text).toList[k - 1]?
      = some (g.after (c.draw cols rows connected clear).2 (2 + i) k) := by
  have hentry : ((c.notices.history.recent offset (c.rows - 3)).take (rows - 2))[i]?
      = some note := by
    unfold History.recent
    rw [List.getElem?_take_of_lt (by omega), List.getElem?_take_of_lt (by omega),
      List.getElem?_drop, hnote]
  obtain ⟨before, rest, hnotes, hbehind⟩ := exists_notes_eq hentry 2 cols
  let heading := DrawOp.print 1 1 .white
    (Text.padEnd cols ("Notifications (" ++ toString c.notices.history.length ++ ")"))
  let ending := [DrawOp.print 1 rows .grey (historyHint c.silenced), .cursor none]
  let op := DrawOp.print 1 (2 + i) (levelColor note.level) (Text.padEnd cols note.text)
  have hops : c.pageOps cols rows connected = (heading :: before) ++ op :: (rest ++ ending) := by
    unfold pageOps view
    rw [hviews]
    show heading :: notes 2 cols _ ++ ending = _
    rw [hnotes, List.cons_append, List.append_assoc]
    rfl
  have hlength : k - 1 < (Text.padEnd cols note.text).toList.length := by
    rw [String.length_toList, Text.length_padEnd]
    omega
  have hop : op.charAt? (2 + i) k = some (Text.padEnd cols note.text).toList[k - 1] := by
    show (DrawOp.text _ _ _ _).charAt? _ _ = _
    rw [DrawOp.charAt?_text, if_pos ⟨rfl, Nat.one_pos, hk.1⟩, List.getElem?_eq_getElem hlength]
  have hending : ¬ Written (rest ++ ending) (2 + i) k := by
    simp only [ending, DrawOp.written_append, DrawOp.written_cons, DrawOp.isSome_charAt?_print,
      DrawOp.not_written_nil, hbehind k]
    simp only [DrawOp.charAt?, Option.isSome_none, Bool.false_eq_true, false_or, or_false]
    omega
  rw [after_draw_of_last hops ⟨by omega, by omega, hk.2⟩ hop hending,
    List.getElem?_eq_getElem hlength]

/-- **The history page never scrolls past its entries.** Begin with the dashboard on show. After
any run of keys, new sizes of the screen, ticks and notifications, a history page leaves out none
of the notifications or fewer than there are. So if there is any, the first row below the heading
shows one of them, on a screen that has more than three rows and is known to have more, and at
least one column; whatever was on the screen before, and whether it is cleared. -/
theorem history_page_in_view (hviews : c.views = [.dashboard])
    (hbounded : c.notices.history.Bounded) (run : List Occurrence) {offset : Nat}
    {below : List View} (hpage : (c.meetAll run).views = .page (.history offset) :: below) :
    (offset = 0 ∨ offset < (c.meetAll run).notices.history.length)
      ∧ (0 < (c.meetAll run).notices.history.length →
        ∃ note ∈ (c.meetAll run).notices.history.entries,
          ∀ (cols rows k : Nat) (connected clear : Bool) (g : Grid),
            3 < (c.meetAll run).rows → 3 < rows → 1 ≤ k → k ≤ cols →
            (Text.padEnd cols note.text).toList[k - 1]?
              = some (g.after ((c.meetAll run).draw cols rows connected clear).2 2 k)) := by
  have hbegin : c.Scrolled := ⟨hbounded, .inl hviews⟩
  have hview := ((hbegin.meetAll run).of_page hpage).2 offset rfl
  refine ⟨hview, fun hsome => ?_⟩
  have hlt : offset < (c.meetAll run).notices.history.entries.length :=
    hview.elim (fun hzero => hzero ▸ hsome) id
  refine ⟨_, List.getElem_mem hlt, fun cols rows k connected clear g hknown hrows hk hcols => ?_⟩
  exact after_draw_history (i := 0) hpage (List.getElem?_eq_getElem hlt) hknown
    (Nat.lt_of_succ_lt hrows) ⟨hk, hcols⟩ connected clear g

/-- The dashboard before any opcode was read. -/
def blankDashboard : Console := { table := .builtin }

/-- Two notifications, a page that is scrolled to the older one on a screen of four rows, and one
more notification while it is open. -/
theorem history_page_in_view_scrolled :
    let run : List Occurrence := [.told (.info .keys "first"), .told (.info .keys "second"),
      .happened (.press (.resize 9 4) (.ok ())), .happened (.press (.char 'l') (.ok ())),
      .happened (.press .down (.ok ())), .told (.info .keys "third")]
    (blankDashboard.meetAll run).views = [.page (.history 1), .dashboard]
      ∧ 1 < (blankDashboard.meetAll run).notices.history.length
      ∧ blankDashboard.views = [.dashboard] ∧ blankDashboard.notices.history.Bounded
      ∧ ∃ note ∈ (blankDashboard.meetAll run).notices.history.entries,
        (Text.padEnd 9 note.text).toList[0]?
          = some (Grid.blank.after ((blankDashboard.meetAll run).draw 9 4 true true).2 2 1) := by
  intro run
  have hbounded := History.bounded_ofCapacity History.defaultCapacity
  have hpage : (blankDashboard.meetAll run).views = [.page (.history 1), .dashboard] := rfl
  obtain ⟨hview, hshown⟩ := history_page_in_view (c := blankDashboard) rfl hbounded run hpage
  have hlt := hview.resolve_left Nat.one_ne_zero
  obtain ⟨note, hnote, hshows⟩ := hshown (Nat.zero_lt_of_lt hlt)
  exact ⟨hpage, hlt, rfl, hbounded, note, hnote,
    hshows 9 4 1 true true .blank (by decide) (by decide) (by decide) (by decide)⟩

end Console

end Breadboard
