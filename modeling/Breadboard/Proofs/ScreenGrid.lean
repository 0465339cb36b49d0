import Breadboard.Console.Draw

/-!
# What a frame leaves on the screen

Replayed on a screen, a frame writes characters into cells. The screen keeps what it
showed wherever the frame writes nothing, unless the frame clears it first. So a frame
that does not clear shows the same as one that does if, and only if, it writes wherever
something is still to be seen from before.
-/

namespace Breadboard

/-- **Screen grid**: the character on each row and column, counted from one. -/
abbrev Grid := Nat → Nat → Char

namespace DrawOp

/-- What an operation writes into a cell. Nothing is written by a text that begins left
of the screen. -/
def charAt? : DrawOp → Nat → Nat → Option Char
  | text col row _ content, r, k => if row = r ∧ 0 < col ∧ col ≤ k then content[k - col]? else none
  | _, _, _ => none

theorem charAt?_text {col row r k : Nat} {color : Color} {content : List Char} :
    (text col row color content).charAt? r k
      = if row = r ∧ 0 < col ∧ col ≤ k then content[k - col]? else none :=
  rfl

/-- A text is written where it stands. -/
theorem isSome_charAt?_print {col row r k : Nat} {color : Color} {content : String} :
    ((print col row color content).charAt? r k).isSome = true
      ↔ row = r ∧ 0 < col ∧ col ≤ k ∧ k < col + content.length := by
  unfold print
  rw [charAt?_text, ← String.length_toList]
  split
  · rename_i h
    simp only [isSome_getElem?, h, true_and]
    omega
  · rename_i h
    simp only [Option.isSome_none, Bool.false_eq_true, false_iff]
    exact fun h' => h ⟨h'.1, h'.2.1, h'.2.2.1⟩

/-- The screen cuts off what is outside of it, and nothing else. -/
theorem charAt?_clip {cols rows r k : Nat} (op : DrawOp) :
    (op.clip? cols rows).bind (·.charAt? r k)
      = if 0 < r ∧ r ≤ rows ∧ k ≤ cols then op.charAt? r k else none := by
  cases op with
  | clear | cursor | bell => simp [clip?, charAt?]
  | text col row color content =>
    rw [charAt?_text]
    show (if row = 0 ∨ rows < row ∨ col = 0 ∨ cols < col then none
      else some (text col row color (content.take (cols - col + 1)))).bind _ = _
    by_cases hplace : row = r ∧ 0 < col ∧ col ≤ k
    · split
      · rw [if_neg (by omega)]
        rfl
      · show (text col row color (content.take (cols - col + 1))).charAt? r k = _
        simp only [charAt?_text, if_pos hplace, List.getElem?_take]
        exact ite_congr (by simp only [eq_iff_iff]; omega) (fun _ => rfl) fun _ => rfl
    · rw [if_neg hplace, ite_self]
      split
      · rfl
      · exact if_neg hplace

/-- Cutting does not make a text clear the screen. -/
theorem eq_clear_of_clip {cols rows : Nat} {op : DrawOp} (h : op.clip? cols rows = some .clear) :
    op = .clear := by
  cases op with
  | clear => rfl
  | text =>
    unfold clip? at h
    dsimp only at h
    split at h
    · exact absurd h (by simp)
    · exact absurd (Option.some.inj h) (by simp)
  | cursor | bell => exact Option.some.inj h

/-- Whether some of the operations writes into a cell. -/
def Written (ops : List DrawOp) (r k : Nat) : Prop := ∃ op ∈ ops, (op.charAt? r k).isSome = true

theorem written_append {ops ops' : List DrawOp} {r k : Nat} :
    Written (ops ++ ops') r k ↔ Written ops r k ∨ Written ops' r k := by
  unfold Written
  simp only [List.mem_append, or_and_right, exists_or]

theorem written_cons {op : DrawOp} {ops : List DrawOp} {r k : Nat} :
    Written (op :: ops) r k ↔ (op.charAt? r k).isSome = true ∨ Written ops r k := by
  unfold Written
  simp only [List.mem_cons, or_and_right, exists_or, exists_eq_left]

theorem not_written_nil {r k : Nat} : ¬ Written [] r k := by
  rintro ⟨op, hmem, -⟩
  exact absurd hmem (by simp)

/-- Columns count from one. -/
theorem pos_of_written {ops : List DrawOp} {r k : Nat} (h : Written ops r k) : 0 < k := by
  obtain ⟨op, -, hop⟩ := h
  cases op with
  | text col row color content =>
    rw [charAt?_text] at hop
    split at hop
    · omega
    · exact absurd hop (by simp)
  | clear | cursor | bell => exact absurd hop (by simp [charAt?])

/-- What is written on a screen of some size. -/
theorem written_clip {cols rows r k : Nat} {ops : List DrawOp} :
    Written (ops.filterMap (clip? cols rows)) r k
      ↔ (0 < r ∧ r ≤ rows ∧ k ≤ cols) ∧ Written ops r k := by
  have hclip (op : DrawOp) :
      (∃ op', op.clip? cols rows = some op' ∧ (op'.charAt? r k).isSome = true)
        ↔ (0 < r ∧ r ≤ rows ∧ k ≤ cols) ∧ (op.charAt? r k).isSome = true := by
    rw [← Option.any_eq_true, ← Option.isSome_bind, charAt?_clip op]
    split
    · rename_i hinside
      exact (and_iff_right hinside).symm
    · rename_i houtside
      exact iff_of_false (by simp) fun h => houtside h.1
  unfold Written
  simp only [List.mem_filterMap]
  constructor
  · rintro ⟨op', ⟨op, hmem, hop⟩, hchar⟩
    obtain ⟨hinside, hsome⟩ := (hclip op).mp ⟨op', hop, hchar⟩
    exact ⟨hinside, op, hmem, hsome⟩
  · rintro ⟨hinside, op, hmem, hsome⟩
    obtain ⟨op', hop, hchar⟩ := (hclip op).mpr ⟨hinside, hsome⟩
    exact ⟨op', ⟨op, hmem, hop⟩, hchar⟩

/-- **Overlaying**: up to a column, some operations write wherever others do. -/
def Overlays (cols : Nat) (ops' ops : List DrawOp) : Prop :=
  ∀ r k, k ≤ cols → Written ops r k → Written ops' r k

end DrawOp

open DrawOp (Written Overlays)

namespace Grid

/-- The screen before anything was drawn. -/
def blank : Grid := fun _ _ => ' '

/-- What an operation makes of the screen. -/
def apply (g : Grid) : DrawOp → Grid
  | .clear => blank
  | op => fun r k => (op.charAt? r k).getD (g r k)

/-- **The screen after a frame.** -/
def after (g : Grid) (f : Frame) : Grid := f.ops.foldl apply g

variable {g : Grid} {ops : List DrawOp} {r k : Nat}

theorem apply_of_ne_clear {op : DrawOp} (h : op ≠ .clear) (g : Grid) (r k : Nat) :
    g.apply op r k = (op.charAt? r k).getD (g r k) := by
  cases op with
  | clear => exact absurd rfl h
  | text | cursor | bell => rfl

/-- What is not written stays. -/
theorem foldl_apply_of_not_written (hclear : .clear ∉ ops) (h : ¬ Written ops r k) (g : Grid) :
    ops.foldl apply g r k = g r k := by
  induction ops generalizing g with
  | nil => rfl
  | cons op rest ih =>
    rw [DrawOp.written_cons, not_or] at h
    rw [List.mem_cons, not_or] at hclear
    rw [List.foldl_cons, ih hclear.2 h.2, apply_of_ne_clear (Ne.symm hclear.1),
      Option.not_isSome_iff_eq_none.mp h.1]
    rfl

/-- What is written does not depend on what was there. -/
theorem foldl_apply_of_written (hclear : .clear ∉ ops) (h : Written ops r k) (g g' : Grid) :
    ops.foldl apply g r k = ops.foldl apply g' r k := by
  induction ops generalizing g g' with
  | nil => exact absurd h DrawOp.not_written_nil
  | cons op rest ih =>
    rw [List.mem_cons, not_or] at hclear
    rw [List.foldl_cons, List.foldl_cons]
    by_cases hrest : Written rest r k
    · exact ih hclear.2 hrest _ _
    · -- Nothing behind it writes into the cell, so `op` decides.
      obtain ⟨char, hchar⟩ := Option.isSome_iff_exists.mp
        ((DrawOp.written_cons.mp h).resolve_right hrest)
      rw [foldl_apply_of_not_written hclear.2 hrest, foldl_apply_of_not_written hclear.2 hrest,
        apply_of_ne_clear (Ne.symm hclear.1), apply_of_ne_clear (Ne.symm hclear.1), hchar]
      rfl

/-- What is written last shows. -/
theorem foldl_apply_of_last {before rest : List DrawOp} {op : DrawOp} {char : Char}
    (hclear : .clear ∉ before ++ op :: rest) (hop : op.charAt? r k = some char)
    (hrest : ¬ Written rest r k) (g : Grid) :
    (before ++ op :: rest).foldl apply g r k = char := by
  simp only [List.mem_append, List.mem_cons, not_or] at hclear
  rw [List.foldl_append, List.foldl_cons, foldl_apply_of_not_written hclear.2.2 hrest,
    apply_of_ne_clear (Ne.symm hclear.2.1), hop]
  rfl

/-- **Without clearing, the screen shows the same** exactly if everything that is still to
be seen is written over. -/
theorem foldl_apply_eq_iff (hclear : .clear ∉ ops) (g : Grid) :
    ops.foldl apply g = ops.foldl apply blank ↔ ∀ r k, g r k ≠ ' ' → Written ops r k := by
  constructor
  · intro heq r k hseen
    refine Classical.byContradiction fun hkept => ?_
    have hcell := congrFun (congrFun heq r) k
    rw [foldl_apply_of_not_written hclear hkept, foldl_apply_of_not_written hclear hkept] at hcell
    exact hseen hcell
  · intro hall
    funext r k
    by_cases hwritten : Written ops r k
    · exact foldl_apply_of_written hclear hwritten g blank
    · rw [foldl_apply_of_not_written hclear hwritten, foldl_apply_of_not_written hclear hwritten]
      exact Classical.byContradiction fun hseen => hwritten (hall r k hseen)

end Grid

namespace Console

variable {c d : Console} {cols rows : Nat} {connected clear : Bool}

theorem clear_notMem_dashboardOps (c : Console) (cols rows : Nat) (connected : Bool) :
    .clear ∉ c.dashboardOps cols rows connected := by
  unfold dashboardOps
  split
  · cases connected <;> simp [titleOps, nearbyOps, processorOps, headingOp, DrawOp.print]
  · cases connected <;>
      simp [titleOps, nearbyOps, processorOps, headingOp, matrixOps, namesOps, rowOps, busOps,
        below, noteOps, notes, apply_ite (DrawOp.clear ∈ ·), DrawOp.print]

theorem clear_notMem_helpOps (rows : Nat) : .clear ∉ helpOps rows := by
  simp only [helpOps, below, DrawOp.print, List.mem_append, List.mem_cons, List.mem_flatten,
    List.mem_mapIdx, List.not_mem_nil, reduceCtorEq, or_false, false_or, not_or, not_exists]
  refine ⟨?_, ?_⟩
  · rintro _ ⟨⟨i, hi, rfl⟩, hmem⟩
    simp at hmem
  · rintro _ ⟨⟨i, hi, rfl⟩, hmem⟩
    simp at hmem

theorem clear_notMem_memoryOps (c : Console) (cols rows : Nat) (cursor : MemoryCursor) :
    .clear ∉ c.memoryOps cols rows cursor := by
  unfold memoryOps
  cases cursor.input <;> simp [blockLineOps, DrawOp.print]

/-- **No page clears the screen** by itself. -/
theorem clear_notMem_pageOps (c : Console) (cols rows : Nat) (connected : Bool) :
    .clear ∉ c.pageOps cols rows connected := by
  unfold pageOps
  split
  · exact clear_notMem_dashboardOps c cols rows connected
  · exact clear_notMem_helpOps rows
  · simp [historyOps, notes, DrawOp.print]
  · simp [errorOps, DrawOp.print]
  · unfold portsOps
    split <;> simp [below, DrawOp.print]
  · exact clear_notMem_memoryOps c cols rows _

/-- What is drawn of a page on a screen of some size. -/
def clippedOps (c : Console) (cols rows : Nat) (connected : Bool) : List DrawOp :=
  (c.pageOps cols rows connected).filterMap (DrawOp.clip? cols rows)

/-- A clipped page does not clear the screen, either. -/
theorem clear_notMem_clippedOps (c : Console) (cols rows : Nat) (connected : Bool) :
    .clear ∉ c.clippedOps cols rows connected := by
  intro hmem
  obtain ⟨op, hop, hclip⟩ := List.mem_filterMap.mp hmem
  exact clear_notMem_pageOps c cols rows connected (DrawOp.eq_clear_of_clip hclip ▸ hop)

/-- **A frame** clears the screen or does not, rings the bell or does not, and draws the
page on show. -/
theorem ops_draw (c : Console) (cols rows : Nat) (connected clear : Bool) :
    (c.draw cols rows connected clear).2.ops
      = (if clear then [.clear] else []) ++ (if c.ringing then [.bell] else [])
        ++ c.clippedOps cols rows connected := by
  show [] ++ List.filterMap (DrawOp.clip? cols rows) (_ ++ c.pageOps cols rows connected) = _
  rw [List.nil_append, List.filterMap_append, List.filterMap_append]
  cases clear <;> cases c.ringing <;> rfl

/-- **A frame clears the screen** exactly if it was drawn to do so. -/
theorem clear_mem_draw_iff :
    .clear ∈ (c.draw cols rows connected clear).2.ops ↔ clear = true := by
  rw [ops_draw, List.mem_append, or_iff_left (clear_notMem_clippedOps c cols rows connected)]
  cases clear <;> cases c.ringing <;> simp

/-- The screen after a page was drawn on it. -/
theorem after_draw (g : Grid) (c : Console) (cols rows : Nat) (connected clear : Bool) :
    g.after (c.draw cols rows connected clear).2
      = (c.clippedOps cols rows connected).foldl Grid.apply (if clear then .blank else g) := by
  unfold Grid.after
  rw [ops_draw, List.foldl_append, List.foldl_append]
  cases clear <;> cases c.ringing <;> rfl

/-! ## Drawing over an older page -/

/-- The screen after a full redraw. -/
def screen (c : Console) (cols rows : Nat) (connected : Bool) : Grid :=
  Grid.blank.after (c.draw cols rows connected true).2

/-- **Refreshing**: drawn over an older page without clearing it, the page looks as if the
screen had been cleared. -/
def Refreshes (d c : Console) (cols rows : Nat) (connected : Bool) : Prop :=
  (c.screen cols rows connected).after (d.draw cols rows connected false).2
    = d.screen cols rows connected

/-- **A page refreshes** an older one exactly if it is written on all that can be seen of
the older one. -/
theorem refreshes_iff :
    d.Refreshes c cols rows connected
      ↔ ∀ r k, c.screen cols rows connected r k ≠ ' '
        → Written (d.clippedOps cols rows connected) r k := by
  unfold Refreshes screen
  rw [after_draw, after_draw Grid.blank d]
  exact Grid.foldl_apply_eq_iff (clear_notMem_clippedOps d cols rows connected) _

/-- What can be seen was written. -/
theorem written_of_screen {r k : Nat} (h : c.screen cols rows connected r k ≠ ' ') :
    Written (c.clippedOps cols rows connected) r k := by
  refine Classical.byContradiction fun hnot => h ?_
  unfold screen
  rw [after_draw, Grid.foldl_apply_of_not_written
    (clear_notMem_clippedOps c cols rows connected) hnot, if_pos rfl]
  rfl

/-- **What a page writes last** is on the screen, whatever was there before. -/
theorem after_draw_of_last {before rest : List DrawOp} {op : DrawOp} {r k : Nat} {char : Char}
    (hpage : c.pageOps cols rows connected = before ++ op :: rest)
    (hinside : 0 < r ∧ r ≤ rows ∧ k ≤ cols) (hop : op.charAt? r k = some char)
    (hrest : ¬ Written rest r k) (g : Grid) :
    g.after (c.draw cols rows connected clear).2 r k = char := by
  have hclip : (op.clip? cols rows).bind (·.charAt? r k) = some char := by
    rw [DrawOp.charAt?_clip, if_pos hinside, hop]
  obtain ⟨op', hop', hchar⟩ := Option.bind_eq_some_iff.mp hclip
  have hclear := clear_notMem_clippedOps c cols rows connected
  rw [after_draw]
  unfold clippedOps at hclear ⊢
  rw [hpage, List.filterMap_append, List.filterMap_cons_some hop'] at hclear ⊢
  exact Grid.foldl_apply_of_last hclear hchar
    (fun hwritten => hrest (DrawOp.written_clip.mp hwritten).2) _

/-- What a page writes last can be seen. -/
theorem screen_of_last {before rest : List DrawOp} {op : DrawOp} {r k : Nat} {char : Char}
    (hpage : c.pageOps cols rows connected = before ++ op :: rest)
    (hinside : 0 < r ∧ r ≤ rows ∧ k ≤ cols) (hop : op.charAt? r k = some char)
    (hrest : ¬ Written rest r k) : c.screen cols rows connected r k = char :=
  after_draw_of_last hpage hinside hop hrest .blank

/-- **A page that overlays an older one** refreshes it. -/
theorem refreshes_of_overlays
    (h : Overlays cols (d.pageOps cols rows connected) (c.pageOps cols rows connected)) :
    d.Refreshes c cols rows connected := by
  rw [refreshes_iff]
  intro r k hseen
  obtain ⟨hinside, hwritten⟩ := DrawOp.written_clip.mp (written_of_screen hseen)
  exact DrawOp.written_clip.mpr ⟨hinside, h r k hinside.2.2 hwritten⟩

end Console

end Breadboard
