import Breadboard.Proofs.HexText
import Breadboard.Proofs.ScreenGrid

/-!
# Texts that stand where others stood

A page is drawn again without clearing the screen, so its texts have to be as long as what
they replace. Most are: they have the same length whatever they say, or are filled up with
blanks to a width that nothing exceeds. This module goes through the pages and says what is
left over.
-/

namespace Breadboard

/-! ## Lengths -/

namespace Text

theorem length_padEnd (width : Nat) (s : String) :
    (padEnd width s).length = max width s.length := by
  unfold padEnd
  rw [String.length_append, String.length_ofList, List.length_replicate]
  omega

/-- **Fitting**: wherever one of the old lines stood there is a new one, which is not
shorter when it is filled up to a width. -/
def Fits (width : Nat) (new old : List String) : Prop :=
  ∀ (i : Nat) (line : String), old[i]? = some line →
    ∃ line' : String, new[i]? = some line' ∧ line.length ≤ max width line'.length

theorem Fits.refl (width : Nat) (lines : List String) : Fits width lines lines :=
  fun _ line hline => ⟨line, hline, Nat.le_max_right _ _⟩

end Text

theorem Memory.length_dumpRow (m : Memory) (base : UInt16) : (m.dumpRow base).length = 53 := by
  have hbyte (i : Nat) : (" " ++ Hex.byte (m.read (base + UInt16.ofNat i))).length = 3 := by
    rw [String.length_append, Hex.length_byte]
    rfl
  unfold dumpRow
  rw [String.length_append, String.length_append, Hex.length_padded_address, String.length_join,
    List.map_map]
  simp only [Function.comp_def, hbyte]
  rfl

/-! ## Overlaying -/

namespace DrawOp

variable {cols : Nat} {ops ops' more more' : List DrawOp} {op op' : DrawOp} {α β : Type}

theorem Overlays.refl (cols : Nat) (ops : List DrawOp) : Overlays cols ops ops :=
  fun _ _ _ h => h

theorem Overlays.append (h : Overlays cols ops' ops) (hmore : Overlays cols more' more) :
    Overlays cols (ops' ++ more') (ops ++ more) := by
  intro r k hk hwritten
  rw [written_append] at hwritten ⊢
  exact hwritten.imp (h r k hk) (hmore r k hk)

/-- What overlays two things overlays both together. -/
theorem Overlays.both (h : Overlays cols ops' ops) (hmore : Overlays cols ops' more) :
    Overlays cols ops' (ops ++ more) :=
  fun r k hk hwritten => (written_append.mp hwritten).elim (h r k hk) (hmore r k hk)

/-- What is drawn besides does no harm. -/
theorem Overlays.append_right (h : Overlays cols ops' ops) (more' : List DrawOp) :
    Overlays cols (ops' ++ more') ops :=
  fun r k hk hwritten => written_append.mpr (.inl (h r k hk hwritten))

/-- Nor does what was drawn before. -/
theorem Overlays.append_left (h : Overlays cols ops' ops) (more' : List DrawOp) :
    Overlays cols (more' ++ ops') ops :=
  fun r k hk hwritten => written_append.mpr (.inr (h r k hk hwritten))

theorem Overlays.cons (h : Overlays cols [op'] [op]) (hmore : Overlays cols more' more) :
    Overlays cols (op' :: more') (op :: more) :=
  h.append hmore

/-- Nothing has to be overlaid. -/
theorem overlays_nil (cols : Nat) (ops' : List DrawOp) : Overlays cols ops' [] :=
  fun _ _ _ hwritten => absurd hwritten not_written_nil

/-- The cursor is not written. -/
theorem overlays_cursor (cols : Nat) (ops' : List DrawOp) (place : Option (Nat × Nat)) :
    Overlays cols ops' [.cursor place] := by
  intro r k hk hwritten
  rw [written_cons] at hwritten
  exact absurd hwritten (by simp [charAt?, not_written_nil])

/-- **A text overlays another** at its place that is not longer, as far as the screen
reaches. -/
theorem overlays_print {col row : Nat} {color color' : Color} {s s' : String}
    (h : min s.length (cols + 1 - col) ≤ s'.length) :
    Overlays cols [print col row color' s'] [print col row color s] := by
  intro r k hk hwritten
  simp only [written_cons, not_written_nil, or_false, isSome_charAt?_print] at hwritten ⊢
  omega

theorem written_flatMap {xs : List α} {f : α → List DrawOp} {r k : Nat} :
    Written (xs.flatMap f) r k ↔ ∃ x ∈ xs, Written (f x) r k := by
  unfold Written
  simp only [List.mem_flatMap]
  constructor
  · rintro ⟨op, ⟨x, hx, hmem⟩, hop⟩
    exact ⟨x, hx, op, hmem, hop⟩
  · rintro ⟨x, hx, op, hmem, hop⟩
    exact ⟨op, ⟨x, hx, hmem⟩, hop⟩

/-- What is drawn for each thing is overlaid thing by thing. -/
theorem overlays_flatMap {xs xs' : List α} {f f' : α → List DrawOp} (hmem : ∀ x ∈ xs, x ∈ xs')
    (h : ∀ x ∈ xs, Overlays cols (f' x) (f x)) :
    Overlays cols (xs'.flatMap f') (xs.flatMap f) := by
  intro r k hk hwritten
  rw [written_flatMap] at hwritten ⊢
  obtain ⟨x, hx, hwritten⟩ := hwritten
  exact ⟨x, hmem x hx, h x hx r k hk hwritten⟩

theorem overlays_map {xs xs' : List α} {f f' : α → DrawOp} (hmem : ∀ x ∈ xs, x ∈ xs')
    (h : ∀ x ∈ xs, Overlays cols [f' x] [f x]) :
    Overlays cols (xs'.map f') (xs.map f) := by
  rw [List.map_eq_flatMap, List.map_eq_flatMap]
  exact overlays_flatMap hmem h

theorem written_mapIdx {xs : List α} {f : Nat → α → DrawOp} {r k : Nat} :
    Written (xs.mapIdx f) r k
      ↔ ∃ (i : Nat) (x : α), xs[i]? = some x ∧ ((f i x).charAt? r k).isSome = true := by
  unfold Written
  simp only [List.mem_mapIdx]
  constructor
  · rintro ⟨op, ⟨i, hi, rfl⟩, hop⟩
    exact ⟨i, xs[i], List.getElem?_eq_getElem hi, hop⟩
  · rintro ⟨i, x, hx, hop⟩
    obtain ⟨hi, rfl⟩ := List.getElem?_eq_some_iff.mp hx
    exact ⟨_, ⟨i, hi, rfl⟩, hop⟩

/-- What is drawn in a row is overlaid place by place. -/
theorem overlays_mapIdx {xs : List α} {xs' : List β} {f : Nat → α → DrawOp}
    {f' : Nat → β → DrawOp}
    (h : ∀ (i : Nat) (x : α), xs[i]? = some x →
      ∃ x', xs'[i]? = some x' ∧ Overlays cols [f' i x'] [f i x]) :
    Overlays cols (xs'.mapIdx f') (xs.mapIdx f) := by
  intro r k hk hwritten
  rw [written_mapIdx] at hwritten ⊢
  obtain ⟨i, x, hx, hop⟩ := hwritten
  obtain ⟨x', hx', hoverlays⟩ := h i x hx
  have hwritten := hoverlays r k hk (written_cons.mpr (.inl hop))
  exact ⟨i, x', hx', (written_cons.mp hwritten).resolve_right not_written_nil⟩

/-- **Lines that fit** overlay the old ones below each other. -/
theorem overlays_lines {col row width : Nat} (color color' : Nat → Color)
    {new old : List String} (h : Text.Fits width new old) :
    Overlays cols (new.mapIdx fun i line => print col (row + i) (color' i) (Text.padEnd width line))
      (old.mapIdx fun i line => print col (row + i) (color i) (Text.padEnd width line)) := by
  refine overlays_mapIdx fun i line hline => ?_
  obtain ⟨line', hline', hle⟩ := h i line hline
  refine ⟨line', hline', overlays_print ?_⟩
  rw [Text.length_padEnd, Text.length_padEnd]
  omega

end DrawOp

namespace Console

open DrawOp (Overlays overlays_print overlays_map overlays_flatMap overlays_mapIdx overlays_cursor)

variable {c d : Console} {cols rows : Nat}

/-- Notifications overlay older ones that are not more. -/
theorem overlays_notes {row : Nat} {new old : List Notification} (h : old.length ≤ new.length) :
    Overlays cols (notes row cols new) (notes row cols old) := by
  refine overlays_mapIdx fun i n hn => ?_
  obtain ⟨hi, -⟩ := List.getElem?_eq_some_iff.mp hn
  refine ⟨new[i], List.getElem?_eq_getElem _, overlays_print ?_⟩
  rw [Text.length_padEnd, Text.length_padEnd]
  omega

/-! ## The history page -/

/-- What is left of the notifications cannot become less. -/
theorem length_recent (h : History) (skip count : Nat) :
    (h.recent skip count).length = min count (h.length - skip) := by
  unfold History.recent History.length
  rw [List.length_take, List.length_drop]

/-- Up to the hint, a history page overlays an older one. -/
theorem overlays_historyOps {offset : Nat} (hrows : d.rows = c.rows)
    (hlength : c.notices.history.length ≤ d.notices.history.length)
    (hhint : min (historyHint c.silenced).length cols ≤ (historyHint d.silenced).length) :
    Overlays cols (d.historyOps cols rows offset) (c.historyOps cols rows offset) := by
  unfold historyOps
  refine Overlays.cons ?_ (.append (overlays_notes ?_) (.cons (overlays_print ?_) (.refl _ _)))
  · refine overlays_print ?_
    rw [Text.length_padEnd, Text.length_padEnd]
    omega
  · rw [List.length_take, List.length_take, length_recent, length_recent, hrows]
    omega
  · omega

/-! ## The memory page -/

theorem row_lt (cursor : MemoryCursor) : cursor.row.toNat < 16 := by
  unfold MemoryCursor.row
  rw [UInt16.toNat_and]
  exact Nat.lt_succ_of_le Nat.and_le_right

theorem column_lt (cursor : MemoryCursor) : cursor.column.toNat < 16 := by
  unfold MemoryCursor.column
  rw [UInt16.toNat_and]
  exact Nat.lt_succ_of_le Nat.and_le_right

/-- A line of a block overlays any other one in its row. -/
theorem overlays_blockLineOps (c d : Console) (base base' : UInt16) (row : Nat) :
    Overlays cols (d.blockLineOps base' row) (c.blockLineOps base row) := by
  unfold blockLineOps
  refine Overlays.cons (overlays_print ?_) (overlays_map (fun _ => id) fun column _ => ?_)
  · rw [String.length_append, String.length_append, Hex.length_padded_address,
      Hex.length_padded_address]
    omega
  · refine overlays_print ?_
    rw [Hex.length_byte, Hex.length_byte]
    omega

/-- **What is typed stands where the byte is** that it is to replace, if it is not longer. -/
theorem overlays_typed (d : Console) (base : UInt16) (cursor : MemoryCursor) {color : Color}
    {typed : String} (h : typed.length ≤ 2) :
    Overlays cols ((List.range 16).flatMap (d.blockLineOps base))
      [.print (byteCol cursor.column.toNat) (3 + cursor.row.toNat) color typed] := by
  intro r k hk hwritten
  rw [DrawOp.written_flatMap]
  refine ⟨cursor.row.toNat, List.mem_range.mpr (row_lt cursor), ?_⟩
  unfold blockLineOps
  refine DrawOp.written_cons.mpr (.inr ⟨_, List.mem_map.mpr
    ⟨cursor.column.toNat, List.mem_range.mpr (column_lt cursor), rfl⟩, ?_⟩)
  simp only [DrawOp.written_cons, DrawOp.not_written_nil, or_false,
    DrawOp.isSome_charAt?_print] at hwritten ⊢
  rw [Hex.length_byte]
  omega

/-- **A memory page overlays an older one** on which no more than two digits were typed. -/
theorem overlays_memoryOps {cursor cursor' : MemoryCursor}
    (htyped : (cursor.input.getD []).length ≤ 2) :
    Overlays cols (d.memoryOps cols rows cursor') (c.memoryOps cols rows cursor) := by
  have hfilled (s s' : String) {row : Nat} {color : Color} :
      Overlays cols [.print 1 row color (Text.padEnd cols s')]
        [.print 1 row color (Text.padEnd cols s)] := by
    refine overlays_print ?_
    rw [Text.length_padEnd, Text.length_padEnd]
    omega
  have hblock : Overlays cols ((List.range 16).flatMap (d.blockLineOps cursor'.base))
      ((List.range 16).flatMap (c.blockLineOps cursor.base)) :=
    overlays_flatMap (fun _ => id) fun row _ => overlays_blockLineOps c d _ _ row
  unfold memoryOps
  refine .append (.append_right (.both (.append (.cons (hfilled _ _) (.refl _ _)) hblock)
      (.append_left ?_ _)) _)
    (.cons (hfilled _ _) (.cons (hfilled _ _) (.cons (.refl _ _) (overlays_cursor _ _ _))))
  -- What is left is what was typed on the older page.
  cases hinput : cursor.input with
  | none => exact DrawOp.overlays_nil _ _
  | some digits =>
    rw [hinput] at htyped
    have hdigits : digits.length ≤ 2 := htyped
    refine overlays_typed d _ cursor ?_
    rw [String.length_ofList, List.length_append, List.length_replicate]
    omega

end Console

end Breadboard
