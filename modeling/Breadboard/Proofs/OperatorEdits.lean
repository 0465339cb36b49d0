import Breadboard.Proofs.MemoryPage
import Mathlib.Data.List.Induction

/-!
# Edits by the operator

An entry takes several keys, and ticks come in between, of which some write bytes. Two things have
to be told from what came before. One is what an entry is made of: where the cursor was when it was
begun, and the digit that was typed since. The other is what the undo key puts back: the byte that
the latest edit replaced, as it was just before that edit, whatever was written there since.

The cursor and the memory hold what is needed of both, but what they hold is the program's affair.
So an entry that is under way and the latest edit are told here from the run alone, happening by
happening: which keys begin an entry, which type a digit, which mean nothing to it, and after which
an edit is no longer the latest one that can be taken back. That the cursor and the memory agree is
then shown along the run. An edit is taken back once at most, and none but the latest.
-/

namespace Breadboard

/-- The one byte that a write changes. -/
theorem Store.eq_of_get_set_ne {s : Store} {a b : UInt16} {v : UInt8}
    (h : (s.set a v).get b ≠ s.get b) : a = b := by
  by_contra hne
  exact h ((get_set s a b v).trans (if_neg hne))

/-- Digits below sixteen are told apart. -/
theorem Hex.digit_inj {d e : Nat} (hd : d < 16) (he : e < 16) (h : digit d = digit e) : d = e := by
  have hvalue := congrArg digitValue? h
  rw [digitValue?_digit hd, digitValue?_digit he] at hvalue
  exact Option.some.inj hvalue

theorem Key.lt_of_digit? {key : Key} {d : Nat} (h : key.digit? = some d) : d < 16 := by
  cases key with
  | char ch => exact (Hex.toUpper_of_digitValue? h).1
  | _ => cases h

namespace Console

variable {c d : Console} {key : Key} {a : UInt16} {v : UInt8} {run : List Happening}

/-! ## Orderly pages -/

/-- Views of which none is the memory page. -/
def NoMemoryPage (views : List View) : Prop := ∀ cursor, .page (.memory cursor) ∉ views

/-- **Orderly pages**: no memory page lies under another view, and its cursor is tidy. -/
structure OrderlyPages (c : Console) : Prop where
  below : NoMemoryPage c.views.tail
  tidy : ∀ cursor, c.memoryCursor? = some cursor → cursor.Tidy

/-- A console on which no memory page has been opened yet. -/
def withoutMemoryPage (c : Console) : Console :=
  { c with views := c.views.filter fun
      | .page (.memory _) => false
      | _ => true }

theorem noMemoryPage_withoutMemoryPage (c : Console) : NoMemoryPage c.withoutMemoryPage.views :=
  fun _ hmem => absurd (List.mem_filter.mp hmem).2 (by simp)

theorem memoryCursor?_of_noMemoryPage (h : NoMemoryPage c.views) : c.memoryCursor? = none := by
  refine Option.eq_none_iff_forall_ne_some.mpr fun cursor hcursor => ?_
  obtain ⟨below, hviews⟩ := memoryCursor?_eq_some_iff.mp hcursor
  exact h cursor (hviews ▸ List.mem_cons_self)

theorem OrderlyPages.of_noMemoryPage (h : NoMemoryPage c.views) : c.OrderlyPages where
  below := fun cursor hmem => h cursor (List.mem_of_mem_tail hmem)
  tidy := fun cursor hcursor => by
    rw [memoryCursor?_of_noMemoryPage h] at hcursor
    cases hcursor

/-- A memory page with a tidy cursor, on views of which none is one. -/
theorem OrderlyPages.of_cons {cursor : MemoryCursor} {below : List View}
    (hviews : c.views = .page (.memory cursor) :: below) (hbelow : NoMemoryPage below)
    (htidy : cursor.Tidy) : c.OrderlyPages where
  below := by
    rw [hviews]
    exact hbelow
  tidy := fun cursor' hcursor' => by
    obtain ⟨below', hviews'⟩ := memoryCursor?_eq_some_iff.mp hcursor'
    cases hviews.symm.trans hviews'
    exact htidy

/-- With another view on show there is no memory page. -/
theorem OrderlyPages.noMemoryPage (h : c.OrderlyPages) (hnone : c.memoryCursor? = none) :
    NoMemoryPage c.views := by
  intro cursor hmem
  have hbelow := h.below
  cases hviews : c.views with
  | nil =>
    rw [hviews] at hmem
    cases hmem
  | cons top below =>
    rw [hviews] at hmem hbelow
    obtain rfl | hmem := List.mem_cons.mp hmem
    · rw [memoryCursor?_eq_some_iff.mpr ⟨below, hviews⟩] at hnone
      cases hnone
    · exact hbelow cursor hmem

/-- With the memory page on show there is no other one. -/
theorem OrderlyPages.exists_views (h : c.OrderlyPages) {cursor : MemoryCursor}
    (hcursor : c.memoryCursor? = some cursor) :
    ∃ below, c.views = .page (.memory cursor) :: below ∧ NoMemoryPage below := by
  obtain ⟨below, hviews⟩ := memoryCursor?_eq_some_iff.mp hcursor
  have hbelow := h.below
  rw [hviews] at hbelow
  exact ⟨below, hviews, hbelow⟩

/-- The cursor of a memory page is tidy. -/
theorem OrderlyPages.tidy_of_mem (h : c.OrderlyPages) {cursor : MemoryCursor}
    (hmem : .memory cursor ∈ c.pages) : cursor.Tidy := by
  obtain ⟨view, hview, hpage⟩ := List.mem_filterMap.mp hmem
  obtain rfl : view = .page (.memory cursor) := by
    cases view with
    | dashboard => cases hpage
    | page p => exact congrArg View.page (Option.some.inj hpage)
  cases hcursor : c.memoryCursor? with
  | none => exact absurd hview (h.noMemoryPage hcursor cursor)
  | some cursor' =>
    obtain ⟨below, hviews, hbelow⟩ := h.exists_views hcursor
    rw [hviews] at hview
    obtain heq | hview := List.mem_cons.mp hview
    · cases heq
      exact h.tidy cursor hcursor
    · exact absurd hview (hbelow cursor)

theorem OtherKeyEffect.memory_eq (h : OtherKeyEffect c d) : d.memory = c.memory := by
  cases h with
  | kept h | laid h | lifted _ h | scrolled _ h => exact congrArg Prod.fst h

/-- **The other views** open the memory page with nothing typed. -/
theorem OtherKeyEffect.opens (h : OtherKeyEffect c d) (hnone : NoMemoryPage c.views) :
    NoMemoryPage d.views ∨ ∃ p, d.views = .page p :: c.views
      ∧ ∀ cursor, p = .memory cursor → cursor.input = none := by
  cases h with
  | kept h =>
    rw [show d.views = c.views from congrArg Prod.snd h]
    exact .inl hnone
  | laid h hpage => exact .inr ⟨_, congrArg Prod.snd h, hpage⟩
  | @lifted top below hviews h =>
    rw [show d.views = below from congrArg Prod.snd h]
    exact .inl fun cursor hmem => hnone cursor (hviews ▸ List.mem_cons_of_mem top hmem)
  | @scrolled offset offset' below hviews h =>
    rw [show d.views = .page (.history offset') :: below from congrArg Prod.snd h]
    refine .inl fun cursor hmem => ?_
    obtain heq | hmem := List.mem_cons.mp hmem
    · cases heq
    · exact hnone cursor (hviews ▸ List.mem_cons_of_mem _ hmem)

theorem memoryCursor?_congr (h : d.views = c.views) : d.memoryCursor? = c.memoryCursor? := by
  unfold memoryCursor?
  rw [h]

theorem OrderlyPages.press (h : c.OrderlyPages) (key : Key) (reply : Except LinkError Unit) :
    (c.press key reply).1.OrderlyPages := by
  cases hcursor : c.memoryCursor? with
  | none =>
    have hnone := h.noMemoryPage hcursor
    obtain hother | ⟨p, hviews, hpage⟩ := (otherKeyEffect_press hcursor key reply).opens hnone
    · exact .of_noMemoryPage hother
    · refine ⟨by rw [hviews]; exact hnone, fun cursor hlaid => ?_⟩
      obtain ⟨below, hviews'⟩ := memoryCursor?_eq_some_iff.mp hlaid
      cases hviews.symm.trans hviews'
      exact .inl (hpage cursor rfl)
  | some cursor =>
    obtain ⟨below, hviews, hbelow⟩ := h.exists_views hcursor
    have htidy := h.tidy cursor hcursor
    have heffect := memoryKeyEffect_press hviews htidy key reply
    generalize (c.press key reply).1.memory = memory at heffect
    generalize hnow : (c.press key reply).1.views = views at heffect
    cases heffect with
    | refused | flipped => exact .of_cons hnow hbelow htidy
    | opened => exact .of_cons hnow hbelow (.inr (.inl rfl))
    | cancelled | finished | undone | paged => exact .of_cons hnow hbelow (.inl rfl)
    | began hinput hdigit =>
      exact .of_cons hnow hbelow (.inr (.inr ⟨_, Key.lt_of_digit? hdigit, rfl⟩))
    | stepped hinput hkey hstep =>
      exact .of_cons hnow hbelow (.inl ((MemoryCursor.step?_eq_some hstep).2.trans hinput))
    | closed => exact .of_noMemoryPage (hnow ▸ hbelow)

theorem OrderlyPages.undergo (h : c.OrderlyPages) (happening : Happening) :
    (c.undergo happening).OrderlyPages := by
  cases happening with
  | press key reply => exact h.press key reply
  | tick phase r | status change =>
    refine ⟨?_, ?_⟩
    · rw [views_undergo (by simp)]
      exact h.below
    · rw [memoryCursor?_congr (views_undergo (by simp) c)]
      exact h.tidy

theorem OrderlyPages.through (h : c.OrderlyPages) (run : List Happening) :
    (c.through run).OrderlyPages := by
  induction run generalizing c with
  | nil => exact h
  | cons happening rest ih => exact ih (h.undergo happening)

/-! ## What the cursor and the memory say -/

/-- **A key finishes** what is held, as far as the cursor says: on the memory page, where one digit
is held, it is another one. -/
def Finishes (c : Console) (key : Key) (a : UInt16) (v : UInt8) : Prop :=
  ∃ high low, high < 16 ∧ c.memoryCursor? = some ⟨a, some [Hex.digit high]⟩
    ∧ key.digit? = some low ∧ v.toNat = 16 * high + low

/-- **A key asks for an undo**: on the memory page, where nothing is being typed, it is the key for
that. -/
def AsksUndo (c : Console) (key : Key) : Prop :=
  key = .control 'z' ∧ ∃ b, c.memoryCursor? = some (.start b)

theorem held_press_of_finishes (h : c.Finishes key a v) (reply : Except LinkError Unit) :
    ∃ below, (c.press key reply).1.held
      = (c.memory.edit a v, .page (.memory (.start a)) :: below) := by
  obtain ⟨high, low, hhigh, hcursor, hlow, hv⟩ := h
  obtain ⟨below, hviews⟩ := memoryCursor?_eq_some_iff.mp hcursor
  have hbyte : UInt8.ofNat (16 * high + low) = v := by rw [← hv, UInt8.ofNat_toNat]
  exact ⟨below, hbyte ▸ held_press_second hhigh hlow hviews reply⟩

theorem held_press_of_asksUndo (h : c.AsksUndo key) (hlast : c.memory.lastEdit = some (a, v))
    (reply : Except LinkError Unit) :
    ∃ below, (c.press key reply).1.held
      = ({ c.memory.write a v with lastEdit := none }, .page (.memory (.start a)) :: below) := by
  obtain ⟨rfl, b, hcursor⟩ := h
  obtain ⟨below, hviews⟩ := memoryCursor?_eq_some_iff.mp hcursor
  exact ⟨below, held_press_undo hviews hlast reply⟩

/-- **A key that does neither** changes no byte, and an edit that can be taken back stays. The undo
key counts only where there is an edit. -/
theorem OrderlyPages.press_unchanged (h : c.OrderlyPages) (reply : Except LinkError Unit)
    (hfinishes : ∀ a v, ¬ c.Finishes key a v)
    (hundo : c.AsksUndo key → c.memory.lastEdit = none) :
    (c.press key reply).1.memory.store = c.memory.store
      ∧ (c.press key reply).1.memory.lastEdit = c.memory.lastEdit := by
  cases hcursor : c.memoryCursor? with
  | none =>
    rw [(otherKeyEffect_press hcursor key reply).memory_eq]
    exact ⟨rfl, rfl⟩
  | some cursor =>
    obtain ⟨below, hviews, -⟩ := h.exists_views hcursor
    have heffect := memoryKeyEffect_press hviews (h.tidy cursor hcursor) key reply
    generalize (c.press key reply).1.memory = memory at heffect ⊢
    generalize (c.press key reply).1.views = views at heffect
    obtain ⟨a, input⟩ := cursor
    cases heffect with
    | @finished _ high low hhigh hinput hlow =>
      obtain rfl : input = some [Hex.digit high] := hinput
      have hlt := Key.lt_of_digit? hlow
      have hbyte : (UInt8.ofNat (16 * high + low)).toNat = 16 * high + low :=
        UInt8.toNat_ofNat_of_lt (by show 16 * high + low < 256; omega)
      exact absurd ⟨high, low, hhigh, hcursor, hlow, hbyte⟩ (hfinishes a _)
    | undone hinput hlast =>
      obtain rfl : input = none := hinput
      rw [hundo ⟨rfl, a, hcursor⟩] at hlast
      cases hlast
    | refused | opened | cancelled | began | flipped | paged | stepped | closed => exact ⟨rfl, rfl⟩

/-- **A key that changes a byte** finishes what is held, or takes back what was replaced there. -/
theorem OrderlyPages.finishes_or_asksUndo (h : c.OrderlyPages) {reply : Except LinkError Unit}
    {b : UInt16} (hchanged : (c.press key reply).1.memory.read b ≠ c.memory.read b) :
    (∃ v, c.Finishes key b v) ∨ c.AsksUndo key ∧ ∃ v, c.memory.lastEdit = some (b, v) := by
  by_cases hfinishes : ∃ a v, c.Finishes key a v
  · obtain ⟨a, v, hfinishes⟩ := hfinishes
    obtain ⟨below, hheld⟩ := held_press_of_finishes hfinishes reply
    rw [show (c.press key reply).1.memory = _ from congrArg Prod.fst hheld] at hchanged
    obtain rfl := Store.eq_of_get_set_ne hchanged
    exact .inl ⟨v, hfinishes⟩
  · by_cases hundo : c.AsksUndo key → c.memory.lastEdit = none
    · have hsame := h.press_unchanged reply (fun a v hf => hfinishes ⟨a, v, hf⟩) hundo
      exact absurd (congrArg (Store.get · b) hsame.1) hchanged
    · obtain ⟨hasks, hlast⟩ := Classical.not_imp.mp hundo
      obtain ⟨⟨a, v⟩, hlast⟩ := Option.ne_none_iff_exists'.mp hlast
      obtain ⟨below, hheld⟩ := held_press_of_asksUndo hasks hlast reply
      rw [show (c.press key reply).1.memory = _ from congrArg Prod.fst hheld] at hchanged
      obtain rfl := Store.eq_of_get_set_ne hchanged
      exact .inr ⟨hasks, v, hlast⟩

/-- What a finished entry leaves to be taken back. -/
theorem lastEdit_press_of_finishes (h : c.Finishes key a v) (reply : Except LinkError Unit) :
    (c.press key reply).1.memory.lastEdit = some (a, c.memory.read a) := by
  obtain ⟨below, hheld⟩ := held_press_of_finishes h reply
  rw [show (c.press key reply).1.memory = c.memory.edit a v from congrArg Prod.fst hheld]
  rfl

/-- An undo leaves nothing. -/
theorem OrderlyPages.lastEdit_press_of_asksUndo (h : c.OrderlyPages) (hundo : c.AsksUndo key)
    (reply : Except LinkError Unit) : (c.press key reply).1.memory.lastEdit = none := by
  cases hlast : c.memory.lastEdit with
  | none =>
    have hfinishes : ∀ a v, ¬ c.Finishes key a v := by
      rintro a v ⟨high, low, -, -, hlow, -⟩
      rw [hundo.1] at hlow
      cases hlow
    exact (h.press_unchanged reply hfinishes fun _ => hlast).2.trans hlast
  | some last =>
    obtain ⟨below, hheld⟩ := held_press_of_asksUndo hundo hlast reply
    rw [show (c.press key reply).1.memory = _ from congrArg Prod.fst hheld]

/-- Ticks may write a byte, but make no edit and take none back. -/
theorem lastEdit_undergo {happening : Happening} (h : ∀ key reply, happening ≠ .press key reply)
    (c : Console) : (c.undergo happening).memory.lastEdit = c.memory.lastEdit := by
  cases happening with
  | tick phase r =>
    show (c.tick phase r).memory.lastEdit = c.memory.lastEdit
    rw [memory_tick]
    unfold memoryAfter
    split <;> rfl
  | press key reply => exact absurd rfl (h key reply)
  | status change => cases change <;> rfl

/-! ## Entries -/

/-- **An entry is under way** at the end of a run, with the address that it is for and the digits
that were typed for it. It is begun by a key on the memory page while nothing is being typed, and is
for the address where the cursor is then. Whatever happens and is neither a digit nor the key that
gives it up leaves it as it is. -/
inductive Entry (c : Console) : List Happening → UInt16 → List Nat → Prop where
  | begun {run : List Happening} {key : Key} {reply : Except LinkError Unit} {a : UInt16}
    (hcursor : (c.through run).memoryCursor? = some (.start a))
    (hkey : key = .enter ∨ key = .backspace) : Entry c (run ++ [.press key reply]) a []
  | typed {run : List Happening} {key : Key} {reply : Except LinkError Unit} {a : UInt16} {d : Nat}
    (h : Entry c run a []) (hdigit : key.digit? = some d) :
    Entry c (run ++ [.press key reply]) a [d]
  | idled {run : List Happening} {happening : Happening} {a : UInt16} {digits : List Nat}
    (h : Entry c run a digits) (hidle : ∀ key reply, happening = .press key reply → key.Idle) :
    Entry c (run ++ [happening]) a digits

/-- **A key finishes an entry** with a byte for an address: one digit was typed for it, and the
key is another one. -/
def FinishesEntry (c : Console) (run : List Happening) (key : Key) (a : UInt16) (v : UInt8) : Prop :=
  ∃ high low, c.Entry run a [high] ∧ key.digit? = some low ∧ v.toNat = 16 * high + low

theorem Entry.lt {digits : List Nat} (h : c.Entry run a digits) : ∀ d ∈ digits, d < 16 := by
  induction h with
  | begun => exact fun _ hmem => absurd hmem List.not_mem_nil
  | typed _ hdigit => exact fun d hmem => List.mem_singleton.mp hmem ▸ Key.lt_of_digit? hdigit
  | idled _ _ ih => exact ih

/-- The key that begins an entry. -/
theorem memoryCursor?_press_begun (hcursor : c.memoryCursor? = some (.start a))
    (hkey : key = .enter ∨ key = .backspace) (reply : Except LinkError Unit) :
    (c.press key reply).1.memoryCursor? = some ⟨a, some []⟩ := by
  obtain ⟨below, hviews⟩ := memoryCursor?_eq_some_iff.mp hcursor
  have hopened : c.memoryKey? (.start a) key = some (c.redraw false, ⟨a, some []⟩) := by
    obtain rfl | rfl := hkey <;> rfl
  have hheld := held_press_of_memoryKey? hviews (by rintro _ _ rfl; simp at hkey) hopened reply
  exact memoryCursor?_eq_some_iff.mpr ⟨below, congrArg Prod.snd hheld⟩

/-- The first digit of an entry. -/
theorem OrderlyPages.memoryCursor?_press_typed (h : c.OrderlyPages)
    (hcursor : c.memoryCursor? = some ⟨a, some []⟩) {d : Nat} (hdigit : key.digit? = some d)
    (reply : Except LinkError Unit) :
    (c.press key reply).1.memoryCursor? = some ⟨a, some [Hex.digit d]⟩ := by
  obtain ⟨below, hviews, -⟩ := h.exists_views hcursor
  have heffect := memoryKeyEffect_press hviews (h.tidy _ hcursor) key reply
  rw [memoryCursor?_eq_some_iff]
  generalize (c.press key reply).1.memory = memory at heffect
  generalize (c.press key reply).1.views = views at heffect ⊢
  cases heffect with
  | refused hkey =>
    rw [(hkey rfl).1] at hdigit
    cases hdigit
  | cancelled => cases hdigit
  | began _ hdigit' =>
    cases hdigit.symm.trans hdigit'
    exact ⟨below, rfl⟩
  | finished _ hinput | opened hinput | undone hinput | flipped _ hinput | paged hinput
  | stepped hinput | closed hinput => cases hinput

/-- What leaves an entry as it is. -/
theorem OrderlyPages.memoryCursor?_undergo_idled (h : c.OrderlyPages) {digits : List Char}
    (hcursor : c.memoryCursor? = some ⟨a, some digits⟩) {happening : Happening}
    (hidle : ∀ key reply, happening = .press key reply → key.Idle) :
    (c.undergo happening).memoryCursor? = some ⟨a, some digits⟩ := by
  cases happening with
  | tick phase r | status change =>
    exact (memoryCursor?_congr (views_undergo (by simp) c)).trans hcursor
  | press key reply =>
    obtain ⟨hdigit, hescape⟩ := hidle key reply rfl
    obtain ⟨below, hviews, -⟩ := h.exists_views hcursor
    have heffect := memoryKeyEffect_press hviews (h.tidy _ hcursor) key reply
    show (c.press key reply).1.memoryCursor? = _
    rw [memoryCursor?_eq_some_iff]
    generalize (c.press key reply).1.memory = memory at heffect
    generalize (c.press key reply).1.views = views at heffect ⊢
    cases heffect with
    | refused => exact ⟨below, rfl⟩
    | cancelled => exact absurd rfl hescape
    | began _ hdigit' | finished _ _ hdigit' => cases hdigit.symm.trans hdigit'
    | opened hinput | undone hinput | flipped _ hinput | paged hinput | stepped hinput
    | closed hinput => cases hinput

/-- **Where something is held**, it was before, or a key has begun the entry, or typed its digit. -/
theorem OrderlyPages.held_cases (h : c.OrderlyPages) {digits : List Char} {happening : Happening}
    (hheld : (c.undergo happening).memoryCursor? = some ⟨a, some digits⟩) :
    (c.memoryCursor? = some ⟨a, some digits⟩
        ∧ ∀ key reply, happening = .press key reply → key.Idle)
      ∨ ∃ key reply, happening = .press key reply
        ∧ (c.memoryCursor? = some (.start a) ∧ (key = .enter ∨ key = .backspace) ∧ digits = []
          ∨ c.memoryCursor? = some ⟨a, some []⟩
            ∧ ∃ d, key.digit? = some d ∧ digits = [Hex.digit d]) := by
  cases happening with
  | tick phase r | status change =>
    exact .inl ⟨(memoryCursor?_congr (views_undergo (by simp) c)).symm.trans hheld, by simp⟩
  | press key reply =>
    obtain ⟨below, hnow⟩ := memoryCursor?_eq_some_iff.mp hheld
    change (c.press key reply).1.views = .page (.memory ⟨a, some digits⟩) :: below at hnow
    cases hcursor : c.memoryCursor? with
    | none =>
      -- Another view opens the memory page with nothing typed.
      have hopens := (otherKeyEffect_press hcursor key reply).opens (h.noMemoryPage hcursor)
      rw [hnow] at hopens
      obtain hnone | ⟨p, hviews, hpage⟩ := hopens
      · exact absurd List.mem_cons_self (hnone _)
      · cases hviews
        cases hpage _ rfl
    | some cursor =>
      obtain ⟨under, hviews, hunder⟩ := h.exists_views hcursor
      have heffect := memoryKeyEffect_press hviews (h.tidy cursor hcursor) key reply
      generalize (c.press key reply).1.memory = memory at heffect
      generalize (c.press key reply).1.views = views at heffect hnow
      obtain ⟨b, input⟩ := cursor
      cases heffect with
      | refused hkey =>
        cases hnow
        refine .inl ⟨rfl, ?_⟩
        rintro _ _ ⟨rfl, rfl⟩
        exact hkey rfl
      | began hinput hdigit =>
        cases hnow
        obtain rfl : input = some [] := hinput
        exact .inr ⟨key, reply, rfl, .inr ⟨rfl, _, hdigit, rfl⟩⟩
      | opened hinput hkey =>
        cases hnow
        obtain rfl : input = none := hinput
        exact .inr ⟨key, reply, rfl, .inl ⟨rfl, hkey, rfl⟩⟩
      | flipped _ hinput =>
        cases hnow
        cases hinput
      | stepped hinput hkey hstep =>
        cases hnow
        cases (MemoryCursor.step?_eq_some hstep).2.trans hinput
      | closed => exact absurd (hnow ▸ List.mem_cons_self) (hunder _)
      | cancelled | finished | undone | paged => cases hnow

/-- **What the cursor holds** is what was typed for the entry that is under way. -/
theorem OrderlyPages.held_through_iff (h : c.OrderlyPages) (hnone : c.memoryCursor? = none)
    {digits : List Char} :
    (c.through run).memoryCursor? = some ⟨a, some digits⟩
      ↔ ∃ values, c.Entry run a values ∧ digits = values.map Hex.digit := by
  constructor
  · intro hheld
    induction run using List.reverseRecOn generalizing digits with
    | nil =>
      rw [show c.through [] = c from rfl, hnone] at hheld
      cases hheld
    | append_singleton run happening ih =>
      rw [through_concat] at hheld
      obtain ⟨hbefore, hidle⟩
          | ⟨key, reply, rfl, ⟨hcursor, hkey, rfl⟩ | ⟨hcursor, d, hdigit, rfl⟩⟩ :=
        (h.through run).held_cases hheld
      · obtain ⟨values, hentry, hdigits⟩ := ih hbefore
        exact ⟨values, .idled hentry hidle, hdigits⟩
      · exact ⟨[], .begun hcursor hkey, rfl⟩
      · obtain ⟨values, hentry, hvalues⟩ := ih hcursor
        obtain rfl : values = [] := List.map_eq_nil_iff.mp hvalues.symm
        exact ⟨[d], .typed hentry hdigit, rfl⟩
  · rintro ⟨values, hentry, rfl⟩
    induction hentry with
    | begun hcursor hkey =>
      rw [through_concat]
      exact memoryCursor?_press_begun hcursor hkey _
    | @typed run _ _ _ _ _ hdigit ih =>
      rw [through_concat]
      exact (h.through run).memoryCursor?_press_typed ih hdigit _
    | @idled run _ _ _ _ hidle ih =>
      rw [through_concat]
      exact (h.through run).memoryCursor?_undergo_idled ih hidle

/-- **A key finishes an entry** exactly where the cursor says so. -/
theorem OrderlyPages.finishes_through_iff (h : c.OrderlyPages) (hnone : c.memoryCursor? = none) :
    (c.through run).Finishes key a v ↔ c.FinishesEntry run key a v := by
  constructor
  · rintro ⟨high, low, hhigh, hcursor, hlow, hv⟩
    obtain ⟨values, hentry, hdigits⟩ := (h.held_through_iff hnone).mp hcursor
    obtain ⟨d, rfl, hd⟩ := List.map_eq_singleton_iff.mp hdigits.symm
    obtain rfl := Hex.digit_inj (hentry.lt d List.mem_cons_self) hhigh hd
    exact ⟨d, low, hentry, hlow, hv⟩
  · rintro ⟨high, low, hentry, hlow, hv⟩
    exact ⟨high, low, hentry.lt high List.mem_cons_self,
      (h.held_through_iff hnone).mpr ⟨[high], hentry, rfl⟩, hlow, hv⟩

/-! ## The latest edit -/

/-- Whether a happening at the end of a run makes an edit, or is the undo key. -/
def Rewrites (c : Console) (run : List Happening) (happening : Happening) : Prop :=
  ∃ key reply, happening = .press key reply
    ∧ ((∃ a v, c.FinishesEntry run key a v) ∨ (c.through run).AsksUndo key)

/-- **The latest edit** of a run that was not taken back was at an address and replaced a byte
there. An edit is made when an entry is finished. It is the latest one until another one is made
or the undo key is pressed. -/
inductive LatestEdit (c : Console) : List Happening → UInt16 → UInt8 → Prop where
  | former {a : UInt16} {v : UInt8} (h : c.memory.lastEdit = some (a, v)) : LatestEdit c [] a v
  | made {run : List Happening} {key : Key} {reply : Except LinkError Unit} {a : UInt16} {v : UInt8}
    (h : c.FinishesEntry run key a v) :
    LatestEdit c (run ++ [.press key reply]) a ((c.through run).memory.read a)
  | kept {run : List Happening} {happening : Happening} {a : UInt16} {v : UInt8}
    (h : LatestEdit c run a v) (hkeeps : ¬ c.Rewrites run happening) :
    LatestEdit c (run ++ [happening]) a v

/-- **A key takes back** the latest edit, and with it puts a byte back at an address. -/
def TakesBack (c : Console) (run : List Happening) (key : Key) (a : UInt16) (v : UInt8) : Prop :=
  (c.through run).AsksUndo key ∧ c.LatestEdit run a v

/-- What does not rewrite leaves the latest edit. -/
theorem OrderlyPages.lastEdit_undergo_of_not_rewrites (h : c.OrderlyPages)
    (hnone : c.memoryCursor? = none) {happening : Happening} (hkeeps : ¬ c.Rewrites run happening) :
    ((c.through run).undergo happening).memory.lastEdit = (c.through run).memory.lastEdit := by
  cases happening with
  | tick phase r | status change => exact lastEdit_undergo (by simp) _
  | press key reply =>
    refine ((h.through run).press_unchanged reply (fun a v hfinishes => hkeeps ?_)
      fun hundo => absurd ⟨key, reply, rfl, .inr hundo⟩ hkeeps).2
    exact ⟨key, reply, rfl, .inl ⟨a, v, (h.finishes_through_iff hnone).mp hfinishes⟩⟩

/-- **What can be taken back** is the latest edit of the run, with the byte that it replaced. -/
theorem OrderlyPages.lastEdit_through_iff (h : c.OrderlyPages) (hnone : c.memoryCursor? = none) :
    (c.through run).memory.lastEdit = some (a, v) ↔ c.LatestEdit run a v := by
  constructor
  · intro hlast
    induction run using List.reverseRecOn with
    | nil => exact .former hlast
    | append_singleton run happening ih =>
      rw [through_concat] at hlast
      by_cases hrewrites : c.Rewrites run happening
      · obtain ⟨key, reply, rfl, ⟨b, w, hfinishes⟩ | hundo⟩ := hrewrites
        · have hb := (lastEdit_press_of_finishes ((h.finishes_through_iff hnone).mpr hfinishes)
            reply).symm.trans hlast
          cases hb
          exact .made hfinishes
        · cases ((h.through run).lastEdit_press_of_asksUndo hundo reply).symm.trans hlast
      · rw [h.lastEdit_undergo_of_not_rewrites hnone hrewrites] at hlast
        exact .kept (ih hlast) hrewrites
  · intro hlatest
    induction hlatest with
    | former hlast => exact hlast
    | made hfinishes =>
      rw [through_concat]
      exact lastEdit_press_of_finishes ((h.finishes_through_iff hnone).mpr hfinishes) _
    | kept _ hkeeps ih =>
      rw [through_concat, h.lastEdit_undergo_of_not_rewrites hnone hkeeps]
      exact ih

/-! ## Moving about -/

theorem memoryCursor?_of_held {m : Memory} {cursor : MemoryCursor} {below : List View}
    (h : c.held = (m, .page (.memory cursor) :: below)) : c.memoryCursor? = some cursor :=
  memoryCursor?_eq_some_iff.mpr ⟨below, congrArg Prod.snd h⟩

/-- **An arrow** leaves the cursor in its block. -/
theorem OrderlyPages.press_arrow (h : c.OrderlyPages) {cursor : MemoryCursor}
    (hcursor : c.memoryCursor? = some cursor) (hkey : key.direction?.isSome = true)
    (reply : Except LinkError Unit) :
    ∃ cursor', (c.press key reply).1.memoryCursor? = some cursor'
      ∧ cursor'.address.toNat / 256 = cursor.address.toNat / 256 := by
  obtain ⟨below, hviews, -⟩ := h.exists_views hcursor
  have heffect := memoryKeyEffect_press hviews (h.tidy cursor hcursor) key reply
  generalize (c.press key reply).1.memory = memory at heffect
  generalize hnow : (c.press key reply).1.views = views at heffect
  have hshown {cursor' : MemoryCursor} (hviews' : views = .page (.memory cursor') :: below) :
      (c.press key reply).1.memoryCursor? = some cursor' :=
    memoryCursor?_eq_some_iff.mpr ⟨below, hnow.trans hviews'⟩
  have hdigit : key.digit? = none := Key.digit?_eq_none fun ch hch => by
    rw [hch] at hkey
    cases hkey
  cases heffect with
  | refused => exact ⟨cursor, hshown rfl, rfl⟩
  | stepped hinput hd hstep => exact ⟨_, hshown rfl, (MemoryCursor.step?_eq_some hstep).1⟩
  | opened hinput hkey' | closed hinput hkey' =>
    obtain rfl | rfl := hkey' <;> cases hkey
  | began _ hdigit' | finished _ _ hdigit' => cases hdigit.symm.trans hdigit'
  | cancelled | undone | flipped | paged => cases hkey

/-- **The keys for the neighbouring blocks** undo each other, and come round at the ends of the
address space. -/
theorem press_blocks (hcursor : c.memoryCursor? = some (.start a))
    (reply reply' : Except LinkError Unit) :
    (∃ b, (c.press (.char '[') reply).1.memoryCursor? = some (.start b)
        ∧ a.toNat = (b.toNat + 256) % 65536
        ∧ ((c.press (.char '[') reply).1.press (.char ']') reply').1.memoryCursor?
          = some (.start a))
      ∧ ∃ b, (c.press (.char ']') reply).1.memoryCursor? = some (.start b)
        ∧ b.toNat = (a.toNat + 256) % 65536
        ∧ ((c.press (.char ']') reply).1.press (.char '[') reply').1.memoryCursor?
          = some (.start a) := by
  obtain ⟨below, hviews⟩ := memoryCursor?_eq_some_iff.mp hcursor
  obtain ⟨hbefore, hbehind⟩ := held_press_block hviews reply
  have hround : a - 0x100 + 0x100 = a := UInt16.sub_add_cancel a 0x100
  have hback : a + 0x100 - 0x100 = a := UInt16.add_sub_cancel a 0x100
  refine ⟨⟨a - 0x100, memoryCursor?_of_held hbefore, ?_, ?_⟩,
    ⟨a + 0x100, memoryCursor?_of_held hbehind, UInt16.toNat_add a 0x100, ?_⟩⟩
  · rw [← congrArg UInt16.toNat hround, UInt16.toNat_add]
    rfl
  · have hreturned := (held_press_block (congrArg Prod.snd hbefore) reply').2
    rw [hround] at hreturned
    exact memoryCursor?_of_held hreturned
  · have hreturned := (held_press_block (congrArg Prod.snd hbehind) reply').1
    rw [hback] at hreturned
    exact memoryCursor?_of_held hreturned

/-! ## What keys change -/

/-- **Keys change the memory only by a finished entry or an undo**, whatever happens in between and
whatever the board writes. What is being typed is nothing, or one digit at most. A finished entry
goes to the address where it was begun, at which the cursor still is, and its byte is told by the
two digits that were typed; an undo puts back what the latest edit replaced, moves the cursor there
and leaves nothing to be taken back. Arrows move the cursor within its block, and two keys from one
block to the next one, round the address space. On the other views no key changes the memory. -/
theorem keys_change_memory_by_entry_or_undo (c : Console) (run : List Happening) :
    let began := c.withoutMemoryPage
    let now := began.through run
    (∀ cursor, .memory cursor ∈ now.pages → cursor.Tidy)
      ∧ (∀ key reply b, (now.press key reply).1.memory.read b ≠ now.memory.read b →
          (∃ v, began.FinishesEntry run key b v) ∨ ∃ v, began.TakesBack run key b v)
      ∧ (∀ key reply a v, began.FinishesEntry run key a v →
          (now.press key reply).1.memory.store = now.memory.store.set a v
            ∧ ∃ cursor, now.memoryCursor? = some cursor ∧ cursor.address = a)
      ∧ (∀ key reply a v, began.TakesBack run key a v →
          (now.press key reply).1.memory.store = now.memory.store.set a v
            ∧ (now.press key reply).1.memoryCursor? = some (.start a)
            ∧ ∀ b w, ¬ began.LatestEdit (run ++ [.press key reply]) b w)
      ∧ (∀ key reply cursor, now.memoryCursor? = some cursor → key.direction?.isSome = true →
          ∃ cursor', (now.press key reply).1.memoryCursor? = some cursor'
            ∧ cursor'.address.toNat / 256 = cursor.address.toNat / 256)
      ∧ (∀ a reply reply', now.memoryCursor? = some (.start a) →
          (∃ b, (now.press (.char '[') reply).1.memoryCursor? = some (.start b)
              ∧ a.toNat = (b.toNat + 256) % 65536
              ∧ ((now.press (.char '[') reply).1.press (.char ']') reply').1.memoryCursor?
                = some (.start a))
            ∧ ∃ b, (now.press (.char ']') reply).1.memoryCursor? = some (.start b)
              ∧ b.toNat = (a.toNat + 256) % 65536
              ∧ ((now.press (.char ']') reply).1.press (.char '[') reply').1.memoryCursor?
                = some (.start a))
      ∧ (now.memoryCursor? = none → ∀ key reply, (now.press key reply).1.memory = now.memory) := by
  intro began now
  have hnone : began.memoryCursor? = none :=
    memoryCursor?_of_noMemoryPage (noMemoryPage_withoutMemoryPage c)
  have hbegan : began.OrderlyPages := .of_noMemoryPage (noMemoryPage_withoutMemoryPage c)
  have hnow : now.OrderlyPages := hbegan.through run
  refine ⟨fun cursor hmem => hnow.tidy_of_mem hmem, ?_, ?_, ?_,
    fun key reply cursor hcursor hkey => hnow.press_arrow hcursor hkey reply,
    fun a reply reply' hcursor => press_blocks hcursor reply reply',
    fun hnone key reply => (otherKeyEffect_press hnone key reply).memory_eq⟩
  · intro key reply b hchanged
    obtain ⟨v, hfinishes⟩ | ⟨hasks, v, hlast⟩ := hnow.finishes_or_asksUndo hchanged
    · exact .inl ⟨v, (hbegan.finishes_through_iff hnone).mp hfinishes⟩
    · exact .inr ⟨v, hasks, (hbegan.lastEdit_through_iff hnone).mp hlast⟩
  · intro key reply a v hentry
    have hfinishes := (hbegan.finishes_through_iff hnone).mpr hentry
    obtain ⟨below, hheld⟩ := held_press_of_finishes hfinishes reply
    have hmemory : (now.press key reply).1.memory = now.memory.edit a v := congrArg Prod.fst hheld
    obtain ⟨high, low, -, hcursor, -⟩ := hfinishes
    exact ⟨congrArg Memory.store hmemory, _, hcursor, rfl⟩
  · rintro key reply a v ⟨hasks, hlatest⟩
    have hlast := (hbegan.lastEdit_through_iff hnone).mpr hlatest
    obtain ⟨below, hheld⟩ := held_press_of_asksUndo hasks hlast reply
    have hmemory : (now.press key reply).1.memory = _ := congrArg Prod.fst hheld
    refine ⟨congrArg Memory.store hmemory, memoryCursor?_of_held hheld, fun b w hlatest' => ?_⟩
    have hlast' := (hbegan.lastEdit_through_iff hnone).mpr hlatest'
    rw [through_concat] at hlast'
    cases (hnow.lastEdit_press_of_asksUndo hasks reply).symm.trans hlast'

/-- A byte is typed and taken back. -/
example :
    let c : Console := { table := .builtin }
    let typed := c.through [.press (.char 'm') (.ok ()), .press .enter (.ok ()),
      .press (.char 'a') (.ok ()), .press (.char '5') (.ok ())]
    typed.memory.read 0 = 0xA5 ∧ (typed.press (.control 'z') (.ok ())).1.memory.read 0 = 0 := by
  decide +kernel

end Console

end Breadboard
