import Breadboard.Proofs.ConsoleRun
import Breadboard.Proofs.HexText
import Mathlib.Data.Nat.Bitwise

/-!
# The memory page

The memory page is where the operator changes host memory. A byte is typed in three keys, one that
begins the entry and two digits, and between them the cursor holds what was typed so far. So what a
key does depends on the keys before it, but only as far as the cursor says: whether nothing is being
typed, or an entry was begun, or one digit of it is in. A cursor that holds anything else is of no
use to anyone, and none comes about.

What a key does is said once, for every key on the page. The keys of the other views are gone
through for one fact: they leave the memory alone, and open the memory page with nothing typed.
-/

namespace Breadboard

/-! ## Digits -/

namespace Hex

/-- Digits are ASCII characters. -/
theorem toNat_lt_of_digitValue? {ch : Char} {d : Nat} (h : digitValue? ch = some d) :
    ch.toNat < 128 := by
  have hlt {last : Char} (hch : ch ≤ last) (hlast : last.toNat < 128) : ch.toNat < 128 :=
    Nat.lt_of_le_of_lt (Char.le_def.mp hch) hlast
  unfold digitValue? at h
  split at h
  · exact hlt (And.right ‹_›) (by decide)
  · split at h
    · exact hlt (And.right ‹_›) (by decide)
    · split at h
      · exact hlt (And.right ‹_›) (by decide)
      · cases h

/-- **A digit in upper case** is the digit of its value. -/
theorem toUpper_of_digitValue? {ch : Char} {d : Nat} (h : digitValue? ch = some d) :
    d < 16 ∧ ch.toUpper = digit d := by
  have hall : ∀ n : Fin 128, ∀ d ∈ digitValue? (Char.ofNat n),
      d < 16 ∧ (Char.ofNat n).toUpper = digit d := by decide
  have hch := hall ⟨ch.toNat, toNat_lt_of_digitValue? h⟩ d
  rw [Char.ofNat_toNat] at hch
  exact hch h

theorem utf8Size_digit {d : Nat} (h : d < 16) : (digit d).utf8Size = 1 := by
  have hall : ∀ d : Fin 16, (digit d).utf8Size = 1 := by decide
  exact hall ⟨d, h⟩

end Hex

namespace MemoryCursor

variable {c c' : MemoryCursor}

/-! ## The block -/

theorem toNat_row (c : MemoryCursor) : c.row.toNat = c.address.toNat / 16 % 16 := by
  unfold row
  rw [UInt16.toNat_and, UInt16.toNat_shiftRight]
  show c.address.toNat >>> 4 &&& 2 ^ 4 - 1 = c.address.toNat / 16 % 16
  rw [Nat.and_two_pow_sub_one_eq_mod, Nat.shiftRight_eq_div_pow]

theorem toNat_column (c : MemoryCursor) : c.column.toNat = c.address.toNat % 16 := by
  unfold column
  rw [UInt16.toNat_and]
  exact Nat.and_two_pow_sub_one_eq_mod _ 4

/-- What is taken off the place in the block does not leave it, -/
theorem sub_div_block {a n : UInt16} (h : n.toNat ≤ a.toNat % 256) :
    (a - n).toNat / 256 = a.toNat / 256 := by
  have hle : n.toNat ≤ a.toNat := h.trans (Nat.mod_le _ _)
  rw [UInt16.toNat_sub_of_le _ _ (UInt16.le_iff_toNat_le.mpr hle)]
  omega

/-- nor does what is added up to its end. -/
theorem add_div_block {a n : UInt16} (h : a.toNat % 256 + n.toNat < 256) :
    (a + n).toNat / 256 = a.toNat / 256 := by
  have hlt := a.toNat_lt
  rw [UInt16.toNat_add]
  omega

/-- **A step stays in the block** of 256 bytes, and holds on to what was typed. -/
theorem step?_eq_some {d : Direction} (h : c.step? d = some c') :
    c'.address.toNat / 256 = c.address.toNat / 256 ∧ c'.input = c.input := by
  have hrow := toNat_row c
  have hcolumn := toNat_column c
  unfold step? at h
  cases d with
  | up =>
    obtain ⟨hedge, h⟩ := Option.ite_none_right_eq_some.mp h
    have hpos : 0 < c.row.toNat := hedge
    cases h
    refine ⟨sub_div_block ?_, rfl⟩
    show 16 ≤ c.address.toNat % 256
    omega
  | down =>
    obtain ⟨hedge, h⟩ := Option.ite_none_right_eq_some.mp h
    have hlast : c.row.toNat < 15 := hedge
    cases h
    refine ⟨add_div_block ?_, rfl⟩
    show c.address.toNat % 256 + 16 < 256
    omega
  | left =>
    obtain ⟨hedge, h⟩ := Option.ite_none_right_eq_some.mp h
    have hpos : 0 < c.column.toNat := hedge
    cases h
    refine ⟨sub_div_block ?_, rfl⟩
    show 1 ≤ c.address.toNat % 256
    omega
  | right =>
    obtain ⟨hedge, h⟩ := Option.ite_none_right_eq_some.mp h
    have hlast : c.column.toNat < 15 := hedge
    cases h
    refine ⟨add_div_block ?_, rfl⟩
    show c.address.toNat % 256 + 1 < 256
    omega

/-! ## What is typed -/

/-- **A tidy cursor** holds nothing, an entry that was just begun, or the first digit of one, in
upper case. -/
def Tidy (c : MemoryCursor) : Prop :=
  c.input = none ∨ c.input = some [] ∨ ∃ d < 16, c.input = some [Hex.digit d]

/-- The byte of two digits. -/
theorem inputByte?_digits {high low : Nat} (hhigh : high < 16) (hlow : low < 16) :
    inputByte? [Hex.digit high, Hex.digit low] = some (UInt8.ofNat (16 * high + low)) := by
  have hall : ∀ high low : Fin 16, inputByte? [Hex.digit high, Hex.digit low]
      = some (UInt8.ofNat (16 * high + low)) := by decide
  exact hall ⟨high, hhigh⟩ ⟨low, hlow⟩

/-- The first digit is held. -/
theorem type_first {a : UInt16} {ch : Char} {d : Nat} (h : Hex.digitValue? ch = some d) :
    (⟨a, some []⟩ : MemoryCursor).type ch = (⟨a, some [Hex.digit d]⟩, none) := by
  obtain ⟨hd, hupper⟩ := Hex.toUpper_of_digitValue? h
  have hsize : (String.ofList ([] ++ [ch.toUpper])).utf8ByteSize < 2 := by
    simp [hupper, Hex.utf8Size_digit hd]
  unfold type
  dsimp only
  rw [if_pos hsize, hupper]
  rfl

/-- **The second digit** ends the entry and gives the byte. -/
theorem type_second {a : UInt16} {ch : Char} {high low : Nat} (hhigh : high < 16)
    (h : Hex.digitValue? ch = some low) :
    (⟨a, some [Hex.digit high]⟩ : MemoryCursor).type ch
      = (.start a, some (UInt8.ofNat (16 * high + low))) := by
  obtain ⟨hlow, hupper⟩ := Hex.toUpper_of_digitValue? h
  have hsize : ¬ (String.ofList ([Hex.digit high] ++ [ch.toUpper])).utf8ByteSize < 2 := by
    simp [hupper, Hex.utf8Size_digit hhigh, Hex.utf8Size_digit hlow]
  unfold type
  dsimp only
  rw [if_neg hsize, hupper]
  exact congrArg (Prod.mk _) (inputByte?_digits hhigh hlow)

end MemoryCursor

/-! ## Keys on the page -/

namespace Key

/-- The digit that a key types. -/
def digit? : Key → Option Nat
  | .char ch => Hex.digitValue? ch
  | _ => none

theorem digit?_eq_none {key : Key} (h : ∀ ch, key ≠ .char ch) : key.digit? = none := by
  cases key with
  | char ch => exact absurd rfl (h ch)
  | _ => rfl

/-- **Idle keys** mean nothing while a byte is being typed: they neither type a digit nor give up
what was typed. -/
def Idle (key : Key) : Prop := key.digit? = none ∧ key ≠ .escape

end Key

/-- **What a key does** on the memory page: to the memory, and to the views. The memory page lies on
those `below`. -/
inductive MemoryKeyEffect (m : Memory) (cursor : MemoryCursor) (below : List View) :
    Key → Memory → List View → Prop where
  /-- The key means nothing here, or nothing that can be done. -/
  | refused {key : Key} (hkey : cursor.input.isSome = true → key.Idle) :
    MemoryKeyEffect m cursor below key m (.page (.memory cursor) :: below)
  /-- An entry is begun. -/
  | opened {key : Key} (hinput : cursor.input = none) (hkey : key = .enter ∨ key = .backspace) :
    MemoryKeyEffect m cursor below key m (.page (.memory cursor.openInput) :: below)
  /-- An entry is given up. -/
  | cancelled :
    MemoryKeyEffect m cursor below .escape m (.page (.memory cursor.closeInput) :: below)
  /-- The first digit is typed. -/
  | began {key : Key} {d : Nat} (hinput : cursor.input = some []) (hdigit : key.digit? = some d) :
    MemoryKeyEffect m cursor below key m
      (.page (.memory ⟨cursor.address, some [Hex.digit d]⟩) :: below)
  /-- The second digit is typed, and the byte is written where the cursor is. -/
  | finished {key : Key} {high low : Nat} (hhigh : high < 16)
    (hinput : cursor.input = some [Hex.digit high]) (hlow : key.digit? = some low) :
    MemoryKeyEffect m cursor below key
      (m.edit cursor.address (UInt8.ofNat (16 * high + low)))
      (.page (.memory (.start cursor.address)) :: below)
  /-- The latest edit is taken back, and the cursor goes to it. -/
  | undone {a : UInt16} {v : UInt8} (hinput : cursor.input = none)
    (hpending : m.lastEdit = some (a, v)) :
    MemoryKeyEffect m cursor below (.control 'z') { m.write a v with lastEdit := none }
      (.page (.memory (.start a)) :: below)
  /-- A break point is set or removed. -/
  | flipped (points : BreakPoints) (hinput : cursor.input = none) :
    MemoryKeyEffect m cursor below (.char 'b') { m with breakPoints := points }
      (.page (.memory cursor) :: below)
  /-- Another block is shown. -/
  | paged {ch : Char} {a : UInt16} (hinput : cursor.input = none)
    (h : ch = '[' ∧ a = cursor.address - 0x100 ∨ ch = ']' ∧ a = cursor.address + 0x100) :
    MemoryKeyEffect m cursor below (.char ch) m (.page (.memory (.start a)) :: below)
  /-- The cursor takes a step. -/
  | stepped {key : Key} {d : Direction} {cursor' : MemoryCursor} (hinput : cursor.input = none)
    (hkey : key.direction? = some d) (hstep : cursor.step? d = some cursor') :
    MemoryKeyEffect m cursor below key m (.page (.memory cursor') :: below)
  /-- The page is closed. -/
  | closed {key : Key} (hinput : cursor.input = none) (hkey : key = .escape ∨ key = .char 'q') :
    MemoryKeyEffect m cursor below key m below

namespace Console

variable {c c' : Console} {key : Key}

/-- The host memory and the views. -/
def held (c : Console) : Memory × List View := (c.memory, c.views)

theorem held_log (c : Console) (e : Event) : (c.log e).held = c.held := by
  obtain ⟨notices, deeds, h⟩ := exists_log_eq c e
  rw [h]
  rfl

theorem held_ring (c : Console) : c.ring.held = c.held := by
  unfold ring
  split
  · rfl
  · rfl

theorem held_foldl_log (events : List Event) (c : Console) :
    (events.foldl log c).held = c.held := by
  induction events generalizing c with
  | nil => rfl
  | cons e rest ih => exact (ih (c.log e)).trans (held_log c e)

theorem held_withFiles {α : Type} {f : StateM Session α} {a : α}
    (h : c.withFiles f = (a, c')) : c'.held = c.held := by
  unfold withFiles at h
  obtain ⟨-, rfl⟩ := Prod.mk.inj h
  exact held_foldl_log _ _

/-- Only the break points change when one is flipped. -/
theorem exists_held_toggleBreakPoint (c : Console) (a : UInt16) :
    ∃ points, (c.toggleBreakPoint a).1.held
      = ({ c.memory with breakPoints := points }, c.views) := by
  unfold toggleBreakPoint Memory.toggleBreakPoint?
  cases c.memory.instructionStart? c.table a with
  | none => exact ⟨c.memory.breakPoints, held_log c _⟩
  | some start =>
    dsimp only [Option.map]
    split
    · rename_i hsaved
      exact ⟨_, (held_withFiles hsaved).trans (held_log _ _)⟩
    · rename_i hfailed
      exact ⟨_, (held_log _ _).trans ((held_withFiles hfailed).trans (held_log _ _))⟩

theorem memoryKeyEffect_typingKey {cursor : MemoryCursor} (htidy : cursor.Tidy)
    (htyping : cursor.input.isSome = true) (key : Key) (below : List View) :
    MemoryKeyEffect c.memory cursor below key (c.typingKey cursor key).1.memory
      (.page (.memory (c.typingKey cursor key).2.1) :: below) := by
  obtain ⟨a, input⟩ := cursor
  unfold typingKey
  split
  · exact .cancelled
  · rename_i ch
    split
    · rename_i hdigit
      obtain ⟨d, hd⟩ := Option.isSome_iff_exists.mp hdigit
      obtain rfl | rfl | ⟨first, hfirst, rfl⟩ : input = none ∨ input = some []
        ∨ ∃ d < 16, input = some [Hex.digit d] := htidy
      · cases htyping
      · rw [MemoryCursor.type_first hd]
        exact .began rfl hd
      · rw [MemoryCursor.type_second hfirst hd]
        dsimp only
        rw [memory_log]
        exact .finished hfirst rfl hd
    · rename_i hdigit
      exact .refused fun _ => ⟨Option.not_isSome_iff_eq_none.mp hdigit, nofun⟩
  · rename_i hescape hchar
    exact .refused fun _ => ⟨Key.digit?_eq_none hchar, hescape⟩

theorem memoryKeyEffect_browsingKey? {cursor cursor' : MemoryCursor} {meant : Bool}
    (hinput : cursor.input = none) (below : List View)
    (h : c.browsingKey? cursor key = some (c', cursor', meant)) :
    MemoryKeyEffect c.memory cursor below key c'.memory (.page (.memory cursor') :: below) := by
  obtain ⟨a, input⟩ := cursor
  obtain rfl : input = none := hinput
  unfold browsingKey? at h
  split at h
  · cases h
    exact .opened rfl (.inl rfl)
  · cases h
    exact .opened rfl (.inr rfl)
  · unfold Memory.undo? at h
    cases hlast : c.memory.lastEdit with
    | none =>
      rw [hlast] at h
      cases h
      exact .refused nofun
    | some last =>
      rw [hlast] at h
      cases h
      rw [memory_log]
      exact .undone rfl hlast
  · obtain ⟨points, hheld⟩ := exists_held_toggleBreakPoint c a
    dsimp only at h
    generalize c.toggleBreakPoint a = toggled at h hheld
    cases h
    have hmemory : toggled.1.memory = { c.memory with breakPoints := points } :=
      congrArg Prod.fst hheld
    rw [hmemory]
    exact .flipped points rfl
  · cases h
    exact .paged rfl (.inl ⟨rfl, rfl⟩)
  · cases h
    exact .paged rfl (.inr ⟨rfl, rfl⟩)
  · cases h
  · cases h
  · split at h
    · rename_i hstep
      cases h
      obtain ⟨d, hkey, hd⟩ := Option.bind_eq_some_iff.mp hstep
      exact .stepped rfl hkey hd
    · cases h
      exact .refused nofun

theorem memoryKeyEffect_memoryKey? {cursor cursor' : MemoryCursor} (htidy : cursor.Tidy)
    (below : List View) (h : c.memoryKey? cursor key = some (c', cursor')) :
    MemoryKeyEffect c.memory cursor below key c'.memory (.page (.memory cursor') :: below) := by
  unfold memoryKey? at h
  obtain ⟨⟨d, moved, meant⟩, hresult, h⟩ := Option.map_eq_some_iff.mp h
  obtain ⟨hc', rfl⟩ := Prod.mk.inj h
  have heffect :
      MemoryKeyEffect c.memory cursor below key d.memory (.page (.memory moved) :: below) := by
    split at hresult
    · have htyped := memoryKeyEffect_typingKey (c := c) htidy ‹_› key below
      rw [Option.some.inj hresult] at htyped
      exact htyped
    · exact memoryKeyEffect_browsingKey? (Option.not_isSome_iff_eq_none.mp ‹_›) below hresult
  have hmemory : c'.memory = d.memory := by
    rw [← hc']
    split
    · rfl
    · exact congrArg Prod.fst (held_ring d)
  rw [hmemory]
  exact heffect

/-- The page is closed only while nothing is being typed. -/
theorem of_memoryKey?_eq_none {cursor : MemoryCursor} (h : c.memoryKey? cursor key = none) :
    cursor.input = none ∧ (key = .escape ∨ key = .char 'q') := by
  unfold memoryKey? at h
  rw [Option.map_eq_none_iff] at h
  split at h
  · cases h
  · refine ⟨Option.not_isSome_iff_eq_none.mp ‹_›, ?_⟩
    unfold browsingKey? at h
    split at h
    · cases h
    · cases h
    · split at h <;> cases h
    · cases h
    · cases h
    · cases h
    · exact .inl rfl
    · exact .inr rfl
    · split at h <;> cases h

/-- **A key on the memory page** has one of the effects. -/
theorem memoryKeyEffect_press {cursor : MemoryCursor} {below : List View}
    (hviews : c.views = .page (.memory cursor) :: below) (htidy : cursor.Tidy) (key : Key)
    (reply : Except LinkError Unit) :
    MemoryKeyEffect c.memory cursor below key (c.press key reply).1.memory
      (c.press key reply).1.views := by
  unfold press
  split
  · show MemoryKeyEffect c.memory cursor below _ c.memory c.views
    rw [hviews]
    exact .refused fun _ => ⟨rfl, nofun⟩
  · rw [hviews]
    dsimp only
    cases hresult : c.memoryKey? cursor key with
    | none =>
      obtain ⟨hinput, hkey⟩ := of_memoryKey?_eq_none hresult
      exact .closed hinput hkey
    | some result =>
      obtain ⟨d, cursor'⟩ := result
      have heffect := memoryKeyEffect_memoryKey? htidy below hresult
      exact heffect

/-- What the page makes of a key takes its place on the other views. -/
theorem held_press_of_memoryKey? {cursor cursor' : MemoryCursor} {below : List View}
    (hviews : c.views = .page (.memory cursor) :: below)
    (hkey : ∀ cols rows, key ≠ .resize cols rows)
    (h : c.memoryKey? cursor key = some (c', cursor')) (reply : Except LinkError Unit) :
    (c.press key reply).1.held = (c'.memory, .page (.memory cursor') :: below) := by
  unfold press
  split
  · exact absurd rfl (hkey _ _)
  · rw [hviews]
    dsimp only
    rw [h]
    rfl

/-- **The second digit** edits the memory. -/
theorem held_press_second {a : UInt16} {below : List View} {high low : Nat} (hhigh : high < 16)
    (hlow : key.digit? = some low)
    (hviews : c.views = .page (.memory ⟨a, some [Hex.digit high]⟩) :: below)
    (reply : Except LinkError Unit) :
    (c.press key reply).1.held
      = (c.memory.edit a (UInt8.ofNat (16 * high + low)), .page (.memory (.start a)) :: below) := by
  cases key with
  | char ch =>
    have hdigit : isHexDigit ch = true := Option.isSome_iff_exists.mpr ⟨low, hlow⟩
    have htyped : c.memoryKey? ⟨a, some [Hex.digit high]⟩ (.char ch) = some ((({ c with
        memory := c.memory.edit a (UInt8.ofNat (16 * high + low)) }).log
          (Memory.editEvent a (UInt8.ofNat (16 * high + low)))).redraw false, .start a) := by
      unfold memoryKey? typingKey
      simp only [Option.isSome_some, if_true, hdigit, MemoryCursor.type_second hhigh hlow,
        Option.map_some]
      rfl
    rw [held_press_of_memoryKey? hviews (by simp) htyped]
    exact congrArg (·, _) (memory_log _ _)
  | _ => cases hlow

/-- **The undo key** takes the latest edit back, if there is one. -/
theorem held_press_undo {a b : UInt16} {v : UInt8} {below : List View}
    (hviews : c.views = .page (.memory (.start b)) :: below)
    (hlast : c.memory.lastEdit = some (a, v)) (reply : Except LinkError Unit) :
    (c.press (.control 'z') reply).1.held
      = ({ c.memory.write a v with lastEdit := none }, .page (.memory (.start a)) :: below) := by
  have hundone : c.memoryKey? (.start b) (.control 'z') = some ((({ c with
      memory := { c.memory.write a v with lastEdit := none } }).log
        (Memory.undoEvent a)).redraw false, .start a) := by
    unfold memoryKey? browsingKey? Memory.undo?
    rw [hlast]
    rfl
  rw [held_press_of_memoryKey? hviews (by simp) hundone]
  exact congrArg (·, _) (memory_log _ _)

/-- The keys for the block before and the block behind. -/
theorem held_press_block {a : UInt16} {below : List View}
    (hviews : c.views = .page (.memory (.start a)) :: below) (reply : Except LinkError Unit) :
    (c.press (.char '[') reply).1.held
        = (c.memory, .page (.memory (.start (a - 0x100))) :: below)
      ∧ (c.press (.char ']') reply).1.held
        = (c.memory, .page (.memory (.start (a + 0x100))) :: below) := by
  have hbefore : c.memoryKey? (.start a) (.char '[') = some (c.redraw false, .start (a - 0x100)) :=
    rfl
  have hbehind : c.memoryKey? (.start a) (.char ']') = some (c.redraw false, .start (a + 0x100)) :=
    rfl
  exact ⟨held_press_of_memoryKey? hviews (by simp) hbefore reply,
    held_press_of_memoryKey? hviews (by simp) hbehind reply⟩

/-! ## Keys on the other views -/

theorem held_applyEdit (c : Console) (code : UInt8) (edited : Opcode × Edit)
    (reply : Except LinkError Unit) : (c.applyEdit code edited reply).held = c.held := by
  unfold applyEdit
  dsimp only
  split
  · cases reply with
    | ok u => rfl
    | error e => exact held_log _ _
  · rfl

theorem held_editLine (c : Console) (mode : SetMode) (reply : Except LinkError Unit) :
    (c.editLine mode reply).held = c.held := by
  unfold editLine
  split
  · exact held_log c _
  · split
    · exact held_applyEdit c _ _ reply
    · exact (held_ring _).trans (held_log c _)

theorem held_cycleBus? {offset : Int} {reply : Except LinkError Unit}
    (h : c.cycleBus? offset reply = some c') : c'.held = c.held := by
  unfold cycleBus? at h
  simp only [Option.bind_eq_some_iff, Option.map_eq_some_iff] at h
  obtain ⟨code, -, edited, -, rfl⟩ := h
  exact held_applyEdit c code edited reply

theorem held_arrow (c : Console) (d : Direction) (reply : Except LinkError Unit) :
    (c.arrow d reply).held = c.held := by
  unfold arrow
  dsimp only
  generalize hmoved : ite (c.editor.busMode = true) _ _ = moved?
  cases moved? with
  | none => exact held_ring c
  | some c' =>
    have hheld : c'.held = c.held := by
      split at hmoved
      · cases d with
        | left | right => exact held_cycleBus? hmoved
        | up | down =>
          obtain ⟨e, -, rfl⟩ := Option.map_eq_some_iff.mp hmoved
          rfl
      · obtain ⟨e, -, rfl⟩ := Option.map_eq_some_iff.mp hmoved
        rfl
    exact hheld

theorem held_logSummary (c : Console) (skipAddressing : Bool) :
    (c.logSummary skipAddressing).held = c.held := by
  unfold logSummary
  split
  · exact held_log c _
  · exact held_log c _

theorem held_setDebug (c : Console) (debug : Bool) : (c.setDebug debug).held = c.held := by
  unfold setDebug
  split
  · rfl
  · exact held_log _ _

/-- **Fresh** pages are as they are when they are opened: no notification is left out, and nothing
is typed. -/
def FreshPage : Page → Prop
  | .history offset => offset = 0
  | .memory cursor => cursor.input = none
  | _ => True

/-- **What a key on the dashboard leaves** of the memory and the views: both as they were, but for a
fresh page that was laid on top. -/
def Lays (c d : Console) : Prop :=
  d.held = c.held ∨ ∃ p, d.held = (c.memory, .page p :: c.views) ∧ FreshPage p

theorem lays_showError {d : Console} (h : d.held = c.held) (message : String) :
    Lays c (d.showError message) := by
  obtain ⟨hmemory, hviews⟩ := Prod.mk.inj h
  exact .inr ⟨_, Prod.ext hmemory (congrArg (View.page (.error message) :: ·) hviews), trivial⟩

theorem lays_dashboardKey (c : Console) (key : Key) (reply : Except LinkError Unit) :
    Lays c (c.dashboardKey key reply).1 := by
  unfold dashboardKey
  split
  · exact .inl (held_arrow c _ reply)
  · split
    · exact .inl rfl
    · exact .inl (held_editLine c _ reply)
    · exact .inl (held_editLine c _ reply)
    · exact .inl (held_editLine c _ reply)
    · exact .inl (held_editLine c _ reply)
    · exact .inl rfl
    · exact .inl rfl
    · exact .inl (held_logSummary c _)
    · exact .inl (held_logSummary c _)
    · exact .inl (held_setDebug c _)
    · exact .inl (held_setDebug c _)
    · exact .inr ⟨_, rfl, trivial⟩
    · exact .inr ⟨_, rfl, rfl⟩
    · exact .inr ⟨_, rfl, rfl⟩
    · dsimp only
      split
      · exact .inr ⟨_, rfl, trivial⟩
      · exact lays_showError rfl _
    · unfold saveTable
      split
      · exact .inl ((held_log _ _).trans (held_withFiles ‹_›))
      · exact lays_showError (held_withFiles ‹_›) _
    · unfold exportImages
      split
      · exact .inl ((held_log _ _).trans (held_withFiles ‹_›))
      · exact lays_showError (held_withFiles ‹_›) _
    · exact .inl (held_log c _)

/-- **What a key leaves** of the memory and the views, on a view other than the memory page: the
memory as it was, and the views as they were but for the top. A memory page that comes to lie there
holds nothing. -/
inductive OtherKeyEffect (c d : Console) : Prop where
  | kept (h : d.held = c.held)
  | laid {p : Page} (h : d.held = (c.memory, .page p :: c.views))
      (hpage : ∀ cursor, p = .memory cursor → cursor.input = none)
  | lifted {top : View} {below : List View} (hviews : c.views = top :: below)
      (h : d.held = (c.memory, below))
  | scrolled {offset offset' : Nat} {below : List View}
      (hviews : c.views = .page (.history offset) :: below)
      (h : d.held = (c.memory, .page (.history offset') :: below))

theorem otherKeyEffect_dashboardKey (c : Console) (key : Key) (reply : Except LinkError Unit) :
    OtherKeyEffect c (c.dashboardKey key reply).1 := by
  obtain hkept | ⟨p, hlaid, hpage⟩ := lays_dashboardKey c key reply
  · exact .kept hkept
  · refine .laid hlaid ?_
    rintro cursor rfl
    exact hpage

theorem held_historyKey? {offset offset' : Nat}
    (h : c.historyKey? offset key = some (c', offset')) : c'.held = c.held := by
  unfold historyKey? at h
  split at h
  · cases h
    rfl
  · cases h
    rfl
  · cases h
    rfl
  · cases h
    rfl
  · cases h
    rfl
  · cases h
    exact held_log _ _
  · cases h

/-- The cursor of the memory page, while that is on show. -/
def memoryCursor? (c : Console) : Option MemoryCursor :=
  match c.views with
  | .page (.memory cursor) :: _ => some cursor
  | _ => none

theorem memoryCursor?_eq_some_iff {cursor : MemoryCursor} :
    c.memoryCursor? = some cursor ↔ ∃ below, c.views = .page (.memory cursor) :: below := by
  unfold memoryCursor?
  split
  · rename_i cursor' below hviews
    rw [hviews]
    simp
  · rename_i hother
    refine ⟨nofun, ?_⟩
    rintro ⟨below, hviews⟩
    exact absurd hviews (hother cursor below)

/-- **A key on another view** leaves the memory alone. -/
theorem otherKeyEffect_press (h : c.memoryCursor? = none) (key : Key)
    (reply : Except LinkError Unit) : OtherKeyEffect c (c.press key reply).1 := by
  unfold press
  split
  · exact .kept rfl
  · split
    · exact .kept rfl
    · exact otherKeyEffect_dashboardKey c _ reply
    · rename_i offset below hviews
      split
      · rename_i hresult
        have hmemory := congrArg Prod.fst (held_historyKey? hresult)
        exact .scrolled hviews (Prod.ext hmemory rfl)
      · exact .lifted hviews rfl
    · rename_i cursor below hviews
      rw [memoryCursor?_eq_some_iff.mpr ⟨below, hviews⟩] at h
      cases h
    · rename_i hviews
      exact .lifted hviews rfl

end Console

end Breadboard
