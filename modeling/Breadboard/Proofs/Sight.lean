import Breadboard.Console.Draw
import Breadboard.Proofs.ConsoleRun

/-!
# What can be seen of the console

A frame shows some of the console: its *sight*. Which keys there are, what files were
written and what the filter lets through is not part of it.

Keys change the sight in many places, and a change that nobody asks to have drawn is
not seen until something else happens. What has to be said of a key is therefore not
what it changes but that the change is *shown*: either the screen was asked to be
drawn, or it would look the same. A second thing is said along with it, because it
takes the same walk through the keys: unless the screen was asked to be cleared, the
change is *mild* – the view is the same one as before, the notifications are not fewer.

Both properties are kept when one change follows another, so a key is taken apart
into steps that each have them. One key is an exception. It silences the bell and
leaves it to its own log event to have the screen drawn, which works only for as long
as the filter lets the event through.
-/

namespace Breadboard

/-- **Sight**: what frames show of a console, whatever the size of the screen. -/
structure Sight where
  table : OpcodeTable
  editor : LineEditor
  memory : Memory
  history : History
  live : LiveState
  ignoresFlags : Bool
  connected : Bool
  views : List View
  silenced : Bool
  ringing : Bool
  rows : Nat

/-- **The same view**: no page was turned. The cursor of the memory page may have moved. -/
inductive SameView : List View → List View → Prop where
  | same (views : List View) : SameView views views
  | moved (cursor cursor' : MemoryCursor) (below : List View) :
    SameView (.page (.memory cursor) :: below) (.page (.memory cursor') :: below)

theorem SameView.trans {views views' views'' : List View} (h : SameView views views')
    (h' : SameView views' views'') : SameView views views'' := by
  cases h with
  | same => exact h'
  | moved cursor cursor' below =>
    cases h' with
    | same => exact .moved cursor cursor' below
    | moved _ cursor'' _ => exact .moved cursor cursor'' below

/-- **Bounded**: a history keeps no more than it has room for. -/
def History.Bounded (h : History) : Prop := h.length ≤ h.capacity

/-- A history that begins is bounded. -/
theorem History.bounded_ofCapacity (capacity : Nat) : (ofCapacity capacity).Bounded :=
  Nat.zero_le _

/-- What is pushed out makes room for one that comes in. -/
theorem History.Bounded.push {h : History} (hbounded : h.Bounded) (n : Notification) :
    (h.push n).Bounded ∧ h.length ≤ (h.push n).length := by
  have hlength : (h.push n).length = min h.capacity (h.length + 1) := by
    unfold History.push History.length
    rw [List.length_take, List.length_cons]
  refine ⟨?_, ?_⟩
  · show (h.push n).length ≤ h.capacity
    omega
  · unfold Bounded at hbounded
    omega

namespace Console

variable {c d e : Console}

/-- What can be seen of a console. -/
def sight (c : Console) : Sight where
  table := c.table
  editor := c.editor
  memory := c.memory
  history := c.notices.history
  live := c.live
  ignoresFlags := c.ignoresFlags
  connected := c.connected
  views := c.views
  silenced := c.silenced
  ringing := c.ringing
  rows := c.rows

/-- **A frame shows nothing else.** -/
theorem draw_congr (h : d.sight = c.sight) (cols rows : Nat) (connected clear : Bool) :
    (d.draw cols rows connected clear).2 = (c.draw cols rows connected clear).2 := by
  obtain ⟨table, editor, memory, ⟨filter, control, history⟩, live, ignoresFlags, connected, views,
    silenced, ringing, width, height, tableFile, exportDir, ports, files, deeds⟩ := c
  obtain ⟨table', editor', memory', ⟨filter', control', history'⟩, live', ignoresFlags',
    connected', views', silenced', ringing', width', height', tableFile', exportDir', ports',
    files', deeds'⟩ := d
  unfold sight at h
  simp only [Sight.mk.injEq] at h
  obtain ⟨rfl, rfl, rfl, rfl, rfl, rfl, rfl, rfl, rfl, rfl, rfl⟩ := h
  rfl

/-! ## Changes -/

/-- **Mild changes**: the view stays, an opcode that is bound does not become unbound,
and the notifications do not become fewer. -/
structure Mild (c d : Console) : Prop where
  view : SameView c.views d.views
  rows_eq : d.rows = c.rows
  bound : c.live.opCode.isSome = true → d.live.opCode.isSome = true
  kept : c.notices.history.Bounded →
    d.notices.history.Bounded ∧ c.notices.history.length ≤ d.notices.history.length

theorem Mild.trans (h : Mild c d) (h' : Mild d e) : Mild c e where
  view := h.view.trans h'.view
  rows_eq := h'.rows_eq.trans h.rows_eq
  bound := fun hbound => h'.bound (h.bound hbound)
  kept := fun hbounded => ⟨(h'.kept (h.kept hbounded).1).1,
    Nat.le_trans (h.kept hbounded).2 (h'.kept (h.kept hbounded).1).2⟩

/-- What keeps the views, the opcode and the notifications is mild. -/
theorem Mild.of_eq (hviews : d.views = c.views) (hrows : d.rows = c.rows)
    (hcode : d.live.opCode = c.live.opCode) (hhistory : d.notices.history = c.notices.history) :
    Mild c d where
  view := hviews ▸ .same c.views
  rows_eq := hrows
  bound := fun hbound => hcode ▸ hbound
  kept := by
    rw [hhistory]
    exact fun hbounded => ⟨hbounded, Nat.le_refl _⟩

theorem Mild.of_sight (h : d.sight = c.sight) : Mild c d :=
  .of_eq (congrArg Sight.views h) (congrArg Sight.rows h) (congrArg (·.live.opCode) h)
    (congrArg Sight.history h)

/-- **Pending**: a mild change that is still to be shown. -/
def Pending (c d : Console) : Prop := Mild c d ∧ ∃ new, d.deeds = c.deeds ++ new

/-- **Shown**: a change after which the screen was asked to be drawn if it looks
different, and to be cleared if it was not mild. The history stays bounded either way. -/
def Shown (c d : Console) : Prop :=
  ∃ new, d.deeds = c.deeds ++ new
    ∧ (.redraw true ∈ new ∧ (c.notices.history.Bounded → d.notices.history.Bounded) ∨ Mild c d)
    ∧ ((∃ clear, .redraw clear ∈ new) ∨ d.sight = c.sight)

theorem Pending.trans (h : Pending c d) (h' : Pending d e) : Pending c e := by
  obtain ⟨hmild, new, hnew⟩ := h
  obtain ⟨hmild', new', hnew'⟩ := h'
  exact ⟨hmild.trans hmild', new ++ new', by rw [hnew', hnew, List.append_assoc]⟩

/-- What is shown keeps the history bounded. -/
theorem Shown.bounded (h : Shown c d) (hbounded : c.notices.history.Bounded) :
    d.notices.history.Bounded := by
  obtain ⟨-, -, ⟨-, hkept⟩ | hmild, -⟩ := h
  · exact hkept hbounded
  · exact (hmild.kept hbounded).1

theorem Shown.trans (h : Shown c d) (h' : Shown d e) : Shown c e := by
  have hkept (hbounded : c.notices.history.Bounded) := h'.bounded (h.bounded hbounded)
  obtain ⟨new, hnew, hmild, hseen⟩ := h
  obtain ⟨new', hnew', hmild', hseen'⟩ := h'
  refine ⟨new ++ new', by rw [hnew', hnew, List.append_assoc], ?_, ?_⟩
  · obtain ⟨hclear, -⟩ | hmild := hmild
    · exact .inl ⟨List.mem_append_left new' hclear, hkept⟩
    · exact hmild'.imp (fun hclear' => ⟨List.mem_append_right new hclear'.1, hkept⟩) hmild.trans
  · obtain ⟨clear, hclear⟩ | hsame := hseen
    · exact .inl ⟨clear, List.mem_append_left new' hclear⟩
    · exact hseen'.imp (fun ⟨clear, hclear⟩ => ⟨clear, List.mem_append_right new hclear⟩)
        fun hsame' => hsame'.trans hsame

/-- A mild change without a deed is pending. -/
theorem Mild.pending (h : Mild c d) (hdeeds : d.deeds = c.deeds) : Pending c d :=
  ⟨h, [], hdeeds.trans (List.append_nil _).symm⟩

/-- What nobody can see needs not be shown. -/
theorem Shown.of_sight (h : d.sight = c.sight) (hdeeds : d.deeds = c.deeds) : Shown c d :=
  ⟨[], hdeeds.trans (List.append_nil _).symm, .inr (.of_sight h), .inr h⟩

theorem Shown.refl (c : Console) : Shown c c := .of_sight rfl rfl

theorem Pending.refl (c : Console) : Pending c c := (Mild.of_sight rfl).pending rfl

/-- **What is pending is shown** when the screen is asked to be drawn. -/
theorem Pending.redraw (h : Pending c d) : Shown c (d.redraw false) := by
  obtain ⟨hmild, new, hnew⟩ := h
  refine ⟨new ++ [.redraw false], ?_, .inr ⟨hmild.view, hmild.rows_eq, hmild.bound, hmild.kept⟩,
    .inl ⟨false, List.mem_append_right new (List.mem_singleton.mpr rfl)⟩⟩
  show d.deeds ++ [.redraw false] = _
  rw [hnew, List.append_assoc]

/-- Whatever changes is shown when the screen is cleared. -/
theorem shown_clear (hdeeds : d.deeds = c.deeds)
    (hkept : c.notices.history.Bounded → d.notices.history.Bounded) : Shown c (d.redraw true) :=
  have hmem : Deed.redraw true ∈ [Deed.redraw true] := List.mem_singleton.mpr rfl
  ⟨[.redraw true], congrArg (· ++ _) hdeeds, .inl ⟨hmem, hkept⟩, .inl ⟨true, hmem⟩⟩

/-! ## Deeds -/

theorem pending_call (c : Console) (b : BoardCall) : Pending c (c.call b) :=
  ⟨.of_sight rfl, [.called b], rfl⟩

theorem pending_redraw (c : Console) (clear : Bool) : Pending c (c.redraw clear) :=
  ⟨.of_sight rfl, [.redraw clear], rfl⟩

/-- **A kept event** adds a notification and has the screen drawn. -/
theorem log_of_keeps {event : Event} (h : c.notices.keeps event = true) :
    c.log event
      = { c with
          notices := c.notices.tell event
          deeds := c.deeds ++ [.told ⟨event.level, event.text⟩] ++ [.redraw false] } :=
  if_pos h

theorem log_of_not_keeps {event : Event} (h : c.notices.keeps event = false) :
    c.log event = c :=
  if_neg (by simp [h])

theorem pending_log (c : Console) (event : Event) : Pending c (c.log event) := by
  cases hkeeps : c.notices.keeps event with
  | false =>
    rw [log_of_not_keeps hkeeps]
    exact .refl c
  | true =>
    rw [log_of_keeps hkeeps]
    refine ⟨⟨.same c.views, rfl, id, fun hbounded => ?_⟩,
      [.told ⟨event.level, event.text⟩] ++ [.redraw false], List.append_assoc _ _ _⟩
    show (c.notices.tell event).history.Bounded ∧ _ ≤ (c.notices.tell event).history.length
    unfold Notices.tell
    rw [if_pos hkeeps]
    exact hbounded.push _

/-- **Logging is shown**, whether the event is kept or not. -/
theorem shown_log (c : Console) (event : Event) : Shown c (c.log event) := by
  cases hkeeps : c.notices.keeps event with
  | false =>
    rw [log_of_not_keeps hkeeps]
    exact .refl c
  | true =>
    obtain ⟨hmild, -⟩ := pending_log c event
    refine ⟨[.told ⟨event.level, event.text⟩] ++ [.redraw false], ?_, .inr hmild,
      .inl ⟨false, by simp⟩⟩
    rw [log_of_keeps hkeeps]
    exact List.append_assoc _ _ _

theorem shown_ring (c : Console) : Shown c c.ring := by
  unfold ring
  split
  · exact .refl c
  · have hmild : Mild c { c with ringing := true } := .of_eq rfl rfl rfl rfl
    exact (hmild.pending rfl).redraw

theorem shown_foldl_log (events : List Event) (c : Console) : Shown c (events.foldl log c) := by
  induction events generalizing c with
  | nil => exact .refl c
  | cons event rest ih => exact (shown_log c event).trans (ih (c.log event))

theorem pending_foldl_log (events : List Event) (c : Console) :
    Pending c (events.foldl log c) := by
  induction events generalizing c with
  | nil => exact .refl c
  | cons event rest ih => exact (pending_log c event).trans (ih (c.log event))

/-- Files are not seen, only what is logged about them. -/
theorem shown_withFiles {α : Type} {f : StateM Session α} {a : α}
    (h : c.withFiles f = (a, d)) : Shown c d := by
  unfold withFiles at h
  obtain ⟨-, rfl⟩ := Prod.mk.inj h
  have hfiles : Shown c { c with files := (f (.start c.files)).2.files } := .of_sight rfl rfl
  exact hfiles.trans (shown_foldl_log _ _)

theorem pending_withFiles {α : Type} {f : StateM Session α} {a : α}
    (h : c.withFiles f = (a, d)) : Pending c d := by
  unfold withFiles at h
  obtain ⟨-, rfl⟩ := Prod.mk.inj h
  have hfiles : Mild c { c with files := (f (.start c.files)).2.files } := .of_sight rfl
  exact (hfiles.pending rfl).trans (pending_foldl_log _ _)

/-- A page that is laid on top is shown. -/
theorem shown_pushPage (c : Console) (p : Page) : Shown c (c.pushPage p) :=
  shown_clear (d := { c with views := .page p :: c.views }) rfl id

/-! ## The dashboard -/

theorem pending_applyEdit (c : Console) (code : UInt8) (edited : Opcode × Edit)
    (reply : Except LinkError Unit) : Pending c (c.applyEdit code edited reply) := by
  have hmild : Mild c { c with table := c.table.setLines code edited.1.lines } :=
    .of_eq rfl rfl rfl rfl
  have hedited := hmild.pending rfl
  unfold applyEdit
  dsimp only
  split
  · have hdriven (w : ControlWord) :
        Pending c (({ c with table := c.table.setLines code edited.1.lines } : Console).call
          (.drive w)) :=
      hedited.trans (pending_call _ _)
    cases reply with
    | ok u => exact hdriven _
    | error e => exact (hdriven _).trans (pending_log _ _)
  · exact hedited

theorem shown_editLine (c : Console) (mode : SetMode) (reply : Except LinkError Unit) :
    Shown c (c.editLine mode reply) := by
  unfold editLine
  cases c.live.opCode with
  | none => exact shown_log c _
  | some code =>
    dsimp only
    split
    · exact (pending_applyEdit c code _ reply).redraw
    · exact (shown_log c _).trans (shown_ring _)

/-- Whatever an arrow moves is drawn, and otherwise the bell rings. -/
theorem shown_arrow (c : Console) (d : Direction) (reply : Except LinkError Unit) :
    Shown c (c.arrow d reply) := by
  have hcycled {offset : Int} {c' : Console} (h : c.cycleBus? offset reply = some c') :
      Pending c c' := by
    unfold cycleBus? at h
    simp only [Option.bind_eq_some_iff, Option.map_eq_some_iff] at h
    obtain ⟨code, -, edited, -, rfl⟩ := h
    exact pending_applyEdit c code edited reply
  have hmoved {e? : Option LineEditor} {c' : Console}
      (h : e?.map (fun e => { c with editor := e }) = some c') : Pending c c' := by
    obtain ⟨e, -, rfl⟩ := Option.map_eq_some_iff.mp h
    have hmild : Mild c { c with editor := e } := .of_eq rfl rfl rfl rfl
    exact hmild.pending rfl
  unfold arrow
  dsimp only
  generalize hresult : ite (c.editor.busMode = true) _ _ = moved?
  cases moved? with
  | none => exact shown_ring c
  | some c' =>
    refine Pending.redraw ?_
    split at hresult
    · cases d with
      | left | right => exact hcycled hresult
      | up | down => exact hmoved hresult
    · exact hmoved hresult

theorem shown_logSummary (c : Console) (skipAddressing : Bool) :
    Shown c (c.logSummary skipAddressing) := by
  unfold logSummary
  split
  · exact shown_log c _
  · exact shown_log c _

/-- The filter is not seen. -/
theorem shown_setDebug (c : Console) (debug : Bool) : Shown c (c.setDebug debug) := by
  unfold setDebug
  split
  · exact .refl c
  · rename_i notices hnotices
    unfold Notices.setDebug? at hnotices
    obtain ⟨filter, -, rfl⟩ := Option.map_eq_some_iff.mp hnotices
    have hfilter : Shown c { c with notices := { c.notices with filter := filter } } :=
      .of_sight rfl rfl
    exact hfilter.trans (shown_log _ _)

theorem shown_saveTable (c : Console) : Shown c c.saveTable := by
  unfold saveTable
  split
  · exact (shown_withFiles ‹_›).trans (shown_log _ _)
  · exact (shown_withFiles ‹_›).trans (shown_pushPage _ _)

theorem shown_exportImages (c : Console) : Shown c c.exportImages := by
  unfold exportImages
  split
  · exact (shown_withFiles ‹_›).trans (shown_log _ _)
  · exact (shown_withFiles ‹_›).trans (shown_pushPage _ _)

theorem shown_dashboardKey (c : Console) (key : Key) (reply : Except LinkError Unit) :
    Shown c (c.dashboardKey key reply).1 := by
  unfold dashboardKey
  split
  · exact shown_arrow c _ reply
  · split
    · exact .refl c
    · exact shown_editLine c _ reply
    · exact shown_editLine c _ reply
    · exact shown_editLine c _ reply
    · exact shown_editLine c _ reply
    · exact shown_clear (d := { c with editor := c.editor.toggleBusMode }) rfl id
    · exact shown_clear (d := { c with ignoresFlags := !c.ignoresFlags }) rfl id
    · exact shown_logSummary c _
    · exact shown_logSummary c _
    · exact shown_setDebug c _
    · exact shown_setDebug c _
    · exact shown_pushPage c _
    · exact shown_pushPage c _
    · exact shown_pushPage c _
    · dsimp only
      split
      · exact shown_pushPage c _
      · exact shown_pushPage c _
    · exact shown_saveTable c
    · exact shown_exportImages c
    · exact shown_log c _

/-! ## The memory page -/

/-- **Answered**: what a key on the memory page leaves for the page to draw. A key that
meant something has changed it mildly, and one that did not has changed nothing but the
log. -/
structure Answered (c : Console) (cursor : MemoryCursor)
    (result : Console × MemoryCursor × Bool) : Prop where
  views_eq : result.1.views = c.views
  meant : result.2.2 = true → Pending c result.1
  meaningless : result.2.2 = false → Shown c result.1 ∧ result.2.1 = cursor

variable {cursor : MemoryCursor}

/-- A key that only moved the cursor, or did not even do that. -/
theorem answered_same (c : Console) {cursor' : MemoryCursor} {meant : Bool}
    (h : meant = false → cursor' = cursor) : Answered c cursor (c, cursor', meant) where
  views_eq := rfl
  meant := fun _ => .refl c
  meaningless := fun hmeant => ⟨.refl c, h hmeant⟩

theorem answered_of_pending {cursor' : MemoryCursor} (hviews : d.views = c.views)
    (h : Pending c d) : Answered c cursor (d, cursor', true) where
  views_eq := hviews
  meant := fun _ => h
  meaningless := fun hmeant => absurd hmeant (by simp)

theorem views_log (c : Console) (event : Event) : (c.log event).views = c.views :=
  congrArg Works.views (works_log c event)

/-- A changed memory is logged. -/
theorem answered_memory (c : Console) (memory : Memory) (event : Event)
    (cursor' : MemoryCursor) :
    Answered c cursor (({ c with memory := memory }).log event, cursor', true) := by
  have hmild : Mild c { c with memory := memory } := .of_eq rfl rfl rfl rfl
  exact answered_of_pending (views_log _ _) ((hmild.pending rfl).trans (pending_log _ _))

theorem answered_toggleBreakPoint (c : Console) (cursor : MemoryCursor) :
    Answered c cursor ((c.toggleBreakPoint cursor.address).1, cursor,
      (c.toggleBreakPoint cursor.address).2) := by
  have hviews : (c.toggleBreakPoint cursor.address).1.views = c.views :=
    congrArg Works.views (works_toggleBreakPoint c cursor.address)
  revert hviews
  unfold toggleBreakPoint
  split
  · exact fun hviews => ⟨hviews, fun hmeant => absurd hmeant (by simp),
      fun _ => ⟨shown_log c _, rfl⟩⟩
  · rename_i memory start on _
    have hmild : Mild c { c with memory := memory } := .of_eq rfl rfl rfl rfl
    have htoggled (event : Event) : Pending c (({ c with memory := memory }).log event) :=
      (hmild.pending rfl).trans (pending_log _ event)
    dsimp only
    split
    · exact fun hviews => answered_of_pending hviews ((htoggled _).trans (pending_withFiles ‹_›))
    · exact fun hviews => answered_of_pending hviews
        (((htoggled _).trans (pending_withFiles ‹_›)).trans (pending_log _ _))

theorem answered_typingKey (c : Console) (cursor : MemoryCursor) (key : Key) :
    Answered c cursor (c.typingKey cursor key) := by
  unfold typingKey
  split
  · exact answered_same c (by simp)
  · split
    · split
      · exact answered_same c (by simp)
      · exact answered_memory c _ _ _
    · exact answered_same c fun _ => rfl
  · exact answered_same c fun _ => rfl

theorem answered_browsingKey? {result : Console × MemoryCursor × Bool} {key : Key}
    (h : c.browsingKey? cursor key = some result) : Answered c cursor result := by
  unfold browsingKey? at h
  split at h
  · exact Option.some.inj h ▸ answered_same c (by simp)
  · exact Option.some.inj h ▸ answered_same c (by simp)
  · split at h
    · exact Option.some.inj h ▸ answered_same c fun _ => rfl
    · exact Option.some.inj h ▸ answered_memory c _ _ _
  · exact Option.some.inj h ▸ answered_toggleBreakPoint c cursor
  · exact Option.some.inj h ▸ answered_same c (by simp)
  · exact Option.some.inj h ▸ answered_same c (by simp)
  · exact absurd h (by simp)
  · exact absurd h (by simp)
  · split at h
    · exact Option.some.inj h ▸ answered_same c (by simp)
    · exact Option.some.inj h ▸ answered_same c fun _ => rfl

/-- **A key that keeps the memory page** is shown: the page is drawn again, or the bell
rings. -/
theorem shown_memoryKey? {below : List View} {cursor' : MemoryCursor} {key : Key}
    (hviews : c.views = .page (.memory cursor) :: below)
    (h : c.memoryKey? cursor key = some (d, cursor')) :
    Shown c { d with views := .page (.memory cursor') :: below } := by
  unfold memoryKey? at h
  obtain ⟨result, hresult, h⟩ := Option.map_eq_some_iff.mp h
  have hanswered : Answered c cursor result := by
    split at hresult
    · exact Option.some.inj hresult ▸ answered_typingKey c cursor key
    · exact answered_browsingKey? hresult
  obtain ⟨d', cursor'', meant⟩ := result
  obtain ⟨rfl, rfl⟩ := Prod.mk.inj h
  cases meant with
  | true =>
    obtain ⟨hmild, hdeeds⟩ := hanswered.meant rfl
    have hmoved : Mild c { d' with views := .page (.memory cursor'') :: below } :=
      ⟨hviews ▸ .moved cursor cursor'' below, hmild.rows_eq, hmild.bound, hmild.kept⟩
    exact Pending.redraw ⟨hmoved, hdeeds⟩
  | false =>
    obtain ⟨hshown, rfl⟩ := hanswered.meaningless rfl
    have hsame : d'.ring.views = .page (.memory cursor'') :: below :=
      (congrArg Works.views (works_ring d')).trans (hanswered.views_eq.trans hviews)
    show Shown c { d'.ring with views := .page (.memory cursor'') :: below }
    rw [← hsame]
    exact hshown.trans (shown_ring d')

/-! ## All views -/

/-- The page on show is taken away. -/
theorem shown_popView (c : Console) (below : List View) : Shown c (c.popView below) :=
  shown_clear (d := { c with views := below }) rfl id

/-- What is logged when the bell is silenced, or is no longer. -/
def bellEvent (silenced : Bool) : Event :=
  .info .keys "Bell toggled" [("silenced", toString silenced)]

/-- The console after the bell was silenced, or is no longer. -/
def toggleBell (c : Console) : Console :=
  ({ c with silenced := !c.silenced }).log (bellEvent !c.silenced)

/-- A key that keeps the history page has the screen cleared, but for the one that
silences the bell. -/
theorem shown_historyKey? {offset offset' : Nat} {below : List View} {key : Key}
    (hviews : c.views = .page (.history offset) :: below)
    (h : c.historyKey? offset key = some (d, offset')) :
    Shown c { d with views := .page (.history offset') :: below }
      ∨ key = .char 's'
        ∧ { d with views := .page (.history offset') :: below } = c.toggleBell := by
  unfold historyKey? at h
  split at h
  · obtain ⟨rfl, rfl⟩ := Prod.mk.inj (Option.some.inj h)
    exact .inl (shown_clear (d := { c with views := _ }) rfl id)
  · obtain ⟨rfl, rfl⟩ := Prod.mk.inj (Option.some.inj h)
    exact .inl (shown_clear (d := { c with views := _ }) rfl id)
  · obtain ⟨rfl, rfl⟩ := Prod.mk.inj (Option.some.inj h)
    exact .inl (shown_clear (d := { c with views := _ }) rfl id)
  · obtain ⟨rfl, rfl⟩ := Prod.mk.inj (Option.some.inj h)
    exact .inl (shown_clear (d := { c with views := _ }) rfl id)
  · obtain ⟨rfl, rfl⟩ := Prod.mk.inj (Option.some.inj h)
    exact .inl (shown_clear (d := { c with
      notices := { c.notices with history := c.notices.history.clear }, views := _ }) rfl
      fun _ => Nat.zero_le _)
  · obtain ⟨rfl, rfl⟩ := Prod.mk.inj (Option.some.inj h)
    have hsame : c.toggleBell.views = .page (.history offset) :: below :=
      (views_log _ _).trans hviews
    refine .inr ⟨rfl, ?_⟩
    rw [← hsame]
    rfl
  · exact absurd h (by simp)

/-- **A key press is shown**, unless it silences the bell on the history page or ends its
silence. -/
theorem shown_press (c : Console) (key : Key) (reply : Except LinkError Unit) :
    Shown c (c.press key reply).1
      ∨ (∃ offset below, c.views = .page (.history offset) :: below) ∧ key = .char 's'
        ∧ (c.press key reply).1 = c.toggleBell := by
  unfold press
  split
  · exact .inl (shown_clear (d := { c with cols := _, rows := _ }) rfl id)
  · split
    · exact .inl (.refl c)
    · exact .inl (shown_dashboardKey c _ reply)
    · rename_i offset below hviews
      split
      · rename_i heq
        exact (shown_historyKey? hviews heq).imp id fun h => ⟨⟨offset, below, hviews⟩, h⟩
      · exact .inl (shown_popView c _)
    · rename_i cursor below hviews
      split
      · rename_i heq
        exact .inl (shown_memoryKey? hviews heq)
      · exact .inl (shown_popView c _)
    · exact .inl (shown_popView c _)

/-- **A status change is shown.** -/
theorem shown_status (c : Console) (change : StatusChange) : Shown c (c.status change) := by
  have hlevel (live : LiveState) (h : live.opCode = c.live.opCode) :
      Shown c (({ c with live := live }).redraw false) := by
    have hmild : Mild c { c with live := live } := .of_eq rfl rfl h rfl
    exact (hmild.pending rfl).redraw
  cases change with
  | connected up => exact shown_clear (d := { c with connected := up }) rfl id
  | irq high => exact hlevel { c.live with irq := high } rfl
  | nmi high => exact hlevel { c.live with nmi := high } rfl
  | reset high => exact hlevel { c.live with reset := high } rfl

end Console

end Breadboard
