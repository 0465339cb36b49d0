import Breadboard.Console.Press
import Breadboard.Proofs.TickCalls

/-!
# What a key can do

The console has more than thirty keys on six pages, and most of them only show, say
or save something. What the board and the microcode depend on are the *works* of the
console, and to these a key does one of four things: it turns a page, it moves the
cursor or the bus selector, it edits the cell under the cursor, or it switches the
flags slot.

This is one case analysis over the keys. Whatever is said of runs of the console needs
no other: a property of the works survives a key if it survives each of the four.
-/

namespace Breadboard

/-- **Works**: what ticks and edits work on, with the views and what was asked of the
board. -/
structure Works where
  table : OpcodeTable
  editor : LineEditor
  live : LiveState
  ignoresFlags : Bool
  connected : Bool
  views : List View
  calls : List BoardCall

/-- The works of a console. -/
def Console.works (c : Console) : Works where
  table := c.table
  editor := c.editor
  live := c.live
  ignoresFlags := c.ignoresFlags
  connected := c.connected
  views := c.views
  calls := c.calls

namespace Works

/-- The flags for which words are looked up and edited. -/
def flagsSlot (w : Works) : UInt8 := if w.ignoresFlags then 0 else w.live.flags

/-- The word of the live cell for an opcode. -/
def liveWord (w : Works) (code : UInt8) : ControlWord :=
  (w.table.lookup code).word (.wrap w.flagsSlot w.live.step w.live.phase)

/-- What an edit asks of the board: the live cell's word, if the edit touched the cell and
there is a link. -/
def pushed (w : Works) (code : UInt8) (edit : Edit) : List BoardCall :=
  if w.connected && edit.touches w.live.step w.live.phase then [.drive (w.liveWord code)] else []

/-- **The works after an edit**, which replaces the opcode's lines and pushes. -/
def afterEdit (w : Works) (code : UInt8) (edited : Opcode × Edit) : Works :=
  let w := { w with table := w.table.setLines code edited.1.lines }
  { w with calls := w.calls ++ w.pushed code edited.2 }

end Works

/-- **Turned pages**: a page was laid on top, or one on top was taken away or exchanged,
or nothing of this happened. The dashboard is no page. -/
inductive Turned : List View → List View → Prop where
  | kept (views : List View) : Turned views views
  | laid (p : Page) (below : List View) : Turned below (.page p :: below)
  | lifted (p : Page) (below : List View) : Turned (.page p :: below) below
  | exchanged (p p' : Page) (below : List View) : Turned (.page p :: below) (.page p' :: below)

namespace LineEditor

/-- **Moves** of the editor: of the cursor, of the bus selector, in and out of bus mode. -/
inductive Moves (e : LineEditor) : LineEditor → Prop where
  | navigated {e' : LineEditor} {d : Direction} (h : e.navigate? d = some e') : Moves e e'
  | selected {e' : LineEditor} {d : Direction} (h : e.selectBus? d = some e') : Moves e e'
  | toggled : Moves e e.toggleBusMode

/-- **Edits** of an opcode in the cell under the cursor. -/
inductive Edits (e : LineEditor) (op : Opcode) (flags : UInt8) (edited : Opcode × Edit) :
    Prop where
  | line {mode : SetMode} (h : e.setAtCursor op flags mode = .ok edited)
  | bus {offset : Int} (h : e.cycleBus? op flags offset = some edited)

end LineEditor

/-- **What a key can do** to the works of a console. -/
inductive KeyEffect (c : Console) (key : Key) : Works → Prop where
  | turned {views : List View} (h : Turned c.views views) :
    KeyEffect c key { c.works with views := views }
  | moved {editor : LineEditor} (h : c.editor.Moves editor) :
    KeyEffect c key { c.works with editor := editor }
  | edited {code : UInt8} {edited : Opcode × Edit} (hcode : c.live.opCode = some code)
    (h : c.editor.Edits (c.table.lookup code) c.flagsSlot edited) :
    KeyEffect c key (c.works.afterEdit code edited)
  | switched (hkey : key = .char 'f') (hview : c.views.head? = some .dashboard) :
    KeyEffect c key { c.works with ignoresFlags := !c.ignoresFlags }

namespace KeyEffect

variable {c c' : Console} {key : Key}

theorem of_same (h : c'.works = c.works) : KeyEffect c key c'.works :=
  h ▸ .turned (.kept c.views)

theorem of_views {views : List View} (h : c'.works = { c.works with views := views })
    (hturned : Turned c.views views) : KeyEffect c key c'.works :=
  h ▸ .turned hturned

end KeyEffect

namespace Console

variable {c c' : Console} {key : Key}

/-! ## Deeds that are no calls -/

theorem works_redraw (c : Console) (clear : Bool) : (c.redraw clear).works = c.works := by
  unfold works
  rw [calls_redraw]
  rfl

theorem works_log (c : Console) (e : Event) : (c.log e).works = c.works := by
  unfold works
  rw [calls_log]
  unfold log
  split <;> rfl

theorem works_ring (c : Console) : c.ring.works = c.works := by
  unfold ring
  split
  · rfl
  · exact works_redraw { c with ringing := true } false

theorem works_pushPage (c : Console) (p : Page) :
    (c.pushPage p).works = { c.works with views := .page p :: c.views } :=
  works_redraw { c with views := .page p :: c.views } true

/-- Logging what an operation on files has to say. -/
theorem works_foldl_log (events : List Event) (c : Console) :
    (events.foldl log c).works = c.works := by
  induction events generalizing c with
  | nil => rfl
  | cons e rest ih => exact (ih (c.log e)).trans (works_log c e)

theorem works_withFiles {α : Type} {f : StateM Session α} {a : α}
    (h : c.withFiles f = (a, c')) : c'.works = c.works := by
  unfold withFiles at h
  obtain ⟨-, rfl⟩ := Prod.mk.inj h
  exact works_foldl_log _ _

/-! ## Editing -/

theorem works_applyEdit (c : Console) (code : UInt8) (edited : Opcode × Edit)
    (reply : Except LinkError Unit) :
    (c.applyEdit code edited reply).works = c.works.afterEdit code edited := by
  unfold applyEdit Works.afterEdit
  dsimp only
  split
  · rename_i htouched
    rw [Works.pushed, if_pos (by exact htouched)]
    have hdriven (w : ControlWord) : (({ c with
          table := c.table.setLines code edited.1.lines } : Console).call (.drive w)).works
        = { c.works with
            table := c.table.setLines code edited.1.lines
            calls := c.calls ++ [.drive w] } := by
      unfold works
      rw [calls_call]
      rfl
    cases reply with
    | ok u => exact hdriven _
    | error e => exact (works_log _ _).trans (hdriven _)
  · rename_i htouched
    rw [Works.pushed, if_neg (by exact htouched), List.append_nil]
    rfl

theorem keyEffect_editLine (c : Console) (key : Key) (mode : SetMode)
    (reply : Except LinkError Unit) : KeyEffect c key (c.editLine mode reply).works := by
  unfold editLine
  cases hcode : c.live.opCode with
  | none => exact .of_same (works_log c _)
  | some code =>
    dsimp only
    split
    · rename_i edited hedited
      rw [works_redraw, works_applyEdit]
      exact .edited hcode (.line hedited)
    · exact .of_same ((works_ring _).trans (works_log c _))

theorem keyEffect_cycleBus? {offset : Int} {reply : Except LinkError Unit}
    (h : c.cycleBus? offset reply = some c') : KeyEffect c key c'.works := by
  unfold cycleBus? at h
  simp only [Option.bind_eq_some_iff, Option.map_eq_some_iff] at h
  obtain ⟨code, hcode, edited, hedited, rfl⟩ := h
  rw [works_applyEdit]
  exact .edited hcode (.bus hedited)

theorem keyEffect_arrow (c : Console) (key : Key) (d : Direction)
    (reply : Except LinkError Unit) : KeyEffect c key (c.arrow d reply).works := by
  unfold arrow
  dsimp only
  generalize hmoved : ite (c.editor.busMode = true) _ _ = moved?
  -- Whatever the arrow moves is drawn, and otherwise the bell rings.
  cases moved? with
  | none => exact .of_same (works_ring c)
  | some c' =>
    dsimp only
    rw [works_redraw]
    split at hmoved
    · cases d with
      | left => exact keyEffect_cycleBus? hmoved
      | right => exact keyEffect_cycleBus? hmoved
      | up | down =>
        obtain ⟨e, he, rfl⟩ := Option.map_eq_some_iff.mp hmoved
        exact .moved (.selected he)
    · obtain ⟨e, he, rfl⟩ := Option.map_eq_some_iff.mp hmoved
      exact .moved (.navigated he)

/-! ## Pages -/

theorem works_logSummary (c : Console) (skipAddressing : Bool) :
    (c.logSummary skipAddressing).works = c.works := by
  unfold logSummary
  split
  · exact works_log c _
  · exact works_log c _

theorem works_setDebug (c : Console) (debug : Bool) : (c.setDebug debug).works = c.works := by
  unfold setDebug
  split
  · rfl
  · exact works_log _ _

theorem keyEffect_pushPage (c : Console) (key : Key) (p : Page) :
    KeyEffect c key (c.pushPage p).works :=
  .of_views (works_pushPage c p) (.laid p c.views)

/-- A message is a page. -/
theorem keyEffect_showError (h : c'.works = c.works) (message : String) :
    KeyEffect c key (c'.showError message).works := by
  refine .of_views ((works_pushPage c' _).trans ?_) (.laid (.error message) c.views)
  have hviews : c'.views = c.views := congrArg Works.views h
  rw [h, hviews]

/-- Saving and exporting only read the table. What fails is shown. -/
theorem keyEffect_saveTable (c : Console) (key : Key) : KeyEffect c key c.saveTable.works := by
  unfold saveTable
  split
  · exact .of_same ((works_log _ _).trans (works_withFiles ‹_›))
  · exact keyEffect_showError (works_withFiles ‹_›) _

theorem keyEffect_exportImages (c : Console) (key : Key) :
    KeyEffect c key c.exportImages.works := by
  unfold exportImages
  split
  · exact .of_same ((works_log _ _).trans (works_withFiles ‹_›))
  · exact keyEffect_showError (works_withFiles ‹_›) _

theorem keyEffect_dashboardKey (hview : c.views.head? = some .dashboard) (key : Key)
    (reply : Except LinkError Unit) : KeyEffect c key (c.dashboardKey key reply).1.works := by
  unfold dashboardKey
  split
  · exact keyEffect_arrow c key _ reply
  · split
    · exact .of_same rfl
    · exact keyEffect_editLine c _ _ reply
    · exact keyEffect_editLine c _ _ reply
    · exact keyEffect_editLine c _ _ reply
    · exact keyEffect_editLine c _ _ reply
    · dsimp only
      rw [works_redraw]
      exact .moved .toggled
    · dsimp only
      rw [works_redraw]
      exact .switched rfl hview
    · exact .of_same (works_logSummary c _)
    · exact .of_same (works_logSummary c _)
    · exact .of_same (works_setDebug c _)
    · exact .of_same (works_setDebug c _)
    · exact keyEffect_pushPage c _ _
    · exact keyEffect_pushPage c _ _
    · exact keyEffect_pushPage c _ _
    · dsimp only
      split
      · exact keyEffect_pushPage c _ _
      · exact keyEffect_showError rfl _
    · exact keyEffect_saveTable c _
    · exact keyEffect_exportImages c _
    · exact .of_same (works_log c _)

/-- What a key on a page leaves, read off its result. -/
theorem works_of_result {d : Console} {α : Type} {a a' : α}
    (h : some (d, a) = some (c', a')) (hd : d.works = c.works) : c'.works = c.works := by
  obtain ⟨rfl, -⟩ := Prod.mk.inj (Option.some.inj h)
  exact hd

theorem works_historyKey? {offset offset' : Nat}
    (h : c.historyKey? offset key = some (c', offset')) : c'.works = c.works := by
  unfold historyKey? at h
  split at h
  · exact works_of_result h (works_redraw c true)
  · exact works_of_result h (works_redraw c true)
  · exact works_of_result h (works_redraw c true)
  · exact works_of_result h (works_redraw c true)
  · exact works_of_result h (works_redraw _ true)
  · exact works_of_result h (works_log _ _)
  · exact absurd h (by simp)

theorem works_toggleBreakPoint (c : Console) (a : UInt16) :
    (c.toggleBreakPoint a).1.works = c.works := by
  unfold toggleBreakPoint
  split
  · exact works_log c _
  · dsimp only
    split
    · rename_i hsaved
      have hworks := (works_withFiles hsaved).trans (works_log _ _)
      exact hworks
    · rename_i hfailed
      have hworks := (works_withFiles hfailed).trans (works_log _ _)
      exact (works_log _ _).trans hworks

theorem works_typingKey (c : Console) (cursor : MemoryCursor) (key : Key) :
    (c.typingKey cursor key).1.works = c.works := by
  unfold typingKey
  split
  · rfl
  · split
    · split
      · rfl
      · exact works_log _ _
    · rfl
  · rfl

theorem works_browsingKey? {cursor cursor' : MemoryCursor} {meant : Bool}
    (h : c.browsingKey? cursor key = some (c', cursor', meant)) : c'.works = c.works := by
  unfold browsingKey? at h
  split at h
  · exact works_of_result h rfl
  · exact works_of_result h rfl
  · split at h
    · exact works_of_result h rfl
    · exact works_of_result h (works_log _ _)
  · exact works_of_result h (works_toggleBreakPoint c _)
  · exact works_of_result h rfl
  · exact works_of_result h rfl
  · exact absurd h (by simp)
  · exact absurd h (by simp)
  · split at h
    · exact works_of_result h rfl
    · exact works_of_result h rfl

theorem works_memoryKey? {cursor cursor' : MemoryCursor}
    (h : c.memoryKey? cursor key = some (c', cursor')) : c'.works = c.works := by
  unfold memoryKey? at h
  obtain ⟨⟨d, moved, meant⟩, hresult, h⟩ := Option.map_eq_some_iff.mp h
  have hd : d.works = c.works := by
    split at hresult
    · have htyped := works_typingKey c cursor key
      rw [Option.some.inj hresult] at htyped
      exact htyped
    · exact works_browsingKey? hresult
  obtain ⟨rfl, -⟩ := Prod.mk.inj h
  split
  · exact (works_redraw d false).trans hd
  · exact (works_ring d).trans hd

/-- The page on show is taken away. -/
theorem keyEffect_popView {p : Page} {below : List View} (hviews : c.views = .page p :: below)
    (key : Key) : KeyEffect c key (c.popView below).works :=
  .of_views (works_redraw { c with views := below } true) (hviews ▸ .lifted p below)

/-- The page on show is exchanged for another one, or for itself in another state. -/
theorem keyEffect_exchange {p : Page} {below : List View} (hviews : c.views = .page p :: below)
    (h : c'.works = c.works) (key : Key) (p' : Page) :
    KeyEffect c key ({ c' with views := .page p' :: below } : Console).works :=
  .of_views (congrArg (fun w : Works => { w with views := .page p' :: below }) h)
    (hviews ▸ .exchanged p p' below)

/-- **A key press** has one of the four effects. -/
theorem keyEffect_press (c : Console) (key : Key) (reply : Except LinkError Unit) :
    KeyEffect c key (c.press key reply).1.works := by
  unfold press
  split
  · exact .of_same (works_redraw _ true)
  · split
    · exact .of_same rfl
    · rename_i below hviews
      exact keyEffect_dashboardKey (by rw [hviews, List.head?_cons]) _ reply
    · rename_i offset below hviews
      split
      · rename_i heq
        exact keyEffect_exchange hviews (works_historyKey? heq) _ _
      · exact keyEffect_popView hviews _
    · rename_i cursor below hviews
      split
      · rename_i heq
        exact keyEffect_exchange hviews (works_memoryKey? heq) _ _
      · exact keyEffect_popView hviews _
    · rename_i hviews
      exact keyEffect_popView hviews _

end Console

end Breadboard
