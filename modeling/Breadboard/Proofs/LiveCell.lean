import Breadboard.Proofs.ConsoleShape
import Breadboard.Proofs.LineEdit

/-!
# The live cell on the board

A tick drives the word of the live cell and leaves it on the board. From then on the
dashboard shows a word that anybody can change by editing, while what the board holds
changes only by driving. That the two agree all the time rests on one thing: an edit has
to report every cell it changes, the mirrored half of the step included, so that the
console knows when to drive again.

A report names a step by its number, but words are looked up by the three bits of it that
are wired. An edit in a step past the eighth would change a cell that it does not report.
The cursor is never there, which is why the shape of the console matters here.
-/

namespace Breadboard

/-! ## Edits report what they change -/

/-- Cells of steps that are wired are told apart by their steps and phases. -/
theorem Cell.eq_of_wrap_eq {f f' s s' : UInt8} {p p' : Phase} (hs : s.toNat < 8)
    (hs' : s'.toNat < 8) (h : Cell.wrap f s p = Cell.wrap f' s' p') : s = s' ∧ p = p' := by
  unfold wrap at h
  obtain ⟨-, hstep, hphase⟩ := Cell.mk.inj h
  refine ⟨UInt8.toNat_inj.mp ?_, hphase⟩
  have hmod : s.toNat % 8 = s'.toNat % 8 := congrArg Fin.val hstep
  omega

/-- The step of a live state is wired. -/
theorem LiveState.step_lt (s : LiveState) : s.step.toNat < 8 := by
  have hle : s.step.toNat ≤ 7 := by
    unfold step
    rw [UInt8.toNat_and]
    exact Nat.and_le_right
  omega

namespace LineEditor

variable {e : LineEditor} {op : Opcode} {flags : UInt8} {edited : Opcode × Edit}

/-- The step under a cursor that is inside is wired. -/
theorem Inside.step_lt (h : e.Inside) : e.cursor.step.toNat < 8 := by
  have hrow := h.row_lt
  have hsteps : e.steps.toNat ≤ 8 := h.steps_le
  unfold Cursor.step
  rw [UInt8.toNat_div]
  show e.cursor.row.toNat / 2 < 8
  omega

/-- **An edit reports what it changes**: where it does not touch a step and phase it has
left their words alone, whatever the flags. -/
theorem Edits.word_eq (h : e.Edits op flags edited) (hinside : e.Inside) {step : UInt8}
    {phase : Phase} (hstep : step.toNat < 8) (huntouched : edited.2.touches step phase = false)
    (f : UInt8) : edited.1.word (.wrap f step phase) = op.word (.wrap f step phase) := by
  cases h with
  | @line mode h =>
    unfold setAtCursor at h
    cases haccept : LineRule.accept e.cursor.step e.cursor.phase e.cursor.bit with
    | error rejection =>
      rw [Opcode.setLine_of_reject haccept] at h
      exact absurd h (by simp)
    | ok place =>
      obtain ⟨s, line⟩ := place
      rw [Opcode.setLine_of_accept haccept] at h
      cases h
      rw [Opcode.word_place, if_neg]
      rintro (hcell | ⟨rfl, hmirror⟩)
      · obtain ⟨rfl, rfl⟩ := Cell.eq_of_wrap_eq hstep hinside.step_lt hcell
        simp [Edit.touches] at huntouched
      · obtain ⟨rfl, -⟩ := Cell.eq_of_wrap_eq hstep hinside.step_lt hmirror
        simp [Edit.touches] at huntouched
  | @bus offset h =>
    unfold LineEditor.cycleBus? Opcode.cycleBus? at h
    simp only [Option.bind_eq_bind, Option.bind_eq_some_iff] at h
    obtain ⟨word, -, h⟩ := h
    cases h
    rw [Opcode.word_setWord, if_neg]
    intro hcell
    obtain ⟨rfl, rfl⟩ := Cell.eq_of_wrap_eq hinside.step_lt hstep hcell
    simp [Edit.touches] at huntouched

end LineEditor

/-! ## The word that was driven last -/

/-- The word that a call drives. -/
def BoardCall.word? : BoardCall → Option ControlWord
  | .drive word => some word
  | _ => none

/-- **The word that was driven last** by some calls. -/
def lastDriven (calls : List BoardCall) : Option ControlWord :=
  (calls.filterMap BoardCall.word?).getLast?

theorem lastDriven_append (calls due : List BoardCall) :
    lastDriven (calls ++ due) = (lastDriven due).or (lastDriven calls) := by
  unfold lastDriven
  rw [List.filterMap_append, List.getLast?_append]

theorem lastDriven_concat_drive (calls : List BoardCall) (word : ControlWord) :
    lastDriven (calls ++ [.drive word]) = some word :=
  lastDriven_append calls [.drive word]

/-- **In step**: the word driven last is the one of the live cell, and the link that an
edit is pushed over is there. -/
structure Works.InStep (w : Works) : Prop where
  connected : w.connected = true
  driven : ∃ code, w.live.opCode = some code ∧ lastDriven w.calls = some (w.liveWord code)

/-- A word is looked up in the lines that an edit put in place. -/
theorem Works.liveWord_setLines (w : Works) (code : UInt8) (op : Opcode) :
    ({ w with table := w.table.setLines code op.lines } : Works).liveWord code
      = op.word (.wrap w.flagsSlot w.live.step w.live.phase) := by
  unfold liveWord
  dsimp only
  rw [OpcodeTable.lookup_setLines, if_pos rfl]
  rfl

/-- **An edit keeps the board in step.** Where it touches the live cell the new word is
pushed, and where it does not the word is the old one. -/
theorem Works.InStep.afterEdit {w : Works} (h : w.InStep) (hshape : w.WellFormed) {code : UInt8}
    (hcode : w.live.opCode = some code) {edited : Opcode × Edit}
    (hedits : w.editor.Edits (w.table.lookup code) w.flagsSlot edited) :
    (w.afterEdit code edited).InStep := by
  obtain ⟨hconnected, code', hcode', hdriven⟩ := h
  obtain rfl := Option.some.inj (hcode.symm.trans hcode')
  let w' : Works := { w with table := w.table.setLines code edited.1.lines }
  have hpushed : w'.pushed code edited.2
      = if edited.2.touches w.live.step w.live.phase then [.drive (w'.liveWord code)] else [] := by
    show (if w.connected && _ then _ else _) = _
    rw [hconnected, Bool.true_and]
  refine ⟨hconnected, code, hcode, ?_⟩
  show lastDriven (w.calls ++ w'.pushed code edited.2) = some (w'.liveWord code)
  rw [hpushed]
  cases htouches : edited.2.touches w.live.step w.live.phase with
  | true => exact lastDriven_concat_drive w.calls _
  | false =>
    have hword : w'.liveWord code = w.liveWord code := (liveWord_setLines w code edited.1).trans
      (hedits.word_eq hshape.inside w.live.step_lt htouches _)
    rw [hword, ← hdriven]
    exact congrArg lastDriven (List.append_nil _)

/-! ## Willing boards -/

/-- The replies of a board that answers whatever it is asked. -/
def BoardReplies.willing (b : BoardReport) : BoardReplies where
  status := .ok b.status
  opCode := .ok b.opCode
  address := .ok b.address
  data := .ok b.data
  drive := .ok ()
  write := .ok ()

theorem BoardReplies.grants_willing (b : BoardReport) (call : BoardCall) :
    (willing b).grants call = true := by
  cases call <;> rfl

namespace Console

variable {c : Console} {phase : Phase} {r : BoardReplies}

/-! ## Steps of the console -/

/-- What a tick drives is on its agenda, and neither the address nor the byte drives
anything. -/
theorem lastDriven_agenda {b : BoardReport} (h : c.hasStep phase b = true) :
    lastDriven (c.agenda phase b) = some (c.tickWord phase b) := by
  have hrest : lastDriven [.drive (c.tickWord phase b), .address, c.tickMove phase b]
      = some (c.tickWord phase b) := by
    unfold tickMove
    split <;> rfl
  unfold agenda
  rw [if_pos h, lastDriven_append, hrest]
  rfl

/-- **A tick that completes puts the board in step.** -/
theorem inStep_tick (hconnected : c.connected = true) (h : c.completes phase r = true) :
    (c.tick phase r).works.InStep := by
  have hstep : c.hasStep phase r.report = true := (Bool.and_eq_true_iff.mp h).1
  have hdriven : lastDriven (c.tick phase r).calls = some (c.tickWord phase r.report) := by
    rw [calls_tick_of_completes h, lastDriven_append, lastDriven_agenda hstep]
    rfl
  refine ⟨?_, c.tickOpcode phase r.report, ?_⟩
  · obtain ⟨live, editor, memory, notices, deeds, htick⟩ := exists_tick_eq c phase r
    rw [htick]
    exact hconnected
  · -- Performing the cell changes nothing that its word depends on.
    obtain ⟨d, hfacing, htick⟩ := exists_facing_of_completes h
    obtain ⟨address, editor, memory, notices, deeds, hperform, -⟩ := exists_perform_eq d r
    rw [show (c.tick phase r).works.calls = (c.tick phase r).calls from rfl, hdriven, htick,
      hperform, ← hfacing.liveWord_eq]
    exact ⟨hfacing.opCode_eq, rfl⟩

/-- Every opcode has a first step, and a willing board lets a tick complete there. -/
theorem completes_willing {b : BoardReport} (hstep : b.status &&& 0x07 = 0) (c : Console)
    (phase : Phase) : c.completes phase (.willing b) = true := by
  have hfirst : c.hasStep phase b = true := by
    unfold hasStep
    rw [hstep]
    exact decide_eq_true UInt8.zero_le
  exact Bool.and_eq_true_iff.mpr
    ⟨hfirst, List.all_eq_true.mpr fun call _ => BoardReplies.grants_willing b call⟩

/-- **Orderly happenings**: ticks that complete, keys other than the one that switches the
flags slot, and status changes other than the loss of the link. -/
def Orderly (c : Console) : Happening → Prop
  | .tick phase r => c.completes phase r = true
  | .press key _ => ¬ (key = .char 'f' ∧ c.views.head? = some .dashboard)
  | .status change => change ≠ .connected false

theorem inStep_press (h : c.works.InStep) (hshape : c.works.WellFormed) {key : Key}
    (hkey : ¬ (key = .char 'f' ∧ c.views.head? = some .dashboard)) (reply : Except LinkError Unit) :
    (c.press key reply).1.works.InStep := by
  have heffect := keyEffect_press c key reply
  generalize (c.press key reply).1.works = w at heffect ⊢
  cases heffect with
  | turned | moved => exact ⟨h.connected, h.driven⟩
  | edited hcode hedits => exact h.afterEdit hshape hcode hedits
  | switched hswitch hview => exact absurd ⟨hswitch, hview⟩ hkey

theorem inStep_status (h : c.works.InStep) {change : StatusChange}
    (hchange : change ≠ .connected false) : (c.status change).works.InStep := by
  have hcalls : (c.status change).calls = c.calls := by
    cases change <;> exact calls_redraw _ _
  have hdriven : ∃ code, c.live.opCode = some code
      ∧ lastDriven (c.status change).calls = some (c.liveWord code) := by
    rw [hcalls]
    exact h.driven
  cases change with
  | connected up =>
    have hup : up = true := Bool.of_not_eq_false fun hdown => hchange (congrArg _ hdown)
    exact ⟨hup, hdriven⟩
  | irq | nmi | reset => exact ⟨h.connected, hdriven⟩

theorem inStep_undergo (h : c.works.InStep) (hshape : c.works.WellFormed)
    {happening : Happening} (horderly : c.Orderly happening) :
    (c.undergo happening).works.InStep := by
  cases happening with
  | tick phase r => exact inStep_tick h.connected horderly
  | press key reply => exact inStep_press h hshape horderly reply
  | status change => exact inStep_status h horderly

/-! ## Runs -/

/-- Whether all that happens in a run is orderly. -/
def OrderlyThrough (c : Console) : List Happening → Prop
  | [] => True
  | happening :: rest => c.Orderly happening ∧ (c.undergo happening).OrderlyThrough rest

theorem inStep_through {run : List Happening} (h : c.works.InStep) (hshape : c.works.WellFormed)
    (hrun : c.OrderlyThrough run) : (c.through run).works.InStep := by
  induction run generalizing c with
  | nil => exact h
  | cons happening rest ih =>
    exact ih (inStep_undergo h hshape hrun.1) (wellFormed_undergo hshape happening) hrun.2

/-- **The board holds the word that is shown for the live cell.** Once a tick has completed,
and whatever came before it, the word driven last is that of the bound opcode at the
flags slot, the step and the phase of the live cell, for as long as ticks complete, the
link stays and the flags slot is not switched. Keys may edit that cell or another one
meanwhile. What the board answers to a push is left open: where it accepts them all, the
word driven last is the one it holds. -/
theorem board_holds_live_word (c : Console) (before : List Happening) (phase : Phase)
    (r : BoardReplies) (after : List Happening)
    (hconnected : (c.begun.through before).connected = true)
    (hcompletes : (c.begun.through before).completes phase r = true)
    (hafter : ((c.begun.through before).tick phase r).OrderlyThrough after) :
    let now := ((c.begun.through before).tick phase r).through after
    ∃ code, now.live.opCode = some code ∧ lastDriven now.calls
      = some ((now.table.lookup code).word (.wrap now.flagsSlot now.live.step now.live.phase)) := by
  intro now
  have hshape : (c.begun.through before).works.WellFormed :=
    wellFormed_through (wellFormed_begun c) before
  have hnow : now.works.InStep :=
    inStep_through (inStep_tick hconnected hcompletes) (wellFormed_tick hshape phase r) hafter
  exact hnow.driven

/-- A console with a link, before its first tick. -/
def linked : Console := { table := .builtin, connected := true }

/-- An edit in the first half of a step, an interrupt, and the second half. -/
theorem board_holds_live_word_edited :
    let r : BoardReplies := .willing ⟨0, 0xEA, 0, 0⟩
    let now := ((linked.begun.through []).tick .phi1 r).through
      [.press (.char ' ') (.ok ()), .status (.irq false), .tick .phi2 r]
    ∃ code, now.live.opCode = some code ∧ lastDriven now.calls
      = some ((now.table.lookup code).word (.wrap now.flagsSlot now.live.step now.live.phase)) := by
  have hcompletes (c : Console) (phase : Phase) :
      c.completes phase (.willing ⟨0, 0xEA, 0, 0⟩) = true := completes_willing rfl c phase
  refine board_holds_live_word linked [] .phi1 (.willing ⟨0, 0xEA, 0, 0⟩) _ rfl
    (hcompletes _ _) ⟨?_, ?_, hcompletes _ _, trivial⟩
  · simp [Orderly]
  · simp [Orderly]

end Console

end Breadboard
