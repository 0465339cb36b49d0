import Breadboard.Proofs.ConsoleShape
import Breadboard.Proofs.FrameHandover
import Breadboard.Proofs.LineChanges

/-!
# What the console knows of the lines

Clock edges are dropped while a tick is in flight, and so they should be. The other lines
are another matter: the console shows their levels, and a change that was dropped would
leave it with a wrong one until the next.

None is dropped. Everything that the link reports beside the clock waits in a queue that
the event loop takes from, one change in a round and ahead of all else. What the loop has
taken and what still waits are together the changes in the streams of the ports, and the
console knows of each line the last level that the loop has taken.
-/

namespace Breadboard

/-! ## Levels -/

/-- **Watched line**: a line beside the clock. -/
inductive WatchedLine where
  | irq
  | nmi
  | reset

namespace WatchedLine

/-- The change of a line to a level. -/
def change : WatchedLine → Bool → StatusChange
  | irq => .irq
  | nmi => .nmi
  | reset => .reset

/-- The level of a line that a change brings about. -/
def level? (line : WatchedLine) (change : StatusChange) : Option Bool :=
  [true, false].find? (line.change · = change)

/-- **The last level** that some changes bring about, high if there is none. -/
def lastLevel (line : WatchedLine) (changes : List StatusChange) : Bool :=
  (changes.filterMap line.level?).getLast?.getD true

variable {line : WatchedLine}

theorem lastLevel_concat (changes : List StatusChange) (change : StatusChange) :
    line.lastLevel (changes ++ [change]) = (line.level? change).getD (line.lastLevel changes) := by
  unfold lastLevel
  rw [List.filterMap_append, List.getLast?_append]
  cases h : line.level? change <;> simp [h]

/-- Changes of the connection bring about no level. -/
theorem lastLevel_filter (changes : List StatusChange) :
    line.lastLevel (changes.filter StatusChange.ofLine) = line.lastLevel changes := by
  have hkept : (fun change : StatusChange => if change.ofLine then line.level? change else none)
      = line.level? := by
    funext change
    cases change with
    | connected up => cases line <;> rfl
    | _ => rfl
  unfold lastLevel
  rw [List.filterMap_filter, hkept]

end WatchedLine

namespace Console

variable {c : Console}

/-- What the console knows of the lines. -/
def levels (c : Console) : WatchedLine → Bool
  | .irq => c.live.irq
  | .nmi => c.live.nmi
  | .reset => c.live.reset

/-- **A status change** brings about its level, and leaves the other lines alone. -/
theorem levels_status (c : Console) (change : StatusChange) (line : WatchedLine) :
    (c.status change).levels line = (line.level? change).getD (c.levels line) := by
  cases change with
  | connected up => cases line <;> rfl
  | irq high | nmi high | reset high => cases line <;> cases high <;> rfl

/-! ## What leaves the levels alone -/

theorem levels_log (c : Console) (e : Event) : (c.log e).levels = c.levels := by
  obtain ⟨notices, deeds, h⟩ := exists_log_eq c e
  rw [h]
  rfl

theorem levels_abort (c : Console) (phase : Phase) (what : String) (e : LinkError) :
    (c.abort phase what e).levels = c.levels := by
  obtain ⟨notices, deeds, h⟩ := exists_abort_eq c phase what e
  rw [h]
  rfl

theorem levels_bind (c : Console) (code : UInt8) : (c.bind code).levels = c.levels := by
  obtain ⟨address, h⟩ := exists_bind_eq c code
  rw [h]
  rfl

theorem levels_readOpcode (c : Console) (r : BoardReplies) :
    (c.readOpcode r).1.levels = c.levels := by
  unfold readOpcode
  split
  · cases r.opCode with
    | error e => exact levels_abort (c.call .opCode) _ _ e
    | ok code => exact levels_bind (c.call .opCode) code
  · rfl

theorem levels_driveLive (c : Console) (r : BoardReplies) :
    (c.driveLive r).1.levels = c.levels := by
  unfold driveLive
  cases c.opcode? with
  | none => rfl
  | some op =>
    dsimp only
    split
    · exact levels_log c _
    · cases r.drive with
      | error e => exact levels_abort (c.call _) _ _ e
      | ok u => rfl

/-- **A tick reads no line** in its first half. -/
theorem levels_beginTick (c : Console) (phase : Phase) (r : BoardReplies) :
    (c.beginTick phase r).1.levels = c.levels := by
  unfold beginTick
  cases r.status with
  | error e => exact levels_abort (c.call .status) phase _ e
  | ok status =>
    have hread := levels_readOpcode ((c.call .status).setStatus status phase) r
    dsimp only
    generalize ((c.call .status).setStatus status phase).readOpcode r = read at hread ⊢
    obtain ⟨d, goesOn⟩ := read
    cases goesOn with
    | false => exact hread
    | true => exact (levels_driveLive d r).trans hread

/-- Nor in its second. -/
theorem levels_finishTick (c : Console) (word : ControlWord) (r : BoardReplies) :
    (c.finishTick word r).levels = c.levels := by
  obtain ⟨address, editor, memory, notices, deeds, h, -⟩ := exists_finishTick_eq c word r
  rw [h]
  rfl

/-- **A key changes no line.** -/
theorem levels_press (c : Console) (key : Key) (reply : Except LinkError Unit) :
    (c.press key reply).1.levels = c.levels := by
  have hlive : (c.press key reply).1.works.live = c.live := by
    have heffect := keyEffect_press c key reply
    generalize (c.press key reply).1.works = w at heffect
    cases heffect <;> rfl
  unfold levels
  rw [show (c.press key reply).1.live = c.live from hlive]

end Console

/-- Whether a step of the loop is something that the link reports to it. -/
def LoopStep.reported : LoopStep → Bool
  | hardware _ | connection _ => true
  | _ => false

namespace EventLoop

variable {s : EventLoop}

/-! ## Steps of the loop -/

/-- What the console knows of the lines, and what it is still to be told. -/
def knowledge (s : EventLoop) : (WatchedLine → Bool) × List StatusChange :=
  (s.console.levels, s.hub.statuses)

theorem knowledge_stop (s : EventLoop) : s.stop.knowledge = s.knowledge :=
  congrArg (·, s.hub.statuses) (Console.levels_log s.console _)

theorem knowledge_runTick (s : EventLoop) (phase : Phase) :
    (s.runTick phase).knowledge = s.knowledge := by
  have hbegun := Console.levels_beginTick s.console phase s.board.replies
  unfold runTick
  generalize s.console.beginTick phase s.board.replies = half at hbegun ⊢
  obtain ⟨c, word?⟩ := half
  cases word? with
  | none => exact congrArg (·, s.hub.statuses) hbegun
  | some word =>
    dsimp only
    split
    · exact congrArg (·, s.hub.statuses) ((Console.levels_finishTick c word _).trans hbegun)
    · exact congrArg (·, s.hub.statuses) hbegun

theorem knowledge_endTick (s : EventLoop) : s.endTick.knowledge = s.knowledge := by
  unfold endTick
  split
  · split
    · rfl
    · exact congrArg (·, s.hub.statuses) (Console.levels_finishTick s.console _ _)
  · rfl

theorem knowledge_endAttempt (s : EventLoop) : s.endAttempt.knowledge = s.knowledge := by
  unfold endAttempt
  split
  · split <;> rfl
  · rfl

theorem knowledge_drawFrame (s : EventLoop) (clear : Bool) :
    (s.drawFrame clear).knowledge = s.knowledge := by
  unfold drawFrame
  dsimp only
  split
  · rfl
  · exact knowledge_stop _

theorem knowledge_quit (quit : Bool) (s : EventLoop) :
    (if quit then s.stop else s.again).knowledge = s.knowledge := by
  cases quit with
  | false => rfl
  | true => exact knowledge_stop s

theorem knowledge_press (s : EventLoop) (key : Key) (keys : List Key)
    (reply : Except LinkError Unit) :
    (({ s with keys := keys } : EventLoop).after (s.console.press key reply).1).knowledge
      = s.knowledge :=
  congrArg (·, s.hub.statuses) (Console.levels_press s.console key reply)

/-- **What is left of a round** tells the console nothing of the lines. -/
theorem knowledge_calmRound? (s : EventLoop) (listening : Bool) {s' : EventLoop}
    (h : s.calmRound? listening = some s') : s'.knowledge = s.knowledge := by
  unfold calmRound? at h
  split at h
  · rename_i key rest hkeys
    obtain rfl := Option.some.inj h
    exact (knowledge_quit _ _).trans (knowledge_press s key rest s.board.replies.drive)
  · split at h
    · obtain rfl := Option.some.inj h
      exact knowledge_stop s
    · split at h
      · obtain rfl := Option.some.inj h
        exact knowledge_drawFrame _ _
      · split at h
        · obtain rfl := Option.some.inj h
          rfl
        · split at h
          · obtain rfl := Option.some.inj h
            rfl
          · exact absurd h (by simp)

/-- **The change that a step takes** from the queue: the oldest one, if a round begins. -/
def takes? (s : EventLoop) : LoopStep → Option StatusChange
  | .turn => if s.stopped || s.settling.isSome then none else s.hub.statuses.head?
  | _ => none

/-- **A round that finds a change** waiting takes the oldest one. -/
theorem turn_of_statuses {change : StatusChange} {rest : List StatusChange}
    (hidle : (s.stopped || s.settling.isSome) = false) (h : s.hub.statuses = change :: rest) :
    s.turn = (({ s with hub := { s.hub with statuses := rest } } : EventLoop).after
      (s.console.status change)).again := by
  unfold turn round? Hub.takeStatus
  rw [hidle, h]
  rfl

/-- **A round that finds none** tells the console nothing of the lines. -/
theorem knowledge_turn_of_empty (h : s.hub.statuses = []) : s.turn.knowledge = s.knowledge := by
  have hnone : s.hub.takeStatus = (s.hub, none) := by
    unfold Hub.takeStatus
    rw [h]
  have hkept : s.hub.takeTick.1.statuses = s.hub.statuses := rfl
  unfold turn round?
  rw [hnone]
  generalize s.hub.takeTick = taken at hkept ⊢
  obtain ⟨hub, phase?⟩ := taken
  split
  · rfl
  · cases phase? with
    | some phase =>
      exact (knowledge_runTick _ phase).trans (congrArg (s.console.levels, ·) hkept)
    | none =>
      dsimp only
      cases hcalm : s.calmRound? (s.listening.getD s.listens) with
      | some s' => exact knowledge_calmRound? s _ hcalm
      | none => rfl

/-- **What a step takes and tells.** The changes that wait are the one that it takes and those
that still wait, and the console is told of the one that was taken. -/
theorem knowledge_step {step : LoopStep} (h : step.reported = false) (s : EventLoop) :
    s.hub.statuses = (s.takes? step).toList ++ (s.step step).hub.statuses
      ∧ (s.step step).console.levels
        = ((s.takes? step).elim s.console s.console.status).levels := by
  have hsilent : (s.step step).knowledge = s.knowledge → s.takes? step = none →
      s.hub.statuses = (s.takes? step).toList ++ (s.step step).hub.statuses
        ∧ (s.step step).console.levels
          = ((s.takes? step).elim s.console s.console.status).levels := by
    intro hsame hnone
    simp only [knowledge, Prod.mk.injEq] at hsame
    rw [hnone]
    exact ⟨hsame.2.symm, hsame.1⟩
  cases step with
  | hardware | connection => exact absurd h (by simp [LoopStep.reported])
  | endAttempt => exact hsilent (knowledge_endAttempt s) rfl
  | endTick => exact hsilent (knowledge_endTick s) rfl
  | turn =>
    cases hidle : s.stopped || s.settling.isSome with
    | true =>
      refine hsilent ?_ (if_pos hidle)
      exact congrArg knowledge (if_pos hidle)
    | false =>
      cases hstatuses : s.hub.statuses with
      | nil =>
        rw [← hstatuses]
        refine hsilent (knowledge_turn_of_empty hstatuses) ?_
        unfold takes?
        rw [hidle, hstatuses]
        rfl
      | cons change rest =>
        have htaken : s.takes? .turn = some change := by
          unfold takes?
          rw [hidle, hstatuses]
          rfl
        rw [htaken, show s.step .turn = s.turn from rfl, turn_of_statuses hidle hstatuses]
        exact ⟨rfl, rfl⟩
  | _ => exact hsilent rfl rfl

end EventLoop

/-! ## The loop on its link -/

namespace EventLoop

/-- The loop is told what its link reports. What the link logs it is not told. -/
def hear (s : EventLoop) : LinkReport → EventLoop
  | .hardware e => s.step (.hardware e)
  | .connection up => s.step (.connection up)
  | .logged _ => s

/-- **A report is queued** and changes nothing else that the console knows. -/
theorem knowledge_hear (s : EventLoop) (r : LinkReport) :
    (s.hear r).knowledge = (s.console.levels, s.hub.statuses ++ r.status?.toList) := by
  cases r with
  | logged e => exact congrArg (s.console.levels, ·) (List.append_nil _).symm
  | connection up => rfl
  | hardware e =>
    obtain ⟨signal, high⟩ := e
    cases signal with
    | clock => exact congrArg (s.console.levels, ·) (List.append_nil _).symm
    | _ => rfl

theorem knowledge_foldl_hear (s : EventLoop) (reports : List LinkReport) :
    (reports.foldl hear s).knowledge
      = (s.console.levels, s.hub.statuses ++ reports.filterMap LinkReport.status?) := by
  induction reports generalizing s with
  | nil => exact congrArg (s.console.levels, ·) (List.append_nil _).symm
  | cons r rest ih =>
    have hheard := knowledge_hear s r
    simp only [knowledge, Prod.mk.injEq] at hheard
    rw [List.foldl_cons, ih, hheard.1, hheard.2, List.append_assoc, List.filterMap_cons]
    cases r.status? <;> rfl

end EventLoop

/-- **Wired step**: what happens to a link or to the loop that it reports to. -/
inductive WiredStep where
  /-- Something happens to the link. -/
  | link (step : LinkStep)
  /-- A reader takes a chunk of bytes in a row. -/
  | read (generation : Nat) (chunk : List UInt8)
  /-- Something happens to the loop. What the link reports comes from the link alone. -/
  | loop (step : LoopStep) (own : step.reported = false)

/-- **A loop on its link**, with what the ports have received and the status changes that the
loop has taken, oldest first. -/
structure Wired where
  line : LinkRun
  loop : EventLoop
  streams : Streams
  taken : List StatusChange

namespace Wired

/-- Nothing has happened yet. -/
def start (portName : String) (console : Console) (board : BoardBehavior)
    (settle period : Nat) : Wired :=
  ⟨.fresh portName, .start console.begun board settle period, .empty, []⟩

/-- Something happens to the link, and the loop is told what is reported of it. -/
def happen (s : Wired) (step : LinkStep) : Wired :=
  let line := s.line.next step
  { s with
    line := line
    loop := (line.link.reports.drop s.line.link.reports.length).foldl EventLoop.hear s.loop
    streams := s.line.streamed s.streams step }

/-- **One step.** -/
def next (s : Wired) : WiredStep → Wired
  | .link step => s.happen step
  | .read generation chunk => chunk.foldl (fun s b => s.happen (.receive generation b)) s
  | .loop step _ =>
    { s with loop := s.loop.step step, taken := s.taken ++ (s.loop.takes? step).toList }

/-- A loop on its link after some steps. -/
def after (s : Wired) (steps : List WiredStep) : Wired := steps.foldl next s

/-- The status changes that were queued so far, oldest first. -/
def queued (s : Wired) : List StatusChange := s.taken ++ s.loop.hub.statuses

/-- **Faithful**: what the link has reported beside the clock was queued, and the console
knows the levels that the changes it was told of have brought about. -/
structure Faithful (s : Wired) : Prop where
  accounted : s.line.Accounted s.streams
  queued_eq : s.queued = s.line.link.reports.filterMap LinkReport.status?
  levels_eq : ∀ line, s.loop.console.levels line = line.lastLevel s.taken

variable {s : Wired}

theorem faithful_start (portName : String) (console : Console) (board : BoardBehavior)
    (settle period : Nat) : (start portName console board settle period).Faithful := by
  refine ⟨LinkRun.accounted_fresh portName, rfl, fun line => ?_⟩
  cases line <;> rfl

/-- **A step of the link** queues what is reported of it. -/
theorem Faithful.happen (h : s.Faithful) (step : LinkStep) : (s.happen step).Faithful := by
  obtain ⟨fresh, hreports⟩ := LinkRun.exists_reports_next h.accounted.toFed step
  have hnew : (s.line.next step).link.reports.drop s.line.link.reports.length = fresh := by
    rw [hreports, List.drop_left]
  have hloop : (s.happen step).loop = fresh.foldl EventLoop.hear s.loop :=
    congrArg (List.foldl EventLoop.hear s.loop) hnew
  have hheard := EventLoop.knowledge_foldl_hear s.loop fresh
  rw [← hloop] at hheard
  simp only [EventLoop.knowledge, Prod.mk.injEq] at hheard
  refine ⟨h.accounted.next step, ?_, fun line => ?_⟩
  · show s.taken ++ (s.happen step).loop.hub.statuses
      = (s.line.next step).link.reports.filterMap LinkReport.status?
    rw [hheard.2, hreports, List.filterMap_append, ← List.append_assoc, ← h.queued_eq]
    rfl
  · rw [hheard.1]
    exact h.levels_eq line

/-- A step of the loop queues nothing. -/
theorem queued_loop (s : Wired) {step : LoopStep} (own : step.reported = false) :
    (s.next (.loop step own)).queued = s.queued := by
  unfold queued
  rw [(EventLoop.knowledge_step own s.loop).1, ← List.append_assoc]
  rfl

/-- **A step of the loop** takes a change from the queue or none, and the console is told. -/
theorem Faithful.loop (h : s.Faithful) {step : LoopStep} (own : step.reported = false) :
    (s.next (.loop step own)).Faithful := by
  refine ⟨h.accounted, ?_, fun line => ?_⟩
  · rw [queued_loop]
    exact h.queued_eq
  · show (s.loop.step step).console.levels line
      = line.lastLevel (s.taken ++ (s.loop.takes? step).toList)
    rw [(EventLoop.knowledge_step own s.loop).2]
    cases s.loop.takes? step with
    | none =>
      rw [Option.toList_none, List.append_nil]
      exact h.levels_eq line
    | some change =>
      rw [Option.toList_some, WatchedLine.lastLevel_concat, ← h.levels_eq line]
      exact Console.levels_status s.loop.console change line

/-- **Every step is faithful**, and so is a chunk of bytes, which is nothing but its bytes. -/
theorem Faithful.next (h : s.Faithful) (step : WiredStep) : (s.next step).Faithful := by
  cases step with
  | link step => exact h.happen step
  | loop step own => exact h.loop own
  | read generation chunk =>
    show (chunk.foldl (fun s b => s.happen (.receive generation b)) s).Faithful
    induction chunk generalizing s with
    | nil => exact h
    | cons b rest ih => exact ih (h.happen (.receive generation b))

/-- **Every run is faithful.** -/
theorem Faithful.after (h : s.Faithful) (steps : List WiredStep) : (s.after steps).Faithful := by
  induction steps generalizing s with
  | nil => exact h
  | cons step rest ih => exact ih (h.next step)

/-! ## Catching up -/

/-- So many rounds of the loop. -/
def rounds (n : Nat) : List WiredStep := List.replicate n (.loop .turn rfl)

/-- **A loop that is neither busy nor stopped catches up**: after a round for each change that
waits, none waits any more. The link and what its ports received are left alone. -/
theorem catches_up {statuses : List StatusChange} (hstatuses : s.loop.hub.statuses = statuses)
    (hidle : (s.loop.stopped || s.loop.settling.isSome) = false) :
    (s.after (rounds statuses.length)).loop.hub.statuses = []
      ∧ (s.after (rounds statuses.length)).line = s.line
      ∧ (s.after (rounds statuses.length)).streams = s.streams := by
  induction statuses generalizing s with
  | nil => exact ⟨hstatuses, rfl, rfl⟩
  | cons change rest ih =>
    have hturn : (s.next (.loop .turn rfl)).loop = (({ s.loop with
        hub := { s.loop.hub with statuses := rest } } : EventLoop).after
          (s.loop.console.status change)).again :=
      EventLoop.turn_of_statuses hidle hstatuses
    exact ih (s := s.next (.loop .turn rfl)) (by rw [hturn]; rfl) (by rw [hturn]; exact hidle)

/-- In a faithful run the changes of lines that were queued are those in the streams. -/
theorem Faithful.changes_eq (h : s.Faithful) :
    s.queued.filter StatusChange.ofLine = s.streams.changes := by
  rw [h.queued_eq]
  exact h.accounted.changes_eq

/-- Once nothing waits the console knows the last levels in the streams. -/
theorem Faithful.levels_of_empty (h : s.Faithful) (hempty : s.loop.hub.statuses = [])
    (line : WatchedLine) : s.loop.console.levels line = line.lastLevel s.streams.changes := by
  have htaken : s.queued = s.taken := by
    unfold queued
    rw [hempty, List.append_nil]
  rw [h.levels_eq line, ← h.changes_eq, htaken, WatchedLine.lastLevel_filter]

/-- **Only clock edges are lost.** Something may happen to the link at any time, and to the
loop, whatever the bytes are and however they are split. Everything that the link has reported
beside the clock was queued, and the changes of lines among it are those of the bytes outside
responses in the streams that the ports received, each once and in their order. The console
knows of each line the last level that the loop has taken, high if there was none. Once the
queue is empty this is the last level in the streams, and a loop that is neither busy nor
stopped empties the queue in as many rounds as changes wait. -/
theorem only_clock_edges_lost (portName : String) (console : Console) (board : BoardBehavior)
    (settle period : Nat) (steps : List WiredStep) :
    let now := (start portName console board settle period).after steps
    now.queued = now.line.link.reports.filterMap LinkReport.status?
      ∧ now.queued.filter StatusChange.ofLine = now.streams.changes
      ∧ (∀ line, now.loop.console.levels line = line.lastLevel now.taken)
      ∧ (now.loop.hub.statuses = [] →
        ∀ line, now.loop.console.levels line = line.lastLevel now.streams.changes)
      ∧ ((now.loop.stopped || now.loop.settling.isSome) = false →
        let later := now.after (rounds now.loop.hub.statuses.length)
        later.loop.hub.statuses = [] ∧ later.streams = now.streams
          ∧ ∀ line, later.loop.console.levels line = line.lastLevel now.streams.changes) := by
  intro now
  have hnow : now.Faithful := (faithful_start portName console board settle period).after steps
  refine ⟨hnow.queued_eq, hnow.changes_eq, hnow.levels_eq, hnow.levels_of_empty, fun hidle => ?_⟩
  obtain ⟨hempty, -, hstreams⟩ := catches_up rfl hidle
  refine ⟨hempty, hstreams, fun line => ?_⟩
  rw [← hstreams]
  exact (hnow.after _).levels_of_empty hempty line

end Wired

end Breadboard
