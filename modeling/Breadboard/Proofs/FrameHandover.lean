import Breadboard.Console.EventLoop
import Breadboard.Proofs.ScreenGrid

/-!
# Frames that are overtaken

Between the event loop and the screen there are two places where something may be
passed over. Redraw requests that were not served merge, and the merged one clears the
screen if any of them did. Frames that were not read do not merge: the latest one takes
the place of the others.

Whether the screen is cleared is therefore decided by the latest frame alone. If one that
clears the screen is overtaken by one that does not, the terminal never learns that it
should have.
-/

namespace Breadboard

/-- **Redraw**: a console that is drawn, after the screen was cleared or not. -/
structure Redraw where
  console : Console
  clear : Bool

namespace Redraw

/-- The frame that is drawn. -/
def frame (r : Redraw) : Frame :=
  (r.console.draw r.console.cols r.console.rows r.console.connected r.clear).2

theorem clear_mem_frame_iff (r : Redraw) : .clear ∈ r.frame.ops ↔ r.clear = true :=
  Console.clear_mem_draw_iff

end Redraw

namespace EventLoop

/-! ## Rounds -/

/-- What the next round draws and hands over, if it does: everything else that is ready
comes first. -/
def redraw? (s : EventLoop) : Option Redraw :=
  if s.stopped || s.settling.isSome || s.hub.takeStatus.2.isSome || s.hub.takeTick.2.isSome
      || !s.keys.isEmpty || !s.keysOpen || !s.frames.attended then none
  else s.slot.pending.map fun clear => ⟨s.console, clear⟩

/-- The next round, unless the loop is busy or has ended. -/
def turn (s : EventLoop) : EventLoop :=
  if s.stopped || s.settling.isSome then s
  else
    match s.round? with
    | some s => s
    | none => { s with listening := some (s.listening.getD s.listens) }

/-- A tick hands nothing over. -/
theorem frames_runTick (s : EventLoop) (phase : Phase) : (s.runTick phase).frames = s.frames := by
  unfold runTick
  split
  · rfl
  · split
    · rfl
    · rfl

/-- Nor does the end of the loop. -/
theorem frames_quit (quit : Bool) (s : EventLoop) :
    (if quit then s.stop else s.again).frames = s.frames := by
  cases quit <;> rfl

/-- What is drawn is handed over if there is somebody to read it. -/
theorem frames_drawFrame (s : EventLoop) (clear : Bool) :
    (s.drawFrame clear).frames =
      if s.frames.attended then ⟨(Redraw.mk s.console clear).frame, true, true⟩ else s.frames := by
  unfold drawFrame FrameWatch.send?
  dsimp only [after]
  split
  · rename_i frames hsent
    split at hsent
    · rename_i hattended
      rw [if_pos hattended, ← Option.some.inj hsent, ← hattended]
      rfl
    · exact absurd hsent (by simp)
  · rename_i hsent
    split at hsent
    · exact absurd hsent (by simp)
    · rename_i hattended
      rw [if_neg hattended]
      rfl

/-- **What a round hands over** if neither a status change nor a tick is ready. -/
theorem frames_calmRound? (s : EventLoop) (listening : Bool) :
    (s.calmRound? listening).elim s.frames frames =
      (if !s.keys.isEmpty || !s.keysOpen || !s.frames.attended then none
        else s.slot.pending.map (Redraw.mk s.console)).elim s.frames
          fun r => ⟨r.frame, true, true⟩ := by
  unfold calmRound?
  split
  · rename_i key rest hkeys
    rw [hkeys]
    exact frames_quit _ _
  · rename_i pending hkeys
    rw [hkeys]
    cases s.keysOpen with
    | false => rfl
    | true =>
      cases hpending : s.slot.pending with
      | some clear =>
        refine (frames_drawFrame _ _).trans ?_
        dsimp only
        cases s.frames.attended <;> rfl
      | none =>
        rw [Option.map_none, ite_self]
        simp only [Bool.not_true, Bool.false_eq_true, if_false]
        split
        · rfl
        · split <;> rfl

/-- **What a round hands over.** -/
theorem frames_turn (s : EventLoop) :
    s.turn.frames = s.redraw?.elim s.frames fun r => ⟨r.frame, true, true⟩ := by
  unfold turn redraw? round?
  cases s.stopped || s.settling.isSome with
  | true => rfl
  | false =>
    obtain ⟨hub, change⟩ := s.hub.takeStatus
    obtain ⟨hub', phase⟩ := s.hub.takeTick
    cases change with
    | some change => rfl
    | none =>
      cases phase with
      | some phase => exact frames_runTick _ phase
      | none =>
        refine Eq.trans ?_ (frames_calmRound? s (s.listening.getD s.listens))
        rw [if_neg Bool.false_ne_true]
        dsimp only
        cases s.calmRound? (s.listening.getD s.listens) <;> rfl

end EventLoop

/-! ## Runs -/

/-- **Loop step**: what the loop, the terminal or somebody else does before another can
do anything. -/
inductive LoopStep where
  /-- The board reports a change of a wire. -/
  | hardware (event : HardwareEvent)
  /-- The link reports whether it is connected. -/
  | connection (up : Bool)
  /-- A key is pressed. -/
  | press (key : Key)
  /-- No more keys can come. -/
  | closeKeys
  /-- The board behaves differently from now on. -/
  | board (behavior : BoardBehavior)
  /-- Somebody beside the loop asks for the screen to be drawn. -/
  | request (clear : Bool)
  /-- A millisecond passes. -/
  | elapse
  /-- The attempt to reconnect ends if its time has come. -/
  | endAttempt
  /-- The tick ends if its lines have settled. -/
  | endTick
  /-- The loop does its next round. -/
  | turn
  /-- The terminal reads the latest frame. -/
  | read
  /-- The terminal goes away. -/
  | leave

/-- **Reading**: a frame that was read, and the redraws that were handed over since the
one before it, oldest first. -/
structure Reading where
  drawn : List Redraw
  frame : Frame

/-- **Loop run**: the loop, what it has handed over since the latest reading, and what was
read. -/
structure LoopRun where
  loop : EventLoop
  drawn : List Redraw
  readings : List Reading

/-- What a step makes of the loop. -/
def EventLoop.step (s : EventLoop) : LoopStep → EventLoop
  | .hardware event => { s with hub := s.hub.hardware event }
  | .connection up => { s with hub := s.hub.connection up }
  | .press key => { s with keys := s.keys ++ [key] }
  | .closeKeys => { s with keysOpen := false }
  | .board behavior => { s with board := behavior }
  | .request clear => { s with slot := s.slot.request clear }
  | .elapse => { s with now := s.now + 1 }
  | .endAttempt => s.endAttempt
  | .endTick => s.endTick
  | .turn => s.turn
  | .read => { s with frames := s.frames.read.1 }
  | .leave => { s with frames := s.frames.close }

namespace LoopRun

/-- A run in which nothing has happened. -/
def start (loop : EventLoop) : LoopRun := ⟨loop, [], []⟩

/-- **One step.** -/
def next (s : LoopRun) (step : LoopStep) : LoopRun :=
  let s' := { s with loop := s.loop.step step }
  match step with
  | .turn => { s' with drawn := s.drawn ++ s.loop.redraw?.toList }
  | .read =>
    s.loop.frames.read.2.elim s' fun frame =>
      { s' with drawn := [], readings := s.readings ++ [⟨s.drawn, frame⟩] }
  | _ => s'

/-- A run after some steps. -/
def after (s : LoopRun) (steps : List LoopStep) : LoopRun := steps.foldl next s

variable {s : LoopRun}

theorem loop_next (s : LoopRun) (step : LoopStep) : (s.next step).loop = s.loop.step step := by
  unfold next
  cases step with
  | read => cases s.loop.frames.read.2 <;> rfl
  | _ => rfl

/-- The loop after some steps. -/
theorem loop_after (s : LoopRun) (steps : List LoopStep) :
    (s.after steps).loop = steps.foldl EventLoop.step s.loop := by
  induction steps generalizing s with
  | nil => rfl
  | cons step rest ih =>
    show ((s.next step).after rest).loop = _
    rw [ih, loop_next]
    rfl

end LoopRun

/-! ## The loop by itself -/

namespace EventLoop

/-- **Rounds in a row** are steps. -/
theorem exists_runRounds (s : EventLoop) (fuel : Nat) :
    ∃ steps, s.runRounds fuel = List.foldl step s steps := by
  induction fuel generalizing s with
  | zero => exact ⟨[], rfl⟩
  | succ fuel ih =>
    unfold runRounds
    dsimp only
    cases hidle : s.endAttempt.stopped || s.endAttempt.settling.isSome with
    | true => exact ⟨[.endAttempt], rfl⟩
    | false =>
      have hturn : List.foldl step s [.endAttempt, .turn] = s.endAttempt.turn := rfl
      unfold turn at hturn
      rw [hidle] at hturn
      cases hround : s.endAttempt.round? with
      | none =>
        rw [hround] at hturn
        exact ⟨[.endAttempt, .turn], hturn.symm⟩
      | some s' =>
        rw [hround] at hturn
        obtain ⟨steps, hsteps⟩ := ih s'
        exact ⟨[.endAttempt, .turn] ++ steps, by rw [List.foldl_append, hturn]; exact hsteps⟩

/-- **A millisecond** is steps. -/
theorem exists_instant (s : EventLoop) : ∃ steps, s.instant = List.foldl step s steps := by
  unfold instant
  split
  · exact ⟨[], rfl⟩
  · obtain ⟨steps, hsteps⟩ :=
      exists_runRounds s.endAttempt.endTick s.endAttempt.endTick.roundLimit
    exact ⟨[.endAttempt, .endTick] ++ steps, by rw [List.foldl_append]; exact hsteps⟩

/-- **Any time that passes** is steps. -/
theorem exists_advance (s : EventLoop) (ms : Nat) :
    ∃ steps, s.advance ms = List.foldl step s steps := by
  induction ms generalizing s with
  | zero => exact ⟨[], rfl⟩
  | succ ms ih =>
    obtain ⟨now, hnow⟩ := exists_instant s
    obtain ⟨later, hlater⟩ := ih ((s.instant).step .elapse)
    refine ⟨now ++ [.elapse] ++ later, ?_⟩
    rw [List.foldl_append, List.foldl_append, ← hnow]
    exact hlater

theorem frames_endAttempt (s : EventLoop) : s.endAttempt.frames = s.frames := by
  unfold endAttempt
  split
  · split <;> rfl
  · rfl

theorem frames_endTick (s : EventLoop) : s.endTick.frames = s.frames := by
  unfold endTick
  split
  · split <;> rfl
  · rfl

end EventLoop

/-! ## What is read -/

namespace LoopRun

variable {s : LoopRun}

/-- Among the runs are those of a loop that is left to itself for some time. -/
theorem exists_after_advance (s : LoopRun) (ms : Nat) :
    ∃ steps, (s.after steps).loop = s.loop.advance ms := by
  obtain ⟨steps, hsteps⟩ := s.loop.exists_advance ms
  exact ⟨steps, by rw [loop_after, hsteps]⟩

/-- **Sound**: what is there to be read is what was drawn last, and so was all that was
read. -/
structure Sound (s : LoopRun) : Prop where
  unread : s.loop.frames.read.2 = s.drawn.getLast?.map Redraw.frame
  read : ∀ reading ∈ s.readings, some reading.frame = reading.drawn.getLast?.map Redraw.frame

/-- A step that hands nothing over and reads nothing keeps a run sound. -/
theorem Sound.of_frames (h : s.Sound) {loop : EventLoop}
    (hframes : loop.frames.read.2 = s.loop.frames.read.2) :
    ({ s with loop := loop } : LoopRun).Sound :=
  ⟨hframes.trans h.unread, h.read⟩

/-- **One step keeps a run sound.** -/
theorem Sound.next (h : s.Sound) (step : LoopStep) : (s.next step).Sound := by
  cases step with
  | hardware | connection | press | closeKeys | board | request | elapse | leave =>
    exact h.of_frames rfl
  | endAttempt =>
    exact h.of_frames (congrArg (·.read.2) (EventLoop.frames_endAttempt s.loop))
  | endTick =>
    exact h.of_frames (congrArg (·.read.2) (EventLoop.frames_endTick s.loop))
  | turn =>
    refine ⟨?_, h.read⟩
    show s.loop.turn.frames.read.2 = (s.drawn ++ s.loop.redraw?.toList).getLast?.map Redraw.frame
    rw [EventLoop.frames_turn]
    cases s.loop.redraw? with
    | none =>
      rw [Option.toList_none, List.append_nil]
      exact h.unread
    | some r =>
      rw [Option.toList_some, List.getLast?_concat]
      rfl
  | read =>
    have hread : s.loop.frames.read.1.read.2 = none := rfl
    have hunread := h.unread
    unfold LoopRun.next
    cases hframe : s.loop.frames.read.2 with
    | none =>
      rw [hframe] at hunread
      exact ⟨hread.trans hunread, h.read⟩
    | some frame =>
      rw [hframe] at hunread
      refine ⟨hread, ?_⟩
      intro reading hmem
      obtain hmem | hmem := List.mem_append.mp hmem
      · exact h.read reading hmem
      · rw [List.mem_singleton.mp hmem]
        exact hunread

/-- **All steps keep a run sound.** -/
theorem Sound.after (h : s.Sound) (steps : List LoopStep) : (s.after steps).Sound := by
  induction steps generalizing s with
  | nil => exact h
  | cons step rest ih => exact ih (h.next step)

/-- A loop that has not run is sound: there is nothing to be read. -/
theorem sound_start (console : Console) (board : BoardBehavior) (settle period : Nat) :
    (start (.start console board settle period)).Sound :=
  ⟨rfl, fun _ hmem => absurd hmem (by simp [start])⟩

/-- **When a request to clear the screen reaches it**: what is read is what was drawn
last, so it clears the screen exactly if that did. What was drawn before it and was not
read counts for nothing. If something that clears was drawn among what is read, the
terminal learns of it exactly if it was not overtaken by something that does not. -/
theorem clear_read_iff (console : Console) (board : BoardBehavior) (settle period : Nat)
    (steps : List LoopStep) (reading : Reading)
    (hmem : reading ∈ ((start (.start console board settle period)).after steps).readings) :
    ∃ overtaken last, reading.drawn = overtaken ++ [last] ∧ reading.frame = last.frame
      ∧ (.clear ∈ reading.frame.ops ↔ last.clear = true)
      ∧ (((∃ r ∈ reading.drawn, r.clear = true) → .clear ∈ reading.frame.ops)
        ↔ (last.clear = false → ∀ r ∈ overtaken, r.clear = false)) := by
  have hread := ((sound_start console board settle period).after steps).read reading hmem
  obtain ⟨last, hlast, hframe⟩ := Option.map_eq_some_iff.mp hread.symm
  obtain ⟨overtaken, hdrawn⟩ := List.getLast?_eq_some_iff.mp hlast
  refine ⟨overtaken, last, hdrawn, hframe.symm, ?_, ?_⟩
  · rw [← hframe]
    exact last.clear_mem_frame_iff
  · rw [← hframe, last.clear_mem_frame_iff, hdrawn]
    cases hclear : last.clear with
    | true => simp
    | false => simp [hclear]

/-! ## A request that does not reach the screen -/

/-- A board that is not there. -/
def absentBoard : BoardBehavior where
  replies := ⟨.error .notConnected, .error .notConnected, .error .notConnected,
    .error .notConnected, .error .notConnected, .error .notConnected⟩
  connected := false
  delay := 0
  reconnect := .error .notConnected

/-- The history page is opened and drawn. Before the terminal reads it, a line beside the
clock falls, and the page is drawn again. -/
def overtaking : LoopRun :=
  (start (.start { table := .builtin } absentBoard 0 200)).after
    [.press (.char 'l'), .turn, .turn, .hardware ⟨.irq, false⟩, .turn, .turn, .read]

/-- The first of the two redraws clears the screen, and the second one does not. -/
theorem exists_overtaken :
    ∃ reading ∈ overtaking.readings, ∃ first last,
      reading.drawn = [first, last] ∧ first.clear = true ∧ last.clear = false := by
  have hflags : overtaking.readings.map (·.drawn.map Redraw.clear) = [[true, false]] := by decide
  obtain ⟨reading, hreadings, hdrawn⟩ := List.map_eq_singleton_iff.mp hflags
  refine ⟨reading, hreadings ▸ List.mem_singleton.mpr rfl, ?_⟩
  obtain ⟨first, rest, hfirst, hclear, hrest⟩ := List.map_eq_cons_iff.mp hdrawn
  obtain ⟨last, hlast, hkept⟩ := List.map_eq_singleton_iff.mp hrest
  exact ⟨first, last, hlast ▸ hfirst, hclear, hkept⟩

/-- **The terminal never learns** that the screen should have been cleared. -/
theorem clear_lost :
    ¬ ∀ (console : Console) (board : BoardBehavior) (settle period : Nat)
      (steps : List LoopStep),
      ∀ reading ∈ ((start (.start console board settle period)).after steps).readings,
        (∃ r ∈ reading.drawn, r.clear = true) → .clear ∈ reading.frame.ops := by
  intro hall
  obtain ⟨reading, hmem, first, last, hdrawn, hfirst, hlast⟩ := exists_overtaken
  have hread := ((sound_start _ _ _ _).after _).read reading hmem
  rw [hdrawn] at hread
  have hframe : reading.frame = last.frame := Option.some.inj hread
  have hshown := hall _ _ _ _ _ reading hmem ⟨first, by rw [hdrawn]; simp, hfirst⟩
  rw [hframe, last.clear_mem_frame_iff, hlast] at hshown
  exact absurd hshown (by simp)

/-- What the terminal reads there is the frame that was drawn last, and a frame that clears
the screen was overtaken. -/
theorem clear_read_overtaken :
    ∃ reading ∈ overtaking.readings, ∃ overtaken last,
      reading.drawn = overtaken ++ [last] ∧ reading.frame = last.frame
        ∧ (.clear ∈ reading.frame.ops ↔ last.clear = true)
        ∧ (((∃ r ∈ reading.drawn, r.clear = true) → .clear ∈ reading.frame.ops)
          ↔ (last.clear = false → ∀ r ∈ overtaken, r.clear = false)) := by
  obtain ⟨reading, hmem, -⟩ := exists_overtaken
  exact ⟨reading, hmem, clear_read_iff _ _ _ _ _ reading hmem⟩

end LoopRun

end Breadboard
