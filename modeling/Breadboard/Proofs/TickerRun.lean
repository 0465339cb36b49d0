import Breadboard.Clocking.Ticker
import Mathlib.Data.List.Induction

/-!
# One tick at a time

Ticks are asked for on one side of the ticker and run on the other side, and
what the two sides do comes in any order. Nothing keeps them in step but a flag
and a place for one tick, and these are not changed together: who asks for a tick
claims the ticker first and hands the tick over later, and in between the ticker
is claimed although no tick waits.

What holds at all times is that the flag is set exactly if one tick is between
its claim and its end, and that there is never a second one. Hence whoever has
claimed the ticker finds the place free, and a tick that was accepted is the next
one to be received. Nobody is turned away for a tick that has ended, and none is
accepted before the last one has.

This is so for as long as there is somebody to run ticks. Afterwards a tick can
no longer be handed over, and the one that waits is never run.
-/

namespace Breadboard

namespace Ticker

variable {t : Ticker} {phase : Phase}

theorem claim?_of_busy (h : t.busy = true) : t.claim? = none := if_pos h

theorem claim?_of_not_busy (h : t.busy = false) : t.claim? = some { t with busy := true } :=
  if_neg (by simp [h])

/-- A tick is handed over if there is a place for it and somebody to run it. -/
theorem handOver_of_room (hattended : t.attended = true) (hroom : t.waiting = none) :
    t.handOver phase = ({ t with waiting := some phase }, true) :=
  if_pos (by simp [hattended, hroom])

theorem attended_handOver (t : Ticker) (phase : Phase) :
    (t.handOver phase).1.attended = t.attended := by
  unfold handOver
  split <;> rfl

end Ticker

/-- **Claim**: a tick that somebody has claimed the ticker for and has not handed
over yet. -/
structure Claim where
  /-- The phase of the tick. -/
  phase : Phase
  /-- Whether no other tick was outstanding when the ticker was claimed. -/
  free : Bool

/-- **Answer** to whoever asked for a tick. -/
structure Answer where
  /-- The phase of the tick. -/
  phase : Phase
  /-- Whether no other tick was outstanding when the ticker was tested. -/
  free : Bool
  /-- Whether the tick was accepted. -/
  accepted : Bool

/-- **Worker**: how far the one who runs ticks has come. -/
inductive Worker where
  /-- No tick is in hand. -/
  | idle
  /-- A tick was received. -/
  | busy (phase : Phase)
  /-- The tick has been run, and the ticker does not know yet. -/
  | done (phase : Phase)

namespace Worker

/-- The tick that is still to be run. -/
def running? : Worker → Option Phase
  | busy phase => some phase
  | _ => none

/-- The tick that has been run. -/
def done? : Worker → Option Phase
  | done phase => some phase
  | _ => none

end Worker

/-- **Tick step**: what one side of a ticker does before the other one can do
anything. -/
inductive TickStep where
  /-- Somebody asks for a tick and tests whether the ticker is free. -/
  | test (phase : Phase)
  /-- One of those who have claimed the ticker hands the tick over. -/
  | handOver (claim : Nat)
  /-- The worker receives a tick. -/
  | receive
  /-- The worker runs it. -/
  | run
  /-- The worker reports its end. -/
  | complete
  /-- The worker leaves. -/
  | close

/-- **Tick run**: a ticker, those on both sides of it, and what they have done so
far, oldest first. -/
structure TickRun where
  /-- The ticker. -/
  ticker : Ticker
  /-- The ticks that are being handed over. -/
  claims : List Claim
  /-- The other side. -/
  worker : Worker
  /-- What those who asked for ticks were told. -/
  answers : List Answer
  /-- The ticks that were received. -/
  received : List Phase
  /-- The ticks that were run. -/
  ran : List Phase
  /-- The ticks whose end was reported. -/
  completed : List Phase

namespace TickRun

/-- The run in which nothing has happened. -/
def fresh : TickRun := ⟨.start, [], .idle, [], [], [], []⟩

/-- **Accepted ticks**: those whose asker was told so. -/
def accepted (s : TickRun) : List Phase := (s.answers.filter (·.accepted)).map (·.phase)

/-- **Outstanding ticks**: those that are being handed over, wait or are run. -/
def outstanding (s : TickRun) : List Phase :=
  s.claims.map (·.phase) ++ s.ticker.waiting.toList ++ s.worker.running?.toList
    ++ s.worker.done?.toList

/-- **One step.** What cannot happen changes nothing. -/
def next (s : TickRun) : TickStep → TickRun
  | .test phase =>
    let free := s.outstanding.isEmpty
    match s.ticker.claim? with
    | none => { s with answers := s.answers ++ [⟨phase, free, false⟩] }
    | some ticker => { s with ticker := ticker, claims := s.claims ++ [⟨phase, free⟩] }
  | .handOver i =>
    match s.claims[i]? with
    | none => s
    | some claim =>
      let (ticker, accepted) := s.ticker.handOver claim.phase
      { s with
        ticker := ticker
        claims := s.claims.eraseIdx i
        answers := s.answers ++ [⟨claim.phase, claim.free, accepted⟩] }
  | .receive =>
    match s.worker, s.ticker.take with
    | .idle, (ticker, some phase) =>
      { s with ticker := ticker, worker := .busy phase, received := s.received ++ [phase] }
    | _, _ => s
  | .run =>
    match s.worker with
    | .busy phase => { s with worker := .done phase, ran := s.ran ++ [phase] }
    | _ => s
  | .complete =>
    match s.worker with
    | .done phase =>
      { s with
        ticker := s.ticker.complete
        worker := .idle
        completed := s.completed ++ [phase] }
    | _ => s
  | .close => { s with ticker := s.ticker.close }

/-- Where a run leads. -/
def after (run : List TickStep) : TickRun := run.foldl next fresh

theorem after_concat (run : List TickStep) (step : TickStep) :
    after (run ++ [step]) = (after run).next step := by
  unfold after
  rw [List.foldl_append, List.foldl_cons, List.foldl_nil]

/-! ## What a step does -/

variable {s : TickRun}

theorem test_cases (s : TickRun) (phase : Phase) :
    (s.ticker.busy = true ∧ s.next (.test phase)
        = { s with answers := s.answers ++ [⟨phase, s.outstanding.isEmpty, false⟩] })
      ∨ s.ticker.busy = false ∧ s.next (.test phase) = { s with
          ticker := { s.ticker with busy := true }
          claims := s.claims ++ [⟨phase, s.outstanding.isEmpty⟩] } := by
  cases hbusy : s.ticker.busy with
  | true => exact Or.inl ⟨rfl, by simp only [next, Ticker.claim?_of_busy hbusy]⟩
  | false => exact Or.inr ⟨rfl, by simp only [next, Ticker.claim?_of_not_busy hbusy]⟩

theorem handOver_cases (s : TickRun) (i : Nat) :
    s.next (.handOver i) = s ∨ ∃ claim, s.claims[i]? = some claim ∧ s.next (.handOver i) = { s with
      ticker := (s.ticker.handOver claim.phase).1
      claims := s.claims.eraseIdx i
      answers := s.answers
        ++ [⟨claim.phase, claim.free, (s.ticker.handOver claim.phase).2⟩] } := by
  cases hi : s.claims[i]? with
  | none => exact Or.inl (by simp only [next, hi])
  | some claim => exact Or.inr ⟨claim, rfl, by simp only [next, hi]⟩

theorem receive_cases (s : TickRun) :
    s.next .receive = s ∨ ∃ phase, s.worker = .idle ∧ s.ticker.waiting = some phase
      ∧ s.next .receive = { s with
        ticker := { s.ticker with waiting := none }
        worker := .busy phase
        received := s.received ++ [phase] } := by
  cases hworker : s.worker with
  | idle =>
    cases hwaiting : s.ticker.waiting with
    | none => exact Or.inl (by simp only [next, hworker, Ticker.take, hwaiting])
    | some phase => exact Or.inr ⟨phase, rfl, rfl, by simp only [next, hworker, Ticker.take, hwaiting]⟩
  | busy phase => exact Or.inl (by simp only [next, hworker])
  | done phase => exact Or.inl (by simp only [next, hworker])

theorem run_cases (s : TickRun) :
    s.next .run = s ∨ ∃ phase, s.worker = .busy phase
      ∧ s.next .run = { s with worker := .done phase, ran := s.ran ++ [phase] } := by
  cases hworker : s.worker with
  | busy phase => exact Or.inr ⟨phase, rfl, by simp only [next, hworker]⟩
  | idle => exact Or.inl (by simp only [next, hworker])
  | done phase => exact Or.inl (by simp only [next, hworker])

theorem complete_cases (s : TickRun) :
    s.next .complete = s ∨ ∃ phase, s.worker = .done phase
      ∧ s.next .complete = { s with
        ticker := { s.ticker with busy := false }
        worker := .idle
        completed := s.completed ++ [phase] } := by
  cases hworker : s.worker with
  | done phase => exact Or.inr ⟨phase, rfl, by simp only [next, hworker, Ticker.complete]⟩
  | idle => exact Or.inl (by simp only [next, hworker])
  | busy phase => exact Or.inl (by simp only [next, hworker])

/-- **Asking for a tick** is testing the ticker and handing the tick over. -/
theorem next_test_handOver (s : TickRun) (phase : Phase) :
    ((s.next (.test phase)).next (.handOver s.claims.length)).ticker = (s.ticker.trigger phase).1
      ∧ ((s.next (.test phase)).next (.handOver s.claims.length)).answers
          = s.answers ++ [⟨phase, s.outstanding.isEmpty, (s.ticker.trigger phase).2⟩] := by
  unfold Ticker.trigger
  obtain ⟨hbusy, hnext⟩ | ⟨hbusy, hnext⟩ := test_cases s phase
  · rw [hnext, Ticker.claim?_of_busy hbusy]
    simp [next]
  · rw [hnext, Ticker.claim?_of_not_busy hbusy]
    simp [next]

/-- The worker leaves in one step and does not come back. -/
theorem attended_next (s : TickRun) (step : TickStep) :
    (s.next step).ticker.attended = true ↔ s.ticker.attended = true ∧ step ≠ .close := by
  cases step with
  | test phase => obtain ⟨-, h⟩ | ⟨-, h⟩ := test_cases s phase <;> simp [h]
  | handOver i =>
    obtain h | ⟨claim, -, h⟩ := handOver_cases s i
    · simp [h]
    · simp [h, Ticker.attended_handOver]
  | receive => obtain h | ⟨phase, -, -, h⟩ := receive_cases s <;> simp [h]
  | run => obtain h | ⟨phase, -, h⟩ := run_cases s <;> simp [h]
  | complete => obtain h | ⟨phase, -, h⟩ := complete_cases s <;> simp [h]
  | close => simp [next, Ticker.close]

/-! ## What holds at all times -/

/-- **Orderly**: there is at most one outstanding tick, and none was lost. -/
structure Orderly (s : TickRun) : Prop where
  /-- The flag is set exactly if there is an outstanding tick, and there is never
  a second one. -/
  counted : s.outstanding.length = if s.ticker.busy then 1 else 0
  /-- Whoever has claimed the ticker found it free. -/
  claimed : ∀ c ∈ s.claims, c.free = true
  /-- Ticks were accepted exactly if no other one was outstanding. -/
  answered : ∀ a ∈ s.answers, a.accepted = a.free
  /-- What was accepted was received, or waits. -/
  queued : s.accepted = s.received ++ s.ticker.waiting.toList
  /-- What was received was run, or will be. -/
  begun : s.received = s.ran ++ s.worker.running?.toList
  /-- The end of what was run was reported, or will be. -/
  ended : s.ran = s.completed ++ s.worker.done?.toList

theorem orderly_fresh : fresh.Orderly := by
  constructor <;> simp [fresh, outstanding, accepted, Ticker.start, Worker.running?, Worker.done?]

theorem length_outstanding (s : TickRun) :
    s.outstanding.length = s.claims.length + s.ticker.waiting.toList.length
      + s.worker.running?.toList.length + s.worker.done?.toList.length := by
  unfold outstanding
  simp only [List.length_append, List.length_map]

/-- The flag tells whether a tick is outstanding. -/
theorem Orderly.outstanding_eq_nil_iff (h : s.Orderly) :
    s.outstanding = [] ↔ s.ticker.busy = false := by
  rw [← List.length_eq_zero_iff, h.counted]
  cases s.ticker.busy with
  | true => simp
  | false => simp

/-- The test of the ticker tells the same. -/
theorem Orderly.isSome_claim?_iff (h : s.Orderly) :
    s.ticker.claim?.isSome = true ↔ s.outstanding = [] := by
  rw [h.outstanding_eq_nil_iff]
  cases hbusy : s.ticker.busy with
  | true => simp [Ticker.claim?_of_busy hbusy]
  | false => simp [Ticker.claim?_of_not_busy hbusy]

/-- **Whoever asks without being interrupted** is told so, too. -/
theorem Orderly.trigger_iff (h : s.Orderly) (hattended : s.ticker.attended = true) (phase : Phase) :
    (s.ticker.trigger phase).2 = true ↔ s.outstanding = [] := by
  unfold Ticker.trigger
  cases hbusy : s.ticker.busy with
  | true =>
    rw [h.outstanding_eq_nil_iff, hbusy, Ticker.claim?_of_busy hbusy]
    simp
  | false =>
    have hnil := h.outstanding_eq_nil_iff.mpr hbusy
    have hroom : s.ticker.waiting = none := by
      simp only [outstanding, List.append_eq_nil_iff, Option.toList_eq_nil_iff] at hnil
      exact hnil.1.1.2
    rw [Ticker.claim?_of_not_busy hbusy]
    dsimp only
    rw [Ticker.handOver_of_room (t := { s.ticker with busy := true }) hattended hroom]
    exact ⟨fun _ => hnil, fun _ => rfl⟩

theorem Orderly.length_outstanding_le (h : s.Orderly) : s.outstanding.length ≤ 1 := by
  rw [h.counted]
  split
  · exact Nat.le_refl 1
  · exact Nat.zero_le 1

/-- **Whoever has claimed the ticker** is the only one, and finds room. -/
theorem Orderly.alone (h : s.Orderly) {claim : Claim} (hclaim : claim ∈ s.claims) :
    s.claims = [claim] ∧ s.ticker.waiting = none := by
  have hpos := List.length_pos_of_mem hclaim
  have hle := h.length_outstanding_le
  rw [length_outstanding] at hle
  obtain ⟨only, honly⟩ := List.length_eq_one_iff.mp (show s.claims.length = 1 by omega)
  obtain rfl := List.mem_singleton.mp (honly ▸ hclaim)
  refine ⟨honly, ?_⟩
  cases hwaiting : s.ticker.waiting with
  | none => rfl
  | some phase =>
    rw [hwaiting, Option.toList_some, List.length_singleton] at hle
    omega

/-! ## One step -/

theorem Orderly.test (h : s.Orderly) (phase : Phase) : (s.next (.test phase)).Orderly := by
  obtain ⟨hbusy, hnext⟩ | ⟨hbusy, hnext⟩ := test_cases s phase
  · have hfree : s.outstanding.isEmpty = false := by
      rw [← Bool.not_eq_true, List.isEmpty_iff, h.outstanding_eq_nil_iff, hbusy]
      simp
    rw [hnext, hfree]
    refine ⟨h.counted, h.claimed, ?_, ?_, h.begun, h.ended⟩
    · exact List.forall_mem_append.mpr ⟨h.answered, List.forall_mem_singleton.mpr rfl⟩
    · show ((s.answers ++ [_]).filter _).map _ = _
      rw [List.filter_append, List.map_append]
      exact (List.append_nil _).trans h.queued
  · have hnil := h.outstanding_eq_nil_iff.mpr hbusy
    rw [hnext, List.isEmpty_iff.mpr hnil]
    refine ⟨?_, ?_, h.answered, h.queued, h.begun, h.ended⟩
    · have hcounted := congrArg List.length hnil
      rw [length_outstanding, List.length_nil] at hcounted
      rw [length_outstanding]
      show (s.claims ++ [_]).length + s.ticker.waiting.toList.length
        + s.worker.running?.toList.length + s.worker.done?.toList.length = 1
      rw [List.length_append, List.length_singleton]
      omega
    · exact List.forall_mem_append.mpr ⟨h.claimed, List.forall_mem_singleton.mpr rfl⟩

theorem Orderly.handOver (h : s.Orderly) (hattended : s.ticker.attended = true) (i : Nat) :
    (s.next (.handOver i)).Orderly := by
  obtain hnext | ⟨claim, hi, hnext⟩ := handOver_cases s i
  · rw [hnext]
    exact h
  · have hmem : claim ∈ s.claims := List.mem_of_getElem? hi
    obtain ⟨honly, hroom⟩ := h.alone hmem
    have hrest : s.claims.eraseIdx i = [] := by
      rw [← List.length_eq_zero_iff, List.length_eraseIdx_of_lt (List.getElem?_eq_some_iff.mp hi).1,
        honly, List.length_singleton]
    rw [hnext, Ticker.handOver_of_room hattended hroom, hrest]
    refine ⟨?_, by simp, ?_, ?_, h.begun, h.ended⟩
    -- The tick that was claimed is the one that waits now.
    · have hcounted := h.counted
      rw [length_outstanding, honly, hroom] at hcounted
      rw [length_outstanding]
      exact hcounted
    · refine List.forall_mem_append.mpr ⟨h.answered, List.forall_mem_singleton.mpr ?_⟩
      exact (h.claimed claim hmem).symm
    · have hqueued := h.queued
      rw [hroom, Option.toList_none, List.append_nil] at hqueued
      show ((s.answers ++ [_]).filter _).map _ = s.received ++ [claim.phase]
      rw [List.filter_append, List.map_append, ← hqueued]
      rfl

theorem Orderly.receive (h : s.Orderly) : (s.next .receive).Orderly := by
  obtain hnext | ⟨phase, hworker, hwaiting, hnext⟩ := receive_cases s
  · rw [hnext]
    exact h
  · have hcounted := h.counted
    have hended := h.ended
    rw [length_outstanding, hworker, hwaiting] at hcounted
    rw [hworker] at hended
    rw [hnext]
    refine ⟨?_, h.claimed, h.answered, ?_, ?_, hended⟩
    · rw [length_outstanding]
      exact hcounted
    · show s.accepted = (s.received ++ [phase]) ++ []
      rw [h.queued, hwaiting, List.append_nil]
      rfl
    · show s.received ++ [phase] = s.ran ++ [phase]
      rw [h.begun, hworker]
      simp [Worker.running?]

theorem Orderly.run (h : s.Orderly) : (s.next .run).Orderly := by
  obtain hnext | ⟨phase, hworker, hnext⟩ := run_cases s
  · rw [hnext]
    exact h
  · have hcounted := h.counted
    have hbegun := h.begun
    have hended := h.ended
    rw [length_outstanding, hworker] at hcounted
    rw [hworker] at hbegun hended
    rw [hnext]
    refine ⟨?_, h.claimed, h.answered, h.queued, ?_, ?_⟩
    · rw [length_outstanding]
      exact hcounted
    · show s.received = (s.ran ++ [phase]) ++ []
      rw [hbegun, List.append_nil]
      rfl
    · show s.ran ++ [phase] = s.completed ++ [phase]
      rw [hended]
      simp [Worker.done?]

theorem Orderly.complete (h : s.Orderly) : (s.next .complete).Orderly := by
  obtain hnext | ⟨phase, hworker, hnext⟩ := complete_cases s
  · rw [hnext]
    exact h
  · have hle := h.length_outstanding_le
    have hbegun := h.begun
    have hended := h.ended
    rw [length_outstanding, hworker] at hle
    rw [hworker] at hbegun hended
    rw [hnext]
    refine ⟨?_, h.claimed, h.answered, h.queued, hbegun, ?_⟩
    · rw [length_outstanding]
      show s.claims.length + s.ticker.waiting.toList.length + 0 + 0 = 0
      simp only [Worker.running?, Worker.done?, Option.toList_none, Option.toList_some,
        List.length_nil, List.length_singleton] at hle
      omega
    · show s.ran = (s.completed ++ [phase]) ++ []
      rw [hended, List.append_nil]
      rfl

/-- **Each step** keeps a run orderly while there is a worker. -/
theorem Orderly.next (h : s.Orderly) {step : TickStep}
    (hattended : (s.next step).ticker.attended = true) : (s.next step).Orderly := by
  obtain ⟨hbefore, hclose⟩ := (attended_next s step).mp hattended
  cases step with
  | test phase => exact h.test phase
  | handOver i => exact h.handOver hbefore i
  | receive => exact h.receive
  | run => exact h.run
  | complete => exact h.complete
  | close => exact absurd rfl hclose

/-! ## Whole runs -/

/-- **Runs are orderly** while there is a worker. -/
theorem orderly_after (run : List TickStep) (h : (after run).ticker.attended = true) :
    (after run).Orderly := by
  induction run using List.reverseRecOn with
  | nil => exact orderly_fresh
  | append_singleton run step ih =>
    rw [after_concat] at h ⊢
    exact (ih ((attended_next _ step).mp h).1).next h

/-- **One tick at a time.** While there is a worker a tick is accepted exactly if
none is outstanding when the ticker is tested, and handing it over never fails.
The ticks that were accepted are received, run and reported in their order, each
of them once, and at most one of them is not reported yet. -/
theorem one_tick_at_a_time (run : List TickStep) (h : (after run).ticker.attended = true) :
    ((after run).ticker.claim?.isSome = true ↔ (after run).outstanding = [])
      ∧ (∀ phase, ((after run).ticker.trigger phase).2 = true ↔ (after run).outstanding = [])
      ∧ (∀ claim ∈ (after run).claims, ((after run).ticker.handOver claim.phase).2 = true)
      ∧ (∀ a ∈ (after run).answers, a.accepted = true ↔ a.free = true)
      ∧ (after run).accepted = (after run).received ++ (after run).ticker.waiting.toList
      ∧ (after run).received = (after run).ran ++ (after run).worker.running?.toList
      ∧ (after run).ran = (after run).completed ++ (after run).worker.done?.toList
      ∧ (after run).completed.length ≤ (after run).accepted.length
      ∧ (after run).accepted.length + (after run).claims.length
          ≤ (after run).completed.length + 1 := by
  have horderly := orderly_after run h
  generalize after run = s at h horderly
  have hlength : s.accepted.length + s.claims.length
      = s.completed.length + s.outstanding.length := by
    rw [horderly.queued, horderly.begun, horderly.ended, length_outstanding]
    simp only [List.length_append]
    omega
  refine ⟨horderly.isSome_claim?_iff, horderly.trigger_iff h, fun claim hclaim => ?_,
    fun a ha => ?_, horderly.queued, horderly.begun, horderly.ended, ?_, ?_⟩
  · rw [Ticker.handOver_of_room h (horderly.alone hclaim).2]
  · rw [horderly.answered a ha]
  · rw [horderly.queued, horderly.begun, horderly.ended]
    simp only [List.length_append]
    omega
  · have hle := horderly.length_outstanding_le
    omega

/-- Two edges that come while a tick is handed over and while it is run, and one
that comes after its end. -/
theorem one_tick_for_three_edges :
    ∃ s, s = after [.test .phi1, .test .phi2, .handOver 0, .receive, .run, .test .phi2,
        .complete, .test .phi2, .handOver 0]
      ∧ s.ticker.attended = true ∧ s.accepted = s.received ++ [.phi2] ∧ s.received = [.phi1]
      ∧ s.accepted.length + s.claims.length ≤ s.completed.length + 1 := by
  have h := one_tick_at_a_time [.test .phi1, .test .phi2, .handOver 0, .receive, .run,
    .test .phi2, .complete, .test .phi2, .handOver 0] rfl
  exact ⟨_, rfl, rfl, h.2.2.2.2.1, rfl, h.2.2.2.2.2.2.2.2⟩

end TickRun

end Breadboard
