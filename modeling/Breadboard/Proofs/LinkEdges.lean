import Breadboard.Proofs.LinkRun
import Mathlib.Data.List.Chain

/-!
# Changes of the connection

Whoever uses a link is told when it became connected and when it ceased to be,
and is told nothing else about the connection. What was reported is therefore
all there is to know, and it has to be right: connecting and ceasing to be take
turns, the first report is that the link became connected, and the last one says
what the link counts as.

Three steps can have something to report: the end of an opening, a reset, and
the end of a reader. All of them do so through one door, which reports what is
new and nothing that was known before. Of the readers only the present one comes
to this door. The others have been superseded, and nothing they still do is
heard.
-/

namespace Breadboard

namespace Link

variable {l l' : Link}

/-- **Heard**: what was reported is right, and is all there is to know. -/
structure Heard (l : Link) : Prop where
  /-- The first report is that the link became connected. -/
  first : ∀ up ∈ l.edges.head?, up = true
  /-- No report repeats the one before it. -/
  alternate : l.edges.IsChain (· ≠ ·)
  /-- The last report holds. Without a report the link is not connected. -/
  last : l.connected = l.edges.getLast?.getD false

theorem heard_closed (portName : String) : (closed portName).Heard :=
  ⟨by simp [edges, closed], by simp [edges, closed], rfl⟩

/-- **The news**: what the link counts as, and the changes that were reported. -/
def news (l : Link) : Bool × List Bool := (l.connected, l.edges)

theorem Heard.congr (h : l.Heard) (hnews : l'.news = l.news) : l'.Heard := by
  simp only [news, Prod.mk.injEq] at hnews
  obtain ⟨hconnected, hedges⟩ := hnews
  constructor
  · rw [hedges]
    exact h.first
  · rw [hedges]
    exact h.alternate
  · rw [hconnected, hedges]
    exact h.last

/-! ## What is reported of a change -/

/-- Reports of another kind are no news. -/
theorem news_report {r : LinkReport} (h : ∀ up, r ≠ .connection up) (l : Link) :
    (l.report r).news = l.news := by
  cases r with
  | connection up => exact absurd rfl (h up)
  | _ => simp [news, edges, report]

/-- **What is new** is reported, and nothing else. -/
theorem edges_transition (l : Link) (up : Bool) :
    (l.transition up).edges = if l.connected = up then l.edges else l.edges ++ [up] := by
  unfold transition
  split
  · rfl
  · simp [edges, report]

theorem news_transition (h : l'.news = l.news) (up : Bool) :
    (l'.transition up).news = (l.transition up).news := by
  simp only [news, Prod.mk.injEq] at h ⊢
  rw [connected_transition, connected_transition, edges_transition, edges_transition, h.1, h.2]
  exact ⟨rfl, rfl⟩

/-- **One more report** keeps the reports right. -/
theorem Heard.transition (h : l.Heard) (up : Bool) : (l.transition up).Heard := by
  by_cases hsame : l.connected = up
  · rw [show l.transition up = l from if_pos hsame]
    exact h
  · have hedges : (l.transition up).edges = l.edges ++ [up] := by
      rw [edges_transition, if_neg hsame]
    -- What is new differs from the last report, or there was none and the link is connected.
    have hlast : ∀ before ∈ l.edges.getLast?, before ≠ up := by
      intro before hbefore
      rw [h.last, Option.mem_def.mp hbefore] at hsame
      exact hsame
    constructor
    · intro first hfirst
      rw [hedges, List.head?_append] at hfirst
      cases hhead : l.edges.head? with
      | some known =>
        rw [hhead] at hfirst
        exact h.first first (hhead.trans hfirst)
      | none =>
        have hnil : l.edges = [] := List.head?_eq_none_iff.mp hhead
        rw [h.last, hnil] at hsame
        rw [hhead] at hfirst
        obtain rfl : up = first := Option.some.inj hfirst
        exact (Bool.not_eq_false _).mp (Ne.symm hsame)
    · rw [hedges, List.isChain_append]
      refine ⟨h.alternate, List.isChain_singleton up, fun before hbefore new hnew => ?_⟩
      obtain rfl : up = new := Option.some.inj hnew
      exact hlast before hbefore
    · rw [connected_transition, hedges, List.getLast?_concat, Option.getD_some]

/-! ## What is no news -/

theorem news_failToOpen (l : Link) (e : LinkError) (again : Bool) :
    (l.failToOpen e again).news = l.news := by
  unfold failToOpen
  split
  · rfl
  · exact news_report (by simp) l

theorem news_deliver (l : Link) (u : Inbound) : (l.deliver u).news = l.news := by
  cases u with
  | response r => rfl
  | event e => exact news_report (by simp) l
  | unknown byte => exact news_report (by simp) l

theorem news_send (l : Link) (r : Request) (failure? : Option LineFailure) :
    (l.send r failure?).1.news = l.news := by
  unfold send
  split
  · rfl
  · rfl
  · exact news_report (by simp) l

theorem news_takeReply? (l : Link) (tag : Tag) :
    (((l.takeReply? tag).map (·.2)).getD l).news = l.news := by
  unfold takeReply?
  cases l.replies.find? (·.tag = tag) with
  | none => rfl
  | some r => rfl

theorem news_giveUp (l : Link) (tag : Tag) (milliseconds : Nat) :
    (l.giveUp tag milliseconds).1.news = l.news := news_report (by simp) l

theorem news_check (l : Link) (generation : Nat) : (l.check generation).news = l.news := by
  unfold check
  split <;> rfl

theorem news_receive (l : Link) (generation : Nat) (byte : UInt8) :
    (l.receive generation byte).news = l.news := by
  unfold receive
  cases l.reader? generation with
  | none => rfl
  | some r =>
    dsimp only
    split
    · cases (r.demux.push byte).2 with
      | none => rfl
      | some u => exact news_deliver _ u
    · rfl

theorem news_settle (l : Link) : l.settle.news = (l.transition true).news := by
  unfold settle
  refine news_transition ?_ true
  split
  · rfl
  · exact news_report (by simp) l

theorem news_reset (l : Link) : l.reset.news = (l.transition false).news := by
  refine news_transition ?_ false
  rfl

/-- **The end of a reader** is news if it is the present one. -/
theorem news_lose (l : Link) (generation : Nat) :
    (l.lose generation).news
      = if generation = l.generation ∧ (l.reader? generation).isSome
        then (l.transition false).news else l.news := by
  unfold lose
  cases l.reader? generation with
  | none => exact (if_neg fun h => absurd h.2 (by simp)).symm
  | some r =>
    dsimp only
    by_cases h : generation = l.generation
    · rw [if_pos (show generation = (l.dismiss generation).generation from h), if_pos ⟨h, rfl⟩]
      refine news_transition ?_ false
      exact news_report (by simp) (l.dismiss generation)
    · rw [if_neg (show ¬ generation = (l.dismiss generation).generation from h),
        if_neg fun hand => h hand.1]
      rfl

end Link

/-! ## Runs -/

namespace LinkStep

/-- The reader that takes a step, if one does. -/
def reader? : LinkStep → Option Nat
  | lose generation | check generation | receive generation _ => some generation
  | _ => none

end LinkStep

namespace LinkRun

/-- **What a step has to report**, if it is new. -/
def change? (s : LinkRun) : LinkStep → Option Bool
  | .settle => if s.waits = 0 then none else some true
  | .reset => some false
  | .lose generation =>
    if generation = s.link.generation ∧ (s.link.reader? generation).isSome then some false
    else none
  | _ => none

/-- **One step**: all that is told of the connection is what the step has to report. -/
theorem news_next (s : LinkRun) (step : LinkStep) :
    (s.next step).link.news
      = ((s.change? step).elim s.link s.link.transition).news := by
  cases step with
  | refuse e again => exact Link.news_failToOpen s.link e again
  | start => rfl
  | settle =>
    unfold next change?
    dsimp only
    split
    · rfl
    · exact Link.news_settle s.link
  | abandon => rfl
  | reset => exact Link.news_reset s.link
  | lose generation =>
    refine (Link.news_lose s.link generation).trans ?_
    unfold change?
    dsimp only
    split <;> rfl
  | check generation => exact Link.news_check s.link generation
  | receive generation byte => exact Link.news_receive s.link generation byte
  | send r failure? => exact Link.news_send s.link r failure?
  | take tag => exact Link.news_takeReply? s.link tag
  | giveUp tag milliseconds => exact Link.news_giveUp s.link tag milliseconds

theorem heard_next {s : LinkRun} (h : s.link.Heard) (step : LinkStep) :
    (s.next step).link.Heard := by
  cases hchange : s.change? step with
  | none => exact h.congr (by rw [news_next, hchange]; rfl)
  | some up => exact (h.transition up).congr (by rw [news_next, hchange]; rfl)

/-- **Every run is heard**, in whichever order its steps come. -/
theorem heard_after (portName : String) (run : List LinkStep) :
    (after portName run).link.Heard := by
  induction run using List.reverseRecOn with
  | nil => exact Link.heard_closed portName
  | append_singleton run step ih =>
    rw [after_concat]
    exact heard_next ih step

/-! ## Readers that were superseded -/

/-- Only the present reader has something to report. -/
theorem change?_of_reader {s : LinkRun} {step : LinkStep} {generation : Nat}
    (hreader : step.reader? = some generation) (hne : generation ≠ s.link.generation) :
    s.change? step = none := by
  cases step with
  | lose other =>
    obtain rfl : other = generation := Option.some.inj hreader
    exact if_neg fun h => hne h.1
  | settle | reset => exact absurd hreader (by simp [LinkStep.reader?])
  | _ => rfl

/-- A generation that has begun before another one began is not the present one. -/
theorem begun_lt_generation (portName : String) (before mid : List LinkStep) {step : LinkStep}
    (hstep : step.begins = true) :
    begun before < (after portName (before ++ step :: mid)).link.generation := by
  rw [generation_after]
  unfold begun
  rw [List.countP_append, List.countP_cons_of_pos hstep]
  omega

/-- **A superseded reader is silent.** Once another generation has begun, the
reader that an opening started has nothing more to report, whatever happens in
between. -/
theorem news_after_superseded (portName : String) {first rest mid : List LinkStep}
    {step own : LinkStep} (hstep : step.begins = true)
    (hown : own.reader? = some (begun first + 1)) :
    (after portName (first ++ .start :: rest ++ step :: mid ++ [own])).link.news
      = (after portName (first ++ .start :: rest ++ step :: mid)).link.news := by
  have hbegun : begun first + 1 ≤ begun (first ++ .start :: rest) := by
    unfold begun
    rw [List.countP_append, List.countP_cons_of_pos (show LinkStep.begins .start = true from rfl)]
    omega
  have hlt := begun_lt_generation portName (first ++ .start :: rest) mid hstep
  rw [after_concat, news_next, change?_of_reader hown (Nat.ne_of_lt (by omega))]
  rfl

end LinkRun

end Breadboard
