import Breadboard.Proofs.LinkEdges
import Breadboard.Wire.Bench

/-!
# Operations on a bench

On a bench every operation is carried out to its end before the next one begins.
It then is some steps of a run of the link, after which no opening is left
waiting, and whatever holds throughout runs of a link holds after each sequence
of operations.

So it is with the changes of the connection. Openings that fail and openings
that succeed, resets, requests, cables that are pulled, reads and writes that
fail, and whatever bytes the board sends: what is reported of the connection
stays right.
-/

namespace Breadboard

namespace LinkRun

/-- **Leads to**: there are steps from one to the other. -/
def Leads (s s' : LinkRun) : Prop := ∃ run : List LinkStep, run.foldl next s = s'

theorem Leads.refl (s : LinkRun) : s.Leads s := ⟨[], rfl⟩

theorem Leads.next (s : LinkRun) (step : LinkStep) : s.Leads (s.next step) := ⟨[step], rfl⟩

theorem Leads.trans {s s' s'' : LinkRun} (h : s.Leads s') (h' : s'.Leads s'') : s.Leads s'' := by
  obtain ⟨run, rfl⟩ := h
  obtain ⟨more, rfl⟩ := h'
  exact ⟨run ++ more, List.foldl_append⟩

/-- What is done for one item after the other. -/
theorem Leads.foldl {α : Type} {waits : Nat} {f : Link → α → Link}
    (h : ∀ l a, Leads ⟨l, waits⟩ ⟨f l a, waits⟩) (items : List α) (l : Link) :
    Leads ⟨l, waits⟩ ⟨items.foldl f l, waits⟩ := by
  induction items generalizing l with
  | nil => exact .refl _
  | cons a rest ih => exact (h l a).trans (ih (f l a))

end LinkRun

namespace Bench

/-- **Operation**: what can be done at a bench. -/
inductive Operation where
  /-- The port is opened, for the first time or once more. -/
  | connect (again : Bool)
  /-- The port is closed, with a reader that is blocked or not. -/
  | reset (blocked : Bool)
  /-- A request is made. -/
  | request (r : Request)
  /-- The board sends bytes. -/
  | inject (bytes : List UInt8)
  /-- The cable is pulled. -/
  | unplug
  /-- A read fails. -/
  | failRead (cause : LineFailure)
  /-- Writes fail from now on, or no longer do. -/
  | failWrites (failure? : Option (LineFailure × Bool))
  /-- Some attempts to open the port will fail. -/
  | failOpens (count : Nat)
  /-- The board answers something else from now on. -/
  | setValues (values : BoardValues)

/-- Carries out an operation. -/
def perform (b : Bench) : Operation → Bench
  | .connect again => (b.connect again).1
  | .reset blocked => b.reset blocked
  | .request r => (b.request r).1
  | .inject bytes => (b.inject bytes).1
  | .unplug => b.unplug
  | .failRead cause => b.failRead cause
  | .failWrites failure? => { b with writeFailure := failure? }
  | .failOpens count => { b with absences := count }
  | .setValues values => { b with board := { b.board with values := values } }

/-- The bench after some operations. -/
def after (patience : Nat) (ops : List Operation) : Bench := ops.foldl perform (fresh patience)

/-! ## Operations as steps of the link -/

/-- The link of a bench, on which no opening waits. -/
def rest (b : Bench) : LinkRun := ⟨b.link, 0⟩

theorem leads_inject (b : Bench) (bytes : List UInt8) : b.rest.Leads (b.inject bytes).1.rest := by
  unfold inject
  cases b.plugged with
  | none => exact .refl _
  | some port =>
    dsimp only
    split
    · exact .refl _
    · split
      · exact .next b.rest (.lose port)
      · exact .foldl (fun l byte => .next ⟨l, 0⟩ (.receive port byte)) bytes b.link

theorem leads_unplug (b : Bench) : b.rest.Leads b.unplug.rest := by
  unfold unplug
  cases b.plugged with
  | none => exact .refl _
  | some port => exact .next b.rest (.lose port)

theorem leads_failRead (b : Bench) (cause : LineFailure) :
    b.rest.Leads (b.failRead cause).rest := by
  refine .foldl (fun l r => ?_) b.link.readers b.link
  cases cause.retries with
  | true => exact .next ⟨l, 0⟩ (.check r.generation)
  | false => exact .next ⟨l, 0⟩ (.lose r.generation)

theorem leads_connect (b : Bench) (again : Bool) : b.rest.Leads (b.connect again).1.rest := by
  unfold connect
  split
  · exact .next b.rest (.refuse _ again)
  · -- The old readers end while the opening waits for the board.
    refine (LinkRun.Leads.next b.rest .start).trans (.trans (.foldl (fun l r => ?_)
      b.link.readers b.link.start) (.next ⟨_, 1⟩ .settle))
    exact .next ⟨l, 1⟩ (.lose r.generation)

theorem leads_reset (b : Bench) (blocked : Bool) : b.rest.Leads (b.reset blocked).rest := by
  refine (LinkRun.Leads.next b.rest .reset).trans ?_
  cases blocked with
  | true => exact .refl _
  | false =>
    refine .foldl (fun l r => ?_) b.link.reset.readers b.link.reset
    exact .next ⟨l, 0⟩ (.check r.generation)

theorem leads_send (b : Bench) (r : Request) : b.rest.Leads (b.send r).1.rest := by
  have hanswers (responses : List Response) (b : Bench) :
      b.rest.Leads (responses.foldl (fun b response => (b.inject response.wire).1) b).rest := by
    induction responses generalizing b with
    | nil => exact .refl _
    | cons response more ih => exact (leads_inject b response.wire).trans (ih _)
  refine (LinkRun.Leads.next b.rest (.send r (b.writeFailure.map (·.1)))).trans ?_
  unfold send
  dsimp only
  split
  · exact hanswers _ { b with
      link := (b.link.send r (b.writeFailure.map (·.1))).1
      board := (b.board.receive r.frame).1 }
  · exact .refl _

theorem leads_request (b : Bench) (r : Request) : b.rest.Leads (b.request r).1.rest := by
  refine (leads_send b r).trans ?_
  unfold request
  obtain ⟨b', result⟩ := b.send r
  cases result with
  | error e => exact .refl _
  | ok _ =>
    cases r.response? with
    | none => exact .refl _
    | some tag =>
      dsimp only
      cases htake : b'.link.takeReply? tag with
      | none => exact .next b'.rest (.giveUp tag b'.patience)
      | some taken =>
        have h := LinkRun.Leads.next b'.rest (.take tag)
        rw [show b'.rest.next (.take tag) = ⟨taken.2, 0⟩ by
          show (⟨((b'.link.takeReply? tag).map (·.2)).getD b'.link, 0⟩ : LinkRun) = _
          rw [htake]
          rfl] at h
        exact h

/-- **Every operation** is some steps of the link. -/
theorem leads_perform (b : Bench) (op : Operation) : b.rest.Leads (b.perform op).rest := by
  cases op with
  | connect again => exact leads_connect b again
  | reset blocked => exact leads_reset b blocked
  | request r => exact leads_request b r
  | inject bytes => exact leads_inject b bytes
  | unplug => exact leads_unplug b
  | failRead cause => exact leads_failRead b cause
  | failWrites failure? => exact .refl _
  | failOpens count => exact .refl _
  | setValues values => exact .refl _

/-- **Every sequence of operations** is a run of the link. -/
theorem exists_run_eq (patience : Nat) (ops : List Operation) :
    ∃ run, LinkRun.after "sim" run = (after patience ops).rest := by
  have hleads (b : Bench) : b.rest.Leads (ops.foldl perform b).rest := by
    induction ops generalizing b with
    | nil => exact .refl _
    | cons op more ih => exact (leads_perform b op).trans (ih _)
  exact hleads (fresh patience)

/-! ## Changes of the connection -/

/-- **An opening that fails** leaves all that a request depends on as it was. -/
theorem connect_error {b b' : Bench} {again : Bool} {e : LinkError}
    (h : b.connect again = (b', .error e)) :
    b'.link.news = b.link.news ∧ b'.link.writer = b.link.writer
      ∧ b'.link.generation = b.link.generation ∧ b'.link.replies = b.link.replies := by
  unfold connect at h
  split at h
  · obtain ⟨rfl, -⟩ := Prod.mk.inj h
    refine ⟨Link.news_failToOpen _ _ again, ?_⟩
    unfold Link.failToOpen
    cases again with
    | true => exact ⟨rfl, rfl, rfl⟩
    | false => exact ⟨rfl, rfl, rfl⟩
  · exact absurd (Prod.mk.inj h).2 (by simp)

/-- **An opening that succeeds** connects the link. -/
theorem connected_of_connect {b b' : Bench} {again : Bool} (h : b.connect again = (b', .ok ())) :
    b'.link.connected = true := by
  unfold connect at h
  split at h
  · exact absurd (Prod.mk.inj h).2 (by simp)
  · obtain ⟨rfl, -⟩ := Prod.mk.inj h
    exact Link.connected_settle _

/-- **A reset** ends the connection, and the readers that notice it say nothing. -/
theorem connected_reset (b : Bench) (blocked : Bool) : (b.reset blocked).link.connected = false := by
  have hchecks (readers : List Reader) (l : Link) :
      (readers.foldl (fun l r => l.check r.generation) l).connected = l.connected := by
    induction readers generalizing l with
    | nil => rfl
    | cons r more ih => exact (ih _).trans (Link.connected_check l r.generation)
  cases blocked with
  | true => exact Link.connected_reset b.link
  | false => exact (hchecks _ _).trans (Link.connected_reset b.link)

/-- **Changes of the connection are reported once each.** After all operations
what was reported is right: the link became connected and ceased to be in turn,
and it counts as what was reported last. An opening that succeeds connects it, a
reset ends the connection, and an opening that fails changes nothing. The
operations are steps of the link, among which a reader that was superseded never
has something to report. -/
theorem operations_heard (patience : Nat) (ops : List Operation) :
    (after patience ops).link.Heard
      ∧ (∀ again b, (after patience ops).connect again = (b, .ok ()) → b.link.connected = true)
      ∧ (∀ blocked, ((after patience ops).reset blocked).link.connected = false)
      ∧ (∀ again b e, (after patience ops).connect again = (b, .error e) →
          b.link.news = (after patience ops).link.news
            ∧ b.link.writer = (after patience ops).link.writer
            ∧ b.link.generation = (after patience ops).link.generation
            ∧ b.link.replies = (after patience ops).link.replies)
      ∧ (∃ run, LinkRun.after "sim" run = (after patience ops).rest)
      ∧ ∀ (first rest mid : List LinkStep) (step own : LinkStep), step.begins = true →
          own.reader? = some (LinkRun.begun first + 1) →
          (LinkRun.after "sim" (first ++ .start :: rest ++ step :: mid ++ [own])).link.news
            = (LinkRun.after "sim" (first ++ .start :: rest ++ step :: mid)).link.news := by
  obtain ⟨run, hrun⟩ := exists_run_eq patience ops
  refine ⟨?_, fun again b => connected_of_connect, connected_reset _,
    fun again b e => connect_error, ⟨run, hrun⟩, fun first rest mid step own => ?_⟩
  · have hheard := LinkRun.heard_after "sim" run
    rw [hrun] at hheard
    exact hheard
  · exact LinkRun.news_after_superseded "sim"

/-- A link that is opened, one that is open when opening it again fails, and a
reader that ends after the reset of its link. -/
theorem heard_after_failure_and_reset :
    (∃ b, (after 500 []).connect false = (b, .ok ()) ∧ b.link.connected = true)
      ∧ (∃ b e, (after 500 [.connect false, .failOpens 1]).connect true = (b, .error e)
          ∧ b.link.news = (true, [true]))
      ∧ (LinkRun.after "sim" [.start, .settle, .reset, .lose 1]).link.news
          = (false, [true, false]) := by
  obtain ⟨-, hopen, -⟩ := operations_heard 500 []
  obtain ⟨-, -, -, herror, -, hsuperseded⟩ := operations_heard 500 [.connect false, .failOpens 1]
  refine ⟨⟨_, rfl, hopen false _ rfl⟩, ⟨_, _, rfl, ?_⟩, ?_⟩
  · rw [(herror true _ _ rfl).1]
    rfl
  · refine (hsuperseded [] [.settle] [] .reset (.lose 1) rfl rfl).trans ?_
    rfl

end Bench

end Breadboard
