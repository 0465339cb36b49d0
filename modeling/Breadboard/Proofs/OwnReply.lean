import Breadboard.Proofs.Outstanding

/-!
# Every request gets its own reply

Whatever happens between a caller and the board, in whatever order, a request
that succeeds returns what the board answered to that very request.

It is a fact about whole runs, and rests on what is carried from step to step:
nothing is there before its generation, what is on its way on the present port
ends where a unit ends, and what is to come is accounted for. A request that
takes a reply then takes the only one there is.

That the board answers a request at most once is a fact about the board. Since
each request has a number of its own, it can be said of the answers themselves.
-/

namespace Breadboard.Conversation

variable {s s' : Conversation}

/-! ## What others do subsides -/

/-- Whether a step is one of the caller's. -/
def Step.isCallers : Step → Bool
  | .ask _ | .write .. | .take | .giveUp _ | .recover | .resume => true
  | _ => false

/-- **What others do subsides.** -/
theorem subsides_next (hs : s.Placed) (hframed : s.front.Framed) {step : Step}
    (hothers : step.isCallers = false) : s.Subsides (s.next step) := by
  cases step with
  | opened => exact subsides_begin hs _
  | reset => exact subsides_begin hs _
  | proceed generation => exact subsides_proceed hs generation
  | read port => exact subsides_read hframed port
  | leave port => exact subsides_leave hs port
  | chatter port u => exact subsides_chatter hframed port u
  | answer port r => exact subsides_answer hframed port r
  | ignore port => exact subsides_settleOldest s port
  | refuse e again => exact subsides_refuse s e again
  | fall => exact subsides_fall s
  | push word => exact subsides_push s word
  | flush failure? => exact subsides_flush s failure?
  | _ => exact absurd hothers.symm Bool.false_ne_true

/-- **What is to come stays accounted for.** -/
theorem accounts_next (hs : s.Placed) (hframed : s.front.Framed) (h : s.Accounts s.caller)
    (step : Step) : (s.next step).Accounts (s.next step).caller := by
  cases step with
  | ask r => exact accounts_ask h r
  | write failure? arrived => exact accounts_write h failure? arrived
  | take => exact accounts_take h
  | giveUp milliseconds => exact accounts_giveUp h milliseconds
  | recover => exact accounts_recover hs h
  | resume => exact accounts_resume h
  | _ => exact h.subsides (subsides_next hs hframed rfl)

/-! ## Results -/

/-- **Truthful**: what a request returned is what the board answered to it. -/
def Truthful (s : Conversation) : Prop :=
  ∀ n r v, s.results[n]? = some (r, .ok v) →
    ∃ q reply, (q, reply) ∈ s.answers ∧ q.IsFor n r ∧ r.response? = some reply.tag
      ∧ reply.outcome = .ok v

theorem Truthful.subsides (h : s.Truthful) (hs : s.Subsides s') : s'.Truthful := by
  intro n r v hn
  obtain ⟨q, reply, hanswer, hrest⟩ := h n r v (hs.results ▸ hn)
  exact ⟨q, reply, hs.answers _ hanswer, hrest⟩

/-- A request that is over leaves the results truthful if its own is. -/
theorem Truthful.conclude (h : s.Truthful) {r : Request} {result : Except LinkError UInt16}
    (hnew : ∀ v, result = .ok v → ∃ q reply, (q, reply) ∈ s.answers
      ∧ q.IsFor s.results.length r ∧ r.response? = some reply.tag ∧ reply.outcome = .ok v) :
    (s.conclude r result).Truthful := by
  intro n r' v hn
  change (s.results ++ [(r, result)])[n]? = some (r', .ok v) at hn
  obtain hlt | heq | hgt := Nat.lt_trichotomy n s.results.length
  · rw [List.getElem?_append_left hlt] at hn
    exact h n r' v hn
  · rw [heq, List.getElem?_concat_length] at hn
    obtain ⟨rfl, hresult⟩ := Prod.mk.inj (Option.some.inj hn)
    exact heq ▸ hnew v hresult
  · rw [List.getElem?_eq_none (by simpa using Nat.succ_le_of_lt hgt)] at hn
    exact absurd hn (by simp)

/-- **Results stay truthful**, since a reply that is taken was the only one. -/
theorem truthful_next (hs : s.Placed) (hframed : s.front.Framed) (haccounts : s.Accounts s.caller)
    (h : s.Truthful) (step : Step) : (s.next step).Truthful := by
  cases step with
  | ask r =>
    show (s.ask r).Truthful
    obtain hs | ⟨-, hs | hs⟩ := s.ask_cases r
    · rw [hs]
      exact h
    · rw [hs]
      exact h
    · rw [hs]
      exact h.conclude (by simp)
  | write failure? arrived =>
    show (s.write failure? arrived).Truthful
    obtain hs | ⟨r, link, asked, -, -, -, hs | ⟨e, hs⟩⟩ := s.write_cases failure? arrived
    · rw [hs]
      exact h
    · rw [hs]
      exact h
    · rw [hs]
      exact Truthful.conclude (s := { s with link := link, asked := asked }) h (by simp)
  | take =>
    show s.take.Truthful
    obtain hs | ⟨r, reply, hcaller, hresponse, hreply, hs⟩ := s.take_cases
    · rw [hs]
      exact h
    rw [hcaller] at haccounts
    obtain ⟨q, hanswer, hfor⟩ := haccounts.own reply (List.mem_append_left _ hreply)
    rw [hs]
    exact Truthful.conclude
      (s := { s with link := { s.link with replies := s.link.replies.erase reply } }) h
      fun v hv => ⟨q, reply, hanswer, hfor, hresponse, hv⟩
  | giveUp milliseconds =>
    show (s.giveUp milliseconds).Truthful
    obtain hs | ⟨r, tag, -, hs⟩ := s.giveUp_cases milliseconds
    · rw [hs]
      exact h
    · rw [hs]
      exact Truthful.conclude (s := { s with link := (s.link.giveUp tag milliseconds).1 }) h
        (by simp)
  | recover =>
    show s.recover.Truthful
    obtain hs | ⟨-, hs⟩ := s.recover_cases
    · rw [hs]
      exact h
    · rw [hs]
      exact h
  | resume =>
    show s.resume.Truthful
    obtain hs | ⟨_, -, -, hs⟩ := s.resume_cases
    · rw [hs]
      exact h
    · rw [hs]
      exact h
  | _ => exact h.subsides (subsides_next hs hframed rfl)

/-! ## Numbers -/

/-- The numbers of the requests that the board was asked, answered or not. -/
def numbers (s : Conversation) : List Nat :=
  s.answers.map (·.1.number) ++ s.asked.map (·.number)

/-- How many numbers were given out. The request that waits has the last one. -/
def issued (s : Conversation) : Nat :=
  match s.caller with
  | .waiting _ => s.results.length + 1
  | _ => s.results.length

/-- **Numbered**: every question has a number of its own that was given out. -/
structure Numbered (s : Conversation) : Prop where
  /-- No number was given twice. -/
  once : s.numbers.Nodup
  /-- Every number was given out. -/
  issued : ∀ n ∈ s.numbers, n < s.issued

/-- Numbers stay given out while more of them are. -/
theorem Numbered.of_le (h : s.Numbered) (hnumbers : s'.numbers = s.numbers)
    (hissued : s.issued ≤ s'.issued) : s'.Numbered := by
  constructor
  · rw [hnumbers]
    exact h.once
  · intro n hn
    exact Nat.lt_of_lt_of_le (h.issued n (hnumbers ▸ hn)) hissued

/-- The link has no numbers. -/
theorem Numbered.withLink (h : s.Numbered) (link : Link) :
    ({ s with link := link } : Conversation).Numbered := h.of_le rfl (Nat.le_refl _)

theorem issued_of_caller {c : Caller} (hcaller : s.caller = c) (h : ∀ r, c ≠ .waiting r) :
    s.issued = s.results.length := by
  unfold Conversation.issued
  split
  · rename_i r hwaiting
    exact absurd (hcaller.symm.trans hwaiting) (h r)
  · rfl

theorem issued_le (s : Conversation) : s.issued ≤ s.results.length + 1 := by
  unfold Conversation.issued
  split
  · exact Nat.le_refl _
  · exact Nat.le_succ _

theorem issued_conclude (s : Conversation) (r : Request) (result : Except LinkError UInt16) :
    (s.conclude r result).issued = s.results.length + 1 := by
  cases result <;> exact List.length_append

/-- The request that is over had the last number. -/
theorem Numbered.conclude (h : s.Numbered) (r : Request) (result : Except LinkError UInt16) :
    (s.conclude r result).Numbered := by
  refine h.of_le rfl ?_
  rw [issued_conclude]
  exact s.issued_le

/-- A request that is written is asked under the next number. -/
theorem Numbered.askedWith (h : s.Numbered) {r : Request} (hcaller : s.caller = .approved r)
    (arrived : Bool) :
    ({ s with asked := s.askedWith r arrived, caller := .waiting r } : Conversation).Numbered := by
  have hissued := issued_of_caller hcaller (by simp)
  have hlt (n : Nat) (hn : n ∈ s.numbers) : n < s.results.length := hissued ▸ h.issued n hn
  obtain hasked | ⟨port, -, hasked⟩ := s.askedWith_cases r arrived
  · rw [hasked]
    exact ⟨h.once, fun n hn => Nat.lt_succ_of_lt (hlt n hn)⟩
  · rw [hasked]
    have hnumbers : ({ s with
          asked := s.asked ++ [⟨port, s.results.length, r⟩]
          caller := .waiting r } : Conversation).numbers
        = s.numbers ++ [s.results.length] := by
      unfold numbers
      rw [List.map_append, ← List.append_assoc]
      rfl
    constructor
    · rw [hnumbers, List.nodup_append]
      refine ⟨h.once, List.nodup_cons.mpr ⟨List.not_mem_nil, List.nodup_nil⟩, fun n hn m hm => ?_⟩
      rw [List.mem_singleton.mp hm]
      exact Nat.ne_of_lt (hlt n hn)
    · intro n hn
      rw [hnumbers] at hn
      obtain hn | hn := List.mem_append.mp hn
      · exact Nat.lt_succ_of_lt (hlt n hn)
      · rw [List.mem_singleton.mp hn]
        exact Nat.lt_succ_self _

/-- An answered question keeps its number. -/
theorem Numbered.answer (h : s.Numbered) (port : Nat) (r : Response) :
    (s.answer port r).Numbered := by
  obtain hs | ⟨q, hfound, -, hs⟩ := s.answer_cases port r
  · rw [hs]
    exact h
  obtain ⟨before, rest, hasked, -, -, hsettled⟩ := s.settleOldest_of_find? hfound
  have hperm : (s.answer port r).numbers.Perm s.numbers := by
    rw [hs]
    show (List.map _ (s.answers ++ [(q, r)]) ++ (s.settleOldest port).asked.map _).Perm
      (List.map _ s.answers ++ s.asked.map _)
    rw [hasked, hsettled, List.map_append, List.map_append, List.map_append, List.append_assoc,
      List.map_cons, List.map_cons, List.map_nil, List.singleton_append]
    exact (List.perm_middle.append_left _).symm
  have hissued : (s.answer port r).issued = s.issued := by
    rw [hs]
    rfl
  refine ⟨hperm.nodup_iff.mpr h.once, fun n hn => ?_⟩
  rw [hissued]
  exact h.issued n (hperm.mem_iff.mp hn)

/-- A question that is passed over gives up its number. -/
theorem Numbered.settleOldest (h : s.Numbered) (port : Nat) : (s.settleOldest port).Numbered := by
  have hsub : (s.settleOldest port).numbers.Sublist s.numbers :=
    (List.Sublist.refl _).append (List.eraseP_sublist.map _)
  exact ⟨h.once.sublist hsub, fun n hn => h.issued n (hsub.subset hn)⟩

/-- **Questions stay numbered.** -/
theorem numbered_next (h : s.Numbered) (step : Step) : (s.next step).Numbered := by
  cases step with
  | answer port r => exact h.answer port r
  | ignore port => exact h.settleOldest port
  | write failure? arrived =>
    show (s.write failure? arrived).Numbered
    obtain hs | ⟨r, link, asked, hcaller, -, rfl, hs | ⟨e, hs⟩⟩ := s.write_cases failure? arrived
    · rw [hs]
      exact h
    · have hwritten := h.askedWith hcaller (arrived || failure?.isNone)
      rw [hs]
      exact ⟨hwritten.once, hwritten.issued⟩
    · have hwritten := (h.askedWith hcaller (arrived || failure?.isNone)).conclude r (.error e)
      rw [hs]
      exact ⟨hwritten.once, hwritten.issued⟩
  | ask r =>
    show (s.ask r).Numbered
    obtain hs | ⟨hcaller, hs | hs⟩ := s.ask_cases r
    · rw [hs]
      exact h
    · rw [hs]
      exact h.of_le rfl (Nat.le_of_eq (issued_of_caller hcaller (by simp)))
    · rw [hs]
      exact h.conclude r _
  | take =>
    show s.take.Numbered
    obtain hs | ⟨r, reply, -, -, -, hs⟩ := s.take_cases
    · rw [hs]
      exact h
    · rw [hs]
      exact (h.withLink _).conclude r _
  | giveUp milliseconds =>
    show (s.giveUp milliseconds).Numbered
    obtain hs | ⟨r, tag, -, hs⟩ := s.giveUp_cases milliseconds
    · rw [hs]
      exact h
    · rw [hs]
      exact (h.withLink _).conclude r _
  | recover =>
    show s.recover.Numbered
    obtain hs | ⟨hcaller, hs⟩ := s.recover_cases
    · rw [hs]
      exact h
    · rw [hs]
      exact h.of_le rfl (Nat.le_of_eq (issued_of_caller hcaller (by simp)))
  | resume =>
    show s.resume.Numbered
    obtain hs | ⟨_, hcaller, -, hs⟩ := s.resume_cases
    · rw [hs]
      exact h
    · rw [hs]
      exact h.of_le rfl (Nat.le_of_eq (issued_of_caller hcaller (by simp)))
  -- All others ask nothing and give out no number.
  | refuse | opened | reset | leave => exact h.of_le rfl (Nat.le_refl _)
  | proceed generation =>
    show (s.proceed generation).Numbered
    unfold proceed
    split <;> exact h.of_le rfl (Nat.le_refl _)
  | read port =>
    show (s.read port).Numbered
    unfold read
    split <;> exact h.of_le rfl (Nat.le_refl _)
  | fall =>
    show s.fall.Numbered
    unfold fall
    split <;> exact h.of_le rfl (Nat.le_refl _)
  | chatter port u =>
    show (s.chatter port u).Numbered
    unfold chatter
    split <;> exact h.of_le rfl (Nat.le_refl _)
  | push word =>
    show (if _ then _ else _ : Conversation).Numbered
    split <;> exact h.of_le rfl (Nat.le_refl _)
  | flush failure? =>
    show (s.flush failure?).Numbered
    unfold flush
    split <;> exact h.of_le rfl (Nat.le_refl _)

/-! ## Runs -/

/-- **In order**: what is carried from step to step. -/
structure InOrder (s : Conversation) : Prop where
  /-- Nothing is there before its generation. -/
  placed : s.Placed
  /-- What is on its way ends where a unit ends. -/
  framed : s.front.Framed
  /-- What is to come is accounted for. -/
  accounts : s.Accounts s.caller
  /-- What was returned is what was answered. -/
  truthful : s.Truthful
  /-- Every question has a number of its own. -/
  numbered : s.Numbered

theorem inOrder_fresh (portName : String) : (fresh portName).InOrder where
  placed := by
    constructor
    · exact fun _ _ => rfl
    · exact fun _ _ => rfl
    · exact fun _ _ => rfl
    · exact fun _ hq => absurd hq List.not_mem_nil
    · exact fun _ hg => absurd hg (by simp [fresh, Link.closed])
    · exact fun _ => List.nodup_nil
    · exact fun _ _ => rfl
  framed := fun _ => rfl
  accounts := ⟨rfl, rfl, rfl⟩
  truthful := fun n r v hn => absurd hn (by simp [fresh])
  numbered := ⟨List.nodup_nil, fun n hn => absurd hn List.not_mem_nil⟩

theorem inOrder_next (h : s.InOrder) (step : Step) : (s.next step).InOrder where
  placed := placed_next h.placed step
  framed := framed_next h.placed h.framed step
  accounts := accounts_next h.placed h.framed h.accounts step
  truthful := truthful_next h.placed h.framed h.accounts h.truthful step
  numbered := numbered_next h.numbered step

/-- **Conversations are in order**, whatever happens in them. -/
theorem inOrder_after (portName : String) (run : List Step) : (after portName run).InOrder := by
  induction run using List.reverseRecOn with
  | nil => exact inOrder_fresh portName
  | append_singleton run step ih =>
    rw [after_concat]
    exact inOrder_next ih step

/-- **Every request gets its own reply.** After any run the board has answered
each request at most once, and a request that succeeded returned what the board
answered to it. -/
theorem succeeded_with_own_reply (portName : String) (run : List Step) :
    ((after portName run).answers.map (·.1.number)).Nodup
      ∧ ∀ n r v, (after portName run).results[n]? = some (r, .ok v) →
        ∃ q reply, (q, reply) ∈ (after portName run).answers ∧ q.number = n ∧ q.request = r
          ∧ r.response? = some reply.tag ∧ reply.outcome = .ok v := by
  have h := inOrder_after portName run
  refine ⟨(List.nodup_append.mp h.numbered.once).1, fun n r v hn => ?_⟩
  obtain ⟨q, reply, hanswer, ⟨hnumber, hrequest⟩, hresponse, houtcome⟩ := h.truthful n r v hn
  exact ⟨q, reply, hanswer, hnumber, hrequest, hresponse, houtcome⟩

/-- A status is asked for and given up, the link is reset and opened again, and
the status is asked for once more. The first answer comes late, and half of it
was read when the second one comes. -/
def lateAnswer : List Step := List.flatten [
  .opened :: .replicate 8 (.proceed 1),
  [.ask .status, .write none false, .giveUp 100, .answer 1 (.status 0x11), .read 1],
  .recover :: .replicate 7 (.proceed 2),
  .resume :: .opened :: .replicate 8 (.proceed 3),
  [.ask .status, .write none false, .read 1, .chatter 3 (.event ⟨.clock, true⟩),
    .answer 3 (.status 0x22), .read 3, .read 3, .read 3, .take]]

theorem succeeded_after_lateAnswer :
    (after "sim" lateAnswer).results
        = [(.status, .error (.timeout 's' 100)), (.status, .ok 0x22)]
      ∧ ∃ q reply, (q, reply) ∈ (after "sim" lateAnswer).answers ∧ q.number = 1
        ∧ q.request = .status ∧ Request.response? .status = some reply.tag
        ∧ reply.outcome = .ok 0x22 :=
  ⟨rfl, (succeeded_with_own_reply "sim" lateAnswer).2 1 .status 0x22 rfl⟩

end Breadboard.Conversation
