import Breadboard.Proofs.PresentPort

/-!
# Replies that are outstanding

Replies wait by tag only, and nothing in them says which request they answer. So
that a request takes its own there must be no other: while it waits, at most one
reply is waiting, on its way or still due, and that is the one to it.

What is to come is *accounted* for differently by what the caller is doing.
Between two requests there is nothing. After a failure there may be anything,
and while the reset that has to follow is under way, what waits is going to be
dropped and nothing is added to it, since the reset made another port the
present one, on which nothing was asked.

Everything that others do only takes away from what is to come, or moves a reply
on from being due to being on its way and from there to where it waits. It
*subsides*, and an account stays right while it does. What is left are the steps
of the caller itself.
-/

namespace Breadboard

/-- Whether a question is a request of the caller. -/
def Question.IsFor (q : Question) (number : Nat) (r : Request) : Prop :=
  q.number = number ∧ q.request = r

namespace Conversation

variable {s s' : Conversation}

/-! ## Accounts of what is to come -/

/-- **Quiet**: no reply waits, is on its way or is due. -/
structure Quiet (s : Conversation) : Prop where
  /-- No reply waits. -/
  replies : s.link.replies = []
  /-- None is on its way. -/
  arriving : s.front.arriving = []
  /-- None is due. -/
  due : s.front.due = []

/-- **Expecting** the reply to a request and no other. -/
structure Expecting (s : Conversation) (r : Request) : Prop where
  /-- There is at most one reply. -/
  few : s.link.replies.length + s.front.arriving.length + s.front.due.length ≤ 1
  /-- What is due is the answer to the request. -/
  due : ∀ q ∈ s.front.due, q.IsFor s.results.length r
  /-- What waits or is on its way is the answer to the request. -/
  own : ∀ reply ∈ s.link.replies ++ s.front.arriving,
    ∃ q, (q, reply) ∈ s.answers ∧ q.IsFor s.results.length r

/-- **Clearing**: the reset that began a generation is going to leave nothing. -/
structure Clearing (s : Conversation) (generation : Nat) : Prop where
  /-- The generation has begun. -/
  begun : generation ≤ s.link.generation
  /-- Every reply that waits is going to be dropped. -/
  drained : ∀ reply ∈ s.link.replies, .drain reply.tag ∈ s.acts generation
  /-- None is on its way. -/
  arriving : s.front.arriving = []
  /-- None is due. -/
  due : s.front.due = []

/-- What is to come for a caller. After a failure it may be anything. -/
def Accounts (s : Conversation) : Caller → Prop
  | .idle | .approved _ => s.Quiet
  | .waiting r => s.Expecting r
  | .failed => True
  | .resetting generation => s.Clearing generation

/-- **Subsides**: what is to come does not become more, whatever else happens. -/
structure Subsides (s s' : Conversation) : Prop where
  /-- The caller has got no further. -/
  caller : s'.caller = s.caller
  /-- No request is over. -/
  results : s'.results = s.results
  /-- Generations only grow. -/
  generation : s.link.generation ≤ s'.link.generation
  /-- There is not more to come. -/
  few : s'.link.replies.length + s'.front.arriving.length + s'.front.due.length
    ≤ s.link.replies.length + s.front.arriving.length + s.front.due.length
  /-- Answers stay answers. -/
  answers : ∀ a ∈ s.answers, a ∈ s'.answers
  /-- Nothing else is due. -/
  due : ∀ q ∈ s'.front.due, q ∈ s.front.due
  /-- Nothing else is to come, unless it is the answer to what was due. -/
  own : ∀ reply ∈ s'.link.replies ++ s'.front.arriving,
    reply ∈ s.link.replies ++ s.front.arriving ∨ ∃ q ∈ s.front.due, (q, reply) ∈ s'.answers
  /-- Only what was on its way or due is on its way. -/
  arriving : s'.front.arriving.length ≤ s.front.arriving.length + s.front.due.length
  /-- A reply that is not dropped is still going to be. -/
  undrained : ∀ reply ∈ s'.link.replies, ∀ g ≤ s.link.generation,
    .drain reply.tag ∈ s.acts g → .drain reply.tag ∈ s'.acts g

theorem Quiet.subsides (h : s.Quiet) (hs : s.Subsides s') : s'.Quiet := by
  have hfew := hs.few
  rw [h.replies, h.arriving, h.due] at hfew
  simp only [List.length_nil, Nat.add_zero, Nat.le_zero, Nat.add_eq_zero_iff,
    List.length_eq_zero_iff] at hfew
  exact ⟨hfew.1.1, hfew.1.2, hfew.2⟩

theorem Expecting.subsides {r : Request} (h : s.Expecting r) (hs : s.Subsides s') :
    s'.Expecting r := by
  refine ⟨Nat.le_trans hs.few h.few, fun q hq => ?_, fun reply hreply => ?_⟩
  · rw [hs.results]
    exact h.due q (hs.due q hq)
  · rw [hs.results]
    obtain hold | ⟨q, hq, hanswer⟩ := hs.own reply hreply
    · obtain ⟨q, hanswer, hfor⟩ := h.own reply hold
      exact ⟨q, hs.answers _ hanswer, hfor⟩
    · exact ⟨q, hanswer, h.due q hq⟩

theorem Clearing.subsides {generation : Nat} (h : s.Clearing generation) (hs : s.Subsides s') :
    s'.Clearing generation := by
  refine ⟨Nat.le_trans h.begun hs.generation, fun reply hreply => ?_, ?_, ?_⟩
  · refine hs.undrained reply hreply generation h.begun (h.drained reply ?_)
    -- Nothing was due or on its way, so the reply waited already.
    obtain hold | ⟨q, hq, -⟩ := hs.own reply (List.mem_append_left _ hreply)
    · rw [h.arriving, List.append_nil] at hold
      exact hold
    · exact absurd (h.due ▸ hq) List.not_mem_nil
  · have harriving := hs.arriving
    rw [h.arriving, h.due] at harriving
    exact List.length_eq_zero_iff.mp (Nat.le_zero.mp harriving)
  · exact List.eq_nil_iff_forall_not_mem.mpr fun q hq =>
      absurd (h.due ▸ hs.due q hq) List.not_mem_nil

/-- **An account stays right** while what is to come subsides. -/
theorem Accounts.subsides (h : s.Accounts s.caller) (hs : s.Subsides s') :
    s'.Accounts s'.caller := by
  rw [hs.caller]
  revert h
  cases s.caller with
  | idle => exact fun h => Quiet.subsides h hs
  | approved r => exact fun h => Quiet.subsides h hs
  | waiting r => exact fun h => Expecting.subsides h hs
  | failed => exact fun _ => trivial
  | resetting generation => exact fun h => Clearing.subsides h hs

/-! ## What subsides -/

/-- Nothing is added to what is on its way or due. -/
theorem subsides_of_sublist (hcaller : s'.caller = s.caller) (hresults : s'.results = s.results)
    (hgeneration : s'.link.generation = s.link.generation) (hacts : s'.acts = s.acts)
    (hreplies : s'.link.replies = s.link.replies) (hanswers : ∀ a ∈ s.answers, a ∈ s'.answers)
    (harriving : s'.front.arriving.Sublist s.front.arriving)
    (hdue : s'.front.due.Sublist s.front.due) : s.Subsides s' := by
  constructor
  · exact hcaller
  · exact hresults
  · exact Nat.le_of_eq hgeneration.symm
  · rw [hreplies]
    exact Nat.add_le_add (Nat.add_le_add_left harriving.length_le _) hdue.length_le
  · exact hanswers
  · exact hdue.subset
  · intro reply hreply
    rw [hreplies] at hreply
    exact Or.inl (((List.Sublist.refl _).append harriving).subset hreply)
  · exact Nat.le_trans harriving.length_le (Nat.le_add_right _ _)
  · intro reply _ g _ hdrain
    rw [hacts]
    exact hdrain

/-- What is on its way and what is due are the same. -/
theorem subsides_of_eq (hcaller : s'.caller = s.caller) (hresults : s'.results = s.results)
    (hgeneration : s'.link.generation = s.link.generation) (hacts : s'.acts = s.acts)
    (hreplies : s'.link.replies = s.link.replies) (hanswers : ∀ a ∈ s.answers, a ∈ s'.answers)
    (harriving : s'.front.arriving = s.front.arriving) (hdue : s'.front.due = s.front.due) :
    s.Subsides s' :=
  subsides_of_sublist hcaller hresults hgeneration hacts hreplies hanswers
    (harriving ▸ List.Sublist.refl _) (hdue ▸ List.Sublist.refl _)

/-- Nothing happens to what is to come. -/
theorem subsides_of_same (hcaller : s'.caller = s.caller) (hresults : s'.results = s.results)
    (hground : s'.ground = s.ground) (hreplies : s'.link.replies = s.link.replies)
    (hanswers : s'.answers = s.answers) : s.Subsides s' := by
  have hfront := front_congr hground
  exact subsides_of_eq hcaller hresults (congrArg (fun g => g.1.1) hground)
    (congrArg (fun g => g.2.1) hground) hreplies (fun a ha => hanswers ▸ ha)
    (congrArg Front.arriving hfront) (congrArg Front.due hfront)

theorem subsides_refuse (s : Conversation) (e : LinkError) (again : Bool) :
    s.Subsides { s with link := s.link.failToOpen e again } := by
  refine subsides_of_same rfl rfl
    (congrArg (·, s.acts, s.unread, s.asked) (Link.failToOpen_asBefore s.link e again).ports) ?_ rfl
  show (s.link.failToOpen e again).replies = _
  unfold Link.failToOpen
  split <;> rfl

theorem subsides_fall (s : Conversation) : s.Subsides s.fall := by
  unfold fall
  split
  · exact subsides_of_same rfl rfl rfl rfl rfl
  · exact subsides_of_same rfl rfl
      (congrArg (·, s.acts, s.unread, s.asked) (Link.ports_transition s.link false))
      (Link.replies_transition s.link false) rfl

theorem subsides_push (s : Conversation) (word : ControlWord) :
    s.Subsides (s.next (.push word)) := by
  show s.Subsides (if _ then _ else _)
  split <;> exact subsides_of_same rfl rfl rfl rfl rfl

theorem subsides_flush (s : Conversation) (failure? : Option LineFailure) :
    s.Subsides (s.flush failure?) := by
  unfold flush
  split
  · exact subsides_of_same rfl rfl rfl rfl rfl
  · exact subsides_of_same rfl rfl
      (congrArg (·, s.acts, s.unread, s.asked) (Link.write_asBefore ..).ports)
      (Link.replies_write ..) rfl

theorem subsides_begin (hs : s.Placed) (acts : List LinkAct) : s.Subsides (s.begin acts) := by
  have harriving : (s.begin acts).front.arriving = [] := by
    rw [front_begin hs]
    unfold Front.arriving
    split <;> rfl
  have hdue : (s.begin acts).front.due = [] := by
    rw [front_begin hs]
    unfold Front.due
    split <;> rfl
  constructor
  · rfl
  · rfl
  · exact Nat.le_succ _
  · rw [harriving, hdue]
    exact Nat.le_trans (Nat.le_add_right _ _) (Nat.le_add_right _ _)
  · exact fun a ha => ha
  · exact fun q hq => absurd (hdue ▸ hq) List.not_mem_nil
  · intro reply hreply
    rw [harriving, List.append_nil] at hreply
    exact Or.inl (List.mem_append_left _ hreply)
  · rw [harriving]
    exact Nat.zero_le _
  · intro reply _ g hg hdrain
    have hacts : (s.begin acts).acts g = s.acts g :=
      Function.update_of_ne (Nat.ne_of_lt (Nat.lt_succ_of_le hg)) _ _
    rw [hacts]
    exact hdrain

theorem subsides_proceed (hs : s.Placed) (generation : Nat) :
    s.Subsides (s.proceed generation) := by
  have hfront := front_proceed hs generation
  obtain h | ⟨act, rest, hacts, h⟩ := s.proceed_cases generation
  · rw [h]
    exact subsides_of_same rfl rfl rfl rfl rfl
  have hreplies : (s.proceed generation).link.replies
      = s.link.replies.filter (act ≠ .drain ·.tag) := by
    rw [h]
    exact Link.replies_perform s.link generation act
  have hsub : (s.proceed generation).link.replies.Sublist s.link.replies :=
    hreplies ▸ List.filter_sublist
  constructor
  · rw [h]
  · rw [h]
  · rw [h]
    exact Nat.le_of_eq (Link.generation_perform s.link generation act).symm
  · rw [hfront]
    exact Nat.add_le_add_right (Nat.add_le_add_right hsub.length_le _) _
  · rw [h]
    exact fun a ha => ha
  · exact fun q hq => hfront ▸ hq
  · intro reply hreply
    rw [hfront] at hreply
    exact Or.inl ((hsub.append (List.Sublist.refl _)).subset hreply)
  · rw [hfront]
    exact Nat.le_add_right _ _
  · intro reply hreply g _ hdrain
    rw [hreplies] at hreply
    have hact : act ≠ .drain reply.tag := of_decide_eq_true (List.mem_filter.mp hreply).2
    rw [h]
    show _ ∈ Function.update s.acts generation rest g
    by_cases hg : g = generation
    · rw [hg, hacts] at hdrain
      rw [hg, Function.update_self]
      exact (List.mem_cons.mp hdrain).resolve_left (Ne.symm hact)
    · rw [Function.update_of_ne hg]
      exact hdrain

theorem subsides_read (hframed : s.front.Framed) (port : Nat) : s.Subsides (s.read port) := by
  obtain ⟨-, hdue, completed, hreplies, harriving⟩ := front_read hframed port
  have hrest : (s.read port).caller = s.caller ∧ (s.read port).results = s.results
      ∧ (s.read port).answers = s.answers ∧ (s.read port).acts = s.acts
      ∧ (s.read port).link.generation = s.link.generation := by
    obtain h | ⟨_, b, _, -, -, h⟩ := s.read_cases port
    · rw [h]
      exact ⟨rfl, rfl, rfl, rfl, rfl⟩
    · rw [h]
      exact ⟨rfl, rfl, rfl, rfl, Link.generation_receive s.link port b⟩
  obtain ⟨hcaller, hresults, hanswers, hacts, hgeneration⟩ := hrest
  have hsame : (s.read port).link.replies ++ (s.read port).front.arriving
      = s.link.replies ++ s.front.arriving := by
    rw [hreplies, harriving, List.append_assoc]
  constructor
  · exact hcaller
  · exact hresults
  · exact Nat.le_of_eq hgeneration.symm
  · rw [hdue, ← List.length_append, ← List.length_append]
    exact Nat.le_of_eq (congrArg (·.length + _) hsame)
  · exact fun a ha => hanswers ▸ ha
  · exact fun q hq => hdue ▸ hq
  · exact fun reply hreply => Or.inl (hsame ▸ hreply)
  · rw [harriving, List.length_append]
    omega
  · intro reply _ g _ hdrain
    rw [hacts]
    exact hdrain

theorem subsides_leave (hs : s.Placed) (port : Nat) : s.Subsides (s.leave port) := by
  refine subsides_of_sublist rfl rfl (congrArg Prod.fst (Link.ports_leave s.link port)) rfl
    (Link.replies_leave s.link port) (fun a ha => ha) ?_ ?_
  · obtain h | h := front_leave hs port
    · exact h ▸ List.Sublist.refl _
    · rw [Front.arriving_of_not_live h]
      exact List.nil_sublist _
  · obtain h | h := front_leave hs port
    · exact h ▸ List.Sublist.refl _
    · rw [Front.due_of_not_live h]
      exact List.nil_sublist _

theorem subsides_chatter (hframed : s.front.Framed) (port : Nat) (u : Inbound) :
    s.Subsides (s.chatter port u) := by
  obtain ⟨-, harriving, hdue⟩ := front_chatter hframed port u
  obtain h | ⟨-, h⟩ := s.chatter_cases port u
  · rw [h]
    exact subsides_of_same rfl rfl rfl rfl rfl
  rw [h] at harriving hdue ⊢
  exact subsides_of_eq rfl rfl rfl rfl rfl (fun a ha => ha) harriving hdue

theorem subsides_settleOldest (s : Conversation) (port : Nat) :
    s.Subsides (s.settleOldest port) := by
  refine subsides_of_sublist rfl rfl rfl rfl rfl (fun a ha => ha) (List.Sublist.refl _) ?_
  show (if s.front.live then (s.asked.eraseP _).filter _ else []).Sublist
    (if s.front.live then s.asked.filter _ else [])
  split
  · exact List.eraseP_sublist.filter _
  · exact List.Sublist.refl _

/-- What an answer leaves alone. -/
theorem answer_frame (s : Conversation) (port : Nat) (r : Response) :
    (s.answer port r).caller = s.caller ∧ (s.answer port r).results = s.results
      ∧ (s.answer port r).link = s.link ∧ (s.answer port r).acts = s.acts
      ∧ ∀ a ∈ s.answers, a ∈ (s.answer port r).answers := by
  obtain h | ⟨q, -, -, h⟩ := s.answer_cases port r
  · rw [h]
    exact ⟨rfl, rfl, rfl, rfl, fun a ha => ha⟩
  · rw [h]
    exact ⟨rfl, rfl, rfl, rfl, fun a ha => List.mem_append_left _ ha⟩

theorem subsides_answer (hframed : s.front.Framed) (port : Nat) (r : Response) :
    s.Subsides (s.answer port r) := by
  obtain ⟨hcaller, hresults, hlink, hacts, hanswers⟩ := s.answer_frame port r
  have hgeneration := congrArg Link.generation hlink
  have hreplies := congrArg Link.replies hlink
  obtain ⟨-, ⟨harriving, hdue⟩ | ⟨q, hanswer, hdue, harriving⟩⟩ := front_answer hframed port r
  · exact subsides_of_eq hcaller hresults hgeneration hacts hreplies hanswers harriving hdue
  · constructor
    · exact hcaller
    · exact hresults
    · exact Nat.le_of_eq hgeneration.symm
    · rw [hreplies, harriving, hdue]
      simp only [List.length_append, List.length_cons, List.length_nil]
      omega
    · exact hanswers
    · intro p hp
      rw [hdue]
      exact List.mem_cons_of_mem q hp
    · intro reply hreply
      rw [hreplies, harriving, ← List.append_assoc, List.mem_append, List.mem_singleton] at hreply
      obtain hreply | rfl := hreply
      · exact Or.inl hreply
      · exact Or.inr ⟨q, hdue ▸ List.mem_cons_self, hanswer⟩
    · rw [harriving, hdue]
      simp only [List.length_append, List.length_cons, List.length_nil]
      omega
    · intro reply _ g _ hdrain
      rw [hacts]
      exact hdrain

/-! ## The caller's own steps -/

/-- A failure asks for no account. -/
theorem accounts_of_error (s : Conversation) (r : Request) (e : LinkError) :
    (s.conclude r (.error e)).Accounts (s.conclude r (.error e)).caller := trivial

theorem accounts_ask (h : s.Accounts s.caller) (r : Request) :
    (s.ask r).Accounts (s.ask r).caller := by
  obtain hs | ⟨hcaller, hs | hs⟩ := s.ask_cases r
  · rw [hs]
    exact h
  · rw [hcaller] at h
    rw [hs]
    exact ⟨h.replies, h.arriving, h.due⟩
  · rw [hs]
    exact accounts_of_error s r _

/-- Once a request is written, at most its question is due in addition. -/
theorem due_askedWith (s : Conversation) (r : Request) (arrived : Bool) :
    ∃ new : List Question, new.length ≤ 1 ∧ (∀ q ∈ new, q.IsFor s.results.length r)
      ∧ ({ s with asked := s.askedWith r arrived } : Conversation).front.due.Sublist
          (s.front.due ++ new) := by
  obtain h | ⟨port, -, h⟩ := s.askedWith_cases r arrived
  · rw [h]
    exact ⟨[], Nat.zero_le _, fun q hq => absurd hq List.not_mem_nil,
      List.sublist_append_left _ _⟩
  · rw [h]
    refine ⟨[⟨port, s.results.length, r⟩], Nat.le_refl _, fun q hq => ?_, ?_⟩
    · rw [List.mem_singleton.mp hq]
      exact ⟨rfl, rfl⟩
    · show (if s.front.live then (s.asked ++ _).filter _ else []).Sublist
        ((if s.front.live then s.asked.filter _ else []) ++ _)
      split
      · rw [List.filter_append]
        exact (List.Sublist.refl _).append List.filter_sublist
      · exact List.nil_sublist _

theorem accounts_write (h : s.Accounts s.caller) (failure? : Option LineFailure) (arrived : Bool) :
    (s.write failure? arrived).Accounts (s.write failure? arrived).caller := by
  obtain hs | ⟨r, link, asked, hcaller, rfl, rfl, hs | ⟨e, hs⟩⟩ := s.write_cases failure? arrived
  · rw [hs]
    exact h
  · rw [hcaller] at h
    have hreplies : (s.write failure? arrived).link.replies = [] := by
      rw [hs]
      exact (Link.replies_write s.link r failure?).trans h.replies
    have hfront : (s.write failure? arrived).front
        = ({ s with asked := s.askedWith r (arrived || failure?.isNone) }).front :=
      front_congr (ground_write hcaller)
    have harriving : (s.write failure? arrived).front.arriving = [] := by
      rw [hfront]
      exact h.arriving
    obtain ⟨new, hfew, hnew, hdue⟩ := s.due_askedWith r (arrived || failure?.isNone)
    rw [← hfront, h.due, List.nil_append] at hdue
    have hcaller' : (s.write failure? arrived).caller = .waiting r := by
      rw [hs]
    have hresults : (s.write failure? arrived).results = s.results := by
      rw [hs]
    rw [hcaller']
    refine ⟨?_, fun q hq => ?_, fun reply hreply => ?_⟩
    · rw [hreplies, harriving]
      exact Nat.le_trans (Nat.le_of_eq (Nat.zero_add _)) (Nat.le_trans hdue.length_le hfew)
    · rw [hresults]
      exact hnew q (hdue.subset hq)
    · rw [hreplies, harriving] at hreply
      exact absurd hreply List.not_mem_nil
  · rw [hs]
    exact accounts_of_error _ r e

theorem accounts_take (h : s.Accounts s.caller) : s.take.Accounts s.take.caller := by
  obtain hs | ⟨r, reply, hcaller, -, hreply, hs⟩ := s.take_cases
  · rw [hs]
    exact h
  rw [hcaller] at h
  rw [hs]
  cases reply.outcome with
  | error e => exact accounts_of_error _ r e
  | ok v =>
    -- The reply that was taken was the only one.
    have hfew := h.few
    have hpos := List.length_pos_of_mem hreply
    have hreplies : s.link.replies.erase reply = [] := by
      rw [← List.length_eq_zero_iff, List.length_erase_of_mem hreply]
      omega
    have harriving : s.front.arriving = [] := List.length_eq_zero_iff.mp (by omega)
    have hdue : s.front.due = [] := List.length_eq_zero_iff.mp (by omega)
    exact ⟨hreplies, harriving, hdue⟩

theorem accounts_giveUp (h : s.Accounts s.caller) (milliseconds : Nat) :
    (s.giveUp milliseconds).Accounts (s.giveUp milliseconds).caller := by
  obtain hs | ⟨r, tag, -, hs⟩ := s.giveUp_cases milliseconds
  · rw [hs]
    exact h
  · rw [hs]
    exact accounts_of_error _ r _

theorem accounts_recover (hplaced : s.Placed) (h : s.Accounts s.caller) :
    s.recover.Accounts s.recover.caller := by
  obtain hs | ⟨-, hs⟩ := s.recover_cases
  · rw [hs]
    exact h
  rw [hs]
  have hacts : (s.begin LinkAct.resetting).acts (s.link.generation + 1) = LinkAct.resetting :=
    Function.update_self _ _ _
  have hfront := front_begin hplaced LinkAct.resetting
  refine ⟨Nat.le_refl _, fun reply _ => ?_, ?_, ?_⟩
  · show _ ∈ (s.begin LinkAct.resetting).acts (s.link.generation + 1)
    rw [hacts]
    exact LinkAct.drain_mem_resetting reply.tag
  · show (s.begin LinkAct.resetting).front.arriving = []
    rw [hfront]
    rfl
  · show (s.begin LinkAct.resetting).front.due = []
    rw [hfront]
    rfl

theorem accounts_resume (h : s.Accounts s.caller) : s.resume.Accounts s.resume.caller := by
  obtain hs | ⟨generation, hcaller, hacts, hs⟩ := s.resume_cases
  · rw [hs]
    exact h
  rw [hcaller] at h
  rw [hs]
  refine ⟨List.eq_nil_iff_forall_not_mem.mpr fun reply hreply => ?_, h.arriving, h.due⟩
  -- Whatever still waited would still have to be dropped.
  exact absurd (hacts ▸ h.drained reply hreply) List.not_mem_nil

end Conversation

end Breadboard
