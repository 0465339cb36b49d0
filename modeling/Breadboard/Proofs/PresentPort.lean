import Breadboard.Proofs.Conversation

/-!
# The present port

Replies can only come from the present port, which is that of the present
generation. What it is still to give is decided by few things: whether it has a
reader or will have one, what this reader has received of a response, the bytes
it has not taken, and the questions that the board may still answer there. They
are the *front* of a conversation.

This module says what each step does to the front. Most do nothing to it. An
opening or a reset makes another port the present one, on which nothing has
happened yet, and that is what cuts off whatever was on its way.
-/

namespace Breadboard

/-! ## Readers that are there -/

namespace Link

variable {l l' : Link}

theorem reader?_congr (h : l'.readers = l.readers) (generation : Nat) :
    l'.reader? generation = l.reader? generation := by
  unfold reader?
  rw [h]

theorem AsBefore.reader?_eq (h : l'.AsBefore l) (generation : Nat) :
    l'.reader? generation = l.reader? generation :=
  reader?_congr (congrArg (fun p => p.2.1) h.ports) generation

/-- The end of a reader makes no reader appear. -/
theorem reader?_dismiss_eq_none {generation : Nat} (h : l.reader? generation = none)
    (port : Nat) : (l.dismiss port).reader? generation = none := by
  by_cases heq : generation = port
  · rw [heq]
    exact reader?_dismiss_self l port
  · rw [reader?_dismiss_of_ne heq, h]

/-- Readers whose generation is kept are found where they were. -/
theorem reader?_map {f : Reader → Reader} (hf : ∀ r, (f r).generation = r.generation)
    (generation : Nat) :
    ({ l with readers := l.readers.map f } : Link).reader? generation
      = (l.reader? generation).map f := by
  unfold reader?
  rw [List.find?_map]
  simp only [Function.comp_def, hf]

/-- A byte makes no reader appear. -/
theorem reader?_receive_eq_none {generation : Nat} (h : l.reader? generation = none)
    (port : Nat) (b : UInt8) : (l.receive port b).reader? generation = none := by
  obtain hl | ⟨-, hl⟩ | ⟨f, hf, hl⟩ := receive_cases l port b
  · rw [hl, h]
  · rw [hl]
    exact reader?_dismiss_eq_none h port
  · rw [hl.reader?_eq, reader?_map hf, h]
    rfl

theorem replies_deliver (l : Link) (u : Inbound) :
    (l.deliver u).replies = l.replies ++ u.response?.toList := by
  cases u with
  | response r => rfl
  | event e => exact (List.append_nil _).symm
  | unknown b => exact (List.append_nil _).symm

/-- **The present reader takes a byte**: it has received that, and a response
that the byte completes is a reply. -/
theorem receive_present {r : Reader} (h : l.reader? l.generation = some r) (b : UInt8) :
    (l.receive l.generation b).reader? l.generation
        = some { r with demux := (r.demux.push b).1 }
      ∧ (l.receive l.generation b).replies
        = l.replies ++ (r.demux.push b).2.toList.filterMap Inbound.response? := by
  have hgeneration : r.generation = l.generation := by
    simpa using List.find?_some h
  unfold receive
  rw [h]
  dsimp only
  rw [if_pos rfl]
  have hfound := reader?_map (l := l) (f := fun other =>
    if other.generation = l.generation then { other with demux := (r.demux.push b).1 } else other)
    (fun other => by split <;> rfl) l.generation
  rw [h, Option.map_some, if_pos hgeneration] at hfound
  cases (r.demux.push b).2 with
  | none => exact ⟨hfound, (List.append_nil _).symm⟩
  | some u =>
    refine ⟨?_, ?_⟩
    · exact ((deliver_asBefore _ u).reader?_eq _).trans hfound
    · refine (replies_deliver _ u).trans ?_
      cases u <;> rfl

/-- Any other reader that takes a byte ends. -/
theorem receive_superseded {port : Nat} {r : Reader} (h : l.reader? port = some r)
    (hport : port ≠ l.generation) (b : UInt8) : l.receive port b = l.dismiss port := by
  unfold receive
  rw [h]
  exact if_neg hport

end Link

namespace Conversation

variable {s s' : Conversation}

/-! ## Nothing comes before its generation -/

/-- **Placed**: there is nothing of a generation that has not begun, and no
reader of a generation that is still to start one. -/
structure Placed (s : Conversation) : Prop where
  /-- Nothing is to be done for a generation that has not begun. -/
  acts : ∀ g, s.link.generation < g → s.acts g = []
  /-- Nothing was sent on its port. -/
  unread : ∀ g, s.link.generation < g → s.unread g = []
  /-- It has no reader. -/
  reader : ∀ g, s.link.generation < g → s.link.reader? g = none
  /-- The board was asked nothing there. -/
  asked : ∀ q ∈ s.asked, q.port ≤ s.link.generation
  /-- Its port is not written to. -/
  writer : ∀ g, s.link.writer = some g → g ≤ s.link.generation
  /-- Nothing is to be done twice. -/
  once : ∀ g, (s.acts g).Nodup
  /-- A reader that is still to be started is not there. -/
  unstarted : ∀ g, .spawn ∈ s.acts g → s.link.reader? g = none

/-- The ports and all that happens on them. -/
def ground (s : Conversation) :
    (Nat × List Reader × Option Nat) × (Nat → List LinkAct) × (Nat → List UInt8) × List Question :=
  (s.link.ports, s.acts, s.unread, s.asked)

theorem Placed.congr (hs : s.Placed) (h : s'.ground = s.ground) : s'.Placed := by
  simp only [ground, Link.ports, Prod.mk.injEq] at h
  obtain ⟨⟨hgeneration, hreaders, hwriter⟩, hacts, hunread, hasked⟩ := h
  constructor
  · rw [hgeneration, hacts]
    exact hs.acts
  · rw [hgeneration, hunread]
    exact hs.unread
  · intro g hg
    rw [Link.reader?_congr hreaders]
    exact hs.reader g (hgeneration ▸ hg)
  · rw [hgeneration, hasked]
    exact hs.asked
  · rw [hgeneration, hwriter]
    exact hs.writer
  · rw [hacts]
    exact hs.once
  · intro g hg
    rw [Link.reader?_congr hreaders]
    exact hs.unstarted g (hacts ▸ hg)

/-- What is to be done for a generation is done after it has begun. -/
theorem Placed.begun (hs : s.Placed) {g : Nat} (h : s.acts g ≠ []) : g ≤ s.link.generation :=
  Nat.le_of_not_lt fun hlt => h (hs.acts g hlt)

theorem Placed.begin (hs : s.Placed) {acts : List LinkAct} (honce : acts.Nodup) :
    (s.begin acts).Placed := by
  have hother {g : Nat} (hg : g ≠ s.link.generation + 1) : (s.begin acts).acts g = s.acts g :=
    Function.update_of_ne hg _ _
  constructor
  · exact fun g hg => (hother (Nat.ne_of_gt hg)).trans (hs.acts g (Nat.lt_of_succ_lt hg))
  · exact fun g hg => hs.unread g (Nat.lt_of_succ_lt hg)
  · exact fun g hg => hs.reader g (Nat.lt_of_succ_lt hg)
  · exact fun q hq => Nat.le_succ_of_le (hs.asked q hq)
  · exact fun g hg => Nat.le_succ_of_le (hs.writer g hg)
  · intro g
    by_cases hg : g = s.link.generation + 1
    · have hself : (s.begin acts).acts g = acts := hg ▸ Function.update_self _ _ _
      rw [hself]
      exact honce
    · rw [hother hg]
      exact hs.once g
  · intro g hspawn
    by_cases hg : g = s.link.generation + 1
    · exact hs.reader g (hg ▸ Nat.lt_succ_self _)
    · exact hs.unstarted g (hother hg ▸ hspawn)

theorem Placed.proceed (hs : s.Placed) (generation : Nat) : (s.proceed generation).Placed := by
  obtain h | ⟨act, rest, hacts, h⟩ := s.proceed_cases generation
  · rw [h]
    exact hs
  rw [h]
  have hbegun : generation ≤ s.link.generation := hs.begun (by simp [hacts])
  have honce := hs.once generation
  rw [hacts, List.nodup_cons] at honce
  have hgeneration := Link.generation_perform s.link generation act
  -- What is to be done has only become less.
  have hsub (g : Nat) : (Function.update s.acts generation rest g).Sublist (s.acts g) := by
    by_cases hg : g = generation
    · rw [hg, Function.update_self, hacts]
      exact List.sublist_cons_self act rest
    · exact Function.update_of_ne hg _ _ ▸ List.Sublist.refl _
  have hreader (g : Nat) (hnone : s.link.reader? g = none) (hg : g = generation → act ≠ .spawn) :
      (s.link.perform generation act).reader? g = none := by
    by_cases hspawn : act = .spawn
    · have hne : generation ≠ g := fun heq => hg heq.symm hspawn
      rw [hspawn]
      exact (List.find?_cons_of_neg (by simpa using hne)).trans hnone
    · rw [Link.reader?_congr (Link.readers_perform_of_ne hspawn s.link generation), hnone]
  constructor
  · intro g hg
    rw [hgeneration] at hg
    exact List.eq_nil_of_sublist_nil (hs.acts g hg ▸ hsub g)
  · intro g hg
    rw [hgeneration] at hg
    exact hs.unread g hg
  · intro g hg
    rw [hgeneration] at hg
    exact hreader g (hs.reader g hg) fun heq => absurd hbegun (Nat.not_le_of_lt (heq ▸ hg))
  · rw [hgeneration]
    exact hs.asked
  · intro g hg
    rw [hgeneration]
    obtain rfl | hwriter := Link.writer_perform_eq_some hg
    · exact hbegun
    · exact hs.writer g hwriter
  · exact fun g => (hs.once g).sublist (hsub g)
  · intro g hspawn
    change .spawn ∈ Function.update s.acts generation rest g at hspawn
    refine hreader g (hs.unstarted g ((hsub g).subset hspawn)) fun heq hact => ?_
    -- The reader would be started twice.
    rw [heq, Function.update_self, ← hact] at hspawn
    exact honce.1 hspawn

theorem Placed.read (hs : s.Placed) (port : Nat) : (s.read port).Placed := by
  obtain h | ⟨reader, b, rest, hreader, hunread, h⟩ := s.read_cases port
  · rw [h]
    exact hs
  rw [h]
  have hgeneration := Link.generation_receive s.link port b
  have hwriter : (s.link.receive port b).writer = s.link.writer := by
    obtain hl | ⟨-, hl⟩ | ⟨f, -, hl⟩ := Link.receive_cases s.link port b
    · rw [hl]
    · rw [hl]
      rfl
    · exact congrArg (fun p => p.2.2) hl.ports
  constructor
  · rw [hgeneration]
    exact hs.acts
  · intro g hg
    rw [hgeneration] at hg
    have hne : g ≠ port := by
      rintro rfl
      exact absurd (hs.unread g hg) (by simp [hunread])
    exact (Function.update_of_ne hne _ _).trans (hs.unread g hg)
  · intro g hg
    rw [hgeneration] at hg
    exact Link.reader?_receive_eq_none (hs.reader g hg) port b
  · rw [hgeneration]
    exact hs.asked
  · rw [hgeneration, hwriter]
    exact hs.writer
  · exact hs.once
  · exact fun g hg => Link.reader?_receive_eq_none (hs.unstarted g hg) port b

theorem Placed.leave (hs : s.Placed) (port : Nat) : (s.leave port).Placed := by
  have hports := Link.ports_leave s.link port
  simp only [Link.ports, Prod.mk.injEq] at hports
  obtain ⟨hgeneration, hreaders, hwriter⟩ := hports
  have hreader (g : Nat) (hnone : s.link.reader? g = none) :
      (s.leave port).link.reader? g = none :=
    (Link.reader?_congr hreaders g).trans (Link.reader?_dismiss_eq_none hnone port)
  constructor
  · exact fun g hg => hs.acts g (hgeneration ▸ hg)
  · exact fun g hg => hs.unread g (hgeneration ▸ hg)
  · exact fun g hg => hreader g (hs.reader g (hgeneration ▸ hg))
  · exact fun q hq => hgeneration ▸ hs.asked q hq
  · exact fun g hg => hgeneration ▸ hs.writer g (hwriter ▸ hg)
  · exact hs.once
  · exact fun g hg => hreader g (hs.unstarted g hg)

/-- Something is sent on a port that was opened. -/
theorem Placed.send (hs : s.Placed) {port : Nat} (hport : port ≤ s.link.generation)
    (u : Inbound) : (s.send port u).Placed := by
  refine ⟨hs.acts, fun g hg => ?_, hs.reader, hs.asked, hs.writer, hs.once, hs.unstarted⟩
  have hne : g ≠ port := Nat.ne_of_gt (Nat.lt_of_le_of_lt hport hg)
  exact (Function.update_of_ne hne _ _).trans (hs.unread g hg)

/-- The board is asked other things, but on no other ports than were opened. -/
theorem Placed.withAsked (hs : s.Placed) {asked : List Question}
    (h : ∀ q ∈ asked, q.port ≤ s.link.generation) :
    ({ s with asked := asked } : Conversation).Placed :=
  ⟨hs.acts, hs.unread, hs.reader, h, hs.writer, hs.once, hs.unstarted⟩

end Conversation

/-! ## What is still to come -/

/-- **Front**: what decides which replies are still to come. -/
structure Front where
  /-- Whether the present port has a reader or is going to have one. -/
  live : Bool
  /-- What the reader has received of a response. -/
  demux : Demux
  /-- The bytes that it has not taken. -/
  unread : List UInt8
  /-- What the board may still answer on the port. -/
  asked : List Question

namespace Front

variable {p : Front} {u : Inbound}

/-- The front of a port: its reader, what is to be done for its generation, the
bytes sent on it and the questions asked there. -/
def ofPort (reader? : Option Reader) (acts : List LinkAct) (unread : List UInt8)
    (asked : List Question) : Front where
  live := reader?.isSome || decide (.spawn ∈ acts)
  demux := (reader?.map (·.demux)).getD .idle
  unread := unread
  asked := asked

/-- Of what is to be done only the start of a reader counts. -/
theorem ofPort_congr {acts acts' : List LinkAct} (h : .spawn ∈ acts' ↔ .spawn ∈ acts)
    (reader? : Option Reader) (unread : List UInt8) (asked : List Question) :
    ofPort reader? acts' unread asked = ofPort reader? acts unread asked := by
  unfold ofPort
  rw [decide_eq_decide.mpr h]

/-- The start of a reader changes nothing, since it has received nothing. -/
theorem ofPort_start {acts acts' : List LinkAct} (h : .spawn ∈ acts) (generation : Nat)
    (unread : List UInt8) (asked : List Question) :
    ofPort (some ⟨generation, .idle⟩) acts' unread asked = ofPort none acts unread asked := by
  unfold ofPort
  rw [decide_eq_true h]
  rfl

/-- The responses that are on their way. -/
def arriving (p : Front) : List Response :=
  if p.live then (p.demux.pushAll p.unread).2.filterMap Inbound.response? else []

/-- The questions whose answers would be on their way. -/
def due (p : Front) : List Question := if p.live then p.asked else []

/-- **Framed**: what is on its way ends where a unit ends. -/
def Framed (p : Front) : Prop := p.live = true → (p.demux.pushAll p.unread).1 = .idle

/-- The front after a unit was sent. -/
def sent (p : Front) (u : Inbound) : Front := { p with unread := p.unread ++ u.wire }

theorem arriving_of_not_live (h : p.live = false) : p.arriving = [] := by
  unfold arriving
  rw [h]
  rfl

theorem due_of_not_live (h : p.live = false) : p.due = [] := by
  unfold due
  rw [h]
  rfl

theorem Framed.sent (hp : p.Framed) (hu : u.Proper) : (p.sent u).Framed := by
  intro hlive
  show (p.demux.pushAll (p.unread ++ u.wire)).1 = _
  rw [Demux.pushAll_append, hp hlive, Demux.pushAll_wire hu]

/-- **A unit that is sent arrives** behind all others. -/
theorem arriving_sent (hp : p.Framed) (hu : u.Proper) :
    (p.sent u).arriving = p.arriving ++ if p.live then u.response?.toList else [] := by
  unfold arriving
  show (if p.live then _ else _) = _
  by_cases hlive : p.live = true
  · rw [if_pos hlive, if_pos hlive, if_pos hlive]
    show ((p.demux.pushAll (p.unread ++ u.wire)).2).filterMap _ = _
    rw [Demux.pushAll_append, hp hlive, Demux.pushAll_wire hu, List.filterMap_append]
    cases u <;> rfl
  · rw [if_neg hlive, if_neg hlive, if_neg hlive, List.append_nil]

end Front

namespace Conversation

variable {s s' : Conversation}

/-- The front of a conversation. -/
def front (s : Conversation) : Front :=
  .ofPort (s.link.reader? s.link.generation) (s.acts s.link.generation)
    (s.unread s.link.generation) (s.asked.filter (·.port = s.link.generation))

/-- The front is that of the present port, whatever way it is come by. -/
theorem front_eq {generation : Nat} (h : s.link.generation = generation) :
    s.front = .ofPort (s.link.reader? generation) (s.acts generation) (s.unread generation)
      (s.asked.filter (·.port = generation)) := by
  subst h
  rfl

theorem front_congr (h : s'.ground = s.ground) : s'.front = s.front := by
  simp only [ground, Link.ports, Prod.mk.injEq] at h
  obtain ⟨⟨hgeneration, hreaders, -⟩, hacts, hunread, hasked⟩ := h
  rw [front_eq hgeneration, Link.reader?_congr hreaders, hacts, hunread, hasked]
  rfl

/-- **A generation that begins cuts off** what was on its way. -/
theorem front_begin (hs : s.Placed) (acts : List LinkAct) :
    (s.begin acts).front = .ofPort none acts [] [] := by
  have hnew : s.link.generation < s.link.generation + 1 := Nat.lt_succ_self _
  have hreader : (s.begin acts).link.reader? (s.link.generation + 1) = none := hs.reader _ hnew
  have hacts : (s.begin acts).acts (s.link.generation + 1) = acts := Function.update_self _ _ _
  have hunread : (s.begin acts).unread (s.link.generation + 1) = [] := hs.unread _ hnew
  have hasked : (s.begin acts).asked.filter (·.port = s.link.generation + 1) = [] := by
    refine List.filter_eq_nil_iff.mpr fun q hq => ?_
    have hport : q.port ≤ s.link.generation := hs.asked q hq
    simpa using Nat.ne_of_lt (Nat.lt_succ_of_le hport)
  rw [front_eq (show (s.begin acts).link.generation = s.link.generation + 1 from rfl), hreader,
    hacts, hunread, hasked]

/-- Acts change nothing of what is on its way. The one that starts the present
reader was counted on. -/
theorem front_proceed (hs : s.Placed) (generation : Nat) :
    (s.proceed generation).front = s.front := by
  obtain h | ⟨act, rest, hacts, h⟩ := s.proceed_cases generation
  · rw [h]
  rw [h, front_eq (Link.generation_perform s.link generation act)]
  show Front.ofPort ((s.link.perform generation act).reader? s.link.generation)
    (Function.update s.acts generation rest s.link.generation) _ _ = _
  by_cases hpresent : s.link.generation = generation
  · have hrest : Function.update s.acts generation rest s.link.generation = rest :=
      hpresent ▸ Function.update_self _ _ _
    have hall : s.acts s.link.generation = act :: rest := hpresent ▸ hacts
    by_cases hspawn : act = .spawn
    · have hmem : .spawn ∈ s.acts s.link.generation := by
        rw [hall, hspawn]
        exact List.mem_cons_self
      have hreader : (s.link.perform generation act).reader? s.link.generation
          = some ⟨generation, .idle⟩ := by
        rw [hspawn]
        exact List.find?_cons_of_pos (by simpa using hpresent.symm)
      rw [hreader, Front.ofPort_start hmem, ← hs.unstarted _ hmem]
      rfl
    · rw [hrest, Link.reader?_congr (Link.readers_perform_of_ne hspawn _ _)]
      refine Front.ofPort_congr ?_ _ _ _
      rw [hall, List.mem_cons, or_iff_right (Ne.symm hspawn)]
  · have hreader : (s.link.perform generation act).reader? s.link.generation
        = s.link.reader? s.link.generation := by
      by_cases hspawn : act = .spawn
      · rw [hspawn]
        exact List.find?_cons_of_neg (by simpa using Ne.symm hpresent)
      · exact Link.reader?_congr (Link.readers_perform_of_ne hspawn _ _) _
    rw [hreader, Function.update_of_ne hpresent]
    rfl

theorem front_send (s : Conversation) (port : Nat) (u : Inbound) :
    (s.send port u).front = if port = s.link.generation then s.front.sent u else s.front := by
  rw [front_eq (show (s.send port u).link.generation = s.link.generation from rfl)]
  show Front.ofPort _ _ (Function.update s.unread port _ s.link.generation) _ = _
  split
  · rename_i hpresent
    rw [hpresent, Function.update_self]
    rfl
  · rename_i hpresent
    rw [Function.update_of_ne (Ne.symm hpresent)]
    rfl

/-- Units that are no responses change nothing of what is to come. -/
theorem front_chatter (hframed : s.front.Framed) (port : Nat) (u : Inbound) :
    (s.chatter port u).front.Framed ∧ (s.chatter port u).front.arriving = s.front.arriving
      ∧ (s.chatter port u).front.due = s.front.due := by
  obtain h | ⟨⟨hresponse, hproper, -⟩, h⟩ := s.chatter_cases port u
  · rw [h]
    exact ⟨hframed, rfl, rfl⟩
  rw [h, front_send]
  split
  · refine ⟨hframed.sent hproper, ?_, rfl⟩
    rw [Front.arriving_sent hframed hproper, hresponse]
    split <;> exact List.append_nil _
  · exact ⟨hframed, rfl, rfl⟩

/-- The oldest question on the present port is the first that is due. -/
theorem due_eq_cons {q : Question} (hlive : s.front.live = true)
    (hfound : s.asked.find? (·.port = s.link.generation) = some q) :
    s.front.due = q :: (s.settleOldest s.link.generation).front.due := by
  obtain ⟨before, rest, hasked, hbefore, hport, hsettled⟩ := s.settleOldest_of_find? hfound
  have hnone : before.filter (·.port = s.link.generation) = [] :=
    List.filter_eq_nil_iff.mpr fun p hp => by simpa using hbefore p hp
  show (if s.front.live then s.asked.filter (·.port = s.link.generation) else [])
    = q :: if s.front.live then
      (s.settleOldest s.link.generation).asked.filter (·.port = s.link.generation) else []
  rw [if_pos hlive, if_pos hlive, hasked, hsettled, List.filter_append, List.filter_append, hnone,
    List.filter_cons_of_pos (by simpa using hport)]
  rfl

/-- A question on another port is not due. -/
theorem due_settleOldest_of_ne {port : Nat} {q : Question} (hport : port ≠ s.link.generation)
    (hfound : s.asked.find? (·.port = port) = some q) :
    (s.settleOldest port).front.due = s.front.due := by
  obtain ⟨before, rest, hasked, -, hq, hsettled⟩ := s.settleOldest_of_find? hfound
  show (if s.front.live then (s.settleOldest port).asked.filter _ else [])
    = if s.front.live then s.asked.filter _ else []
  rw [hasked, hsettled, List.filter_append, List.filter_append,
    List.filter_cons_of_neg (by simpa using fun heq => hport (hq.symm.trans heq))]
  rfl

/-- **An answer** was due before it is on its way, unless it is sent where nobody
is going to take it. -/
theorem front_answer (hframed : s.front.Framed) (port : Nat) (r : Response) :
    (s.answer port r).front.Framed
      ∧ ((s.answer port r).front.arriving = s.front.arriving
          ∧ (s.answer port r).front.due = s.front.due
        ∨ ∃ q, (q, r) ∈ (s.answer port r).answers
          ∧ s.front.due = q :: (s.answer port r).front.due
          ∧ (s.answer port r).front.arriving = s.front.arriving ++ [r]) := by
  obtain h | ⟨q, hfound, -, h⟩ := s.answer_cases port r
  · rw [h]
    exact ⟨hframed, Or.inl ⟨rfl, rfl⟩⟩
  have hfront : (s.answer port r).front = ((s.settleOldest port).send port (.response r)).front := by
    rw [h]
    rfl
  have hanswers : (q, r) ∈ (s.answer port r).answers := by
    rw [h]
    exact List.mem_append_right _ List.mem_cons_self
  have hsame : (s.settleOldest port).front.Framed := hframed
  rw [hfront, front_send]
  split
  · rename_i hpresent
    change port = s.link.generation at hpresent
    subst hpresent
    refine ⟨hsame.sent trivial, ?_⟩
    cases hlive : s.front.live with
    | false =>
      refine Or.inl ⟨?_, ?_⟩
      · rw [Front.arriving_of_not_live hlive]
        exact Front.arriving_of_not_live hlive
      · rw [Front.due_of_not_live hlive]
        exact Front.due_of_not_live hlive
    | true =>
      refine Or.inr ⟨q, hanswers, due_eq_cons hlive hfound, ?_⟩
      rw [Front.arriving_sent hsame (show Inbound.Proper (.response r) from trivial)]
      show s.front.arriving ++ (if s.front.live then [r] else []) = _
      rw [if_pos hlive]
  · rename_i hpresent
    exact ⟨hsame, Or.inl ⟨rfl, due_settleOldest_of_ne hpresent hfound⟩⟩

/-- **A reader that ends** takes with it all that was on its way, or nothing. -/
theorem front_leave (hs : s.Placed) (port : Nat) :
    (s.leave port).front = s.front ∨ (s.leave port).front.live = false := by
  have hports := Link.ports_leave s.link port
  simp only [Link.ports, Prod.mk.injEq] at hports
  obtain ⟨hgeneration, hreaders, -⟩ := hports
  have hreader : (s.leave port).link.reader? s.link.generation
      = (s.link.dismiss port).reader? s.link.generation := Link.reader?_congr hreaders _
  rw [front_eq (show (s.leave port).link.generation = s.link.generation from hgeneration), hreader]
  by_cases hpresent : s.link.generation = port
  · cases hfound : s.link.reader? s.link.generation with
    | none =>
      left
      rw [Link.reader?_dismiss_eq_none hfound, ← hfound]
      rfl
    | some r =>
      right
      -- A reader that was there is not going to be started again.
      have hspawn : .spawn ∉ s.acts s.link.generation := fun hmem =>
        absurd (hs.unstarted _ hmem) (by simp [hfound])
      rw [← hpresent, Link.reader?_dismiss_self]
      exact decide_eq_false hspawn
  · left
    rw [Link.reader?_dismiss_of_ne hpresent]
    rfl

/-- **A byte that is taken** is no longer on its way, and a response that it
completes has become a reply. -/
theorem front_read (hframed : s.front.Framed) (port : Nat) :
    (s.read port).front.Framed ∧ (s.read port).front.due = s.front.due
      ∧ ∃ completed, (s.read port).link.replies = s.link.replies ++ completed
        ∧ s.front.arriving = completed ++ (s.read port).front.arriving := by
  obtain h | ⟨reader, b, rest, hreader, hunread, h⟩ := s.read_cases port
  · rw [h]
    exact ⟨hframed, rfl, [], (List.append_nil _).symm, rfl⟩
  by_cases hpresent : port = s.link.generation
  · subst hpresent
    obtain ⟨hreader', hreplies⟩ := Link.receive_present hreader b
    have hfront : s.front
        = ⟨true, reader.demux, b :: rest, s.asked.filter (·.port = s.link.generation)⟩ := by
      rw [front, hreader, hunread]
      rfl
    have hfront' : (s.read s.link.generation).front
        = ⟨true, (reader.demux.push b).1, rest, s.asked.filter (·.port = s.link.generation)⟩ := by
      rw [h, front_eq (Link.generation_receive s.link _ b), hreader']
      show Front.ofPort _ _ (Function.update s.unread _ rest s.link.generation) _ = _
      rw [Function.update_self]
      rfl
    rw [hfront] at hframed ⊢
    rw [hfront', h]
    refine ⟨fun _ => hframed rfl, rfl, _, hreplies, ?_⟩
    show (reader.demux.pushAll (b :: rest)).2.filterMap Inbound.response? = _
    rw [Demux.pushAll_cons, List.filterMap_append]
    rfl
  · have hdismiss := Link.receive_superseded hreader hpresent b
    have hfront : (s.read port).front = s.front := by
      rw [h, front_eq (show _ = s.link.generation from Link.generation_receive s.link port b)]
      show Front.ofPort ((s.link.receive port b).reader? _) _
        (Function.update s.unread port rest s.link.generation) _ = _
      rw [hdismiss, Link.reader?_dismiss_of_ne (Ne.symm hpresent),
        Function.update_of_ne (Ne.symm hpresent)]
      rfl
    have hreplies : (s.read port).link.replies = s.link.replies := by
      rw [h]
      show (s.link.receive port b).replies = _
      rw [hdismiss]
      rfl
    rw [hfront, hreplies]
    exact ⟨hframed, rfl, [], (List.append_nil _).symm, rfl⟩

/-! ## Every step -/

/-- Writing a request changes nothing but what was asked. -/
theorem ground_write {failure? : Option LineFailure} {arrived : Bool} {r : Request}
    (hcaller : s.caller = .approved r) :
    (s.write failure? arrived).ground
      = ({ s with asked := s.askedWith r (arrived || failure?.isNone) }).ground := by
  have hground := congrArg (·, s.acts, s.unread, s.askedWith r (arrived || failure?.isNone))
    (Link.write_asBefore s.link r failure?).ports
  unfold write
  rw [hcaller]
  dsimp only
  cases (s.link.write r failure?).2 with
  | ok _ => exact hground
  | error e => exact hground

/-- A written request is a question on a port that was opened. -/
theorem Placed.write (hs : s.Placed) (failure? : Option LineFailure) (arrived : Bool) :
    (s.write failure? arrived).Placed := by
  obtain h | ⟨r, -, -, hcaller, -⟩ := s.write_cases failure? arrived
  · rw [h]
    exact hs
  refine (hs.withAsked fun q hq => ?_).congr (ground_write hcaller)
  obtain hsame | ⟨port, hwriter, hmore⟩ := s.askedWith_cases r (arrived || failure?.isNone)
  · exact hs.asked q (hsame ▸ hq)
  · rw [hmore] at hq
    obtain hq | hq := List.mem_append.mp hq
    · exact hs.asked q hq
    · rw [List.mem_singleton.mp hq]
      exact hs.writer port hwriter

/-- Whether a step leaves the ports alone, and what was sent and asked on them. -/
def Step.sparesPorts : Step → Bool
  | .refuse .. | .fall | .ask _ | .take | .giveUp _ | .resume | .push _ | .flush _ => true
  | _ => false

theorem ground_next {step : Step} (h : step.sparesPorts = true) :
    (s.next step).ground = s.ground := by
  cases step with
  | refuse e again =>
    exact congrArg (·, s.acts, s.unread, s.asked) (Link.failToOpen_asBefore s.link e again).ports
  | fall =>
    show s.fall.ground = _
    unfold fall
    split
    · rfl
    · exact congrArg (·, s.acts, s.unread, s.asked) (Link.ports_transition s.link false)
  | ask r =>
    obtain hs | ⟨-, hs | hs⟩ := s.ask_cases r
    · exact congrArg ground hs
    · exact (congrArg ground hs).trans rfl
    · exact (congrArg ground hs).trans rfl
  | take =>
    obtain hs | ⟨r, reply, -, -, -, hs⟩ := s.take_cases
    · exact congrArg ground hs
    · exact (congrArg ground hs).trans rfl
  | giveUp milliseconds =>
    obtain hs | ⟨r, tag, -, hs⟩ := s.giveUp_cases milliseconds
    · exact congrArg ground hs
    · exact (congrArg ground hs).trans rfl
  | resume =>
    obtain hs | ⟨generation, -, -, hs⟩ := s.resume_cases
    · exact congrArg ground hs
    · exact (congrArg ground hs).trans rfl
  | push word =>
    show (if _ then _ else _ : Conversation).ground = _
    split <;> rfl
  | flush failure? =>
    show (s.flush failure?).ground = _
    unfold flush
    split
    · rfl
    · exact congrArg (·, s.acts, s.unread, s.asked) (Link.write_asBefore ..).ports
  | _ => exact absurd h Bool.false_ne_true

/-- **Placed conversations stay so.** -/
theorem placed_next (hs : s.Placed) (step : Step) : (s.next step).Placed := by
  cases step with
  | opened => exact hs.begin LinkAct.nodup_opening
  | reset => exact hs.begin LinkAct.nodup_resetting
  | proceed generation => exact hs.proceed generation
  | read port => exact hs.read port
  | leave port => exact hs.leave port
  | chatter port u =>
    show (s.chatter port u).Placed
    obtain h | ⟨⟨-, -, hport⟩, h⟩ := s.chatter_cases port u
    · rw [h]
      exact hs
    · rw [h]
      exact hs.send hport u
  | answer port r =>
    show (s.answer port r).Placed
    obtain h | ⟨q, hfound, -, h⟩ := s.answer_cases port r
    · rw [h]
      exact hs
    · have hport : port ≤ s.link.generation := by
        have hq : q.port = port := by simpa using List.find?_some hfound
        exact hq ▸ hs.asked q (List.mem_of_find?_eq_some hfound)
      have hsettled : (s.settleOldest port).Placed :=
        hs.withAsked fun p hp => hs.asked p (List.eraseP_sublist.subset hp)
      rw [h]
      exact (hsettled.send hport (.response r)).congr rfl
  | ignore port => exact hs.withAsked fun p hp => hs.asked p (List.eraseP_sublist.subset hp)
  | write failure? arrived => exact hs.write failure? arrived
  | recover =>
    show s.recover.Placed
    obtain h | ⟨-, h⟩ := s.recover_cases
    · rw [h]
      exact hs
    · rw [h]
      exact (hs.begin LinkAct.nodup_resetting).congr rfl
  | _ => exact hs.congr (ground_next rfl)

/-- On a new port nothing is on its way. -/
theorem framed_begin (hs : s.Placed) (acts : List LinkAct) : (s.begin acts).front.Framed := by
  rw [front_begin hs]
  exact fun _ => rfl

/-- **What is on its way keeps ending where a unit ends**, on the present port. -/
theorem framed_next (hs : s.Placed) (hframed : s.front.Framed) (step : Step) :
    (s.next step).front.Framed := by
  cases step with
  | opened => exact framed_begin hs _
  | reset => exact framed_begin hs _
  | proceed generation =>
    show (s.proceed generation).front.Framed
    rw [front_proceed hs]
    exact hframed
  | read port => exact (front_read hframed port).1
  | leave port =>
    show (s.leave port).front.Framed
    obtain h | h := front_leave hs port
    · rw [h]
      exact hframed
    · exact fun hlive => absurd hlive (by simp [h])
  | chatter port u => exact (front_chatter hframed port u).1
  | answer port r => exact (front_answer hframed port r).1
  | ignore port => exact hframed
  | write failure? arrived =>
    show (s.write failure? arrived).front.Framed
    obtain h | ⟨r, -, -, hcaller, -⟩ := s.write_cases failure? arrived
    · rw [h]
      exact hframed
    · rw [front_congr (ground_write hcaller)]
      exact hframed
  | recover =>
    show s.recover.front.Framed
    obtain h | ⟨-, h⟩ := s.recover_cases
    · rw [h]
      exact hframed
    · rw [h]
      exact framed_begin hs LinkAct.resetting
  | _ =>
    rw [front_congr (ground_next rfl)]
    exact hframed

end Conversation

end Breadboard
