import Breadboard.Proofs.InboundStream
import Breadboard.Proofs.LinkActs

/-!
# Conversations with the board

A conversation is everything that goes on between a caller and the board: the
link with what its openings and resets have still to do, the ports with the
bytes that are on their way, and what the board was asked. Each step is a thing
that cannot be interrupted, and the steps of all parties come in any order. A
step that is not possible changes nothing.

The *board* answers what it was asked at most once, in order, and on the port on
which it was asked. It may take any time for that and may pass over anything. It
says nothing that is a response without having been asked, but other units may
stand anywhere between two responses.

The *caller* makes one request at a time and resets the link after each one that
failed. Control words are pushed at any time and by anyone, since the board does
not answer them; openings and further resets are begun at any time and by anyone
as well. What is begun need not be finished.

A request takes three steps. It finds the link connected, it is written to the
port that is there by then, and it takes the reply or is given up. A frame can
have reached the board also if writing it reported a failure.
-/

namespace Breadboard

/-- The response that a unit is. -/
def Inbound.response? : Inbound → Option Response
  | response r => some r
  | _ => none

/-- **Question**: a request on the port that carried it. -/
structure Question where
  /-- The port, by the generation that opened it. -/
  port : Nat
  /-- Which of the caller's requests it is, counted from zero. -/
  number : Nat
  /-- The request. -/
  request : Request
  deriving DecidableEq

/-- **Caller**: where the one who makes requests has got to. -/
inductive Caller where
  /-- There is no request. -/
  | idle
  /-- A request found the link connected and is to be written. -/
  | approved (r : Request)
  /-- A request was written and waits for its reply. -/
  | waiting (r : Request)
  /-- A request failed, and the link is to be reset. -/
  | failed
  /-- The link is being reset, for which a generation was begun. -/
  | resetting (generation : Nat)
  deriving DecidableEq

/-- **Conversation** with the board. -/
structure Conversation where
  /-- The link. -/
  link : Link
  /-- What each opening or reset has still to do, by the generation it began. -/
  acts : Nat → List LinkAct
  /-- Readers that have ended and are still to record the link as lost. -/
  falls : Nat
  /-- Control words that found the link connected and are to be written. -/
  pushes : List ControlWord
  /-- Bytes from the board that no reader has taken, by their port. -/
  unread : Nat → List UInt8
  /-- What the board was asked and has neither answered nor passed over, oldest first. -/
  asked : List Question
  /-- What the board answered, oldest first. -/
  answers : List (Question × Response)
  /-- The caller. -/
  caller : Caller
  /-- The caller's requests that are over, with what they returned, oldest first. -/
  results : List (Request × Except LinkError UInt16)

namespace Conversation

/-- The conversation in which nothing has happened. -/
def fresh (portName : String) : Conversation where
  link := .closed portName
  acts := fun _ => []
  falls := 0
  pushes := []
  unread := fun _ => []
  asked := []
  answers := []
  caller := .idle
  results := []

/-! ## The link -/

/-- An opening or a reset begins. -/
def begin (s : Conversation) (acts : List LinkAct) : Conversation :=
  { s with
    link := s.link.advance
    acts := Function.update s.acts (s.link.generation + 1) acts }

/-- The opening or reset that began a generation goes on by one act. -/
def proceed (s : Conversation) (generation : Nat) : Conversation :=
  match s.acts generation with
  | [] => s
  | act :: rest =>
    { s with
      link := s.link.perform generation act
      acts := Function.update s.acts generation rest }

/-- A reader takes a byte. -/
def read (s : Conversation) (port : Nat) : Conversation :=
  match s.link.reader? port, s.unread port with
  | some _, b :: rest =>
    { s with link := s.link.receive port b, unread := Function.update s.unread port rest }
  | _, _ => s

/-- A reader ends, with its stream or because it is no longer the present one. -/
def leave (s : Conversation) (port : Nat) : Conversation :=
  { s with
    link := s.link.leave port
    falls := if s.link.isReading port then s.falls + 1 else s.falls }

/-- A reader that has ended records the link as lost. -/
def fall (s : Conversation) : Conversation :=
  if s.falls = 0 then s
  else { s with link := s.link.transition false, falls := s.falls - 1 }

/-! ## The board -/

/-- The board sends a unit. -/
def send (s : Conversation) (port : Nat) (u : Inbound) : Conversation :=
  { s with unread := Function.update s.unread port (s.unread port ++ u.wire) }

/-- The board has done with the oldest question on a port. -/
def settleOldest (s : Conversation) (port : Nat) : Conversation :=
  { s with asked := s.asked.eraseP (·.port = port) }

/-- The board sends a unit that is no response, on a port that was opened. -/
def chatter (s : Conversation) (port : Nat) (u : Inbound) : Conversation :=
  if u.response? = none ∧ u.Proper ∧ port ≤ s.link.generation then s.send port u else s

/-- The board answers the oldest question on a port. -/
def answer (s : Conversation) (port : Nat) (r : Response) : Conversation :=
  match s.asked.find? (·.port = port) with
  | some q =>
    if q.request.response? = some r.tag then
      { (s.settleOldest port).send port (.response r) with answers := s.answers ++ [(q, r)] }
    else s
  | none => s

/-! ## The caller -/

/-- A request is over. -/
def conclude (s : Conversation) (r : Request) (result : Except LinkError UInt16) : Conversation :=
  { s with
    results := s.results ++ [(r, result)]
    caller := match result with
      | .ok _ => .idle
      | .error _ => .failed }

/-- A request is made. -/
def ask (s : Conversation) (r : Request) : Conversation :=
  match s.caller with
  | .idle =>
    if r.response? = none then s
    else if s.link.connected then { s with caller := .approved r }
    else s.conclude r (.error .notConnected)
  | _ => s

/-- What the board was asked once a request was written. Without a failure it
has been asked this as well, and with one it may have been. -/
def askedWith (s : Conversation) (r : Request) (arrived : Bool) : List Question :=
  match s.link.writer with
  | some port => if arrived then s.asked ++ [⟨port, s.results.length, r⟩] else s.asked
  | none => s.asked

/-- The request is written. -/
def write (s : Conversation) (failure? : Option LineFailure) (arrived : Bool) : Conversation :=
  match s.caller with
  | .approved r =>
    let s' := { s with
      link := (s.link.write r failure?).1
      asked := s.askedWith r (arrived || failure?.isNone) }
    match (s.link.write r failure?).2 with
    | .ok () => { s' with caller := .waiting r }
    | .error e => s'.conclude r (.error e)
  | _ => s

/-- The request takes its reply. -/
def take (s : Conversation) : Conversation :=
  match s.caller with
  | .waiting r =>
    match r.response?.bind s.link.takeReply? with
    | some (reply, link) => { s with link := link }.conclude r reply.outcome
    | none => s
  | _ => s

/-- The request is given up. -/
def giveUp (s : Conversation) (milliseconds : Nat) : Conversation :=
  match s.caller with
  | .waiting r =>
    match r.response? with
    | some tag =>
      { s with link := (s.link.giveUp tag milliseconds).1 }.conclude r
        (.error (s.link.giveUp tag milliseconds).2)
    | none => s
  | _ => s

/-- The caller begins the reset that a failure asks for. -/
def recover (s : Conversation) : Conversation :=
  match s.caller with
  | .failed => { s.begin LinkAct.resetting with caller := .resetting (s.link.generation + 1) }
  | _ => s

/-- The caller's reset is over. -/
def resume (s : Conversation) : Conversation :=
  match s.caller with
  | .resetting generation => if s.acts generation = [] then { s with caller := .idle } else s
  | _ => s

/-- The oldest control word is written. -/
def flush (s : Conversation) (failure? : Option LineFailure) : Conversation :=
  match s.pushes with
  | [] => s
  | word :: rest => { s with link := (s.link.write (.drive word) failure?).1, pushes := rest }

/-! ## What the parties can do

What each of them does if it is possible. -/

section

variable (s : Conversation)

theorem proceed_cases (generation : Nat) :
    s.proceed generation = s ∨ ∃ act rest, s.acts generation = act :: rest
      ∧ s.proceed generation = { s with
          link := s.link.perform generation act
          acts := Function.update s.acts generation rest } := by
  unfold proceed
  split
  · exact Or.inl rfl
  · exact Or.inr ⟨_, _, ‹_›, rfl⟩

theorem read_cases (port : Nat) :
    s.read port = s ∨ ∃ reader b rest, s.link.reader? port = some reader
      ∧ s.unread port = b :: rest
      ∧ s.read port = { s with
          link := s.link.receive port b
          unread := Function.update s.unread port rest } := by
  unfold read
  split
  · exact Or.inr ⟨_, _, _, ‹_›, ‹_›, rfl⟩
  · exact Or.inl rfl

theorem chatter_cases (port : Nat) (u : Inbound) :
    s.chatter port u = s ∨ (u.response? = none ∧ u.Proper ∧ port ≤ s.link.generation)
      ∧ s.chatter port u = s.send port u := by
  unfold chatter
  split
  · exact Or.inr ⟨‹_›, rfl⟩
  · exact Or.inl rfl

/-- The oldest question on a port, and what is left without it. -/
theorem settleOldest_of_find? {port : Nat} {q : Question}
    (h : s.asked.find? (·.port = port) = some q) :
    ∃ before rest, s.asked = before ++ q :: rest ∧ (∀ p ∈ before, p.port ≠ port)
      ∧ q.port = port ∧ (s.settleOldest port).asked = before ++ rest := by
  obtain ⟨hq, before, rest, hasked, hbefore⟩ := List.find?_eq_some_iff_append.mp h
  have hother : ∀ p ∈ before, ¬ decide (p.port = port) = true := fun p hp => by
    simpa using hbefore p hp
  refine ⟨before, rest, hasked, fun p hp => by simpa using hother p hp, by simpa using hq, ?_⟩
  show s.asked.eraseP _ = _
  rw [hasked, List.eraseP_append_right _ hother, List.eraseP_cons_of_pos (by simpa using hq)]

theorem answer_cases (port : Nat) (r : Response) :
    s.answer port r = s ∨ ∃ q, s.asked.find? (·.port = port) = some q
      ∧ q.request.response? = some r.tag
      ∧ s.answer port r = { (s.settleOldest port).send port (.response r) with
          answers := s.answers ++ [(q, r)] } := by
  unfold answer
  split
  · split
    · exact Or.inr ⟨_, ‹_›, ‹_›, rfl⟩
    · exact Or.inl rfl
  · exact Or.inl rfl

theorem ask_cases (r : Request) :
    s.ask r = s ∨ s.caller = .idle
      ∧ (s.ask r = { s with caller := .approved r }
        ∨ s.ask r = s.conclude r (.error .notConnected)) := by
  unfold ask
  split
  · split
    · exact Or.inl rfl
    · split
      · exact Or.inr ⟨‹_›, Or.inl rfl⟩
      · exact Or.inr ⟨‹_›, Or.inr rfl⟩
  · exact Or.inl rfl

/-- The only new question is that of the request, on the port that is written to. -/
theorem askedWith_cases (r : Request) (arrived : Bool) :
    s.askedWith r arrived = s.asked ∨ ∃ port, s.link.writer = some port
      ∧ s.askedWith r arrived = s.asked ++ [⟨port, s.results.length, r⟩] := by
  unfold askedWith
  split
  · split
    · exact Or.inr ⟨_, ‹_›, rfl⟩
    · exact Or.inl rfl
  · exact Or.inl rfl

theorem write_cases (failure? : Option LineFailure) (arrived : Bool) :
    s.write failure? arrived = s ∨ ∃ r link asked, s.caller = .approved r
      ∧ link = (s.link.write r failure?).1
      ∧ asked = s.askedWith r (arrived || failure?.isNone)
      ∧ (s.write failure? arrived
          = { s with link := link, asked := asked, caller := .waiting r }
        ∨ ∃ e, s.write failure? arrived
          = { s with link := link, asked := asked }.conclude r (.error e)) := by
  unfold write
  split
  · rename_i r hcaller
    refine Or.inr ⟨r, _, _, hcaller, rfl, rfl, ?_⟩
    dsimp only
    cases (s.link.write r failure?).2 with
    | ok _ => exact Or.inl rfl
    | error e => exact Or.inr ⟨e, rfl⟩
  · exact Or.inl rfl

theorem take_cases :
    s.take = s ∨ ∃ r reply, s.caller = .waiting r ∧ r.response? = some reply.tag
      ∧ reply ∈ s.link.replies
      ∧ s.take = { s with link := { s.link with replies := s.link.replies.erase reply } }.conclude
          r reply.outcome := by
  unfold take
  split
  · rename_i r hcaller
    split
    · rename_i reply link htake
      obtain ⟨tag, htag, htake⟩ := Option.bind_eq_some_iff.mp htake
      obtain ⟨hmem, rfl, rfl⟩ := Link.takeReply?_eq_some htake
      exact Or.inr ⟨r, reply, hcaller, htag, hmem, rfl⟩
    · exact Or.inl rfl
  · exact Or.inl rfl

theorem giveUp_cases (milliseconds : Nat) :
    s.giveUp milliseconds = s ∨ ∃ r tag, s.caller = .waiting r
      ∧ s.giveUp milliseconds = { s with link := (s.link.giveUp tag milliseconds).1 }.conclude r
          (.error (s.link.giveUp tag milliseconds).2) := by
  unfold giveUp
  split
  · split
    · exact Or.inr ⟨_, _, ‹_›, rfl⟩
    · exact Or.inl rfl
  · exact Or.inl rfl

theorem recover_cases :
    s.recover = s ∨ s.caller = .failed ∧ s.recover
      = { s.begin LinkAct.resetting with caller := .resetting (s.link.generation + 1) } := by
  unfold recover
  split
  · exact Or.inr ⟨‹_›, rfl⟩
  · exact Or.inl rfl

theorem resume_cases :
    s.resume = s ∨ ∃ generation, s.caller = .resetting generation ∧ s.acts generation = []
      ∧ s.resume = { s with caller := .idle } := by
  unfold resume
  split
  · split
    · exact Or.inr ⟨_, ‹_›, ‹_›, rfl⟩
    · exact Or.inl rfl
  · exact Or.inl rfl

end

/-! ## Runs -/

/-- **Step** of a conversation. -/
inductive Step where
  /-- The port could not be opened. -/
  | refuse (e : LinkError) (again : Bool)
  /-- The port was opened, and an opening begins. -/
  | opened
  /-- A reset begins that is not the caller's. -/
  | reset
  /-- The opening or reset that began a generation goes on. -/
  | proceed (generation : Nat)
  /-- A reader takes a byte. -/
  | read (port : Nat)
  /-- A reader ends. -/
  | leave (port : Nat)
  /-- A reader that has ended records the link as lost. -/
  | fall
  /-- The board sends a unit that is no response. -/
  | chatter (port : Nat) (u : Inbound)
  /-- The board answers the oldest question on a port. -/
  | answer (port : Nat) (r : Response)
  /-- The board passes over the oldest question on a port. -/
  | ignore (port : Nat)
  /-- The caller makes a request. -/
  | ask (r : Request)
  /-- The caller's request is written. -/
  | write (failure? : Option LineFailure) (arrived : Bool)
  /-- The caller's request takes its reply. -/
  | take
  /-- The caller's request is given up. -/
  | giveUp (milliseconds : Nat)
  /-- The caller begins its reset. -/
  | recover
  /-- The caller's reset is over. -/
  | resume
  /-- A control word is to be pushed. -/
  | push (word : ControlWord)
  /-- A control word is written. -/
  | flush (failure? : Option LineFailure)

/-- **One step.** -/
def next (s : Conversation) : Step → Conversation
  | .refuse e again => { s with link := s.link.failToOpen e again }
  | .opened => s.begin LinkAct.opening
  | .reset => s.begin LinkAct.resetting
  | .proceed generation => s.proceed generation
  | .read port => s.read port
  | .leave port => s.leave port
  | .fall => s.fall
  | .chatter port u => s.chatter port u
  | .answer port r => s.answer port r
  | .ignore port => s.settleOldest port
  | .ask r => s.ask r
  | .write failure? arrived => s.write failure? arrived
  | .take => s.take
  | .giveUp milliseconds => s.giveUp milliseconds
  | .recover => s.recover
  | .resume => s.resume
  | .push word => if s.link.connected then { s with pushes := s.pushes ++ [word] } else s
  | .flush failure? => s.flush failure?

/-- Where a run leads. -/
def after (portName : String) (run : List Step) : Conversation := run.foldl next (fresh portName)

theorem after_concat (portName : String) (run : List Step) (step : Step) :
    after portName (run ++ [step]) = (after portName run).next step := by
  unfold after
  rw [List.foldl_append, List.foldl_cons, List.foldl_nil]

end Conversation

end Breadboard
