import Breadboard.Proofs.LinkRun

/-!
# The acts that an opening and a reset are made of

An opening and a reset do several things one after the other, and others get
their turn between any two of them: a second opening may begin while the first
one still drops replies, and a reader may queue one where they were dropped
already. What cannot be interrupted is an *act*.

Both begin by beginning a generation, and what is left for them to do is done
on behalf of that generation, however many have begun since. Done without a
break, the acts are the opening and the reset.

Sending a request is not a single act either. It asks whether the link is
connected first and writes afterwards, to the port that is there by then; and a
reader that finds its stream ended is gone before this is recorded.
-/

namespace Breadboard

theorem Tag.mem_all (tag : Tag) : tag ∈ Tag.all := by
  cases tag <;> decide

/-- **Act**: a part of an opening or a reset that nothing interrupts. -/
inductive LinkAct where
  /-- The replies with a tag are dropped. -/
  | drain (tag : Tag)
  /-- A reader is started. -/
  | spawn
  /-- Requests are written to the port from now on. -/
  | store
  /-- The board has come out of its reset. -/
  | settle
  /-- The port that requests are written to is closed. -/
  | close
  /-- The link is recorded as lost. -/
  | fall
  deriving DecidableEq

namespace LinkAct

/-- The replies of all tags are dropped. -/
def drains : List LinkAct := Tag.all.map drain

/-- The acts of an opening up to the wait for the board. -/
def starting : List LinkAct := drains ++ [spawn, store]

/-- The acts of an opening. -/
def opening : List LinkAct := starting ++ [settle]

/-- The acts of a reset. -/
def resetting : List LinkAct := close :: drains ++ [fall]

theorem nodup_opening : opening.Nodup := by decide

theorem nodup_resetting : resetting.Nodup := by decide

/-- A reset drops the replies of every tag. -/
theorem drain_mem_resetting (tag : Tag) : drain tag ∈ resetting :=
  List.mem_cons_of_mem _ (List.mem_append_left _ (List.mem_map_of_mem (Tag.mem_all tag)))

end LinkAct

namespace Link

/-- A generation begins. -/
def advance (l : Link) : Link := { l with generation := l.generation + 1 }

/-- **One act**, on behalf of a generation. -/
def perform (l : Link) (generation : Nat) : LinkAct → Link
  | .drain tag => { l with replies := l.replies.filter (·.tag ≠ tag) }
  | .spawn => { l with readers := ⟨generation, .idle⟩ :: l.readers }
  | .store => { l with writer := some generation }
  | .settle => l.settle
  | .close => { l with writer := none }
  | .fall => l.transition false

/-- Acts done without a break. -/
def performAll (l : Link) (generation : Nat) (acts : List LinkAct) : Link :=
  acts.foldl (·.perform generation) l

theorem performAll_append (l : Link) (generation : Nat) (acts more : List LinkAct) :
    l.performAll generation (acts ++ more)
      = (l.performAll generation acts).performAll generation more := List.foldl_append

/-- What is left when the replies of some tags were dropped. -/
theorem performAll_map_drain (l : Link) (generation : Nat) (tags : List Tag) :
    l.performAll generation (tags.map .drain)
      = { l with replies := l.replies.filter (·.tag ∉ tags) } := by
  induction tags generalizing l with
  | nil =>
    show l = { l with replies := _ }
    rw [List.filter_eq_self.mpr fun r _ => by simp]
  | cons tag rest ih =>
    refine (ih (l.perform generation (.drain tag))).trans ?_
    show ({ l with replies := (l.replies.filter _).filter _ } : Link) = _
    rw [List.filter_filter]
    simp [not_or, Bool.and_comm]

/-- No reply is left when those of all tags were dropped. -/
theorem performAll_drains (l : Link) (generation : Nat) :
    l.performAll generation LinkAct.drains = { l with replies := [] } := by
  refine (performAll_map_drain l generation Tag.all).trans ?_
  rw [List.filter_eq_nil_iff.mpr fun r _ => by simp [Tag.mem_all r.tag]]

/-- **An opening** without a break, up to its wait and past it. -/
theorem performAll_opening (l : Link) :
    l.advance.performAll (l.generation + 1) LinkAct.starting = l.start
      ∧ l.advance.performAll (l.generation + 1) LinkAct.opening = l.start.settle := by
  have hstart : l.advance.performAll (l.generation + 1) LinkAct.starting = l.start := by
    rw [LinkAct.starting, performAll_append, performAll_drains]
    rfl
  refine ⟨hstart, ?_⟩
  rw [LinkAct.opening, performAll_append, hstart]
  rfl

/-- **A reset** without a break. -/
theorem performAll_resetting (l : Link) :
    l.advance.performAll (l.generation + 1) LinkAct.resetting = l.reset := by
  rw [LinkAct.resetting, performAll_append]
  show Link.performAll (({ l.advance with writer := none } : Link).performAll
    (l.generation + 1) LinkAct.drains) _ _ = _
  rw [performAll_drains]
  rfl

/-! ## What acts change -/

theorem generation_perform (l : Link) (generation : Nat) (act : LinkAct) :
    (l.perform generation act).generation = l.generation := by
  cases act with
  | settle => exact congrArg Prod.fst (ports_settle l)
  | fall => exact congrArg Prod.fst (ports_transition l false)
  | _ => rfl

/-- Only one act starts a reader. -/
theorem readers_perform_of_ne {act : LinkAct} (h : act ≠ .spawn) (l : Link) (generation : Nat) :
    (l.perform generation act).readers = l.readers := by
  cases act with
  | spawn => exact absurd rfl h
  | settle => exact congrArg (fun p => p.2.1) (ports_settle l)
  | fall => exact congrArg (fun p => p.2.1) (ports_transition l false)
  | _ => rfl

/-- Only one act chooses a port. -/
theorem writer_perform_eq_some {l : Link} {generation port : Nat} {act : LinkAct}
    (h : (l.perform generation act).writer = some port) :
    port = generation ∨ l.writer = some port := by
  cases act with
  | store => exact Or.inl (Option.some.inj h).symm
  | close => exact absurd h (by simp [perform])
  | settle => exact Or.inr ((congrArg (fun p => p.2.2) (ports_settle l)).symm.trans h)
  | fall => exact Or.inr ((congrArg (fun p => p.2.2) (ports_transition l false)).symm.trans h)
  | _ => exact Or.inr h

theorem replies_transition (l : Link) (up : Bool) : (l.transition up).replies = l.replies := by
  unfold transition
  split <;> rfl

theorem replies_settle (l : Link) : l.settle.replies = l.replies := by
  unfold settle
  rw [replies_transition]
  split <;> rfl

/-- Acts drop replies and do nothing else to them. -/
theorem replies_perform (l : Link) (generation : Nat) (act : LinkAct) :
    (l.perform generation act).replies = l.replies.filter (act ≠ .drain ·.tag) := by
  cases act with
  | drain tag =>
    refine List.filter_congr fun r _ => ?_
    simp [eq_comm]
  | settle => exact (replies_settle l).trans (List.filter_eq_self.mpr fun r _ => by simp).symm
  | fall => exact (replies_transition l false).trans (List.filter_eq_self.mpr fun r _ => by simp).symm
  | _ => exact (List.filter_eq_self.mpr fun r _ => by simp).symm

/-! ## Writing -/

/-- Writes a request to the port that is there. -/
def write (l : Link) (r : Request) (failure? : Option LineFailure) :
    Link × Except LinkError Unit :=
  match l.writer, failure? with
  | none, _ => (l, .error .notConnected)
  | some _, none => (l, .ok ())
  | some _, some cause =>
    (l.report (.logged (.error .link "Failed to send request"
      [("err", cause.message), ("request", r.describe)])), .error (.io cause))

/-- **Sending** without a break. -/
theorem send_eq (l : Link) (r : Request) (failure? : Option LineFailure) :
    l.send r failure?
      = if l.connected then l.write r failure? else (l, .error .notConnected) := by
  unfold send target? write
  cases l.connected with
  | false => rfl
  | true =>
    cases l.writer with
    | none => rfl
    | some port => cases failure? <;> rfl

theorem write_asBefore (l : Link) (r : Request) (failure? : Option LineFailure) :
    (l.write r failure?).1.AsBefore l := by
  unfold write
  split <;> exact ⟨rfl, rfl⟩

theorem replies_write (l : Link) (r : Request) (failure? : Option LineFailure) :
    (l.write r failure?).1.replies = l.replies := by
  unfold write
  split <;> rfl

/-- **A reply that is taken** was there, and is no longer. -/
theorem takeReply?_eq_some {l l' : Link} {tag : Tag} {r : Response}
    (h : l.takeReply? tag = some (r, l')) :
    r ∈ l.replies ∧ r.tag = tag ∧ l' = { l with replies := l.replies.erase r } := by
  obtain ⟨found, hfound, h⟩ := Option.map_eq_some_iff.mp h
  obtain ⟨rfl, rfl⟩ := Prod.mk.inj h
  exact ⟨List.mem_of_find?_eq_some hfound, by simpa using List.find?_some hfound, rfl⟩

/-! ## The end of a reader -/

/-- Whether a generation's reader would notice now that it is the present one. -/
def isReading (l : Link) (generation : Nat) : Bool :=
  (l.reader? generation).isSome && generation = l.generation

/-- A reader ends. The present one leaves a message. -/
def leave (l : Link) (generation : Nat) : Link :=
  if l.isReading generation then
    (l.dismiss generation).report (.logged (.info .link "Lost serial port"))
  else l.dismiss generation

/-- A reader that has ended already does not end again. -/
theorem dismiss_of_reader?_eq_none {l : Link} {generation : Nat}
    (h : l.reader? generation = none) : l.dismiss generation = l := by
  unfold dismiss
  rw [List.filter_eq_self.mpr fun r hr => by simpa using List.find?_eq_none.mp h r hr]

/-- The end of a reader concerns the readers only. -/
theorem ports_leave (l : Link) (generation : Nat) :
    (l.leave generation).ports = (l.dismiss generation).ports := by
  unfold leave
  split <;> rfl

/-- It drops no reply. -/
theorem replies_leave (l : Link) (generation : Nat) :
    (l.leave generation).replies = l.replies := by
  unfold leave
  split <;> rfl

/-- **The loss of a link** without a break. -/
theorem lose_eq (l : Link) (generation : Nat) :
    l.lose generation
      = if l.isReading generation then (l.leave generation).transition false
        else l.leave generation := by
  unfold lose leave isReading
  cases hreader : l.reader? generation with
  | none => exact (dismiss_of_reader?_eq_none hreader).symm
  | some r =>
    show (if generation = l.generation then _ else _) = _
    by_cases hgeneration : generation = l.generation
    · rw [if_pos hgeneration, if_pos (by simp [hgeneration]), if_pos (by simp [hgeneration])]
    · rw [if_neg hgeneration, if_neg (by simp [hgeneration]), if_neg (by simp [hgeneration])]

end Link

end Breadboard
