import Breadboard.Wire.Link
import Mathlib.Data.List.Induction

/-!
# Connected links and usable links

A link is of use if there is a port to write to and a reader of the present
generation that has not ended. Whether it counts as connected is recorded apart
from that, and the loop that opens lost links looks at this record only. A link
that counts as connected without being of use is therefore never opened again.

Openings are what tells the two apart. An opening takes two steps, and between
them the board comes out of its reset; the second step records the link as
connected without looking at what the first one left. If the link was reset in
between, or its reader ended, there is nothing behind the record.

That is the only way in which the two can differ. The record is right throughout
a run exactly if each opening that is finished meets a link that is *unbroken*
at that moment: since it was last opened it was not reset, and the reader that
was started then has not ended.
-/

namespace Breadboard

namespace Link

variable {l l' : Link}

/-- **Usable**: there is a port to write to, and a reader of the present
generation. -/
def Usable (l : Link) : Prop :=
  l.writer.isSome = true ∧ (l.reader? l.generation).isSome = true

instance (l : Link) : Decidable l.Usable := inferInstanceAs (Decidable (_ ∧ _))

/-- Whether a link that counts as connected is usable. -/
def Sound (l : Link) : Prop := l.connected = true → l.Usable

/-! ## What reports and records leave alone -/

/-- The ports of a link: all that decides whether it is usable. -/
def ports (l : Link) : Nat × List Reader × Option Nat := (l.generation, l.readers, l.writer)

theorem usable_congr (h : l'.ports = l.ports) : l'.Usable ↔ l.Usable := by
  simp only [ports, Prod.mk.injEq] at h
  obtain ⟨hgeneration, hreaders, hwriter⟩ := h
  unfold Usable reader?
  rw [hgeneration, hreaders, hwriter]

/-- **As before**: the ports and the record are the same. -/
structure AsBefore (l' l : Link) : Prop where
  /-- The ports are. -/
  ports : l'.ports = l.ports
  /-- The record is. -/
  connected : l'.connected = l.connected

theorem AsBefore.usable_iff (h : l'.AsBefore l) : l'.Usable ↔ l.Usable := usable_congr h.ports

theorem AsBefore.sound_iff (h : l'.AsBefore l) : l'.Sound ↔ l.Sound := by
  unfold Sound
  rw [h.connected, h.usable_iff]

theorem AsBefore.generation (h : l'.AsBefore l) : l'.generation = l.generation :=
  congrArg Prod.fst h.ports

@[simp]
theorem ports_transition (l : Link) (up : Bool) : (l.transition up).ports = l.ports := by
  unfold transition
  split <;> rfl

@[simp]
theorem connected_transition (l : Link) (up : Bool) : (l.transition up).connected = up := by
  unfold transition
  split
  · assumption
  · rfl

theorem failToOpen_asBefore (l : Link) (e : LinkError) (again : Bool) :
    (l.failToOpen e again).AsBefore l := by
  unfold failToOpen
  split <;> exact ⟨rfl, rfl⟩

theorem deliver_asBefore (l : Link) (u : Inbound) : (l.deliver u).AsBefore l := by
  cases u <;> exact ⟨rfl, rfl⟩

theorem send_asBefore (l : Link) (r : Request) (failure? : Option LineFailure) :
    (l.send r failure?).1.AsBefore l := by
  unfold send
  split <;> exact ⟨rfl, rfl⟩

theorem takeReply?_asBefore (l : Link) (tag : Tag) :
    (((l.takeReply? tag).map (·.2)).getD l).AsBefore l := by
  unfold takeReply?
  cases l.replies.find? (·.tag = tag) with
  | none => exact ⟨rfl, rfl⟩
  | some r => exact ⟨rfl, rfl⟩

theorem giveUp_asBefore (l : Link) (tag : Tag) (milliseconds : Nat) :
    (l.giveUp tag milliseconds).1.AsBefore l := ⟨rfl, rfl⟩

/-! ## Openings and resets -/

/-- Finishing an opening looks at no port. -/
theorem ports_settle (l : Link) : l.settle.ports = l.ports := by
  unfold settle
  rw [ports_transition]
  split <;> rfl

theorem connected_settle (l : Link) : l.settle.connected = true := connected_transition _ _

/-- An opened link is usable. -/
theorem usable_start (l : Link) : l.start.Usable := by
  refine ⟨rfl, ?_⟩
  simp [reader?, start]

/-- A link that was reset has no port to write to. -/
theorem not_usable_reset (l : Link) : ¬ l.reset.Usable := by
  intro h
  have hwriter : l.reset.writer = none := congrArg (fun p => p.2.2) (ports_transition _ false)
  rw [Usable, hwriter] at h
  exact absurd h.1 (by simp)

theorem connected_reset (l : Link) : l.reset.connected = false := connected_transition _ _

/-! ## Readers -/

/-- The reader that ended is no longer there. -/
theorem reader?_dismiss_self (l : Link) (generation : Nat) :
    (l.dismiss generation).reader? generation = none := by
  unfold reader? dismiss
  rw [List.find?_eq_none]
  intro r hr
  have hne := (List.mem_filter.mp hr).2
  simpa using hne

/-- The other readers still are. -/
theorem reader?_dismiss_of_ne {generation other : Nat} (h : other ≠ generation) (l : Link) :
    (l.dismiss generation).reader? other = l.reader? other := by
  unfold reader? dismiss
  rw [List.find?_filter]
  congr 1
  funext r
  by_cases hr : r.generation = other
  · simp [hr, h]
  · simp [hr]

/-- **The present reader** is the only one whose end makes a link useless. -/
theorem usable_dismiss (l : Link) (generation : Nat) :
    (l.dismiss generation).Usable ↔ l.Usable ∧ generation ≠ l.generation := by
  unfold Usable
  show _ ∧ ((l.dismiss generation).reader? l.generation).isSome = true ↔ _
  by_cases h : generation = l.generation
  · rw [h, reader?_dismiss_self]
    simp
  · rw [reader?_dismiss_of_ne (Ne.symm h)]
    exact ⟨fun hu => ⟨hu, h⟩, fun hu => hu.1⟩

/-- A usable link has a reader of its generation. -/
theorem Usable.generation_ne {generation : Nat} (h : l.Usable)
    (hnone : l.reader? generation = none) : generation ≠ l.generation := by
  rintro rfl
  rw [Usable, hnone] at h
  exact absurd h.2 (by simp)

/-- **The end of a reader** makes a link useless exactly if it is the present one. -/
theorem usable_lose (l : Link) (generation : Nat) :
    (l.lose generation).Usable ↔ l.Usable ∧ generation ≠ l.generation := by
  unfold lose
  cases hreader : l.reader? generation with
  | none => exact ⟨fun h => ⟨h, h.generation_ne hreader⟩, fun h => h.1⟩
  | some r =>
    dsimp only
    split
    · rw [usable_congr (ports_transition _ false)]
      exact usable_dismiss l generation
    · exact usable_dismiss l generation

/-- The end of a reader leaves the record right: that of the present one is recorded. -/
theorem Sound.lose (h : l.Sound) (generation : Nat) : (l.lose generation).Sound := by
  intro hconnected
  rw [usable_lose]
  unfold Link.lose at hconnected
  cases hreader : l.reader? generation with
  | none =>
    rw [hreader] at hconnected
    exact ⟨h hconnected, (h hconnected).generation_ne hreader⟩
  | some r =>
    rw [hreader] at hconnected
    dsimp only at hconnected
    split at hconnected
    · rw [connected_transition] at hconnected
      exact absurd hconnected (by simp)
    · exact ⟨h hconnected, ‹_›⟩

/-- A reader that finds itself superseded ends without an effect. -/
theorem usable_check (l : Link) (generation : Nat) :
    (l.check generation).Usable ↔ l.Usable := by
  unfold check
  split
  · rfl
  · rename_i h
    rw [usable_dismiss]
    exact ⟨fun hu => hu.1, fun hu => ⟨hu, h⟩⟩

theorem connected_check (l : Link) (generation : Nat) :
    (l.check generation).connected = l.connected := by
  unfold check
  split <;> rfl

theorem generation_lose (l : Link) (generation : Nat) :
    (l.lose generation).generation = l.generation := by
  unfold lose
  cases l.reader? generation with
  | none => rfl
  | some r =>
    dsimp only
    split
    · exact congrArg Prod.fst (ports_transition _ false)
    · rfl

theorem generation_check (l : Link) (generation : Nat) :
    (l.check generation).generation = l.generation := by
  unfold check
  split <;> rfl

/-- What the readers have received of a response does not matter. -/
theorem usable_map_readers {f : Reader → Reader} (hf : ∀ r, (f r).generation = r.generation)
    (l : Link) : ({ l with readers := l.readers.map f } : Link).Usable ↔ l.Usable := by
  unfold Usable reader?
  rw [List.find?_map, Option.isSome_map]
  simp only [Function.comp_def, hf]

/-- **What a byte does**: nothing where there is no reader, the end of a reader
that was superseded, and otherwise only what the present reader is there for. -/
theorem receive_cases (l : Link) (generation : Nat) (byte : UInt8) :
    l.receive generation byte = l
      ∨ generation ≠ l.generation ∧ l.receive generation byte = l.dismiss generation
      ∨ ∃ f : Reader → Reader, (∀ r, (f r).generation = r.generation) ∧
        (l.receive generation byte).AsBefore { l with readers := l.readers.map f } := by
  unfold receive
  cases l.reader? generation with
  | none => exact Or.inl rfl
  | some r =>
    dsimp only
    split
    · refine Or.inr (Or.inr ⟨fun other => if other.generation = generation then
        { other with demux := (r.demux.push byte).1 } else other, fun other => ?_, ?_⟩)
      · dsimp only
        split <;> rfl
      -- The unit that the byte completes, if any, is delivered without touching a reader.
      · cases (r.demux.push byte).2 with
        | none => exact ⟨rfl, rfl⟩
        | some u => exact deliver_asBefore _ u
    · rename_i hne
      exact Or.inr (Or.inl ⟨hne, rfl⟩)

theorem usable_receive (l : Link) (generation : Nat) (byte : UInt8) :
    (l.receive generation byte).Usable ↔ l.Usable := by
  obtain h | ⟨hne, h⟩ | ⟨f, hf, h⟩ := receive_cases l generation byte
  · rw [h]
  · rw [h, usable_dismiss]
    exact ⟨fun hu => hu.1, fun hu => ⟨hu, hne⟩⟩
  · exact h.usable_iff.trans (usable_map_readers hf l)

theorem generation_receive (l : Link) (generation : Nat) (byte : UInt8) :
    (l.receive generation byte).generation = l.generation := by
  obtain h | ⟨-, h⟩ | ⟨f, -, h⟩ := receive_cases l generation byte
  · rw [h]
  · rw [h]
    rfl
  · exact h.generation

theorem connected_receive (l : Link) (generation : Nat) (byte : UInt8) :
    (l.receive generation byte).connected = l.connected := by
  obtain h | ⟨-, h⟩ | ⟨f, -, h⟩ := receive_cases l generation byte
  · rw [h]
  · rw [h]
    rfl
  · exact h.connected

end Link

/-! ## Runs -/

/-- **Link step**: what can happen to a link between two moments at which
something else can. -/
inductive LinkStep where
  /-- The port could not be opened. -/
  | refuse (e : LinkError) (again : Bool)
  /-- The port was opened, and the opening waits for the board. -/
  | start
  /-- An opening that waited is finished. -/
  | settle
  /-- An opening that waited is given up. -/
  | abandon
  /-- The link is reset. -/
  | reset
  /-- The stream of a generation's reader ends or fails. -/
  | lose (generation : Nat)
  /-- A reader looks whether it is still the present one. -/
  | check (generation : Nat)
  /-- A reader takes a byte. -/
  | receive (generation : Nat) (byte : UInt8)
  /-- A request is sent. -/
  | send (r : Request) (failure? : Option LineFailure)
  /-- A reply is taken, if there is one. -/
  | take (tag : Tag)
  /-- A request is given up. -/
  | giveUp (tag : Tag) (milliseconds : Nat)

/-- Whether a step begins a new generation. -/
def LinkStep.begins : LinkStep → Bool
  | start | reset => true
  | _ => false

/-- **Link run**: a link, and how many of its openings wait for the board. -/
structure LinkRun where
  /-- The link. -/
  link : Link
  /-- Openings that are neither finished nor given up. -/
  waits : Nat

namespace LinkRun

/-- The run in which nothing has happened. -/
def fresh (portName : String) : LinkRun := ⟨.closed portName, 0⟩

/-- **One step.** Only an opening that waits can be finished. -/
def next (s : LinkRun) : LinkStep → LinkRun
  | .refuse e again => { s with link := s.link.failToOpen e again }
  | .start => ⟨s.link.start, s.waits + 1⟩
  | .settle => if s.waits = 0 then s else ⟨s.link.settle, s.waits - 1⟩
  | .abandon => { s with waits := s.waits - 1 }
  | .reset => { s with link := s.link.reset }
  | .lose generation => { s with link := s.link.lose generation }
  | .check generation => { s with link := s.link.check generation }
  | .receive generation byte => { s with link := s.link.receive generation byte }
  | .send r failure? => { s with link := (s.link.send r failure?).1 }
  | .take tag => { s with link := ((s.link.takeReply? tag).map (·.2)).getD s.link }
  | .giveUp tag milliseconds => { s with link := (s.link.giveUp tag milliseconds).1 }

/-- Where a run leads. -/
def after (portName : String) (run : List LinkStep) : LinkRun := run.foldl next (fresh portName)

theorem after_concat (portName : String) (run : List LinkStep) (step : LinkStep) :
    after portName (run ++ [step]) = (after portName run).next step := by
  unfold after
  rw [List.foldl_append, List.foldl_cons, List.foldl_nil]

/-! ### One step -/

/-- Only a new generation or the end of a reader has to do with the use of a link. -/
theorem usable_next_of_calm {step : LinkStep} (hbegins : step.begins = false)
    (hlose : ∀ generation, step ≠ .lose generation) (s : LinkRun) :
    (s.next step).link.Usable ↔ s.link.Usable := by
  cases step with
  | start => exact absurd hbegins (by decide)
  | reset => exact absurd hbegins (by decide)
  | lose generation => exact absurd rfl (hlose generation)
  | refuse e again => exact (Link.failToOpen_asBefore _ e again).usable_iff
  | settle =>
    show (if _ then _ else _ : LinkRun).link.Usable ↔ _
    split
    · rfl
    · exact Link.usable_congr (Link.ports_settle _)
  | abandon => exact Iff.rfl
  | check generation => exact Link.usable_check s.link generation
  | receive generation byte => exact Link.usable_receive s.link generation byte
  | send r failure? => exact (Link.send_asBefore _ r failure?).usable_iff
  | take tag => exact (Link.takeReply?_asBefore _ tag).usable_iff
  | giveUp tag milliseconds => exact (Link.giveUp_asBefore _ tag milliseconds).usable_iff

/-- **What a step does to the use of a link**: an opening makes it usable, and
it stays so until the next generation begins or the present reader ends. -/
theorem usable_next (s : LinkRun) (step : LinkStep) :
    (s.next step).link.Usable
      ↔ step = .start
        ∨ s.link.Usable ∧ step.begins = false ∧ step ≠ .lose s.link.generation := by
  cases step with
  | start => exact ⟨fun _ => Or.inl rfl, fun _ => Link.usable_start s.link⟩
  | reset =>
    refine ⟨fun h => absurd h (Link.not_usable_reset s.link), ?_⟩
    rintro (h | ⟨-, h, -⟩)
    · exact absurd h (by simp)
    · exact absurd h (by decide)
  | lose generation =>
    show (s.link.lose generation).Usable ↔ _
    rw [Link.usable_lose]
    simp [LinkStep.begins]
  | _ =>
    rw [usable_next_of_calm rfl (by simp)]
    simp [LinkStep.begins]

/-- **What a step does to the record.** All steps but one leave it right if it
was; finishing an opening does so if the link is usable. -/
theorem sound_next {s : LinkRun} {step : LinkStep} (h : s.link.Sound)
    (hsettle : step = .settle → 0 < s.waits → s.link.Usable) : (s.next step).link.Sound := by
  cases step with
  | start => exact fun _ => Link.usable_start s.link
  | reset =>
    intro hconnected
    rw [show (s.next .reset).link.connected = false from Link.connected_reset s.link] at hconnected
    exact absurd hconnected (by simp)
  | lose generation => exact h.lose generation
  | refuse e again => exact (Link.failToOpen_asBefore _ e again).sound_iff.mpr h
  | settle =>
    by_cases hwaits : s.waits = 0
    · rw [show s.next .settle = s from if_pos hwaits]
      exact h
    · intro _
      rw [usable_next_of_calm rfl (by simp)]
      exact hsettle rfl (Nat.pos_of_ne_zero hwaits)
  | abandon => exact h
  | check generation =>
    intro hconnected
    exact (Link.usable_check s.link generation).mpr
      (h (Link.connected_check s.link generation ▸ hconnected))
  | receive generation byte =>
    intro hconnected
    exact (Link.usable_receive s.link generation byte).mpr
      (h (Link.connected_receive s.link generation byte ▸ hconnected))
  | send r failure? => exact (Link.send_asBefore _ r failure?).sound_iff.mpr h
  | take tag => exact (Link.takeReply?_asBefore _ tag).sound_iff.mpr h
  | giveUp tag milliseconds => exact (Link.giveUp_asBefore _ tag milliseconds).sound_iff.mpr h

theorem generation_next (s : LinkRun) (step : LinkStep) :
    (s.next step).link.generation = s.link.generation + if step.begins then 1 else 0 := by
  cases step with
  | start => rfl
  | reset => exact congrArg Prod.fst (Link.ports_transition _ false)
  | refuse e again => exact (Link.failToOpen_asBefore _ e again).generation
  | settle =>
    show (if _ then _ else _ : LinkRun).link.generation = _
    split
    · rfl
    · exact congrArg Prod.fst (Link.ports_settle _)
  | abandon => rfl
  | lose generation => exact Link.generation_lose s.link generation
  | check generation => exact Link.generation_check s.link generation
  | receive generation byte => exact Link.generation_receive s.link generation byte
  | send r failure? => exact (Link.send_asBefore _ r failure?).generation
  | take tag => exact (Link.takeReply?_asBefore _ tag).generation
  | giveUp tag milliseconds => rfl

/-! ### Whole runs -/

/-- How many generations a run has begun. -/
def begun (run : List LinkStep) : Nat := run.countP LinkStep.begins

theorem begun_concat (run : List LinkStep) (step : LinkStep) :
    begun (run ++ [step]) = begun run + if step.begins then 1 else 0 := by
  unfold begun
  rw [List.countP_append, List.countP_singleton]

/-- An opening after which no generation begins is the last that began one. -/
theorem begun_start {before rest : List LinkStep} (h : ∀ s ∈ rest, s.begins = false) :
    begun (before ++ .start :: rest) = begun before + 1 := by
  have hrest : rest.countP LinkStep.begins = 0 :=
    List.countP_eq_zero.mpr (fun s hs => Bool.not_eq_true _ ▸ h s hs)
  unfold begun
  rw [List.countP_append, List.countP_cons_of_pos (show LinkStep.begins .start = true from rfl),
    hrest]

/-- Generations are counted from zero. -/
theorem generation_after (portName : String) (run : List LinkStep) :
    (after portName run).link.generation = begun run := by
  induction run using List.reverseRecOn with
  | nil => rfl
  | append_singleton run step ih => rw [after_concat, generation_next, begun_concat, ih]

/-- **Unbroken**: after the last opening of a run there was no reset, and the
reader that was started by it has not ended. -/
def Unbroken (run : List LinkStep) : Prop :=
  ∃ before rest : List LinkStep, run = before ++ .start :: rest ∧
    ∀ step ∈ rest, step.begins = false ∧ step ≠ .lose (begun before + 1)

/-- Whether a run is unbroken, one step at a time. -/
theorem unbroken_concat_iff (run : List LinkStep) (step : LinkStep) :
    Unbroken (run ++ [step])
      ↔ step = .start ∨ Unbroken run ∧ step.begins = false ∧ step ≠ .lose (begun run) := by
  constructor
  · rintro ⟨before, rest, heq, hrest⟩
    -- The last step is either that opening or one of those after it.
    induction rest using List.reverseRecOn with
    | nil => exact Or.inl (List.append_inj_right' heq rfl |> List.singleton_inj.mp)
    | append_singleton rest last _ =>
      rw [← List.cons_append, ← List.append_assoc] at heq
      obtain ⟨hrun, hstep⟩ := List.append_inj' heq rfl
      have hlast := hrest last (by simp)
      have hbefore : ∀ s ∈ rest, s.begins = false ∧ s ≠ .lose (begun before + 1) :=
        fun s hs => hrest s (List.mem_append_left _ hs)
      refine Or.inr ⟨⟨before, rest, hrun, hbefore⟩, ?_⟩
      rw [hrun, begun_start (fun s hs => (hbefore s hs).1), List.singleton_inj.mp hstep]
      exact hlast
  · rintro (rfl | ⟨⟨before, rest, rfl, hrest⟩, hstep⟩)
    · exact ⟨run, [], rfl, by simp⟩
    · refine ⟨before, rest ++ [step], by simp, fun s hs => ?_⟩
      rw [begun_start (fun s hs => (hrest s hs).1)] at hstep
      obtain hs | hs := List.mem_append.mp hs
      · exact hrest s hs
      · exact List.mem_singleton.mp hs ▸ hstep

/-- **Usable links** are those whose run is unbroken. -/
theorem usable_after_iff (portName : String) (run : List LinkStep) :
    (after portName run).link.Usable ↔ Unbroken run := by
  induction run using List.reverseRecOn with
  | nil =>
    refine ⟨fun h => absurd h.1 (by simp [after, fresh, Link.closed]), ?_⟩
    rintro ⟨before, rest, h, -⟩
    exact absurd h (by simp)
  | append_singleton run step ih =>
    rw [after_concat, usable_next, unbroken_concat_iff, generation_after, ih]

/-- **When a connected link is usable.** Throughout a run a link that counts as
connected has a port to write to and a present reader, exactly if every opening
that is finished finds the run unbroken up to there. -/
theorem connected_usable_iff (portName : String) (run : List LinkStep) :
    (∀ pre, pre <+: run → (after portName pre).link.connected = true →
      (after portName pre).link.Usable)
    ↔ ∀ pre, pre ++ [.settle] <+: run → 0 < (after portName pre).waits → Unbroken pre := by
  constructor
  · intro h pre hpre hwaits
    -- Finishing an opening is what puts a useless link on record as connected.
    have hconnected : (after portName (pre ++ [.settle])).link.connected = true := by
      rw [after_concat, show (after portName pre).next .settle = _ from
        if_neg (Nat.ne_of_gt hwaits)]
      exact Link.connected_settle _
    have husable := h _ hpre hconnected
    rw [after_concat, usable_next_of_calm rfl (by simp)] at husable
    exact (usable_after_iff portName pre).mp husable
  · intro h pre hpre
    induction pre using List.reverseRecOn with
    | nil => exact fun hconnected => absurd hconnected (by simp [after, fresh, Link.closed])
    | append_singleton pre step ih =>
      rw [after_concat]
      -- All other steps keep what held before them.
      refine sound_next (ih ((List.prefix_append _ _).trans hpre)) (fun hstep hwaits => ?_)
      exact (usable_after_iff portName pre).mpr (h pre (hstep ▸ hpre) hwaits)

/-- **A connected link need not be usable.** A reset that falls between the two
steps of an opening leaves no port, the end of the new reader leaves no reader;
either way the link ends up connected. -/
theorem connected_not_usable :
    ((after "sim" [.start, .reset, .settle]).link.connected = true
        ∧ ¬ (after "sim" [.start, .reset, .settle]).link.Usable)
      ∧ (after "sim" [.start, .lose 1, .settle]).link.connected = true
        ∧ ¬ (after "sim" [.start, .lose 1, .settle]).link.Usable := by
  decide

end LinkRun

end Breadboard
