import Breadboard.Clocking.Hub
import Breadboard.Proofs.InboundStream
import Breadboard.Proofs.PresentPort

/-!
# Changes of lines in the inbound stream

Beside the clock the board reports three lines, each change by one byte. A byte is such a
report where it stands outside the responses and nowhere else, and where the responses
stand can be told from the stream alone: a tag says how many bytes belong to it.

What a link reports of these lines comes from the streams of its ports. The reader of the
present port takes bytes one at a time, and has at every moment received of a response what
the stream so far has of it. So the link has always reported the changes in what the ports
received while they were the present one, and no others.
-/

namespace Breadboard

/-! ## Bytes outside the responses -/

/-- The bytes that stand outside responses, behind so many bytes that are still due of one. -/
def outsideFrom : Nat → List UInt8 → List UInt8
  | _, [] => []
  | due + 1, _ :: rest => outsideFrom due rest
  | 0, b :: rest =>
    match Tag.ofByte? b with
    | some tag => outsideFrom tag.payloadLength rest
    | none => b :: outsideFrom 0 rest

theorem outsideFrom_tag {b : UInt8} {tag : Tag} (h : Tag.ofByte? b = some tag)
    (rest : List UInt8) : outsideFrom 0 (b :: rest) = outsideFrom tag.payloadLength rest := by
  rw [outsideFrom, h]

theorem outsideFrom_single {b : UInt8} (h : Tag.ofByte? b = none) (rest : List UInt8) :
    outsideFrom 0 (b :: rest) = b :: outsideFrom 0 rest := by
  rw [outsideFrom, h]

/-- The change of a line that an event reports. The clock is none of them. -/
def HardwareEvent.change? (e : HardwareEvent) : Option StatusChange :=
  match e.signal with
  | .clock => none
  | .irq => some (.irq e.high)
  | .nmi => some (.nmi e.high)
  | .reset => some (.reset e.high)

/-- The change of a line that a byte reports where it stands on its own. -/
def byteChange? (b : UInt8) : Option StatusChange :=
  (HardwareEvent.ofByte? b).bind HardwareEvent.change?

/-- **The changes of lines in a stream**: those of the bytes outside the responses. -/
def lineChanges (bytes : List UInt8) : List StatusChange :=
  (outsideFrom 0 bytes).filterMap byteChange?

/-- The change that a unit reports. -/
def Inbound.change? : Inbound → Option StatusChange
  | event e => e.change?
  | _ => none

namespace Demux

/-- How many bytes are due of the open response. -/
def due : Demux → Nat
  | idle => 0
  | tagged tag => tag.payloadLength
  | halfAddress _ => 1

theorem push_tag {b : UInt8} {tag : Tag} (h : Tag.ofByte? b = some tag) :
    idle.push b = (tagged tag, none) := by
  unfold push
  rw [h]

theorem push_single {b : UInt8} (h : Tag.ofByte? b = none) :
    idle.push b = (idle, some (single b)) := by
  unfold push
  rw [h]

theorem change?_single (b : UInt8) : (single b).change? = byteChange? b := by
  unfold single byteChange?
  cases HardwareEvent.ofByte? b <;> rfl

/-- The demultiplexer reports the changes outside the responses. -/
theorem changes_pushAll (d : Demux) (bytes : List UInt8) :
    (d.pushAll bytes).2.filterMap Inbound.change?
      = (outsideFrom d.due bytes).filterMap byteChange? := by
  induction bytes generalizing d with
  | nil => rfl
  | cons b rest ih =>
    rw [pushAll_cons, List.filterMap_append, ih]
    cases d with
    | idle =>
      cases htag : Tag.ofByte? b with
      | some tag =>
        rw [push_tag htag]
        exact congrArg (List.filterMap byteChange?) (outsideFrom_tag htag rest).symm
      | none =>
        have hsingle : (outsideFrom idle.due (b :: rest)).filterMap byteChange?
            = (b :: outsideFrom 0 rest).filterMap byteChange? :=
          congrArg (List.filterMap byteChange?) (outsideFrom_single htag rest)
        rw [push_single htag, hsingle, List.filterMap_cons, ← change?_single]
        cases hchange : (single b).change? <;> simp [hchange, due]
    | tagged tag =>
      by_cases haddress : tag = .address
      · rw [haddress]
        rfl
      · have hdue : (tagged tag).due = 1 := by
          cases tag with
          | address => exact absurd rfl haddress
          | _ => rfl
        rw [push_tagged haddress, hdue]
        rfl
    | halfAddress low => rfl

end Demux

/-- The changes of a stream that begins with no response open. -/
theorem lineChanges_eq (bytes : List UInt8) :
    lineChanges bytes = (Demux.idle.pushAll bytes).2.filterMap Inbound.change? :=
  (Demux.changes_pushAll .idle bytes).symm

/-- A status whose payload is the letter of a falling line, a clock edge, and then the line
itself and another one. -/
example : lineChanges [0x73, 0x69, 0x43, 0x69, 0x4E] = [.irq false, .nmi true] := by decide

/-- **One more byte** has the change of the unit that it completes. -/
theorem lineChanges_concat (bytes : List UInt8) (b : UInt8) :
    lineChanges (bytes ++ [b])
      = lineChanges bytes
        ++ (((Demux.idle.pushAll bytes).1.push b).2.bind Inbound.change?).toList := by
  rw [lineChanges_eq, lineChanges_eq, Demux.pushAll_append, List.filterMap_append,
    Demux.pushAll_cons, Demux.pushAll_nil, List.append_nil]
  refine congrArg (_ ++ ·) ?_
  cases ((Demux.idle.pushAll bytes).1.push b).2 with
  | none => rfl
  | some u => cases hu : u.change? <;> simp [hu]

/-! ## Reports of a link -/

/-- What a report has for the queue of status changes. -/
def LinkReport.status? : LinkReport → Option StatusChange
  | .hardware e => e.change?
  | .connection up => some (.connected up)
  | .logged _ => none

/-- Whether a change is one of a line, and not of the connection. -/
def StatusChange.ofLine : StatusChange → Bool
  | .connected _ => false
  | _ => true

theorem ofLine_change? {e : HardwareEvent} {change : StatusChange} (h : e.change? = some change) :
    change.ofLine = true := by
  obtain ⟨signal, high⟩ := e
  cases signal with
  | clock => exact absurd h (by simp [HardwareEvent.change?])
  | _ =>
    obtain rfl := Option.some.inj h
    rfl

namespace Link

variable {l l' l'' : Link}

/-- The changes of lines that a link has reported, oldest first. -/
def changes (l : Link) : List StatusChange :=
  (l.reports.filterMap LinkReport.status?).filter StatusChange.ofLine

/-- **Adding reports**: a link has made further reports since an earlier one, and these are
the changes of lines among them. -/
def Adds (l' l : Link) (changes : List StatusChange) : Prop :=
  ∃ fresh, l'.reports = l.reports ++ fresh
    ∧ (fresh.filterMap LinkReport.status?).filter StatusChange.ofLine = changes

theorem Adds.changes_eq {changes : List StatusChange} (h : l'.Adds l changes) :
    l'.changes = l.changes ++ changes := by
  obtain ⟨fresh, hreports, rfl⟩ := h
  unfold Link.changes
  rw [hreports, List.filterMap_append, List.filter_append]

theorem adds_nothing (h : l'.reports = l.reports) : l'.Adds l [] :=
  ⟨[], h.trans (List.append_nil _).symm, rfl⟩

theorem Adds.trans {a b : List StatusChange} (h' : l''.Adds l' b) (h : l'.Adds l a) :
    l''.Adds l (a ++ b) := by
  obtain ⟨later, hlater, rfl⟩ := h'
  obtain ⟨fresh, hfresh, rfl⟩ := h
  exact ⟨fresh ++ later, by rw [hlater, hfresh, List.append_assoc], by simp⟩

/-- One report adds the change that it makes known. -/
theorem adds_report (l : Link) (r : LinkReport) :
    (l.report r).Adds l ((r.status?.filter StatusChange.ofLine).toList) := by
  refine ⟨[r], rfl, ?_⟩
  rw [List.filter_filterMap]
  cases h : r.status?.filter StatusChange.ofLine <;> simp [h]

/-- The connection is not a line. -/
theorem adds_transition (l : Link) (up : Bool) : (l.transition up).Adds l [] := by
  unfold transition
  split
  · exact adds_nothing rfl
  · exact adds_report { l with connected := up } (.connection up)

theorem adds_deliver (l : Link) (u : Inbound) : (l.deliver u).Adds l u.change?.toList := by
  cases u with
  | response r => exact adds_nothing rfl
  | unknown b => exact adds_report l _
  | event e =>
    have hadded : e.change?.filter StatusChange.ofLine = e.change? := by
      cases h : e.change? with
      | none => rfl
      | some change => rw [Option.filter_some, ofLine_change? h, if_pos rfl]
    have hreport := adds_report l (.hardware e)
    rw [LinkReport.status?, hadded] at hreport
    exact hreport

/-- A byte adds the change of the unit that it completes, if the present reader takes it. -/
theorem adds_receive (l : Link) (generation : Nat) (b : UInt8) :
    (l.receive generation b).Adds l
      (if generation = l.generation then
        ((l.reader? generation).bind fun r => (r.demux.push b).2.bind Inbound.change?).toList
        else []) := by
  unfold receive
  cases l.reader? generation with
  | none =>
    rw [Option.bind_none, Option.toList_none, ite_self]
    exact adds_nothing rfl
  | some r =>
    dsimp only
    split
    · rw [Option.bind_some]
      cases (r.demux.push b).2 with
      | none => exact adds_nothing rfl
      | some u => exact adds_deliver { l with readers := _ } u
    · exact adds_nothing rfl

/-- No reader begins with a byte. -/
theorem exists_of_mem_readers_receive {generation : Nat} {b : UInt8} {r : Reader}
    (h : r ∈ (l.receive generation b).readers) :
    ∃ before ∈ l.readers, before.generation = r.generation := by
  obtain hl | ⟨-, hl⟩ | ⟨f, hf, hl⟩ := receive_cases l generation b
  · exact ⟨r, hl ▸ h, rfl⟩
  · rw [hl] at h
    exact ⟨r, (List.mem_filter.mp h).1, rfl⟩
  · have hreaders : (l.receive generation b).readers = l.readers.map f :=
      congrArg (fun p => p.2.1) hl.ports
    obtain ⟨before, hbefore, rfl⟩ := List.mem_map.mp (hreaders ▸ h)
    exact ⟨before, hbefore, (hf before).symm⟩

end Link

/-! ## Streams of the ports -/

/-- **Streams**: what the ports received, each while it was the present one. -/
structure Streams where
  /-- The streams of earlier ports, oldest first. -/
  earlier : List (List UInt8)
  /-- The stream of the latest port so far. -/
  latest : List UInt8

namespace Streams

/-- Nothing was received yet. -/
def empty : Streams := ⟨[], []⟩

/-- All streams, oldest first. -/
def all (s : Streams) : List (List UInt8) := s.earlier ++ [s.latest]

/-- The changes of lines in all streams. -/
def changes (s : Streams) : List StatusChange := s.all.flatMap lineChanges

/-- Another port was opened. -/
def opened (s : Streams) : Streams := ⟨s.all, []⟩

/-- The latest port received a byte. -/
def received (s : Streams) (b : UInt8) : Streams := { s with latest := s.latest ++ [b] }

theorem changes_opened (s : Streams) : s.opened.changes = s.changes := by
  unfold changes
  rw [show s.opened.all = s.all ++ [[]] from rfl, List.flatMap_append]
  exact List.append_nil _

theorem changes_received (s : Streams) (b : UInt8) :
    (s.received b).changes
      = s.changes
        ++ (((Demux.idle.pushAll s.latest).1.push b).2.bind Inbound.change?).toList := by
  unfold changes all
  rw [List.flatMap_append, List.flatMap_append, List.flatMap_singleton, List.flatMap_singleton,
    List.append_assoc, ← lineChanges_concat]
  rfl

end Streams

namespace LinkRun

variable {s : LinkRun} {streams : Streams}

/-- Whether a step is a byte that the present reader takes. -/
def hears (s : LinkRun) : LinkStep → Bool
  | .receive generation _ =>
    generation == s.link.generation && (s.link.reader? generation).isSome
  | _ => false

/-- **What a step adds to the streams.** -/
def streamed (s : LinkRun) (streams : Streams) (step : LinkStep) : Streams :=
  match step with
  | .start => streams.opened
  | .receive _ b => if s.hears step then streams.received b else streams
  | _ => streams

/-- **Fed**: no reader belongs to a generation that has not begun, and the present one has
received of a response what the latest stream has of it. -/
structure Fed (s : LinkRun) (streams : Streams) : Prop where
  begun : ∀ r ∈ s.link.readers, r.generation ≤ s.link.generation
  demux : ∀ r, s.link.reader? s.link.generation = some r →
    r.demux = (Demux.idle.pushAll streams.latest).1

/-- Steps that leave the ports alone starve no reader. -/
theorem Fed.of_ports (h : s.Fed streams) {s' : LinkRun} (hports : s'.link.ports = s.link.ports) :
    s'.Fed streams := by
  simp only [Link.ports, Prod.mk.injEq] at hports
  obtain ⟨hgeneration, hreaders, -⟩ := hports
  refine ⟨?_, ?_⟩
  · rw [hgeneration, hreaders]
    exact h.begun
  · rw [hgeneration, Link.reader?_congr hreaders]
    exact h.demux

/-- The end of a reader starves no other. -/
theorem Fed.dismiss (h : s.Fed streams) (generation : Nat) {s' : LinkRun}
    (hports : s'.link.ports = (s.link.dismiss generation).ports) : s'.Fed streams := by
  refine Fed.of_ports (s := { s with link := s.link.dismiss generation }) ⟨?_, ?_⟩ hports
  · intro r hr
    exact h.begun r (List.mem_filter.mp hr).1
  · intro r hr
    by_cases hpresent : s.link.generation = generation
    · subst hpresent
      exact absurd ((Link.reader?_dismiss_self s.link s.link.generation).symm.trans hr) (by simp)
    · exact h.demux r ((Link.reader?_dismiss_of_ne hpresent s.link).symm.trans hr)

/-- An opening begins with a reader that has received nothing. -/
theorem Fed.start (h : s.Fed streams) : (s.next .start).Fed streams.opened := by
  refine ⟨fun r hr => ?_, fun r hr => ?_⟩
  · obtain rfl | hr := List.mem_cons.mp hr
    · exact Nat.le_refl _
    · exact Nat.le_succ_of_le (h.begun r hr)
  · have hnew : (s.next .start).link.reader? (s.next .start).link.generation
        = some ⟨s.link.generation + 1, .idle⟩ := List.find?_cons_of_pos (by simp [next, Link.start])
    obtain rfl := Option.some.inj (hnew.symm.trans hr)
    rfl

/-- A reset leaves no present reader. -/
theorem Fed.reset (h : s.Fed streams) : (s.next .reset).Fed streams := by
  have hports : (s.next .reset).link.ports = (s.link.generation + 1, s.link.readers, none) :=
    Link.ports_transition _ false
  simp only [Link.ports, Prod.mk.injEq] at hports
  obtain ⟨hgeneration, hreaders, -⟩ := hports
  refine ⟨fun r hr => ?_, fun r hr => ?_⟩
  · rw [hreaders] at hr
    rw [hgeneration]
    exact Nat.le_succ_of_le (h.begun r hr)
  · rw [hgeneration, Link.reader?_congr hreaders] at hr
    have hold := h.begun r (List.mem_of_find?_eq_some hr)
    have hnew : r.generation = s.link.generation + 1 := by simpa using List.find?_some hr
    omega

theorem Fed.lose (h : s.Fed streams) (generation : Nat) :
    (s.next (.lose generation)).Fed streams := by
  cases hreader : s.link.reader? generation with
  | none =>
    refine h.of_ports (congrArg Link.ports ?_)
    show s.link.lose generation = s.link
    unfold Link.lose
    rw [hreader]
  | some r =>
    refine h.dismiss generation ?_
    show (s.link.lose generation).ports = _
    unfold Link.lose
    rw [hreader]
    dsimp only
    split
    · exact Link.ports_transition _ false
    · rfl

theorem Fed.check (h : s.Fed streams) (generation : Nat) :
    (s.next (.check generation)).Fed streams := by
  by_cases hpresent : generation = s.link.generation
  · exact h.of_ports (congrArg Link.ports (if_pos hpresent))
  · exact h.dismiss generation (congrArg Link.ports (if_neg hpresent))

/-- A byte goes into the stream of the latest port where the present reader takes it, and
nowhere else. -/
theorem Fed.receive (h : s.Fed streams) (generation : Nat) (b : UInt8) :
    (s.next (.receive generation b)).Fed (s.streamed streams (.receive generation b)) := by
  unfold streamed
  cases hreader : s.link.reader? generation with
  | none =>
    have hsilent : s.hears (.receive generation b) = false := by simp [hears, hreader]
    dsimp only
    rw [hsilent, if_neg Bool.false_ne_true]
    refine h.of_ports (congrArg Link.ports ?_)
    show s.link.receive generation b = s.link
    unfold Link.receive
    rw [hreader]
  | some r =>
    by_cases hpresent : generation = s.link.generation
    · subst hpresent
      have hheard : s.hears (.receive s.link.generation b) = true := by simp [hears, hreader]
      have hsame := Link.generation_receive s.link s.link.generation b
      dsimp only
      rw [hheard, if_pos rfl]
      refine ⟨fun other hother => ?_, fun r' hr' => ?_⟩
      · obtain ⟨before, hbefore, hgeneration⟩ := Link.exists_of_mem_readers_receive hother
        show other.generation ≤ (s.link.receive s.link.generation b).generation
        rw [hsame, ← hgeneration]
        exact h.begun before hbefore
      · have hfound := (Link.receive_present hreader b).1
        rw [show (s.next (.receive s.link.generation b)).link.generation = s.link.generation
          from hsame] at hr'
        obtain rfl := Option.some.inj (hfound.symm.trans hr')
        show (r.demux.push b).1 = (Demux.idle.pushAll (streams.latest ++ [b])).1
        rw [Demux.pushAll_append, ← h.demux r hreader]
        rfl
    · have hsilent : s.hears (.receive generation b) = false := by simp [hears, hpresent]
      dsimp only
      rw [hsilent, if_neg Bool.false_ne_true]
      exact h.dismiss generation
        (congrArg Link.ports (Link.receive_superseded hreader hpresent b))

/-- **Every step feeds** the readers what it adds to the streams. -/
theorem Fed.next (h : s.Fed streams) (step : LinkStep) :
    (s.next step).Fed (s.streamed streams step) := by
  cases step with
  | start => exact h.start
  | reset => exact h.reset
  | lose generation => exact h.lose generation
  | check generation => exact h.check generation
  | receive generation b => exact h.receive generation b
  | refuse e again => exact h.of_ports (Link.failToOpen_asBefore s.link e again).ports
  | abandon => exact h.of_ports rfl
  | send r failure? => exact h.of_ports (Link.send_asBefore s.link r failure?).ports
  | take tag => exact h.of_ports (Link.takeReply?_asBefore s.link tag).ports
  | giveUp tag milliseconds => exact h.of_ports rfl
  | settle =>
    show (if s.waits = 0 then s else _ : LinkRun).Fed streams
    split
    · exact h
    · exact h.of_ports (Link.ports_settle s.link)

/-- **A step that is not a byte** reports no change of a line. -/
theorem adds_next_of_not_receive {step : LinkStep}
    (h : ∀ generation b, step ≠ .receive generation b) (s : LinkRun) :
    (s.next step).link.Adds s.link [] := by
  cases step with
  | receive generation b => exact absurd rfl (h generation b)
  | start | abandon => exact Link.adds_nothing rfl
  | reset => exact Link.adds_transition { s.link with
      generation := s.link.generation + 1, writer := none, replies := [] } false
  | giveUp tag milliseconds => exact Link.adds_report s.link _
  | refuse e again =>
    show (s.link.failToOpen e again).Adds s.link []
    unfold Link.failToOpen
    split
    · exact Link.adds_nothing rfl
    · exact Link.adds_report s.link _
  | settle =>
    show (if s.waits = 0 then s else _ : LinkRun).link.Adds s.link []
    split
    · exact Link.adds_nothing rfl
    · show s.link.settle.Adds s.link []
      unfold Link.settle
      refine Link.Adds.trans (Link.adds_transition _ true) (a := []) ?_
      split
      · exact Link.adds_nothing rfl
      · exact Link.adds_report s.link _
  | lose generation =>
    show (s.link.lose generation).Adds s.link []
    unfold Link.lose
    split
    · exact Link.adds_nothing rfl
    · dsimp only
      split
      · exact Link.Adds.trans (Link.adds_transition _ false) (a := [])
          (Link.adds_report (s.link.dismiss generation) _)
      · exact Link.adds_nothing rfl
  | check generation =>
    show (s.link.check generation).Adds s.link []
    unfold Link.check
    split <;> exact Link.adds_nothing rfl
  | send r failure? =>
    show (s.link.send r failure?).1.Adds s.link []
    unfold Link.send
    split
    · exact Link.adds_nothing rfl
    · exact Link.adds_nothing rfl
    · exact Link.adds_report s.link _
  | take tag =>
    show (((s.link.takeReply? tag).map (·.2)).getD s.link).Adds s.link []
    unfold Link.takeReply?
    cases s.link.replies.find? (·.tag = tag) with
    | none => exact Link.adds_nothing rfl
    | some r => exact Link.adds_nothing rfl

/-- Nor does it add one to the streams. -/
theorem changes_streamed_of_not_receive {step : LinkStep}
    (h : ∀ generation b, step ≠ .receive generation b) (s : LinkRun) (streams : Streams) :
    (s.streamed streams step).changes = streams.changes := by
  cases step with
  | receive generation b => exact absurd rfl (h generation b)
  | start => exact streams.changes_opened
  | _ => rfl

/-- **What a byte reports** is what it adds to the changes in the streams. -/
theorem Fed.adds_receive (h : s.Fed streams) (generation : Nat) (b : UInt8) :
    ∃ changes, (s.next (.receive generation b)).link.Adds s.link changes
      ∧ (s.streamed streams (.receive generation b)).changes = streams.changes ++ changes := by
  refine ⟨_, s.link.adds_receive generation b, ?_⟩
  unfold streamed
  dsimp only
  by_cases hpresent : generation = s.link.generation
  · subst hpresent
    rw [if_pos (Eq.refl s.link.generation)]
    cases hreader : s.link.reader? s.link.generation with
    | none =>
      rw [if_neg (by simp [hears, hreader])]
      exact (List.append_nil _).symm
    | some r =>
      rw [if_pos (by simp [hears, hreader]), Streams.changes_received, Option.bind_some,
        h.demux r hreader]
  · rw [if_neg (by simp [hears, hpresent]), if_neg hpresent, List.append_nil]

/-- **A step reports what it adds** to the changes in the streams. -/
theorem Fed.adds (h : s.Fed streams) (step : LinkStep) :
    ∃ changes, (s.next step).link.Adds s.link changes
      ∧ (s.streamed streams step).changes = streams.changes ++ changes := by
  by_cases hbyte : ∃ generation b, step = .receive generation b
  · obtain ⟨generation, b, rfl⟩ := hbyte
    exact h.adds_receive generation b
  · have hother : ∀ generation b, step ≠ .receive generation b :=
      fun generation b heq => hbyte ⟨generation, b, heq⟩
    refine ⟨[], adds_next_of_not_receive hother s, ?_⟩
    rw [changes_streamed_of_not_receive hother, List.append_nil]

/-- **Accounted for**: the link has reported the changes of lines in the streams of its ports,
and no others. -/
structure Accounted (s : LinkRun) (streams : Streams) : Prop extends s.Fed streams where
  changes_eq : s.link.changes = streams.changes

theorem accounted_fresh (portName : String) : (fresh portName).Accounted .empty where
  begun _ hr := absurd hr List.not_mem_nil
  demux _ hr := absurd hr (by simp [fresh, Link.closed, Link.reader?])
  changes_eq := rfl

/-- **Every step is accounted for.** -/
theorem Accounted.next (h : s.Accounted streams) (step : LinkStep) :
    (s.next step).Accounted (s.streamed streams step) := by
  obtain ⟨changes, hadds, hstreamed⟩ := h.toFed.adds step
  refine { h.toFed.next step with changes_eq := ?_ }
  rw [hadds.changes_eq, hstreamed, h.changes_eq]

/-- Reports are never taken back. -/
theorem exists_reports_next (h : s.Fed streams) (step : LinkStep) :
    ∃ fresh, (s.next step).link.reports = s.link.reports ++ fresh := by
  obtain ⟨-, ⟨fresh, hreports, -⟩, -⟩ := h.adds step
  exact ⟨fresh, hreports⟩

end LinkRun

end Breadboard
