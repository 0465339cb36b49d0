import Breadboard.Proofs.TickCalls
import Mathlib.Logic.Basic

/-!
# All of a tick or nothing of it

What a tick is going to ask is settled by what the board reports: its *agenda*.
A call that is refused cuts the agenda short, and only a tick that comes to the
end of it may have changed the host memory – by one byte, the one that the board
has put on the bus.

The agenda is given here in terms of the console before the tick, although the
tick finds the word and the address only on its way. Between the two stands the
console that the tick performs the live cell with. It has been told where the
board is, and *faces* the cell that the agenda names.
-/

namespace Breadboard

theorem Memory.read_write (m : Memory) (a b : UInt16) (v : UInt8) :
    (m.write a v).read b = if a = b then v else m.read b := Store.get_set m.store a b v

namespace Console

variable {c d : Console} {phase : Phase} {r : BoardReplies}

/-! ## What a tick leaves alone -/

theorem exists_log_eq (c : Console) (e : Event) :
    ∃ notices deeds, c.log e = { c with notices := notices, deeds := deeds } := by
  unfold log
  split
  · exact ⟨_, _, rfl⟩
  · exact ⟨_, _, rfl⟩

theorem exists_abort_eq (c : Console) (phase : Phase) (what : String) (e : LinkError) :
    ∃ notices deeds, c.abort phase what e = { c with notices := notices, deeds := deeds } := by
  unfold abort
  obtain ⟨notices, deeds, h⟩ :=
    exists_log_eq c (.error (tickOrigin phase) what [("err", e.message)])
  rw [h]
  exact ⟨notices, _, rfl⟩

theorem memory_log (c : Console) (e : Event) : (c.log e).memory = c.memory := by
  obtain ⟨notices, deeds, h⟩ := exists_log_eq c e
  rw [h]

theorem memory_abort (c : Console) (phase : Phase) (what : String) (e : LinkError) :
    (c.abort phase what e).memory = c.memory := memory_log c _

theorem exists_moveByte_eq (c : Console) (word : ControlWord) (r : BoardReplies) :
    ∃ memory notices deeds, (c.moveByte word r).1
      = { c with memory := memory, notices := notices, deeds := deeds } := by
  unfold moveByte
  dsimp only
  split
  · cases r.write with
    | error e =>
      obtain ⟨notices, deeds, h⟩ := exists_abort_eq (c.call (.write (c.memory.read c.live.address)))
        c.live.phase "Failed to send data during tick" e
      exact ⟨_, notices, deeds, h⟩
    | ok u => exact ⟨_, _, _, rfl⟩
  · cases r.data with
    | error e =>
      obtain ⟨notices, deeds, h⟩ := exists_abort_eq (c.call .data)
        c.live.phase "Failed to read data during tick" e
      exact ⟨_, notices, deeds, h⟩
    | ok byte => exact ⟨_, _, _, rfl⟩

/-- **What the second half of a tick changes**: the live address, the memory, and the
cursor, which follows the live cell or stays. -/
theorem exists_finishTick_eq (c : Console) (word : ControlWord) (r : BoardReplies) :
    ∃ address editor memory notices deeds, c.finishTick word r
        = { c with
            live := { c.live with address := address }
            editor := editor, memory := memory, notices := notices, deeds := deeds }
      ∧ (editor = c.editor ∨ editor = c.editor.follow c.live.step c.live.phase) := by
  unfold finishTick
  cases r.address with
  | error e =>
    obtain ⟨notices, deeds, h⟩ := exists_abort_eq (c.call .address)
      c.live.phase "Failed to retrieve address" e
    exact ⟨_, _, _, notices, deeds, h, .inl rfl⟩
  | ok address =>
    obtain ⟨memory, notices, deeds, h⟩ := exists_moveByte_eq
      { c.call .address with live := { (c.call .address).live with address := address } } word r
    dsimp only
    split
    · rename_i heq
      rw [heq] at h
      exact ⟨address, _, memory, notices, deeds, h, .inl rfl⟩
    · rename_i heq
      rw [heq] at h
      dsimp only at h
      rw [h]
      exact ⟨address, _, memory, notices, _, rfl, .inr rfl⟩

/-- **What a performed cell changes** is what the second half of a tick does. -/
theorem exists_perform_eq (c : Console) (r : BoardReplies) :
    ∃ address editor memory notices deeds, c.perform r
        = { c with
            live := { c.live with address := address }
            editor := editor, memory := memory, notices := notices, deeds := deeds }
      ∧ (editor = c.editor ∨ editor = c.editor.follow c.live.step c.live.phase) := by
  unfold perform driveLive
  cases c.opcode? with
  | none => exact ⟨_, _, _, _, _, rfl, .inl rfl⟩
  | some op =>
    dsimp only
    split
    · obtain ⟨notices, deeds, h⟩ := exists_log_eq c (.error (tickOrigin c.live.phase)
        "Invalid state" [("step", toString c.live.step.toNat), ("steps", toString op.steps.toNat)])
      exact ⟨_, _, _, notices, deeds, h, .inl rfl⟩
    · cases r.drive with
      | error e =>
        obtain ⟨notices, deeds, h⟩ := exists_abort_eq
          (c.call (.drive (op.word (.wrap c.flagsSlot c.live.step c.live.phase))))
          c.live.phase "Failed to set control lines" e
        exact ⟨_, _, _, notices, deeds, h, .inl rfl⟩
      | ok u => exact exists_finishTick_eq (c.call _) _ r

/-! ## The agenda -/

/-- Whether a tick asks for the opcode: when none is bound, and on the first phase of
the first step. -/
def asksOpcode (c : Console) (phase : Phase) (b : BoardReport) : Bool :=
  c.live.opCode.isNone || (b.status &&& 0x07 == 0 && phase == .phi1)

/-- The opcode a tick runs under. -/
def tickOpcode (c : Console) (phase : Phase) (b : BoardReport) : UInt8 :=
  if c.asksOpcode phase b then b.opCode else c.live.opCode.getD b.opCode

/-- The cell a tick is in. -/
def tickCell (c : Console) (phase : Phase) (b : BoardReport) : Cell :=
  let live : LiveState := { c.live with status := b.status }
  .wrap (if c.ignoresFlags then 0 else live.flags) live.step phase

/-- The word a tick drives. -/
def tickWord (c : Console) (phase : Phase) (b : BoardReport) : ControlWord :=
  (c.table.lookup (c.tickOpcode phase b)).word (c.tickCell phase b)

/-- Whether the opcode has the reported step. -/
def hasStep (c : Console) (phase : Phase) (b : BoardReport) : Bool :=
  b.status &&& 0x07 ≤ (c.table.lookup (c.tickOpcode phase b)).steps

/-- What a tick asks before it performs the live cell. -/
def opening (c : Console) (phase : Phase) (b : BoardReport) : List BoardCall :=
  .status :: if c.asksOpcode phase b then [.opCode] else []

/-- The call that moves the byte. The host gives its own, the one at the reported
address, on the first phase and where the word sets the direction of the data bus. -/
def tickMove (c : Console) (phase : Phase) (b : BoardReport) : BoardCall :=
  if phase = .phi1 ∨ (c.tickWord phase b).has .dbrw then .write (c.memory.read b.address)
  else .data

/-- **The agenda of a tick**: the status, the opcode if it has to be asked for, and,
if the opcode has the reported step, the control lines, the address and the byte. -/
def agenda (c : Console) (phase : Phase) (b : BoardReport) : List BoardCall :=
  c.opening phase b ++
    if c.hasStep phase b then [.drive (c.tickWord phase b), .address, c.tickMove phase b] else []

/-- **Facing the live cell**: a console that has been told where the board is, with the
opcode of the tick bound. Its live state is new, its editor may be, and it has asked. -/
structure Facing (c : Console) (phase : Phase) (b : BoardReport) (d : Console) : Prop where
  rest_eq : d = { c with
    live := d.live, editor := c.boundEditor (c.tickOpcode phase b), deeds := d.deeds }
  opCode_eq : d.live.opCode = some (c.tickOpcode phase b)
  status_eq : d.live.status = b.status
  phase_eq : d.live.phase = phase
  calls_eq : d.calls = c.calls ++ c.opening phase b

namespace Facing

variable {b : BoardReport}

theorem table_eq (h : Facing c phase b d) : d.table = c.table := by
  rw [h.rest_eq]

theorem memory_eq (h : Facing c phase b d) : d.memory = c.memory := by
  rw [h.rest_eq]

theorem editor_eq (h : Facing c phase b d) :
    d.editor = c.boundEditor (c.tickOpcode phase b) := by
  rw [h.rest_eq]

theorem ignoresFlags_eq (h : Facing c phase b d) : d.ignoresFlags = c.ignoresFlags := by
  rw [h.rest_eq]

/-- The live cell of a console that faces it is the cell of the tick. -/
theorem liveWord_eq (h : Facing c phase b d) :
    d.liveWord (c.tickOpcode phase b) = c.tickWord phase b := by
  unfold liveWord tickWord tickCell flagsSlot LiveState.step LiveState.flags
  rw [h.table_eq, h.ignoresFlags_eq, h.status_eq, h.phase_eq]

/-- **What is due there** is the rest of the agenda. -/
theorem agenda_eq (h : Facing c phase b d) :
    c.agenda phase b = c.opening phase b ++ d.due (c.tickOpcode phase b) b.address := by
  have hstep : d.live.step = b.status &&& 0x07 := congrArg (· &&& 0x07) h.status_eq
  unfold agenda due hasStep
  rw [h.liveWord_eq, h.table_eq, hstep]
  refine congrArg (c.opening phase b ++ ·) ?_
  by_cases hle : b.status &&& 0x07 ≤ (c.table.lookup (c.tickOpcode phase b)).steps
  · rw [if_pos (decide_eq_true hle), if_neg (UInt8.not_lt.mpr hle)]
    unfold tickMove moveCall hostGives
    rw [h.phase_eq, h.memory_eq]
    simp
  · rw [if_neg (by simpa using hle), if_pos (UInt8.not_le.mp hle)]

end Facing

/-! ## How a tick begins -/

theorem asksOpcode_report {status : UInt8} (hs : r.status = .ok status) (c : Console)
    (phase : Phase) : c.asksOpcode phase r.report = (c.arrive status phase).needsOpcode := by
  unfold asksOpcode
  rw [BoardReplies.report_status hs]
  rfl

theorem opening_of_known (hasks : c.asksOpcode phase r.report = false) :
    c.opening phase r.report = [.status] :=
  congrArg (List.cons _) (if_neg (by rw [hasks]; simp))

theorem opening_of_asks (hasks : c.asksOpcode phase r.report = true) :
    c.opening phase r.report = [.status, .opCode] :=
  congrArg (List.cons _) (if_pos hasks)

/-- No opcode is asked for only if one is bound, and that is the one of the tick. -/
theorem facing_arrive {status : UInt8} (hs : r.status = .ok status)
    (hasks : c.asksOpcode phase r.report = false) :
    Facing c phase r.report (c.arrive status phase) := by
  have hbound : c.live.opCode = some (c.tickOpcode phase r.report) := by
    unfold tickOpcode
    rw [if_neg (by rw [hasks]; simp)]
    cases hcode : c.live.opCode with
    | some code => rfl
    | none =>
      unfold asksOpcode at hasks
      rw [hcode] at hasks
      exact absurd hasks (by simp)
  refine ⟨?_, hbound, (BoardReplies.report_status hs).symm, rfl, ?_⟩
  · unfold boundEditor
    rw [if_pos hbound]
    rfl
  · rw [calls_arrive, opening_of_known hasks]

/-- One that is asked for and told is the opcode of the tick. -/
theorem facing_bind {status code : UInt8} (hs : r.status = .ok status)
    (hasks : c.asksOpcode phase r.report = true) (ho : r.opCode = .ok code) :
    Facing c phase r.report (((c.arrive status phase).call .opCode).bind code) := by
  have hcode : c.tickOpcode phase r.report = code := by
    unfold tickOpcode
    rw [if_pos hasks]
    exact BoardReplies.report_opCode ho
  have hcalls : (((c.arrive status phase).call .opCode).bind code).calls
      = c.calls ++ c.opening phase r.report := by
    rw [calls_bind, calls_call, calls_arrive, opening_of_asks hasks, List.append_assoc]
    rfl
  obtain ⟨address, h⟩ := exists_bind_eq ((c.arrive status phase).call .opCode) code
  rw [h] at hcalls ⊢
  refine ⟨?_, congrArg some hcode.symm, (BoardReplies.report_status hs).symm, rfl, hcalls⟩
  rw [hcode]
  rfl

/-- **How a tick begins.** Either a console that faces the live cell performs it, or a
call of the opening is refused. This ends the tick, and the opcode stays the one it was. -/
theorem tick_cases (c : Console) (phase : Phase) (r : BoardReplies) :
    (∃ d, Facing c phase r.report d ∧ c.tick phase r = d.perform r
        ∧ ∀ call ∈ c.opening phase r.report, r.grants call = true)
      ∨ (∃ call ∈ c.opening phase r.report, r.grants call = false)
        ∧ (c.tick phase r).calls = c.calls ++ r.carry (c.opening phase r.report)
        ∧ ∃ live notices deeds, c.tick phase r
            = { c with live := live, notices := notices, deeds := deeds }
          ∧ live.opCode = c.live.opCode := by
  cases hs : r.status with
  | error e =>
    have hrefused : r.grants .status = false := congrArg Except.isOk hs
    obtain ⟨notices, deeds, h⟩ := exists_abort_eq (c.call .status) phase
      "Failed to read status during tick" e
    rw [tick_of_status_error hs]
    exact .inr ⟨⟨.status, List.mem_cons_self, hrefused⟩, calls_refused hrefused _ _ _ _ e,
      _, notices, deeds, h, rfl⟩
  | ok status =>
    have hgranted : r.grants .status = true := congrArg Except.isOk hs
    have hneeds := asksOpcode_report hs c phase
    cases hasks : c.asksOpcode phase r.report with
    | false =>
      rw [opening_of_known hasks]
      exact .inl ⟨c.arrive status phase, facing_arrive hs hasks,
        tick_of_known hs (hneeds.symm.trans hasks), by simpa using hgranted⟩
    | true =>
      rw [opening_of_asks hasks]
      cases ho : r.opCode with
      | error e =>
        have hrefused : r.grants .opCode = false := congrArg Except.isOk ho
        obtain ⟨notices, deeds, h⟩ := exists_abort_eq ((c.arrive status phase).call .opCode) phase
          "Failed to read opcode during tick" e
        rw [tick_of_opcode_error hs (hneeds.symm.trans hasks) ho]
        refine .inr ⟨⟨.opCode, by simp, hrefused⟩, ?_, _, notices, deeds, h, rfl⟩
        rw [calls_refused hrefused [], calls_arrive, BoardReplies.carry_of_granted hgranted,
          List.append_assoc]
        rfl
      | ok code =>
        have hlearned : r.grants .opCode = true := congrArg Except.isOk ho
        exact .inl ⟨((c.arrive status phase).call .opCode).bind code, facing_bind hs hasks ho,
          tick_of_opcode hs (hneeds.symm.trans hasks) ho, by simpa using ⟨hgranted, hlearned⟩⟩

/-- **A tick leaves alone** everything but the live state, the editor, the host memory
and what is told and asked. -/
theorem exists_tick_eq (c : Console) (phase : Phase) (r : BoardReplies) :
    ∃ live editor memory notices deeds, c.tick phase r
      = { c with
          live := live, editor := editor, memory := memory
          notices := notices, deeds := deeds } := by
  obtain ⟨d, hfacing, htick, -⟩ | ⟨-, -, live, notices, deeds, htick, -⟩ := tick_cases c phase r
  · obtain ⟨address, editor, memory, notices, deeds, h, -⟩ := exists_perform_eq d r
    rw [htick, h, hfacing.rest_eq]
    exact ⟨_, _, _, _, _, rfl⟩
  · exact ⟨live, _, _, notices, deeds, htick⟩

/-- **A tick carries out its agenda.** -/
theorem calls_tick (c : Console) (phase : Phase) (r : BoardReplies) :
    (c.tick phase r).calls = c.calls ++ r.carry (c.agenda phase r.report) := by
  obtain ⟨d, hfacing, htick, hgranted⟩ | ⟨hrefused, hcalls, -⟩ := tick_cases c phase r
  · rw [htick, calls_perform hfacing.opCode_eq, hfacing.calls_eq, hfacing.agenda_eq,
      BoardReplies.carry_append_of_granted hgranted, List.append_assoc]
  · rw [hcalls]
    exact congrArg _ (BoardReplies.carry_append_of_refused hrefused _).symm

/-! ## The byte that is read -/

/-- The memory after some calls: changed only if all of them are granted and the byte
on the bus is asked for. -/
def memoryAfter (c : Console) (r : BoardReplies) (due : List BoardCall) : Memory :=
  if (∀ call ∈ due, r.grants call = true) ∧ .data ∈ due then
    c.memory.write r.report.address r.report.data
  else c.memory

theorem memoryAfter_of_refused {due : List BoardCall} (h : ∃ call ∈ due, r.grants call = false)
    (c : Console) : c.memoryAfter r due = c.memory := by
  refine if_neg ?_
  rintro ⟨hall, -⟩
  obtain ⟨call, hmem, hrefused⟩ := h
  exact absurd ((hall call hmem).symm.trans hrefused) (by simp)

theorem memoryAfter_of_not_mem {due : List BoardCall} (h : .data ∉ due) (c : Console) :
    c.memoryAfter r due = c.memory :=
  if_neg fun hread => h hread.2

/-- Granted calls before it that move no byte make no difference. -/
theorem memoryAfter_append {calls : List BoardCall}
    (hgranted : ∀ call ∈ calls, r.grants call = true) (hdata : .data ∉ calls) (c : Console)
    (due : List BoardCall) :
    c.memoryAfter r (calls ++ due) = c.memoryAfter r due := by
  unfold memoryAfter
  refine if_congr (and_congr ?_ ?_) rfl rfl
  · exact ⟨fun h call hmem => h call (List.mem_append_right calls hmem),
      fun h call hmem => (List.mem_append.mp hmem).elim (hgranted call) (h call)⟩
  · rw [List.mem_append]
    exact or_iff_right hdata

theorem memory_moveByte (haddress : c.live.address = r.report.address) (word : ControlWord) :
    (c.moveByte word r).1.memory = c.memoryAfter r [c.moveCall word r.report.address] := by
  unfold moveByte moveCall
  dsimp only
  rw [haddress]
  split
  · -- The host gives the byte: nothing is read, whether that works or not.
    rw [memoryAfter_of_not_mem (by simp)]
    cases r.write with
    | error e => exact memory_abort _ _ _ e
    | ok u => rfl
  · cases hd : r.data with
    | error e =>
      have hrefused : r.grants .data = false := congrArg Except.isOk hd
      rw [memoryAfter_of_refused ⟨.data, List.mem_cons_self, hrefused⟩]
      exact memory_abort _ _ _ e
    | ok byte =>
      have hgranted : r.grants .data = true := congrArg Except.isOk hd
      refine Eq.trans ?_ (if_pos ⟨by simpa using hgranted, List.mem_cons_self⟩).symm
      rw [BoardReplies.report_data hd]
      rfl

theorem memory_finishTick (c : Console) (word : ControlWord) (r : BoardReplies) :
    (c.finishTick word r).memory
      = c.memoryAfter r [.address, c.moveCall word r.report.address] := by
  unfold finishTick
  cases ha : r.address with
  | error e =>
    have hrefused : r.grants .address = false := congrArg Except.isOk ha
    rw [memoryAfter_of_refused ⟨.address, List.mem_cons_self, hrefused⟩]
    exact memory_abort _ _ _ e
  | ok address =>
    have hgranted : r.grants .address = true := congrArg Except.isOk ha
    have hmoved := memory_moveByte (r := r)
      (c := { c.call .address with live := { (c.call .address).live with address := address } })
      (BoardReplies.report_address ha).symm word
    have hasked : ∀ call ∈ [BoardCall.address], r.grants call = true := by simpa using hgranted
    refine Eq.trans ?_ (memoryAfter_append hasked (by simp) c _).symm
    dsimp only
    split
    · rename_i heq
      rw [heq] at hmoved
      exact hmoved
    · rename_i heq
      rw [heq] at hmoved
      exact hmoved

theorem memory_perform {code : UInt8} (hcode : c.live.opCode = some code) :
    (c.perform r).memory = c.memoryAfter r (c.due code r.report.address) := by
  unfold perform driveLive opcode? due
  rw [hcode]
  simp only [Option.map_some]
  split
  · rw [memoryAfter_of_not_mem List.not_mem_nil]
    exact memory_log c _
  · cases hd : r.drive with
    | error e =>
      have hrefused : r.grants (.drive (c.liveWord code)) = false := congrArg Except.isOk hd
      rw [memoryAfter_of_refused ⟨_, List.mem_cons_self, hrefused⟩]
      exact memory_abort _ _ _ e
    | ok u =>
      have hgranted : r.grants (.drive (c.liveWord code)) = true := congrArg Except.isOk hd
      have hasked : ∀ call ∈ [BoardCall.drive (c.liveWord code)], r.grants call = true := by
        simpa using hgranted
      exact (memory_finishTick _ _ r).trans (memoryAfter_append hasked (by simp) c _).symm

/-- **The memory after a tick** is the one before it, unless the agenda was granted and
the byte on the bus was on it. -/
theorem memory_tick (c : Console) (phase : Phase) (r : BoardReplies) :
    (c.tick phase r).memory = c.memoryAfter r (c.agenda phase r.report) := by
  have hopening : .data ∉ c.opening phase r.report := by
    unfold opening
    split <;> simp
  obtain ⟨d, hfacing, htick, hgranted⟩ | ⟨hrefused, -, live, notices, deeds, htick, -⟩ :=
    tick_cases c phase r
  · rw [htick, memory_perform hfacing.opCode_eq, hfacing.agenda_eq,
      memoryAfter_append hgranted hopening]
    unfold memoryAfter
    rw [hfacing.memory_eq]
  · rw [htick, memoryAfter_of_refused]
    obtain ⟨call, hmem, hcall⟩ := hrefused
    exact ⟨call, List.mem_append_left _ hmem, hcall⟩

/-! ## All or nothing -/

/-- Whether a tick comes to its end: the opcode has the reported step, and every call
of the agenda is granted. -/
def completes (c : Console) (phase : Phase) (r : BoardReplies) : Bool :=
  c.hasStep phase r.report && (c.agenda phase r.report).all r.grants

theorem granted_of_completes (h : c.completes phase r = true) :
    ∀ call ∈ c.agenda phase r.report, r.grants call = true := by
  unfold completes at h
  exact List.all_eq_true.mp (Bool.and_eq_true_iff.mp h).2

/-- A tick that completes asks its whole agenda. -/
theorem calls_tick_of_completes (h : c.completes phase r = true) :
    (c.tick phase r).calls = c.calls ++ c.agenda phase r.report := by
  have hcarry := BoardReplies.carry_append_of_granted (granted_of_completes h) []
  rw [List.append_nil] at hcarry
  rw [calls_tick, hcarry]
  exact congrArg (c.calls ++ ·) (List.append_nil _)

/-- It is the live cell that it performs. -/
theorem exists_facing_of_completes (h : c.completes phase r = true) :
    ∃ d, Facing c phase r.report d ∧ c.tick phase r = d.perform r := by
  obtain ⟨d, hfacing, htick, -⟩ | ⟨⟨call, hmem, hrefused⟩, -⟩ := tick_cases c phase r
  · exact ⟨d, hfacing, htick⟩
  · have hgranted := granted_of_completes h call (List.mem_append_left _ hmem)
    exact absurd (hgranted.symm.trans hrefused) (by simp)

theorem tickMove_eq_data_iff {b : BoardReport} :
    .data = c.tickMove phase b ↔ phase = .phi2 ∧ (c.tickWord phase b).has .dbrw = false := by
  unfold tickMove
  cases phase <;> simp

theorem data_mem_agenda_iff {b : BoardReport} :
    .data ∈ c.agenda phase b
      ↔ c.hasStep phase b = true ∧ phase = .phi2 ∧ (c.tickWord phase b).has .dbrw = false := by
  rw [← tickMove_eq_data_iff]
  unfold agenda opening
  cases c.hasStep phase b <;> cases c.asksOpcode phase b <;> simp

/-- The link is reset once if a call is refused and never otherwise. -/
theorem count_reset_carry {due : List BoardCall} (h : .reset ∉ due) (r : BoardReplies) :
    (r.carry due).count .reset = if due.all r.grants then 0 else 1 := by
  induction due with
  | nil => rfl
  | cons call rest ih =>
    obtain ⟨hcall, hrest⟩ := not_or.mp (mt List.mem_cons.mpr h)
    cases hgrants : r.grants call with
    | true =>
      rw [BoardReplies.carry_of_granted hgrants, List.count_cons_of_ne (Ne.symm hcall), ih hrest,
        List.all_cons, hgrants, Bool.true_and]
    | false =>
      rw [BoardReplies.carry_of_refused hgrants, List.count_cons_of_ne (Ne.symm hcall),
        List.all_cons, hgrants]
      rfl

theorem reset_not_mem_agenda (c : Console) (phase : Phase) (b : BoardReport) :
    .reset ∉ c.agenda phase b := by
  have hmove : .reset ≠ c.tickMove phase b := by
    unfold tickMove
    split <;> simp
  unfold agenda opening
  cases c.hasStep phase b <;> cases c.asksOpcode phase b <;> simp [hmove]

/-- **A tick does all or nothing to the host memory.** It carries out its agenda, and
resets the link once if a call is refused and never otherwise. The memory changes only
if the tick completes on the second phase with a word that has the data bus read, and
then only by the byte read, at the reported address. The rest of the memory, the table
and the views are left alone. -/
theorem tick_all_or_nothing (c : Console) (phase : Phase) (r : BoardReplies) :
    let b := r.report
    let after := c.tick phase r
    after.calls = c.calls ++ r.carry (c.agenda phase b)
      ∧ (r.carry (c.agenda phase b)).count .reset
        = (if (c.agenda phase b).all r.grants then 0 else 1)
      ∧ (∀ a, after.memory.read a
        = if c.completes phase r ∧ phase = .phi2 ∧ (c.tickWord phase b).has .dbrw = false
              ∧ a = b.address then b.data
          else c.memory.read a)
      ∧ after.memory = { c.memory with store := after.memory.store }
      ∧ after.table = c.table
      ∧ after.memory.breakPoints = c.memory.breakPoints
      ∧ after.views = c.views := by
  intro b after
  have hmemory : after.memory = c.memoryAfter r (c.agenda phase b) := memory_tick c phase r
  have hrest : after.memory = { c.memory with store := after.memory.store } := by
    rw [hmemory]
    unfold memoryAfter
    split <;> rfl
  obtain ⟨live, editor, memory, notices, deeds, hafter⟩ := exists_tick_eq c phase r
  refine ⟨calls_tick c phase r, count_reset_carry (reset_not_mem_agenda c phase b) r,
    fun a => ?_, hrest, ?_, by rw [hrest], ?_⟩
  · have hreads : ((∀ call ∈ c.agenda phase b, r.grants call = true) ∧ .data ∈ c.agenda phase b)
        ↔ c.completes phase r = true ∧ phase = .phi2 ∧ (c.tickWord phase b).has .dbrw = false := by
      unfold completes
      rw [data_mem_agenda_iff, Bool.and_eq_true, List.all_eq_true]
      exact ⟨fun ⟨hall, hstep, hword⟩ => ⟨⟨hstep, hall⟩, hword⟩,
        fun ⟨⟨hstep, hall⟩, hword⟩ => ⟨hall, hstep, hword⟩⟩
    rw [hmemory, memoryAfter, if_congr hreads rfl rfl]
    by_cases hread : c.completes phase r = true ∧ phase = .phi2
        ∧ (c.tickWord phase b).has .dbrw = false
    · rw [if_pos hread, Memory.read_write]
      exact if_congr ⟨fun h => ⟨hread.1, hread.2.1, hread.2.2, h.symm⟩, fun h => h.2.2.2.symm⟩
        rfl rfl
    · rw [if_neg hread, if_neg fun h => hread ⟨h.1, h.2.1, h.2.2.1⟩]
  · show (c.tick phase r).table = c.table
    rw [hafter]
  · show (c.tick phase r).views = c.views
    rw [hafter]

end Console

end Breadboard
