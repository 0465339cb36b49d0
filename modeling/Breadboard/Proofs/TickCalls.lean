import Breadboard.Console.Tick

/-!
# What a tick asks of the board

A tick goes through stages, and what it asks of the board tells how far it came.
It first asks where the board is and, at the beginning of an instruction, which
one; if it knows both it *performs* the live cell: it drives the cell's word and
moves a byte. Only the second part does anything to the board.

There are four ways through the first part, and each is an equation below. What
a tick does is then read off the performed cell, whose opcode and step are known
by then.
-/

namespace Breadboard

/-- Whether a call acts on the board: drives its lines, or moves a byte. -/
def BoardCall.acts : BoardCall → Bool
  | drive _ | write _ | data => true
  | _ => false

/-- **Report**: the values in a board's replies. Zero stands in for a value that is
not reported, which is of no consequence. -/
structure BoardReport where
  status : UInt8
  opCode : UInt8
  address : UInt16
  data : UInt8

namespace BoardReplies

/-- Whether a call is granted. -/
def grants (r : BoardReplies) : BoardCall → Bool
  | .status => r.status.isOk
  | .opCode => r.opCode.isOk
  | .address => r.address.isOk
  | .data => r.data.isOk
  | .drive _ => r.drive.isOk
  | .write _ => r.write.isOk
  | .reset | .reconnect => true

/-- **What is asked when some calls are due**: one after the other for as long as
they are granted. After a call that is refused the link is reset, and the calls
behind it are not made. -/
def carry (r : BoardReplies) : List BoardCall → List BoardCall
  | [] => []
  | call :: due => call :: if r.grants call then r.carry due else [.reset]

variable {r : BoardReplies} {call : BoardCall}

theorem carry_of_granted (h : r.grants call = true) (due : List BoardCall) :
    r.carry (call :: due) = call :: r.carry due :=
  congrArg (List.cons call) (if_pos h)

theorem carry_of_refused (h : r.grants call = false) (due : List BoardCall) :
    r.carry (call :: due) = [call, .reset] :=
  congrArg (List.cons call) (if_neg (by rw [h]; simp))

/-- Calls that are all granted are followed by what else is due. -/
theorem carry_append_of_granted {calls : List BoardCall} (h : ∀ call ∈ calls, r.grants call = true)
    (due : List BoardCall) : r.carry (calls ++ due) = calls ++ r.carry due := by
  induction calls with
  | nil => rfl
  | cons call rest ih =>
    rw [List.cons_append, carry_of_granted (h call List.mem_cons_self),
      ih fun other hmem => h other (List.mem_cons_of_mem call hmem)]
    rfl

/-- Nothing is asked behind calls of which one is refused. -/
theorem carry_append_of_refused {calls : List BoardCall}
    (h : ∃ call ∈ calls, r.grants call = false) (due : List BoardCall) :
    r.carry (calls ++ due) = r.carry calls := by
  induction calls with
  | nil => exact absurd h (by simp)
  | cons call rest ih =>
    cases hcall : r.grants call with
    | false => rw [List.cons_append, carry_of_refused hcall, carry_of_refused hcall]
    | true =>
      obtain ⟨other, hmem, hrefused⟩ := h
      obtain rfl | hmem := List.mem_cons.mp hmem
      · exact absurd (hcall.symm.trans hrefused) (by simp)
      · rw [List.cons_append, carry_of_granted hcall, carry_of_granted hcall,
          ih ⟨other, hmem, hrefused⟩]

/-- What a board reports in its replies. -/
def report (r : BoardReplies) : BoardReport where
  status := r.status.toOption.getD 0
  opCode := r.opCode.toOption.getD 0
  address := r.address.toOption.getD 0
  data := r.data.toOption.getD 0

theorem report_status {status : UInt8} (h : r.status = .ok status) : r.report.status = status :=
  congrArg (·.toOption.getD 0) h

theorem report_opCode {code : UInt8} (h : r.opCode = .ok code) : r.report.opCode = code :=
  congrArg (·.toOption.getD 0) h

theorem report_address {address : UInt16} (h : r.address = .ok address) :
    r.report.address = address :=
  congrArg (·.toOption.getD 0) h

theorem report_data {byte : UInt8} (h : r.data = .ok byte) : r.report.data = byte :=
  congrArg (·.toOption.getD 0) h

end BoardReplies

namespace Console

open BoardReplies (carry_of_granted carry_of_refused)

variable {c c' : Console} {phase : Phase} {r : BoardReplies}

/-! ## Calls -/

/-- Only a deed that is a call adds one. -/
theorem calls_record (c : Console) (d : Deed) :
    (c.record d).calls = c.calls ++ (match d with
      | .called call => [call]
      | _ => []) := by
  unfold record calls
  rw [List.filterMap_append]
  cases d <;> rfl

@[simp]
theorem calls_call (c : Console) (b : BoardCall) : (c.call b).calls = c.calls ++ [b] :=
  calls_record c (.called b)

@[simp]
theorem calls_redraw (c : Console) (clear : Bool) : (c.redraw clear).calls = c.calls :=
  (calls_record c (.redraw clear)).trans (List.append_nil _)

@[simp]
theorem calls_log (c : Console) (e : Event) : (c.log e).calls = c.calls := by
  unfold log
  split
  · rw [calls_redraw, calls_record]
    exact List.append_nil _
  · rfl

/-- Giving up a tick resets the link. -/
@[simp]
theorem calls_abort (c : Console) (phase : Phase) (what : String) (e : LinkError) :
    (c.abort phase what e).calls = c.calls ++ [.reset] := by
  unfold abort
  rw [calls_call, calls_log]

/-! ## Binding -/

/-- The editor that an opcode is bound with. It takes over the step count of another
opcode, and is kept for the one that is bound already. -/
def boundEditor (c : Console) (code : UInt8) : LineEditor :=
  if c.live.opCode = some code then c.editor
  else (c.editor.bind? (c.table.lookup code).steps).getD c.editor

/-- **Binding** changes the live opcode, the address of its instruction and the
editor, and nothing else. -/
theorem exists_bind_eq (c : Console) (code : UInt8) :
    ∃ address, c.bind code
      = { c with
          editor := c.boundEditor code
          live := { c.live with opCode := some code, instructionAddress := address } } := by
  unfold Console.bind boundEditor
  dsimp only
  by_cases h : c.live.opCode = some code
  · rw [if_pos h, if_pos h, ← h]
    split
    · exact ⟨c.live.instructionAddress, rfl⟩
    · exact ⟨c.live.address, rfl⟩
  · rw [if_neg h, if_neg h]
    split
    · exact ⟨c.live.instructionAddress, rfl⟩
    · exact ⟨c.live.address, rfl⟩

@[simp]
theorem calls_bind (c : Console) (code : UInt8) : (c.bind code).calls = c.calls := by
  obtain ⟨address, h⟩ := exists_bind_eq c code
  rw [h]
  rfl

theorem opCode_bind (c : Console) (code : UInt8) : (c.bind code).live.opCode = some code := by
  obtain ⟨address, h⟩ := exists_bind_eq c code
  rw [h]

theorem step_bind (c : Console) (code : UInt8) : (c.bind code).live.step = c.live.step := by
  obtain ⟨address, h⟩ := exists_bind_eq c code
  rw [h]
  rfl

theorem table_bind (c : Console) (code : UInt8) : (c.bind code).table = c.table := by
  obtain ⟨address, h⟩ := exists_bind_eq c code
  rw [h]

/-! ## Acting on the board -/

/-- What has been asked of the board since an earlier console. -/
def callsSince (c' c : Console) : List BoardCall := c'.calls.drop c.calls.length

theorem callsSince_eq (asked : List BoardCall) (h : c'.calls = c.calls ++ asked) :
    c'.callsSince c = asked := by
  unfold callsSince
  rw [h, List.drop_left]

/-- Whether a console acted on the board since an earlier one. -/
def Acted (c' c : Console) : Prop := ∃ call ∈ c'.callsSince c, call.acts = true

theorem acted_iff (asked : List BoardCall) (h : c'.calls = c.calls ++ asked) :
    c'.Acted c ↔ ∃ call ∈ asked, call.acts = true := by
  unfold Acted
  rw [callsSince_eq asked h]

theorem not_acted (asked : List BoardCall) (h : c'.calls = c.calls ++ asked)
    (hquiet : ∀ call ∈ asked, call.acts = false) : ¬ c'.Acted c := by
  rw [acted_iff asked h]
  rintro ⟨call, hmem, hacts⟩
  rw [hquiet call hmem] at hacts
  exact absurd hacts (by simp)

/-! ## The performed cell -/

/-- **The rest of a tick** after its first half, which gives the driven word if
there is a rest. -/
def complete (half : Console × Option ControlWord) (r : BoardReplies) : Console :=
  match half with
  | (c, none) => c
  | (c, some word) => c.finishTick word r

theorem tick_eq_complete (c : Console) (phase : Phase) (r : BoardReplies) :
    c.tick phase r = complete (c.beginTick phase r) r := rfl

/-- **Performs the live cell**: drives its word and moves the byte. -/
def perform (c : Console) (r : BoardReplies) : Console := complete (c.driveLive r) r

/-- Without a status the tick is given up. -/
theorem tick_of_status_error {e : LinkError} (hs : r.status = .error e) (c : Console)
    (phase : Phase) :
    c.tick phase r = (c.call .status).abort phase "Failed to read status during tick" e := by
  unfold tick beginTick
  rw [hs]

/-- The console that has been told where the board is. -/
def arrive (c : Console) (status : UInt8) (phase : Phase) : Console :=
  (c.call .status).setStatus status phase

/-- With a status the tick goes on to the opcode. -/
theorem beginTick_of_status {status : UInt8} (hs : r.status = .ok status) (c : Console)
    (phase : Phase) :
    c.beginTick phase r
      = match (c.arrive status phase).readOpcode r with
        | (c, false) => (c, none)
        | (c, true) => c.driveLive r := by
  unfold beginTick
  rw [hs]
  rfl

/-- Where no opcode has to be read the cell is performed. -/
theorem tick_of_known {status : UInt8} (hs : r.status = .ok status)
    (hneeds : (c.arrive status phase).needsOpcode = false) :
    c.tick phase r = (c.arrive status phase).perform r := by
  have hread : (c.arrive status phase).readOpcode r = (c.arrive status phase, true) := by
    unfold readOpcode
    rw [if_neg (by rw [hneeds]; simp)]
  rw [tick_eq_complete, beginTick_of_status hs, hread]
  rfl

/-- Without the opcode that has to be read the tick is given up. -/
theorem tick_of_opcode_error {status : UInt8} {e : LinkError} (hs : r.status = .ok status)
    (hneeds : (c.arrive status phase).needsOpcode = true) (ho : r.opCode = .error e) :
    c.tick phase r
      = ((c.arrive status phase).call .opCode).abort phase "Failed to read opcode during tick"
          e := by
  have hread : (c.arrive status phase).readOpcode r
      = (((c.arrive status phase).call .opCode).abort phase "Failed to read opcode during tick" e,
          false) := by
    unfold readOpcode
    rw [if_pos hneeds, ho]
    rfl
  rw [tick_eq_complete, beginTick_of_status hs, hread]
  rfl

/-- An opcode that was read is bound before the cell is performed. -/
theorem tick_of_opcode {status code : UInt8} (hs : r.status = .ok status)
    (hneeds : (c.arrive status phase).needsOpcode = true) (ho : r.opCode = .ok code) :
    c.tick phase r = (((c.arrive status phase).call .opCode).bind code).perform r := by
  have hread : (c.arrive status phase).readOpcode r
      = (((c.arrive status phase).call .opCode).bind code, true) := by
    unfold readOpcode
    rw [if_pos hneeds, ho]
  rw [tick_eq_complete, beginTick_of_status hs, hread]
  rfl

/-! ## The calls of a performed cell -/

/-- A call that is refused ends the tick, whatever else was due. -/
theorem calls_refused {call : BoardCall} (h : r.grants call = false) (due : List BoardCall)
    (c : Console) (phase : Phase) (what : String) (e : LinkError) :
    ((c.call call).abort phase what e).calls = c.calls ++ r.carry (call :: due) := by
  rw [carry_of_refused h, calls_abort, calls_call, List.append_assoc]
  rfl

/-- The call that moves the byte at an address while a word is driven. -/
def moveCall (c : Console) (word : ControlWord) (address : UInt16) : BoardCall :=
  if hostGives word c.live.phase then .write (c.memory.read address) else .data

theorem calls_moveByte (c : Console) (word : ControlWord) (r : BoardReplies) :
    (c.moveByte word r).1.calls = c.calls ++ r.carry [c.moveCall word c.live.address] := by
  unfold moveByte moveCall
  dsimp only
  split
  · cases hw : r.write with
    | error e =>
      have hrefused : r.grants (.write (c.memory.read c.live.address)) = false :=
        congrArg Except.isOk hw
      exact calls_refused hrefused [] _ _ _ e
    | ok u =>
      have hgranted : r.grants (.write (c.memory.read c.live.address)) = true :=
        congrArg Except.isOk hw
      rw [carry_of_granted hgranted]
      exact calls_call c _
  · cases hd : r.data with
    | error e =>
      have hrefused : r.grants .data = false := congrArg Except.isOk hd
      exact calls_refused hrefused [] _ _ _ e
    | ok byte =>
      have hgranted : r.grants .data = true := congrArg Except.isOk hd
      rw [carry_of_granted hgranted]
      exact calls_call c .data

/-- The second half of a tick asks for the address and moves the byte there. -/
theorem calls_finishTick (c : Console) (word : ControlWord) (r : BoardReplies) :
    (c.finishTick word r).calls
      = c.calls ++ r.carry [.address, c.moveCall word r.report.address] := by
  unfold finishTick
  cases ha : r.address with
  | error e =>
    have hrefused : r.grants .address = false := congrArg Except.isOk ha
    exact calls_refused hrefused _ _ _ _ e
  | ok address =>
    have hgranted : r.grants .address = true := congrArg Except.isOk ha
    have hmoved := calls_moveByte
      { c.call .address with live := { (c.call .address).live with address := address } } word r
    have hall : c.calls ++ r.carry [.address, c.moveCall word r.report.address]
        = (c.call .address).calls ++ r.carry [c.moveCall word address] := by
      rw [carry_of_granted hgranted, BoardReplies.report_address ha, calls_call, List.append_assoc]
      rfl
    rw [hall]
    dsimp only
    split
    · rename_i heq
      rw [heq] at hmoved
      exact hmoved
    · rename_i heq
      rw [heq] at hmoved
      exact (calls_redraw _ _).trans hmoved

/-- The word of the live cell for an opcode. -/
def liveWord (c : Console) (code : UInt8) : ControlWord :=
  (c.table.lookup code).word (.wrap c.flagsSlot c.live.step c.live.phase)

/-- **The calls that are due** when the live cell of an opcode is performed. There
are none if the opcode does not have the step. -/
def due (c : Console) (code : UInt8) (address : UInt16) : List BoardCall :=
  if (c.table.lookup code).steps < c.live.step then []
  else [.drive (c.liveWord code), .address, c.moveCall (c.liveWord code) address]

/-- **A performed cell** asks what is due. -/
theorem calls_perform {code : UInt8} (hcode : c.live.opCode = some code) :
    (c.perform r).calls = c.calls ++ r.carry (c.due code r.report.address) := by
  unfold perform driveLive opcode? due
  rw [hcode]
  simp only [Option.map_some]
  split
  · exact (calls_log c _).trans (List.append_nil _).symm
  · cases hd : r.drive with
    | error e =>
      have hrefused : r.grants (.drive (c.liveWord code)) = false := congrArg Except.isOk hd
      exact calls_refused hrefused _ _ _ _ e
    | ok u =>
      have hgranted : r.grants (.drive (c.liveWord code)) = true := congrArg Except.isOk hd
      rw [carry_of_granted hgranted]
      refine (calls_finishTick _ _ r).trans ?_
      rw [calls_call, List.append_assoc]
      rfl

/-! ## Acting -/

/-- A step that the opcode does not have is not performed. -/
theorem calls_perform_of_lt {code : UInt8} (hcode : c.live.opCode = some code)
    (hstep : (c.table.lookup code).steps < c.live.step) :
    (c.perform r).calls = c.calls := by
  rw [calls_perform hcode, due, if_pos hstep]
  exact List.append_nil _

/-- **Any other step is**: the word of the live cell is driven first. -/
theorem calls_perform_of_le {code : UInt8} (hcode : c.live.opCode = some code)
    (hstep : c.live.step ≤ (c.table.lookup code).steps) :
    c.calls ++ [.drive (c.liveWord code)] <+: (c.perform r).calls := by
  rw [calls_perform hcode, due, if_neg (UInt8.not_lt.mpr hstep)]
  exact List.prefix_append_right_inj _ |>.mpr (List.prefix_append [_] _)

/-- Performing a cell takes back nothing that was asked. -/
theorem prefix_calls_perform (c : Console) (r : BoardReplies) :
    c.calls <+: (c.perform r).calls := by
  cases hcode : c.live.opCode with
  | none =>
    unfold perform driveLive opcode?
    rw [hcode]
    exact List.prefix_rfl
  | some code =>
    by_cases hstep : c.live.step ≤ (c.table.lookup code).steps
    · exact (List.prefix_append _ _).trans (calls_perform_of_le hcode hstep)
    · exact calls_perform_of_lt hcode (UInt8.not_le.mp hstep) ▸ List.prefix_rfl

/-- **A performed cell acts on the board** exactly if its opcode has the step. -/
theorem acted_perform_iff {c₀ : Console} {code : UInt8} (asked : List BoardCall)
    (hasked : c.calls = c₀.calls ++ asked) (hquiet : ∀ call ∈ asked, call.acts = false)
    (hcode : c.live.opCode = some code) :
    (c.perform r).Acted c₀ ↔ c.live.step ≤ (c.table.lookup code).steps := by
  by_cases hstep : c.live.step ≤ (c.table.lookup code).steps
  · refine iff_of_true ?_ hstep
    -- Whatever comes after it, the word was driven.
    obtain ⟨rest, hrest⟩ := calls_perform_of_le (r := r) hcode hstep
    rw [hasked, List.append_assoc, List.append_assoc] at hrest
    rw [acted_iff _ hrest.symm]
    exact ⟨.drive (c.liveWord code), by simp, rfl⟩
  · refine iff_of_false ?_ hstep
    have hsame := calls_perform_of_lt (r := r) hcode (UInt8.not_le.mp hstep)
    exact not_acted asked (hsame.trans hasked) hquiet

/-! ## Ticks -/

/-- **The opcode a tick runs under**: the one that is read if one has to be, the
known one otherwise. There is none if nothing could be read. -/
def tickCode? (c : Console) (phase : Phase) (r : BoardReplies) : Option UInt8 :=
  match r.status with
  | .error _ => none
  | .ok status =>
    if (c.arrive status phase).needsOpcode then r.opCode.toOption else c.live.opCode

theorem needsOpcode_arrive (c : Console) (status : UInt8) (phase : Phase) :
    (c.arrive status phase).needsOpcode
      = (c.live.opCode.isNone || (status &&& 0x07 == 0 && phase == .phi1)) := rfl

theorem tickCode?_of_status {status : UInt8} (hs : r.status = .ok status) :
    c.tickCode? phase r
      = if (c.arrive status phase).needsOpcode then r.opCode.toOption else c.live.opCode := by
  unfold tickCode?
  rw [hs]

theorem calls_arrive (c : Console) (status : UInt8) (phase : Phase) :
    (c.arrive status phase).calls = c.calls ++ [.status] := calls_call c .status

/-- A tick without an opcode does not act on the board. -/
theorem not_acted_tick (hcode : c.tickCode? phase r = none) : ¬ (c.tick phase r).Acted c := by
  cases hs : r.status with
  | error e =>
    rw [tick_of_status_error hs]
    exact not_acted [.status, .reset] (by simp) (by decide)
  | ok status =>
    rw [tickCode?_of_status hs] at hcode
    cases hneeds : (c.arrive status phase).needsOpcode with
    | false =>
      -- No opcode has to be read only if one is known.
      rw [hneeds, if_neg (by simp)] at hcode
      rw [needsOpcode_arrive, hcode] at hneeds
      exact absurd hneeds (by simp)
    | true =>
      rw [hneeds, if_pos rfl] at hcode
      cases ho : r.opCode with
      | error e =>
        rw [tick_of_opcode_error hs hneeds ho]
        exact not_acted [.status, .opCode, .reset] (by simp [calls_arrive]) (by decide)
      | ok code =>
        rw [ho] at hcode
        exact absurd hcode (by simp [Except.toOption])

/-- A tick that runs under an opcode acts on the board exactly if the opcode has
the reported step. -/
theorem acted_tick_iff_of_code {status code : UInt8} (hs : r.status = .ok status)
    (hcode : c.tickCode? phase r = some code) :
    (c.tick phase r).Acted c ↔ status &&& 0x07 ≤ (c.table.lookup code).steps := by
  rw [tickCode?_of_status hs] at hcode
  cases hneeds : (c.arrive status phase).needsOpcode with
  | false =>
    rw [hneeds, if_neg (by simp)] at hcode
    rw [tick_of_known hs hneeds]
    exact acted_perform_iff [.status] (calls_arrive c status phase) (by decide) hcode
  | true =>
    rw [hneeds, if_pos rfl] at hcode
    cases ho : r.opCode with
    | error e =>
      rw [ho] at hcode
      exact absurd hcode (by simp [Except.toOption])
    | ok read =>
      rw [ho] at hcode
      obtain rfl : read = code := Option.some.inj hcode
      rw [tick_of_opcode hs hneeds ho, acted_perform_iff [.status, .opCode] (by simp [calls_arrive])
        (by decide) (opCode_bind _ read)]
      rw [step_bind, table_bind]
      exact Iff.rfl

/-- **When a tick acts on the board**: there is an opcode for it to run under, and
that opcode has the reported step. -/
theorem acted_tick_iff (c : Console) (phase : Phase) (r : BoardReplies) :
    (c.tick phase r).Acted c
      ↔ ∃ status code, r.status = .ok status ∧ c.tickCode? phase r = some code
        ∧ status &&& 0x07 ≤ (c.table.lookup code).steps := by
  constructor
  · intro hacted
    cases hcode : c.tickCode? phase r with
    | none => exact absurd hacted (not_acted_tick hcode)
    | some code =>
      cases hs : r.status with
      | error e =>
        unfold tickCode? at hcode
        rw [hs] at hcode
        exact absurd hcode (by simp)
      | ok status => exact ⟨status, code, rfl, rfl, (acted_tick_iff_of_code hs hcode).mp hacted⟩
  · rintro ⟨status, code, hs, hcode, hstep⟩
    exact (acted_tick_iff_of_code hs hcode).mpr hstep

end Console

end Breadboard
