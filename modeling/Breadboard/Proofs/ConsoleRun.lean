import Breadboard.Proofs.KeyEffect
import Breadboard.Proofs.TickOutcome

/-!
# Runs of the console

Ticks, keys and status changes reach the console in any order. What else happens
to the link and the board – failures, resets, another opening – reaches it only
as what the board answers, so a run whose replies are arbitrary has them all.

Whether a tick acts on the board depends on little of what came before it: on
the opcode that is bound, and on how many steps the opcodes of the table have.
Keys and status changes touch neither – an edit changes words, never the number
of steps – so only a tick that reads an opcode does.
-/

namespace Breadboard

/-- **Happening**: what reaches a console, with what the board answers to it. -/
inductive Happening where
  /-- A clock edge was accepted. -/
  | tick (phase : Phase) (replies : BoardReplies)
  /-- A key was pressed. -/
  | press (key : Key) (reply : Except LinkError Unit)
  /-- A status changed. -/
  | status (change : StatusChange)

namespace Console

variable {c : Console} {phase : Phase} {r : BoardReplies}

/-- A console after a happening. -/
def undergo (c : Console) : Happening → Console
  | .tick phase r => c.tick phase r
  | .press key reply => (c.press key reply).1
  | .status change => c.status change

/-- A console after a run. -/
def through (c : Console) (run : List Happening) : Console := run.foldl undergo c

@[simp]
theorem through_nil (c : Console) : c.through [] = c := rfl

theorem through_concat (c : Console) (run : List Happening) (happening : Happening) :
    c.through (run ++ [happening]) = (c.through run).undergo happening := by
  unfold through
  rw [List.foldl_append, List.foldl_cons, List.foldl_nil]

/-- Ticks and status changes turn no page. -/
theorem views_undergo {happening : Happening} (h : ∀ key reply, happening ≠ .press key reply)
    (c : Console) : (c.undergo happening).views = c.views := by
  cases happening with
  | tick phase r =>
    obtain ⟨live, editor, memory, notices, deeds, htick⟩ := exists_tick_eq c phase r
    show (c.tick phase r).views = c.views
    rw [htick]
  | press key reply => exact absurd rfl (h key reply)
  | status change => cases change <;> rfl

/-! ## What keys leave alone -/

/-- The bound opcode, and the number of steps of every opcode. -/
def running (c : Console) : Option UInt8 × (UInt8 → UInt8) :=
  (c.live.opCode, fun code => (c.table.lookup code).steps)

theorem running_fst (c : Console) : c.running.1 = c.live.opCode := rfl

/-- Both are told by the works. -/
theorem running_congr {c' : Console} {w : Works} (h : c'.works = w)
    (hcode : w.live.opCode = c.live.opCode)
    (hsteps : ∀ code, (w.table.lookup code).steps = (c.table.lookup code).steps) :
    c'.running = c.running := by
  subst h
  exact Prod.ext hcode (funext hsteps)

theorem running_abort (c : Console) (phase : Phase) (what : String) (e : LinkError) :
    (c.abort phase what e).running = c.running := by
  show (c.log _).running = c.running
  exact running_congr (works_log c _) rfl fun _ => rfl

/-- Replaced lines do not change a number of steps. -/
theorem steps_setLines (t : OpcodeTable) (code d : UInt8) (lines : Matrix) :
    ((t.setLines code lines).lookup d).steps = (t.lookup d).steps := by
  rw [OpcodeTable.lookup_setLines]
  split
  · rename_i h
    rw [h]
  · rfl

/-- **A key press** binds no opcode and changes no number of steps. -/
theorem running_press (c : Console) (key : Key) (reply : Except LinkError Unit) :
    (c.press key reply).1.running = c.running := by
  generalize hw : (c.press key reply).1.works = w
  have heffect := keyEffect_press c key reply
  rw [hw] at heffect
  cases heffect with
  | turned | moved | switched => exact running_congr hw rfl fun _ => rfl
  | @edited code edited =>
    exact running_congr hw rfl fun d => steps_setLines c.table code d edited.1.lines

/-- Nor does a status change. -/
theorem running_status (c : Console) (change : StatusChange) :
    (c.status change).running = c.running := by
  cases change <;> rfl

/-! ## What ticks leave alone -/

/-- Performing a cell binds no opcode. -/
theorem running_perform (c : Console) (r : BoardReplies) :
    (c.perform r).running = c.running := by
  obtain ⟨address, editor, memory, notices, deeds, h, -⟩ := exists_perform_eq c r
  rw [h]
  rfl

theorem running_bind (c : Console) (code : UInt8) :
    (c.bind code).running = (some code, c.running.2) := by
  unfold running
  rw [opCode_bind, table_bind]

/-- **Learning**: a tick asks for the opcode and is told. -/
def Learns (c : Console) (phase : Phase) (r : BoardReplies) : Prop :=
  .opCode ∈ (c.tick phase r).callsSince c ∧ ∃ code, r.opCode = .ok code

theorem not_learns_of_error {e : LinkError} (ho : r.opCode = .error e) (c : Console)
    (phase : Phase) : ¬ c.Learns phase r := by
  rintro ⟨-, code, hcode⟩
  rw [ho] at hcode
  exact absurd hcode (by simp)

/-- An opcode that has to be read, and can be, is learned. -/
theorem learns_of_needs {status code : UInt8} (hs : r.status = .ok status)
    (hneeds : (c.arrive status phase).needsOpcode = true) (ho : r.opCode = .ok code) :
    c.Learns phase r := by
  refine ⟨?_, code, ho⟩
  obtain ⟨rest, hrest⟩ := prefix_calls_perform
    (((c.arrive status phase).call .opCode).bind code) r
  rw [tick_of_opcode hs hneeds ho, callsSince_eq (.status :: .opCode :: rest)
    (by rw [← hrest]; simp [calls_arrive])]
  simp

/-- What is learned is bound. -/
theorem running_tick_of_opcode {status code : UInt8} (hs : r.status = .ok status)
    (hneeds : (c.arrive status phase).needsOpcode = true) (ho : r.opCode = .ok code) :
    (c.tick phase r).running = (some code, c.running.2) := by
  rw [tick_of_opcode hs hneeds ho, running_perform, running_bind]
  rfl

/-- **A tick that learns nothing** binds no opcode and changes no number of steps. -/
theorem running_tick (h : ¬ c.Learns phase r) : (c.tick phase r).running = c.running := by
  cases hs : r.status with
  | error e =>
    rw [tick_of_status_error hs]
    exact running_abort _ _ _ e
  | ok status =>
    cases hneeds : (c.arrive status phase).needsOpcode with
    | false =>
      rw [tick_of_known hs hneeds]
      exact running_perform _ r
    | true =>
      cases ho : r.opCode with
      | error e =>
        rw [tick_of_opcode_error hs hneeds ho]
        exact running_abort _ _ _ e
      | ok code => exact absurd (learns_of_needs hs hneeds ho) h

/-- Whether no tick of a run learns an opcode. -/
def NeverLearns (c : Console) (run : List Happening) : Prop :=
  ∀ before phase r rest, run = before ++ .tick phase r :: rest →
    ¬ (c.through before).Learns phase r

theorem neverLearns_nil (c : Console) : c.NeverLearns [] := by
  intro before phase r rest heq
  exact absurd heq (by simp)

/-- **A run in which nothing is learned** binds no opcode and changes no number of
steps, whatever else happens in it. -/
theorem running_through {run : List Happening} (h : c.NeverLearns run) :
    (c.through run).running = c.running := by
  induction run generalizing c with
  | nil => rfl
  | cons happening rest ih =>
    -- What is not learned in the whole run is not learned in its rest.
    have hrest : (c.undergo happening).NeverLearns rest :=
      fun before phase r after heq => h (happening :: before) phase r after (by rw [heq]; rfl)
    refine (ih hrest).trans ?_
    cases happening with
    | tick phase r => exact running_tick (h [] phase r rest rfl)
    | press key reply => exact running_press c key reply
    | status change => exact running_status c change

end Console

end Breadboard
