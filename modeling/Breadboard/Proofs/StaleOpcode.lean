import Breadboard.Proofs.ConsoleRun

/-!
# Opcodes that outlive their instruction

At the beginning of an instruction a tick reads the opcode. If that fails the
tick is given up and the link is reset, but the opcode of the instruction before
stays bound. A later tick reads the opcode again only at the beginning of an
instruction, so on any other step, and on the second phase of the first one, it
runs under the opcode that was left over and drives its words.

What decides is whether an opcode was bound before the failure. If none was, the
board is left alone until an opcode has been read.
-/

namespace Breadboard

/-- Replies of a board that reports its status and cannot tell its opcode. -/
def BoardReplies.withoutOpcode (status : UInt8) : BoardReplies where
  status := .ok status
  opCode := .error .notConnected
  address := .ok 0
  data := .ok 0
  drive := .ok ()
  write := .ok ()

namespace Console

variable {c : Console} {phase : Phase} {r : BoardReplies}

/-- **The opcode of a tick that learns nothing** is the one bound already, except
at the beginning of an instruction. -/
theorem tickCode?_eq_some_iff {status code : UInt8} (h : ¬ c.Learns phase r)
    (hs : r.status = .ok status) :
    c.tickCode? phase r = some code
      ↔ c.live.opCode = some code ∧ ¬ (status &&& 0x07 = 0 ∧ phase = .phi1) := by
  rw [tickCode?_of_status hs]
  cases hneeds : (c.arrive status phase).needsOpcode with
  | false =>
    rw [if_neg (by simp)]
    rw [needsOpcode_arrive, Bool.or_eq_false_iff] at hneeds
    have hlater : ¬ (status &&& 0x07 = 0 ∧ phase = .phi1) := by simpa using hneeds.2
    exact ⟨fun hcode => ⟨hcode, hlater⟩, fun hcode => hcode.1⟩
  | true =>
    rw [if_pos rfl]
    cases ho : r.opCode with
    | ok read => exact absurd (learns_of_needs hs hneeds ho) h
    | error e =>
      refine iff_of_false (by simp [Except.toOption]) ?_
      rintro ⟨hcode, hlater⟩
      rw [needsOpcode_arrive, hcode] at hneeds
      exact hlater (by simpa using hneeds)

/-- **A tick that learns nothing acts on the board** exactly if an opcode is bound
that has the reported step, and an instruction does not begin. -/
theorem acted_tick_iff_of_not_learns (h : ¬ c.Learns phase r) :
    (c.tick phase r).Acted c
      ↔ ∃ code status, c.running.1 = some code ∧ r.status = .ok status
        ∧ ¬ (status &&& 0x07 = 0 ∧ phase = .phi1) ∧ status &&& 0x07 ≤ c.running.2 code := by
  rw [acted_tick_iff]
  constructor
  · rintro ⟨status, code, hs, hcode, hstep⟩
    obtain ⟨hbound, hlater⟩ := (tickCode?_eq_some_iff h hs).mp hcode
    exact ⟨code, status, hbound, hs, hlater, hstep⟩
  · rintro ⟨code, status, hbound, hs, hlater, hstep⟩
    exact ⟨status, code, hs, (tickCode?_eq_some_iff h hs).mpr ⟨hbound, hlater⟩, hstep⟩

/-- Between a failed read and the next opcode that is learned, the opcode bound
before the failure stays bound, and keeps its number of steps. -/
theorem running_after_failed_read {e : LinkError} {run : List Happening}
    (ho : r.opCode = .error e) (hrun : (c.tick phase r).NeverLearns run) :
    ((c.tick phase r).through run).running = c.running :=
  (running_through hrun).trans (running_tick (not_learns_of_error ho c phase))

/-- A second phase that is reported after a failed read runs under the opcode left over. -/
theorem acted_second_phase {e : LinkError} {code : UInt8} (ho : r.opCode = .error e)
    (hcode : c.live.opCode = some code) :
    ((c.tick phase r).tick .phi2 (.withoutOpcode 0)).Acted (c.tick phase r) := by
  rw [acted_tick_iff_of_not_learns (not_learns_of_error rfl _ _),
    running_tick (not_learns_of_error ho c phase)]
  exact ⟨code, 0, hcode, rfl, by simp, by simp⟩

/-- **After a tick that could not read the opcode** the board is left alone until
one is learned exactly if no opcode was bound before. Otherwise each tick acts on
the board that reports another place than the beginning of an instruction, and a
step which the opcode left over has. -/
theorem left_alone_iff_unbound {e : LinkError} (ho : r.opCode = .error e) :
    ((∀ run later replies, (c.tick phase r).NeverLearns run →
        ¬ ((c.tick phase r).through run).Learns later replies →
        ¬ (((c.tick phase r).through run).tick later replies).Acted
          ((c.tick phase r).through run))
      ↔ c.live.opCode = none)
    ∧ ∀ run later replies, (c.tick phase r).NeverLearns run →
        ¬ ((c.tick phase r).through run).Learns later replies →
        ((((c.tick phase r).through run).tick later replies).Acted
            ((c.tick phase r).through run)
          ↔ ∃ code reported, c.live.opCode = some code ∧ replies.status = .ok reported
            ∧ ¬ (reported &&& 0x07 = 0 ∧ later = .phi1)
            ∧ reported &&& 0x07 ≤ (c.table.lookup code).steps) := by
  have hacted : ∀ run later replies, (c.tick phase r).NeverLearns run →
      ¬ ((c.tick phase r).through run).Learns later replies →
      ((((c.tick phase r).through run).tick later replies).Acted ((c.tick phase r).through run)
        ↔ ∃ code reported, c.live.opCode = some code ∧ replies.status = .ok reported
          ∧ ¬ (reported &&& 0x07 = 0 ∧ later = .phi1)
          ∧ reported &&& 0x07 ≤ (c.table.lookup code).steps) := by
    intro run later replies hrun hlater
    rw [acted_tick_iff_of_not_learns hlater, running_after_failed_read ho hrun]
    exact Iff.rfl
  refine ⟨⟨fun halone => ?_, fun hnone run later replies hrun hlater => ?_⟩, hacted⟩
  · cases hcode : c.live.opCode with
    | none => rfl
    | some code =>
      have hlater := not_learns_of_error (r := .withoutOpcode 0) rfl (c.tick phase r) .phi2
      exact absurd (acted_second_phase ho hcode)
        (halone [] .phi2 (.withoutOpcode 0) (neverLearns_nil _) hlater)
  · rw [hacted run later replies hrun hlater, hnone]
    simp

/-- Replies of a board that begins an instruction which does nothing. -/
def nopReplies : BoardReplies := { BoardReplies.withoutOpcode 0 with opCode := .ok 0xEA }

/-- A console of the built-in table that runs that instruction. -/
def idling : Console := ({ table := .builtin } : Console).tick .phi1 nopReplies

theorem opCode_idling : idling.live.opCode = some 0xEA := by
  have hneeds : (({ table := .builtin } : Console).arrive 0 .phi1).needsOpcode = true := rfl
  have hbound := running_tick_of_opcode (r := nopReplies) rfl hneeds rfl
  rw [← running_fst]
  unfold idling
  rw [hbound]

/-- The general statement where the instruction is over and the next opcode cannot
be read: on the second phase the board is not left alone. -/
theorem acted_idling :
    (BoardReplies.withoutOpcode 0).opCode = .error .notConnected
      ∧ (idling.tick .phi1 (.withoutOpcode 0)).NeverLearns []
      ∧ ¬ (idling.tick .phi1 (.withoutOpcode 0)).Learns .phi2 (.withoutOpcode 0)
      ∧ ((idling.tick .phi1 (.withoutOpcode 0)).tick .phi2 (.withoutOpcode 0)).Acted
        (idling.tick .phi1 (.withoutOpcode 0)) := by
  have hnothing := neverLearns_nil (idling.tick .phi1 (.withoutOpcode 0))
  have hlater := not_learns_of_error (r := .withoutOpcode 0) rfl
    ((idling.tick .phi1 (.withoutOpcode 0)).through []) .phi2
  have hiff := (@left_alone_iff_unbound idling .phi1 (.withoutOpcode 0) _ rfl).2 [] .phi2
    (.withoutOpcode 0) hnothing hlater
  rw [through_nil] at hiff hlater
  refine ⟨rfl, hnothing, hlater, hiff.mpr ?_⟩
  refine ⟨0xEA, 0, opCode_idling, rfl, ?_, ?_⟩
  · simp
  · simp

/-- **A stale opcode drives the board.** A tick on the first phase reports the
beginning of an instruction and cannot read its opcode. The tick after it cannot
either, and drives the board by the instruction that is over. -/
theorem stale_opcode_acts :
    (BoardReplies.withoutOpcode 0).status = .ok 0
      ∧ (BoardReplies.withoutOpcode 0).opCode = .error .notConnected
      ∧ ((idling.tick .phi1 (.withoutOpcode 0)).tick .phi2 (.withoutOpcode 0)).Acted
        (idling.tick .phi1 (.withoutOpcode 0)) := by
  refine ⟨rfl, rfl, ?_⟩
  exact acted_second_phase (c := idling) (r := .withoutOpcode 0) rfl opCode_idling

end Console

end Breadboard
