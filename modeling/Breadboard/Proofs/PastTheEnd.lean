import Breadboard.Proofs.BuiltinTable
import Breadboard.Proofs.LiveCell
import Breadboard.Proofs.StaleOpcode

/-!
# Steps past the end of an instruction

An opcode has a number of steps, and the steps of its cells are counted from zero.
The last step is the one before that number, and a step from the number on lies past
the end: a tick that reports one should do nothing but say so.

Beyond the number that is what it does. The number itself is taken for a step that
the opcode has. The cell there is driven like any other, and the byte is moved; only
the cursor stays, because the matrix on display has no row for it.
-/

namespace Breadboard

/-- A cursor does not follow to a step past the end. -/
theorem LineEditor.follow_of_steps_le {e : LineEditor} {step : UInt8} (h : e.steps ≤ step)
    (hfits : step.toNat < 8) (phase : Phase) : e.follow step phase = e := by
  refine if_neg (UInt8.not_lt.mpr ?_)
  have hsteps : e.steps.toNat ≤ step.toNat := UInt8.le_iff_toNat_le.mp h
  have hphase : phase.index.val < 2 := phase.index.isLt
  rw [UInt8.le_iff_toNat_le]
  unfold rows
  rw [UInt8.toNat_add, UInt8.toNat_mul, UInt8.toNat_mul, UInt8.toNat_ofNat']
  show e.steps.toNat * 2 % 256 ≤ (step.toNat * 2 % 256 + phase.index.val % 256) % 256
  omega

namespace Console

variable {c d : Console} {phase : Phase} {r : BoardReplies} {code : UInt8}

/-- **Skipping**: a tick that runs under an opcode does not act on the board. The host
memory is as it was, and the editor as binding the opcode leaves it. -/
structure Skipped (c' c : Console) (code : UInt8) : Prop where
  not_acted : ¬ c'.Acted c
  memory_eq : c'.memory = c.memory
  editor_eq : c'.editor = c.boundEditor code

/-- A step beyond the number of steps is noted, and nothing else happens. -/
theorem exists_perform_eq_of_lt (hcode : c.live.opCode = some code)
    (hstep : (c.table.lookup code).steps < c.live.step) (r : BoardReplies) :
    ∃ notices deeds, c.perform r = { c with notices := notices, deeds := deeds } := by
  unfold perform driveLive opcode?
  rw [hcode]
  simp only [Option.map_some]
  rw [if_pos hstep]
  exact exists_log_eq c _

/-- Besides what is due, nothing is asked but a reset of the link. -/
theorem mem_or_eq_reset_of_mem_carry {due : List BoardCall} {call : BoardCall}
    (h : call ∈ r.carry due) : call ∈ due ∨ call = .reset := by
  induction due with
  | nil => exact absurd h List.not_mem_nil
  | cons first rest ih =>
    cases hgrants : r.grants first with
    | true =>
      rw [BoardReplies.carry_of_granted hgrants] at h
      obtain rfl | hmem := List.mem_cons.mp h
      · exact .inl List.mem_cons_self
      · exact (ih hmem).imp_left (List.mem_cons_of_mem first)
    | false =>
      rw [BoardReplies.carry_of_refused hgrants] at h
      obtain rfl | hmem := List.mem_cons.mp h
      · exact .inl List.mem_cons_self
      · exact .inr (List.mem_singleton.mp hmem)

/-- A performed cell leaves the opcode bound. -/
theorem opCode_perform (c : Console) (r : BoardReplies) :
    (c.perform r).live.opCode = c.live.opCode := congrArg Prod.fst (running_perform c r)

/-- No call that a tick opens with acts on the board. -/
theorem acts_of_mem_opening {b : BoardReport} {call : BoardCall} (h : call ∈ c.opening phase b) :
    call.acts = false := by
  unfold opening at h
  split at h <;> revert call <;> decide

namespace Facing

variable {b : BoardReport}

/-- The step of a console that faces the live cell is the reported one. -/
theorem step_eq (h : Facing c phase b d) : d.live.step = b.status &&& 0x07 :=
  congrArg (· &&& 0x07) h.status_eq

theorem opCode_perform_eq (h : Facing c phase b d) (r : BoardReplies) :
    (d.perform r).live.opCode = some (c.tickOpcode phase b) :=
  (opCode_perform d r).trans h.opCode_eq

/-- **The live cell is skipped past the end**, the first step there apart. -/
theorem skipped_iff (h : Facing c phase b d)
    (hpast : (c.table.lookup (c.tickOpcode phase b)).steps ≤ b.status &&& 0x07) :
    (d.perform r).Skipped c (c.tickOpcode phase b)
      ↔ (c.table.lookup (c.tickOpcode phase b)).steps ≠ b.status &&& 0x07 := by
  have hacted := acted_perform_iff (r := r) (c.opening phase b) h.calls_eq
    (fun _ => acts_of_mem_opening) h.opCode_eq
  rw [h.table_eq, h.step_eq] at hacted
  constructor
  · intro hskipped heq
    exact hskipped.not_acted (hacted.mpr (UInt8.le_of_eq heq.symm))
  · intro hne
    have hlt : (c.table.lookup (c.tickOpcode phase b)).steps < b.status &&& 0x07 :=
      UInt8.lt_of_le_of_ne hpast hne
    refine ⟨fun hdone => absurd (hacted.mp hdone) (UInt8.not_le.mpr hlt), ?_, ?_⟩
    all_goals
      rw [← h.table_eq, ← h.step_eq] at hlt
      obtain ⟨notices, deeds, hsame⟩ := exists_perform_eq_of_lt h.opCode_eq hlt r
      rw [hsame]
    · exact h.memory_eq
    · exact h.editor_eq

/-- The cursor does not go there in any case. -/
theorem editor_perform_of_past (h : Facing c phase b d) (hshape : c.works.WellFormed)
    (hpast : (c.table.lookup (c.tickOpcode phase b)).steps ≤ b.status &&& 0x07)
    (r : BoardReplies) : (d.perform r).editor = c.boundEditor (c.tickOpcode phase b) := by
  obtain ⟨address, editor, memory, notices, deeds, hperform, hfollows⟩ := exists_perform_eq d r
  have hworks := h.wellFormed hshape
  have hsteps : d.editor.steps ≤ d.live.step := by
    have hshown : d.editor.steps = (d.table.lookup (c.tickOpcode phase b)).steps :=
      hworks.steps_eq _ h.opCode_eq
    rw [hshown, h.step_eq, h.table_eq]
    exact hpast
  rw [LineEditor.follow_of_steps_le hsteps d.live.step_lt, or_self] at hfollows
  rw [hperform]
  exact hfollows.trans h.editor_eq

end Facing

/-- **Ticks past the end of the instruction.** The status is reported, and the opcode that
is bound after the tick does not have that step. The tick skips the cell exactly if the
step is not the first one past the end, or the opcode could not be read. Otherwise it
drives the word of that cell as soon as it has been told where the board is. The cursor
stays where binding the opcode has put it in all cases. -/
theorem skipped_past_end_iff {status : UInt8} (hs : r.status = .ok status)
    (hbound : (c.tick phase r).live.opCode = some code)
    (hpast : (c.table.lookup code).steps ≤ status &&& 0x07) :
    ((c.tick phase r).Skipped c code
        ↔ (c.table.lookup code).steps ≠ status &&& 0x07
          ∨ ∃ call ∈ c.opening phase r.report, r.grants call = false)
      ∧ ((c.table.lookup code).steps = status &&& 0x07 →
        (∀ call ∈ c.opening phase r.report, r.grants call = true) →
        c.calls ++ c.opening phase r.report ++ [.drive (c.tickWord phase r.report)]
          <+: (c.tick phase r).calls)
      ∧ (c.works.WellFormed → (c.tick phase r).editor = c.boundEditor code) := by
  obtain ⟨d, hfacing, htick, hgranted⟩ | ⟨hrefused, hcalls, live, notices, deeds, htick, hlive⟩ :=
    tick_cases c phase r
  · rw [htick] at hbound ⊢
    obtain rfl := Option.some.inj ((hfacing.opCode_perform_eq r).symm.trans hbound)
    rw [← BoardReplies.report_status hs] at hpast ⊢
    have hnone : ¬ ∃ call ∈ c.opening phase r.report, r.grants call = false := by
      rintro ⟨call, hmem, hcall⟩
      rw [hgranted call hmem] at hcall
      exact absurd hcall (by simp)
    refine ⟨(hfacing.skipped_iff hpast).trans (or_iff_left hnone).symm, fun heq _ => ?_,
      fun hshape => hfacing.editor_perform_of_past hshape hpast r⟩
    have hdrives := calls_perform_of_le (r := r) hfacing.opCode_eq
      (by rw [hfacing.step_eq, hfacing.table_eq]; exact UInt8.le_of_eq heq.symm)
    rw [hfacing.liveWord_eq, hfacing.calls_eq] at hdrives
    exact hdrives
  · -- The opening came to nothing, so the tick is over and the opcode the old one.
    have hsame : c.live.opCode = some code := by
      rw [htick] at hbound
      exact hlive.symm.trans hbound
    have hcalm : ∀ call ∈ r.carry (c.opening phase r.report), call.acts = false := by
      intro call hmem
      obtain hopens | rfl := mem_or_eq_reset_of_mem_carry hmem
      · exact acts_of_mem_opening hopens
      · rfl
    have hskipped : (c.tick phase r).Skipped c code := by
      refine ⟨not_acted _ hcalls hcalm, ?_, ?_⟩
      · rw [htick]
      · rw [htick, boundEditor, if_pos hsame]
    refine ⟨iff_of_true hskipped (.inr hrefused), fun _ hall => ?_, fun _ => hskipped.editor_eq⟩
    obtain ⟨call, hmem, hcall⟩ := hrefused
    exact absurd ((hall call hmem).symm.trans hcall) (by simp)

theorem running_snd (c : Console) (code : UInt8) :
    c.running.2 code = (c.table.lookup code).steps := rfl

/-- The instruction that does nothing takes two steps. -/
theorem steps_idling : (idling.table.lookup 0xEA).steps = 2 := by
  have htable : idling.table = .builtin := by
    obtain ⟨live, editor, memory, notices, deeds, h⟩ :=
      exists_tick_eq { table := .builtin } .phi1 nopReplies
    unfold idling
    rw [h]
  rw [htable, OpcodeTable.lookup_builtin]
  rfl

/-- It stays bound if the board cannot tell another opcode. -/
theorem opCode_tick_idling (status : UInt8) :
    (idling.tick .phi2 (.withoutOpcode status)).live.opCode = some 0xEA := by
  rw [← running_fst, running_tick (not_learns_of_error rfl idling .phi2), running_fst]
  exact opCode_idling

/-- The general statement at a step that lies well past the end. -/
theorem skipped_idling :
    (BoardReplies.withoutOpcode 3).status = .ok 3
      ∧ (idling.tick .phi2 (.withoutOpcode 3)).live.opCode = some 0xEA
      ∧ (idling.table.lookup 0xEA).steps ≤ 3 &&& 0x07
      ∧ (idling.tick .phi2 (.withoutOpcode 3)).Skipped idling 0xEA := by
  have hbound := opCode_tick_idling 3
  have hpast : (idling.table.lookup 0xEA).steps ≤ 3 &&& 0x07 := by
    rw [steps_idling]
    decide
  refine ⟨rfl, hbound, hpast, (skipped_past_end_iff rfl hbound hpast).1.mpr (.inl ?_)⟩
  rw [steps_idling]
  decide

/-- **The first step past the end is driven.** An instruction of two steps is bound, so
its steps are the steps 0 and 1. The board reports the step 2, and the tick acts on it. -/
theorem acted_past_end_idling :
    (BoardReplies.withoutOpcode 2).status = .ok 2
      ∧ (idling.tick .phi2 (.withoutOpcode 2)).live.opCode = some 0xEA
      ∧ (idling.table.lookup 0xEA).steps ≤ 2 &&& 0x07
      ∧ (idling.tick .phi2 (.withoutOpcode 2)).Acted idling := by
  have hpast : (idling.table.lookup 0xEA).steps ≤ 2 &&& 0x07 := by
    rw [steps_idling]
    decide
  refine ⟨rfl, opCode_tick_idling 2, hpast, ?_⟩
  rw [acted_tick_iff_of_not_learns (not_learns_of_error rfl _ _)]
  refine ⟨0xEA, 2, (running_fst _).trans opCode_idling, rfl, by simp, ?_⟩
  rw [running_snd, steps_idling]
  decide

end Console

end Breadboard
