import Breadboard.Proofs.Sight

/-!
# Nothing visible changes unannounced

The screen is drawn when somebody asks for it, so whatever changes the sight of the
console has to ask, or to log an event, which asks in its turn. For keys and status
changes this was seen step by step. A tick is different: it takes over what the board
reports bit by bit, may fail after any of it, and asks for the screen only at its end.
What makes up for this is that there is no silent way out: a tick that does not come to
its end logs an error.

Whether an event is told is up to the filter. So there are two statements, one about
what the console *logs*, which is what some filter would let it tell, and one about
a console whose filter lets through all that notifications are made of.
-/

namespace Breadboard

namespace Console

variable {c d e : Console} {phase : Phase} {r : BoardReplies}

/-! ## Ticks -/

/-- **How a tick ends**: what it has changed is drawn, or an error is logged. -/
inductive Ended (c : Console) : Bool → Console → Prop where
  | drawn {d : Console} (h : Pending c d) : Ended c true (d.redraw false)
  | skipped {d : Console} {event : Event} (h : Pending c d) (hnotices : d.notices = c.notices)
    (hlevel : event.level = .error) : Ended c false (d.log event)
  | aborted {d : Console} {event : Event} (h : Pending c d) (hnotices : d.notices = c.notices)
    (hlevel : event.level = .error) : Ended c false ((d.log event).call .reset)

/-- What a tick has changed before it ends counts, too. -/
theorem Ended.after {done : Bool} (h : Ended d done e) (hbefore : Pending c d)
    (hnotices : d.notices = c.notices) : Ended c done e := by
  cases h with
  | drawn h => exact .drawn (hbefore.trans h)
  | skipped h hsame hlevel => exact .skipped (hbefore.trans h) (hsame.trans hnotices) hlevel
  | aborted h hsame hlevel => exact .aborted (hbefore.trans h) (hsame.trans hnotices) hlevel

theorem Ended.pending {done : Bool} (h : Ended c done d) : Pending c d := by
  cases h with
  | drawn h => exact h.trans (pending_redraw _ false)
  | skipped h => exact h.trans (pending_log _ _)
  | aborted h => exact (h.trans (pending_log _ _)).trans (pending_call _ _)

theorem ended_abort (c : Console) (phase : Phase) (what : String) (e : LinkError) :
    Ended c false (c.abort phase what e) :=
  .aborted (.refl c) rfl rfl

/-- **Moving the byte** changes the memory and nothing else that is seen, or ends the
tick. -/
theorem moveByte_cases (c : Console) (word : ControlWord) (r : BoardReplies) :
    (r.grants (c.moveCall word c.live.address) = true
        ∧ ∃ d, c.moveByte word r = (d, true) ∧ Pending c d ∧ d.notices = c.notices)
      ∨ r.grants (c.moveCall word c.live.address) = false
        ∧ ∃ d, c.moveByte word r = (d, false) ∧ Ended c false d := by
  unfold moveByte moveCall
  dsimp only
  split
  · cases hw : r.write with
    | ok u => exact .inl ⟨congrArg Except.isOk hw, _, rfl, pending_call c _, rfl⟩
    | error e =>
      exact .inr ⟨congrArg Except.isOk hw, _, rfl,
        (ended_abort _ _ _ e).after (pending_call c _) rfl⟩
  · cases hd : r.data with
    | ok byte =>
      have hmild : Mild (c.call .data)
          { c.call .data with memory := (c.call .data).memory.write c.live.address byte } :=
        .of_eq rfl rfl rfl rfl
      exact .inl ⟨congrArg Except.isOk hd, _, rfl,
        (pending_call c _).trans (hmild.pending rfl), rfl⟩
    | error e =>
      exact .inr ⟨congrArg Except.isOk hd, _, rfl,
        (ended_abort _ _ _ e).after (pending_call c _) rfl⟩

/-- **The second half of a tick** comes to its end if both of its calls are granted. -/
theorem ended_finishTick (c : Console) (word : ControlWord) (r : BoardReplies) :
    Ended c ([.address, c.moveCall word r.report.address].all r.grants) (c.finishTick word r) := by
  unfold finishTick
  cases ha : r.address with
  | error e =>
    have hrefused : r.grants .address = false := congrArg Except.isOk ha
    rw [List.all_cons, hrefused, Bool.false_and]
    exact (ended_abort _ _ _ e).after (pending_call c _) rfl
  | ok address =>
    have hgranted : r.grants .address = true := congrArg Except.isOk ha
    have hmild : Mild (c.call .address)
        { c.call .address with live := { (c.call .address).live with address := address } } :=
      .of_eq rfl rfl rfl rfl
    have hcalled := (pending_call c .address).trans (hmild.pending rfl)
    rw [List.all_cons, hgranted, Bool.true_and, BoardReplies.report_address ha, List.all_cons,
      List.all_nil, Bool.and_true]
    dsimp only
    obtain ⟨hmove, d, hmoved, hpending, hnotices⟩ | ⟨hmove, d, hmoved, hended⟩ :=
      moveByte_cases
        { c.call .address with live := { (c.call .address).live with address := address } } word r
    · rw [show r.grants (c.moveCall word address) = true from hmove, hmoved]
      have hfollowed : Mild d { d with editor := d.editor.follow d.live.step d.live.phase } :=
        .of_eq rfl rfl rfl rfl
      exact .drawn ((hcalled.trans hpending).trans (hfollowed.pending rfl))
    · rw [show r.grants (c.moveCall word address) = false from hmove, hmoved]
      exact hended.after hcalled rfl

/-- **A performed cell** comes to its end if the opcode has the step and all that is due
is granted. -/
theorem ended_perform {code : UInt8} (hcode : c.live.opCode = some code) :
    Ended c (decide (c.live.step ≤ (c.table.lookup code).steps)
      && (c.due code r.report.address).all r.grants) (c.perform r) := by
  unfold perform driveLive opcode? due
  rw [hcode]
  simp only [Option.map_some]
  split
  · rename_i hlt
    rw [decide_eq_false (UInt8.not_le.mpr hlt), Bool.false_and]
    exact .skipped (.refl c) rfl rfl
  · rename_i hle
    rw [decide_eq_true (UInt8.not_lt.mp hle), Bool.true_and]
    cases hd : r.drive with
    | error e =>
      have hrefused : r.grants (.drive (c.liveWord code)) = false := congrArg Except.isOk hd
      rw [List.all_cons, hrefused, Bool.false_and]
      exact (ended_abort _ _ _ e).after (pending_call c _) rfl
    | ok u =>
      have hgranted : r.grants (.drive (c.liveWord code)) = true := congrArg Except.isOk hd
      rw [List.all_cons, hgranted, Bool.true_and]
      exact (ended_finishTick (c.call (.drive (c.liveWord code))) _ r).after (pending_call c _) rfl

/-- Being told where the board is changes the live state. -/
theorem pending_arrive (c : Console) (status : UInt8) (phase : Phase) :
    Pending c (c.arrive status phase) := by
  have hmild : Mild (c.call .status) (c.arrive status phase) := .of_eq rfl rfl rfl rfl
  exact (pending_call c .status).trans (hmild.pending rfl)

theorem pending_bind (c : Console) (code : UInt8) :
    Pending c (c.bind code) ∧ (c.bind code).notices = c.notices := by
  obtain ⟨address, h⟩ := exists_bind_eq c code
  rw [h]
  exact ⟨⟨⟨.same c.views, rfl, fun _ => rfl, fun hbounded => ⟨hbounded, Nat.le_refl _⟩⟩, [],
    (List.append_nil _).symm⟩, rfl⟩

/-- Whether the tick completes is settled at the live cell, once the opening is granted. -/
theorem Facing.completes_eq (h : Facing c phase r.report d)
    (hgranted : ∀ call ∈ c.opening phase r.report, r.grants call = true) :
    c.completes phase r
      = (decide (d.live.step ≤ (d.table.lookup (c.tickOpcode phase r.report)).steps)
        && (d.due (c.tickOpcode phase r.report) r.report.address).all r.grants) := by
  have hstep : d.live.step = r.report.status &&& 0x07 := congrArg (· &&& 0x07) h.status_eq
  unfold completes hasStep
  rw [h.agenda_eq, List.all_append, List.all_eq_true.mpr hgranted, Bool.true_and, hstep, h.table_eq]

/-- A tick whose opening is refused does not complete. -/
theorem completes_of_refused {call : BoardCall} (hmem : call ∈ c.opening phase r.report)
    (hrefused : r.grants call = false) : c.completes phase r = false := by
  unfold completes agenda
  rw [List.all_append, List.all_eq_false.mpr ⟨call, hmem, by simp [hrefused]⟩, Bool.false_and,
    Bool.and_false]

/-- **A tick ends** with the screen being drawn if it completes, and with an error
otherwise. -/
theorem ended_tick (c : Console) (phase : Phase) (r : BoardReplies) :
    Ended c (c.completes phase r) (c.tick phase r) := by
  cases hs : r.status with
  | error e =>
    have hrefused : r.grants .status = false := congrArg Except.isOk hs
    rw [completes_of_refused List.mem_cons_self hrefused, tick_of_status_error hs]
    exact (ended_abort _ _ _ e).after (pending_call c _) rfl
  | ok status =>
    have hstatus : r.grants .status = true := congrArg Except.isOk hs
    have harrived := pending_arrive c status phase
    have hneeds := asksOpcode_report hs c phase
    cases hasks : c.asksOpcode phase r.report with
    | false =>
      have hfacing := facing_arrive hs hasks
      rw [hfacing.completes_eq (by simpa [opening_of_known hasks] using hstatus),
        tick_of_known hs (hneeds.symm.trans hasks)]
      exact (ended_perform hfacing.opCode_eq).after harrived rfl
    | true =>
      have hasked : Pending c ((c.arrive status phase).call .opCode) :=
        harrived.trans (pending_call _ _)
      cases ho : r.opCode with
      | error e =>
        have hrefused : r.grants .opCode = false := congrArg Except.isOk ho
        rw [completes_of_refused (by simp [opening_of_asks hasks]) hrefused,
          tick_of_opcode_error hs (hneeds.symm.trans hasks) ho]
        exact (ended_abort _ _ _ e).after hasked rfl
      | ok code =>
        have hfacing := facing_bind hs hasks ho
        have hopCode : r.grants .opCode = true := congrArg Except.isOk ho
        obtain ⟨hbound, hnotices⟩ := pending_bind ((c.arrive status phase).call .opCode) code
        rw [hfacing.completes_eq (by simpa [opening_of_asks hasks] using ⟨hstatus, hopCode⟩),
          tick_of_opcode hs (hneeds.symm.trans hasks) ho]
        exact (ended_perform hfacing.opCode_eq).after (hasked.trans hbound) hnotices

/-! ## Announcements -/

/-- What was done since an earlier console. -/
def since (d c : Console) : List Deed := d.deeds.drop c.deeds.length

theorem since_eq {new : List Deed} (h : d.deeds = c.deeds ++ new) : d.since c = new := by
  unfold since
  rw [h, List.drop_left]

/-- Whether the screen is asked to be drawn in the course of a happening. -/
def AsksToDraw (c : Console) (happening : Happening) : Prop :=
  ∃ clear, .redraw clear ∈ (c.undergo happening).since c

/-- The console behind another filter. -/
def behind (c : Console) (filter : Filter) : Console :=
  { c with notices := { c.notices with filter := filter } }

/-- Whether an event of a level that notifications are made of was told since. -/
def News (d c : Console) : Prop :=
  ∃ note : Notification, note.level.rank ≤ Level.info.rank ∧ .told note ∈ d.since c

/-- **Logging**: whether an event that notifications are made of is logged in the course
of a happening. Whether it is told depends on the filter; that it was logged is seen behind
a filter that lets it through. -/
def Logs (c : Console) (happening : Happening) : Prop :=
  ∃ filter, ((c.behind filter).undergo happening).News (c.behind filter)

/-- **Attentive**: the filter lets through all that notifications are made of. -/
def Attentive (c : Console) : Prop :=
  ∀ event : Event, event.level.rank ≤ Level.info.rank → c.notices.keeps event = true

/-- **The same look**: the link is shown in the same state, and every frame is the same. -/
def LooksLike (d c : Console) : Prop :=
  d.connected = c.connected ∧ ∀ cols rows connected clear,
    (d.draw cols rows connected clear).2 = (c.draw cols rows connected clear).2

theorem looksLike_of_sight (h : d.sight = c.sight) : d.LooksLike c :=
  ⟨congrArg Sight.connected h, draw_congr h⟩

theorem attentive_behind_info (c : Console) : (c.behind (.upTo .info)).Attentive := by
  intro event hlevel
  show ((Filter.upTo .info).passes event && decide (event.level.rank ≤ Level.info.rank)) = true
  rw [Filter.passes_upTo, decide_eq_true hlevel]
  rfl

/-- What is shown is asked for, if it looks different. -/
theorem Shown.asks (h : Shown c d) (hchange : ¬ d.LooksLike c) :
    ∃ clear, .redraw clear ∈ d.since c := by
  obtain ⟨new, hnew, -, hasked | hsame⟩ := h
  · rw [since_eq hnew]
    exact hasked
  · exact absurd (looksLike_of_sight hsame) hchange

/-- What is done after a change comes behind what was done before. -/
theorem Pending.since_append (h : Pending c d) {e : Console} {more : List Deed}
    (hmore : e.deeds = d.deeds ++ more) : e.since c = d.since c ++ more := by
  obtain ⟨-, new, hnew⟩ := h
  have hall : e.deeds = c.deeds ++ (new ++ more) := by
    rw [hmore, hnew, List.append_assoc]
  rw [since_eq hnew, since_eq hall]

/-- A mild change that is drawn is asked for. -/
theorem Pending.asks (h : Pending c d) : .redraw false ∈ (d.redraw false).since c := by
  rw [h.since_append rfl]
  exact List.mem_append_right _ (List.mem_singleton.mpr rfl)

/-- A tick that completes asks for the screen to be drawn. -/
theorem Ended.asks (h : Ended c true d) : .redraw false ∈ d.since c := by
  cases h with
  | drawn h => exact h.asks

/-- An event that is kept is told, and the screen asked to be drawn. -/
theorem Pending.tells (h : Pending c d) {event : Event} (hkeeps : d.notices.keeps event = true)
    (hlevel : event.level.rank ≤ Level.info.rank) :
    .redraw false ∈ (d.log event).since c ∧ (d.log event).News c := by
  have hdeeds : (d.log event).deeds
      = d.deeds ++ [.told ⟨event.level, event.text⟩, .redraw false] := by
    rw [log_of_keeps hkeeps]
    exact List.append_assoc _ _ _
  unfold News
  rw [h.since_append hdeeds]
  exact ⟨List.mem_append_right _ (by simp), ⟨event.level, event.text⟩, hlevel,
    List.mem_append_right _ (by simp)⟩

/-- What is asked of the board does not undo what was done before. -/
theorem Pending.mem_since_call (h : Pending c d) (b : BoardCall) {deed : Deed}
    (hmem : deed ∈ d.since c) : deed ∈ (d.call b).since c := by
  rw [h.since_append rfl]
  exact List.mem_append_left _ hmem

/-- Errors are among what notifications are made of. -/
theorem rank_error_le : Level.error.rank ≤ Level.info.rank := by decide

/-- An error that is logged with the notices of an attentive console is told. -/
theorem Attentive.tells_error (hattentive : c.Attentive) (h : Pending c d)
    (hnotices : d.notices = c.notices) {event : Event} (hlevel : event.level = .error) :
    .redraw false ∈ (d.log event).since c ∧ (d.log event).News c := by
  have hrank : event.level.rank ≤ Level.info.rank := hlevel ▸ rank_error_le
  exact h.tells (hnotices ▸ hattentive event hrank) hrank

/-- **An attentive console announces the end of a tick** that does not complete, and tells
why. -/
theorem Ended.announced (h : Ended c false d) (hattentive : c.Attentive) :
    .redraw false ∈ d.since c ∧ d.News c := by
  cases h with
  | skipped h hnotices hlevel => exact hattentive.tells_error h hnotices hlevel
  | @aborted d event h hnotices hlevel =>
    obtain ⟨hdrawn, note, hrank, htold⟩ := hattentive.tells_error h hnotices hlevel
    have hlogged : Pending c (d.log event) := h.trans (pending_log d event)
    exact ⟨hlogged.mem_since_call _ hdrawn, note, hrank, hlogged.mem_since_call _ htold⟩

/-- The one key that leaves its redraw to its log event has it from an attentive
console. -/
theorem Attentive.tells_bell (hattentive : c.Attentive) :
    .redraw false ∈ c.toggleBell.since c ∧ c.toggleBell.News c := by
  have hmild : Mild c { c with silenced := !c.silenced } := .of_eq rfl rfl rfl rfl
  exact (hmild.pending rfl).tells (hattentive (bellEvent !c.silenced) (Nat.le_refl _))
    (Nat.le_refl _)

/-- What that key does on the history page. -/
theorem press_bell {offset : Nat} {below : List View}
    (hviews : c.views = .page (.history offset) :: below) (reply : Except LinkError Unit) :
    (c.press (.char 's') reply).1 = c.toggleBell := by
  have hsame : c.toggleBell.views = .page (.history offset) :: below :=
    (views_log _ _).trans hviews
  unfold press
  rw [hviews]
  show { c.toggleBell with views := .page (.history offset) :: below } = c.toggleBell
  rw [← hsame]

/-! ## All happenings -/

/-- **Nothing visible changes unannounced**: a happening after which the console looks
different asks for the screen to be drawn, or logs an event that notifications are made of.
Where such events pass the filter, the screen is asked for either way. -/
theorem visible_change_announced (c : Console) (happening : Happening)
    (hchange : ¬ (c.undergo happening).LooksLike c) :
    (c.AsksToDraw happening ∨ c.Logs happening) ∧ (c.Attentive → c.AsksToDraw happening) := by
  have hasked (h : c.AsksToDraw happening) :
      (c.AsksToDraw happening ∨ c.Logs happening) ∧ (c.Attentive → c.AsksToDraw happening) :=
    ⟨.inl h, fun _ => h⟩
  have hlistening := attentive_behind_info c
  cases happening with
  | tick phase r =>
    cases hdone : c.completes phase r with
    | true =>
      have hended := ended_tick c phase r
      rw [hdone] at hended
      exact hasked ⟨false, hended.asks⟩
    | false =>
      -- Whether a tick completes does not depend on the filter, which may be `c`'s own.
      have hended {filter : Filter} :
          Ended (c.behind filter) false ((c.behind filter).tick phase r) := by
        have h := ended_tick (c.behind filter) phase r
        rwa [show (c.behind filter).completes phase r = false from hdone] at h
      exact ⟨.inr ⟨.upTo .info, (hended.announced hlistening).2⟩,
        fun hattentive => ⟨false, (hended.announced hattentive).1⟩⟩
  | press key reply =>
    obtain hshown | ⟨⟨offset, below, hviews⟩, rfl, hbell⟩ := shown_press c key reply
    · exact hasked (hshown.asks hchange)
    · refine ⟨.inr ⟨.upTo .info, ?_⟩, fun hattentive => ⟨false, ?_⟩⟩
      · show ((c.behind (.upTo .info)).press (.char 's') reply).1.News (c.behind (.upTo .info))
        have hsame : (c.behind (.upTo .info)).views = .page (.history offset) :: below := hviews
        rw [press_bell hsame]
        exact hlistening.tells_bell.2
      · show Deed.redraw false ∈ (c.press (.char 's') reply).1.since c
        rw [hbell]
        exact hattentive.tells_bell.1
  | status change => exact hasked ((shown_status c change).asks hchange)

/-- The history page behind a filter that lets nothing through. -/
def deafHistory : Console :=
  { table := .builtin
    notices := ⟨.nothing, .fixed, .ofCapacity 1⟩
    views := [.page (.history 0), .dashboard] }

/-- Silencing the bell there changes the hint of the page. -/
theorem deafHistory_changes (reply : Except LinkError Unit) :
    ¬ (deafHistory.undergo (.press (.char 's') reply)).LooksLike deafHistory := by
  have hpressed : deafHistory.undergo (.press (.char 's') reply)
      = { deafHistory with silenced := true } := by
    show (deafHistory.press (.char 's') reply).1 = _
    have hviews : deafHistory.views = .page (.history 0) :: [.dashboard] := rfl
    rw [press_bell hviews]
    exact log_of_not_keeps (by simp [Notices.keeps, deafHistory, Filter.passes_nothing])
  rintro ⟨-, hframes⟩
  have hframe := hframes 80 3 true false
  rw [hpressed] at hframe
  revert hframe
  decide +kernel

/-- The one happening that may leave a changed screen as it is, and what it logs. -/
theorem deafHistory_announced :
    ¬ (deafHistory.undergo (.press (.char 's') (.ok ()))).LooksLike deafHistory
      ∧ (deafHistory.AsksToDraw (.press (.char 's') (.ok ()))
        ∨ deafHistory.Logs (.press (.char 's') (.ok ())))
      ∧ (deafHistory.Attentive → deafHistory.AsksToDraw (.press (.char 's') (.ok ()))) :=
  have hchange := deafHistory_changes (.ok ())
  ⟨hchange, visible_change_announced deafHistory (.press (.char 's') (.ok ())) hchange⟩

end Console

end Breadboard
