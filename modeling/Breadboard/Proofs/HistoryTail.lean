import Breadboard.Proofs.Sight
import Mathlib.Data.List.DropRight
import Mathlib.Logic.Function.Iterate

/-!
# The history is the tail of what was kept

Three things happen to the notices of a session, in any order and any number of times: an event is
told, debug output is switched on or off, the history is cleared. To say what the history holds
after that takes a list without a bound: each act is paired with the limit that was in force when
it came, and what was kept are the events that the limit of their own time let through. The history
is the end of that list, from the last clearing on and no longer than its capacity.

A limit that comes later has no say in what was kept before, so the pairing has to be made in the
course of the acts, and the proof goes along it: one act adds one pair at the end.
-/

namespace Breadboard

/-! ## Bare limits -/

namespace Filter

/-- Lets events down to a limit through, or none at all. -/
def bare (limit : Option Level) : Filter := ⟨[{ limit := limit }]⟩

/-- **A bare limit** lets events of its level and of more severe ones through. -/
theorem passes_bare (limit : Option Level) (e : Event) :
    (bare limit).passes e = limit.any fun level => e.level.rank ≤ level.rank := by
  cases limit with
  | none =>
    cases h : e.origin.activity <;>
      simp [passes, passesInCourse, holding, h, bare, decisive?, Directive.covers,
        Directive.concerns, Directive.isAboutActivities, Directive.asksForValue, Directive.inArea,
        Directive.allows]
  | some level => exact passes_upTo level e

/-- A text is one part if a walk through its places meets no comma before the end. -/
theorem splitOn_eq_singleton {s : String} (n : Nat)
    (hpasses : ∀ k < n, ((String.Pos.Raw.next s)^[k] 0).atEnd s = false
      ∧ (((String.Pos.Raw.next s)^[k] 0).get s == String.Pos.Raw.get "," 0) = false)
    (hend : ((String.Pos.Raw.next s)^[n] 0).atEnd s = true)
    (hall : String.Pos.Raw.extract s 0 ((String.Pos.Raw.next s)^[n] 0) = s) :
    s.splitOn "," = [s] := by
  have hwalk (k : Nat) (hk : k ≤ n) : s.splitOnAux "," 0 0 0 []
      = s.splitOnAux "," 0 ((String.Pos.Raw.next s)^[k] 0) 0 [] := by
    induction k with
    | zero => rfl
    | succ k ih =>
      obtain ⟨hmore, hcomma⟩ := hpasses k hk
      rw [ih (Nat.le_of_succ_le hk), String.splitOnAux, if_neg (by simp [hmore]),
        if_neg (by simp [hcomma]), Function.iterate_succ_apply']
      rfl
  show s.splitOnAux "," 0 0 0 [] = [s]
  rw [hwalk n (Nat.le_refl n), String.splitOnAux, if_pos hend]
  exact congrArg (fun part => [part]) hall

/-- **The name of a level** asks for that limit. -/
theorem ofText?_name (level : Level) : ofText? level.name = some (bare (some level)) := by
  have hpart : level.name.splitOn "," = [level.name] := by
    cases level with
    | warn | info => exact splitOn_eq_singleton 4 (by decide) (by decide) (by decide)
    | _ => exact splitOn_eq_singleton 5 (by decide) (by decide) (by decide)
  unfold ofText?
  rw [hpart]
  cases level <;> decide

end Filter

/-! ## Acts -/

/-- **Acts** that concern the notices. -/
inductive NoticeAct where
  /-- An event is told. -/
  | told (e : Event)
  /-- Debug output is switched on or off. -/
  | switched (debug : Bool)
  /-- The history is cleared. -/
  | cleared

namespace NoticeAct

/-- **What an act does** to a console. -/
def perform (c : Console) : NoticeAct → Console
  | told e => c.log e
  | switched debug => { c with notices := (c.notices.setDebug? debug).getD c.notices }
  | cleared => { c with notices := { c.notices with history := c.notices.history.clear } }

/-- What some acts do, one after another. -/
def run (c : Console) (acts : List NoticeAct) : Console := acts.foldl perform c

/-- A console whose notices begin: its filter has a bare limit, and can be switched back to it by
a text that asks for it. -/
def opened (c : Console) (base : String) (limit : Option Level) (capacity : Nat) : Console :=
  { c with notices := ⟨.bare limit, .switchable base, .ofCapacity capacity⟩ }

/-- The limit in force after an act. Off means the base limit. -/
def limitAfter (base limit : Option Level) : NoticeAct → Option Level
  | switched true => some .debug
  | switched false => base
  | _ => limit

/-- **The course of some acts**: each of them with the limit that was in force when it came. -/
def course (base limit : Option Level) : List NoticeAct → List (Option Level × NoticeAct)
  | [] => []
  | act :: rest => (limit, act) :: course base (act.limitAfter base limit) rest

/-- The limit in force after some acts. -/
def inForce (base : Option Level) (acts : List NoticeAct) : Option Level :=
  acts.foldl (fun limit act => act.limitAfter base limit) base

/-- What is kept of an act under a limit: an event that is at least informational and that the
limit lets through. -/
def kept? : Option Level × NoticeAct → Option Notification
  | (limit, told e) =>
    if (limit.any fun level => e.level.rank ≤ level.rank) ∧ e.level.rank ≤ Level.info.rank then
      some ⟨e.level, e.text⟩
    else none
  | _ => none

/-- Whether an act leaves in the history what was kept before. -/
def keepsHistory : NoticeAct → Bool
  | cleared => false
  | _ => true

/-- **All that was kept** of some acts, oldest first. -/
def kept (base : Option Level) (acts : List NoticeAct) : List Notification :=
  (course base base acts).filterMap kept?

/-- **What was kept since the last clearing**, oldest first. -/
def keptSince (base : Option Level) (acts : List NoticeAct) : List Notification :=
  ((course base base acts).rtakeWhile (·.2.keepsHistory)).filterMap kept?

section

variable {limit : Option Level} {acts : List NoticeAct} {act : NoticeAct}

/-- **One more act** comes under the limit that the others have left. -/
theorem course_concat (limit : Option Level) (acts : List NoticeAct) (act : NoticeAct) :
    course limit limit (acts ++ [act])
      = course limit limit acts ++ [(inForce limit acts, act)] := by
  have hcourse (before : Option Level) : course limit before (acts ++ [act])
      = course limit before acts
        ++ [(acts.foldl (fun limit' act => act.limitAfter limit limit') before, act)] := by
    induction acts generalizing before with
    | nil => rfl
    | cons first rest ih =>
      rw [List.cons_append, course, ih, List.foldl_cons, course, List.cons_append]
  exact hcourse limit

theorem inForce_concat (limit : Option Level) (acts : List NoticeAct) (act : NoticeAct) :
    inForce limit (acts ++ [act]) = act.limitAfter limit (inForce limit acts) := by
  unfold inForce
  rw [List.foldl_append, List.foldl_cons, List.foldl_nil]

theorem kept_concat (limit : Option Level) (acts : List NoticeAct) (act : NoticeAct) :
    kept limit (acts ++ [act]) = kept limit acts ++ (kept? (inForce limit acts, act)).toList := by
  unfold kept
  rw [course_concat, List.filterMap_append]
  cases h : kept? (inForce limit acts, act) <;> simp [h]

theorem keptSince_concat (h : act.keepsHistory = true) :
    keptSince limit (acts ++ [act])
      = keptSince limit acts ++ (kept? (inForce limit acts, act)).toList := by
  unfold keptSince
  rw [course_concat, List.rtakeWhile_concat_pos _ _ (inForce limit acts, act) h,
    List.filterMap_append]
  cases h : kept? (inForce limit acts, act) <;> simp [h]

theorem keptSince_cleared (limit : Option Level) (acts : List NoticeAct) :
    keptSince limit (acts ++ [cleared]) = [] := by
  unfold keptSince
  rw [course_concat, List.rtakeWhile_concat_neg _ _ _ (by simp [keepsHistory])]
  rfl

/-! ## Runs -/

/-- **In step** with some acts: the filter has the limit in force, the history is the end of what
was kept since the last clearing, and the screen was asked to be drawn for all that was kept. -/
structure InStep (base : String) (limit : Option Level) (capacity : Nat) (redraws : List Bool)
    (acts : List NoticeAct) (c : Console) : Prop where
  filter_eq : c.notices.filter = .bare (inForce limit acts)
  control_eq : c.notices.control = .switchable base
  capacity_eq : c.notices.history.capacity = max capacity 1
  entries_eq :
    c.notices.history.entries = (keptSince limit acts).reverse.take (max capacity 1)
  redraws_eq : c.redraws = redraws ++ List.replicate (kept limit acts).length false

variable {base : String} {capacity : Nat} {redraws : List Bool} {c : Console}

/-- An event is kept by the limit in force. -/
theorem InStep.kept?_told (h : InStep base limit capacity redraws acts c) (e : Event) :
    kept? (inForce limit acts, told e)
      = if c.notices.keeps e then some ⟨e.level, e.text⟩ else none := by
  unfold Notices.keeps kept?
  rw [h.filter_eq, Filter.passes_bare]
  simp only [Bool.and_eq_true, decide_eq_true_eq]

/-- An act of which nothing is kept. -/
theorem InStep.skip (h : InStep base limit capacity redraws acts c) {d : Console}
    (hnone : kept? (inForce limit acts, act) = none) (hact : act.keepsHistory = true)
    (hfilter : d.notices.filter = .bare (act.limitAfter limit (inForce limit acts)))
    (hcontrol : d.notices.control = c.notices.control)
    (hhistory : d.notices.history = c.notices.history) (hredraws : d.redraws = c.redraws) :
    InStep base limit capacity redraws (acts ++ [act]) d where
  filter_eq := by rw [hfilter, inForce_concat]
  control_eq := hcontrol.trans h.control_eq
  capacity_eq := hhistory ▸ h.capacity_eq
  entries_eq := by
    rw [hhistory, h.entries_eq, keptSince_concat hact, hnone, Option.toList_none, List.append_nil]
  redraws_eq := by
    rw [hredraws, h.redraws_eq, kept_concat, hnone, Option.toList_none, List.append_nil]

/-- What does not fit is pushed out, also if it did not fit before. -/
theorem take_cons_take {α : Type} (x : α) (xs : List α) (n : Nat) :
    (x :: xs.take n).take n = (x :: xs).take n := by
  cases n with
  | zero => rfl
  | succ n => rw [List.take_succ_cons, List.take_succ_cons, List.take_take,
    Nat.min_eq_left (Nat.le_succ n)]

/-- **One event.** -/
theorem InStep.log (h : InStep base limit capacity redraws acts c) (e : Event) :
    InStep base limit capacity redraws (acts ++ [told e]) (c.log e) := by
  have hkept := h.kept?_told e
  cases hkeeps : c.notices.keeps e with
  | false =>
    rw [hkeeps] at hkept
    rw [Console.log_of_not_keeps hkeeps]
    exact h.skip hkept rfl h.filter_eq rfl rfl rfl
  | true =>
    rw [hkeeps, if_pos rfl] at hkept
    have htell : c.notices.tell e
        = { c.notices with history := c.notices.history.push ⟨e.level, e.text⟩ } := if_pos hkeeps
    rw [Console.log_of_keeps hkeeps, htell]
    refine ⟨?_, h.control_eq, h.capacity_eq, ?_, ?_⟩
    · rw [inForce_concat]
      exact h.filter_eq
    · rw [keptSince_concat rfl, hkept, Option.toList_some, List.reverse_concat]
      show ((_ : Notification) :: c.notices.history.entries).take c.notices.history.capacity = _
      rw [h.entries_eq, h.capacity_eq, take_cons_take]
    · rw [kept_concat, hkept, Option.toList_some, List.length_append, List.replicate_add,
        ← List.append_assoc, ← h.redraws_eq]
      unfold Console.redraws
      simp

/-- **One act.** -/
theorem InStep.perform (hbase : Filter.ofText? base = some (.bare limit))
    (h : InStep base limit capacity redraws acts c) (act : NoticeAct) :
    InStep base limit capacity redraws (acts ++ [act]) (act.perform c) := by
  cases act with
  | told e => exact h.log e
  | switched debug =>
    have hfilter : c.notices.control.filterFor? debug
        = some (.bare ((switched debug).limitAfter limit (inForce limit acts))) := by
      rw [h.control_eq]
      cases debug with
      | false => exact hbase
      | true => rfl
    have hswitched : (switched debug).perform c = { c with
        notices := { c.notices with
          filter := .bare ((switched debug).limitAfter limit (inForce limit acts)) } } := by
      show { c with notices := (c.notices.setDebug? debug).getD c.notices } = _
      unfold Notices.setDebug?
      rw [hfilter]
      rfl
    rw [hswitched]
    exact h.skip rfl rfl rfl rfl rfl rfl
  | cleared =>
    have hnone : kept? (inForce limit acts, cleared) = none := rfl
    refine ⟨?_, h.control_eq, h.capacity_eq, ?_, ?_⟩
    · rw [inForce_concat]
      exact h.filter_eq
    · rw [keptSince_cleared]
      exact List.take_nil.symm
    · rw [kept_concat, hnone, Option.toList_none, List.append_nil]
      exact h.redraws_eq

/-- **Any acts**, from a console whose notices begin. -/
theorem inStep_run (hbase : Filter.ofText? base = some (.bare limit)) (c : Console)
    (capacity : Nat) (acts : List NoticeAct) :
    InStep base limit capacity c.redraws acts (run (opened c base limit capacity) acts) := by
  induction acts using List.reverseRecOn with
  | nil => exact ⟨rfl, rfl, rfl, List.take_nil.symm, (List.append_nil _).symm⟩
  | append_singleton acts act ih =>
    unfold run at ih ⊢
    rw [List.foldl_append]
    exact ih.perform hbase act

/-- **The history is the tail of what was kept.** Whatever the limit that a session begins with and
can be switched back to, whatever the capacity, with zero counting as one, and whatever acts there
were: the history holds the end of what was kept since the last clearing, newest first and as long
as its capacity; what is recent is a stretch of that; and the screen was asked to be drawn once for
each event that was ever kept. -/
theorem history_is_tail_of_kept (hbase : Filter.ofText? base = some (.bare limit)) (c : Console)
    (capacity : Nat) (acts : List NoticeAct) :
    (run (opened c base limit capacity) acts).notices.history.entries
        = ((keptSince limit acts).rtake (max capacity 1)).reverse
      ∧ (∀ skip count, (run (opened c base limit capacity) acts).notices.history.recent skip count
          = (((keptSince limit acts).rtake (max capacity 1)).reverse.drop skip).take count)
      ∧ (run (opened c base limit capacity) acts).redraws
          = c.redraws ++ List.replicate (kept limit acts).length false := by
  have hstep := inStep_run hbase c capacity acts
  have hentries : (run (opened c base limit capacity) acts).notices.history.entries
      = ((keptSince limit acts).rtake (max capacity 1)).reverse := by
    rw [hstep.entries_eq, List.rtake_eq_reverse_take_reverse, List.reverse_reverse]
  refine ⟨hentries, fun skip count => ?_, hstep.redraws_eq⟩
  rw [← hentries]
  rfl

/-- Three events are kept, one of them before the history is cleared and one of them too many. -/
theorem history_is_tail_of_kept_warning :
    Filter.ofText? "INFO" = some (.bare (some .info))
      ∧ (run (opened { table := .builtin } "INFO" (some .info) 0)
          [.switched true, .told (.info .keys "first"), .cleared, .told (.info .keys "second"),
            .switched false, .told ⟨.debug, some "hidden", [], .keys⟩,
            .told (.warn .keys "third")]).notices.history.entries = [⟨.warn, "third"⟩] := by
  have hbase := Filter.ofText?_name .info
  exact ⟨hbase, (history_is_tail_of_kept hbase _ 0 _).1.trans rfl⟩

end

end NoticeAct

end Breadboard
