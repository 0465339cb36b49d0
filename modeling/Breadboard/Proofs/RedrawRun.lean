import Breadboard.Clocking.RedrawSlot
import Mathlib.Data.List.Induction

/-!
# No redraw request is lost

Whoever wants the screen to be drawn merges a request into the slot and leaves a
wake-up afterwards. The loop looks into the slot first and waits for a wake-up
only if it finds nothing. Between the two halves of a request, and between the
look and the wait, anybody else may do anything. Besides, the loop waits for several
things at once, and whenever another one comes first it gives up waiting for
this one, be it asleep or already woken up.

Two things could be lost on the way. A *flag* is lost if a request to clear the
screen is merged into one that does not. This cannot happen because merging and
taking are single steps, and what is pending is at all times the union of what was
asked since the last look.

A *wake-up* is lost if the loop sleeps over a pending request that nobody will
wake it up for. That is ruled out by what holds from the moment at which the
loop has found nothing: if there is a request now, it came later, so its wake-up
is kept or on its way. A wake-up that reaches the loop just before it gives up is
kept for its next wait.
-/

namespace Breadboard

/-- **Waiter**: how far the loop has come with waiting for a request. -/
inductive Waiter where
  /-- It is busy with something else. -/
  | away
  /-- It is about to look into the slot. -/
  | looking
  /-- It has found nothing there. -/
  | emptyHanded
  /-- It waits for a wake-up. -/
  | asleep
  /-- It was given a wake-up while it waited, and has not noticed. -/
  | woken
  deriving DecidableEq

namespace Waiter

/-- Whether the loop waits, or is going to wait without another look. -/
def waits : Waiter → Bool
  | emptyHanded | asleep => true
  | _ => false

end Waiter

/-- **Redraw step**: what a requester or the loop does before anybody else can do
anything. -/
inductive RedrawStep where
  /-- Somebody merges a request into the slot. -/
  | mark (clear : Bool)
  /-- Somebody who has done so leaves the wake-up. -/
  | wake
  /-- The pending request is taken by somebody who does not wait. -/
  | take
  /-- The loop begins to wait for a request. -/
  | enter
  /-- It looks into the slot. -/
  | look
  /-- Having found nothing, it uses up the wake-up that is kept, or falls asleep. -/
  | listen
  /-- It notices that it was woken up. -/
  | rise
  /-- It gives up waiting. A wake-up that it was given is passed on. -/
  | leave

/-- **Redraw event**: what can be seen of a slot from outside. -/
inductive RedrawEvent where
  /-- A request was merged. -/
  | asked (clear : Bool)
  /-- Somebody took what was pending. -/
  | took (found : Option Bool)
  deriving DecidableEq

/-- **Redraw run**: a slot and those who use it, with what has happened so far,
oldest first. -/
structure RedrawRun where
  /-- The slot. -/
  slot : RedrawSlot
  /-- The loop. -/
  waiter : Waiter
  /-- How many requests were merged whose wake-up was not left yet. -/
  waking : Nat
  /-- What has happened. -/
  events : List RedrawEvent

namespace RedrawRun

/-- The run in which nothing has happened. -/
def fresh : RedrawRun := ⟨.start, .away, 0, []⟩

/-- Takes what is pending. -/
def takeUp (s : RedrawRun) : RedrawRun :=
  { s with slot := s.slot.take.1, events := s.events ++ [.took s.slot.take.2] }

/-- Gives a wake-up to the loop if it is asleep, and keeps it otherwise. -/
def giveWakeUp (s : RedrawRun) : RedrawRun :=
  if s.waiter = .asleep then { s with waiter := .woken } else { s with slot := s.slot.wake }

/-- **One step.** What cannot happen changes nothing. -/
def next (s : RedrawRun) : RedrawStep → RedrawRun
  | .mark clear =>
    { s with
      slot := s.slot.mark clear
      waking := s.waking + 1
      events := s.events ++ [.asked clear] }
  | .wake => if s.waking = 0 then s else { s.giveWakeUp with waking := s.waking - 1 }
  | .take => s.takeUp
  | .enter => if s.waiter = .away then { s with waiter := .looking } else s
  | .look =>
    if s.waiter = .looking then
      { s.takeUp with waiter := if s.slot.pending.isSome then .away else .emptyHanded }
    else s
  | .listen =>
    if s.waiter = .emptyHanded then
      if s.slot.wakeUp then { s with slot := { s.slot with wakeUp := false }, waiter := .looking }
      else { s with waiter := .asleep }
    else s
  | .rise => if s.waiter = .woken then { s with waiter := .looking } else s
  | .leave =>
    if s.waiter = .woken then { s with slot := s.slot.wake, waiter := .away }
    else { s with waiter := .away }

/-- Where a run leads. -/
def after (run : List RedrawStep) : RedrawRun := run.foldl next fresh

theorem after_concat (run : List RedrawStep) (step : RedrawStep) :
    after (run ++ [step]) = (after run).next step := by
  unfold after
  rw [List.foldl_append, List.foldl_cons, List.foldl_nil]

variable {s : RedrawRun}

/-- **A request** is its two halves, as long as nobody sleeps. -/
theorem slot_next_mark_wake (h : s.waiter ≠ .asleep) (clear : Bool) :
    ((s.next (.mark clear)).next .wake).slot = s.slot.request clear := by
  show (giveWakeUp { s with
      slot := s.slot.mark clear
      waking := s.waking + 1
      events := s.events ++ [.asked clear] }).slot = _
  unfold giveWakeUp
  rw [if_neg h]
  rfl

/-- **One look for the next request** is a look, the use of the wake-up that is kept,
and another look. -/
theorem slot_wait (h : s.waiter = .away) :
    ([.enter, .look, .listen, .look].foldl next s).slot = s.slot.next.1 := by
  obtain ⟨⟨pending, wakeUp⟩, waiter, waking, events⟩ := s
  obtain rfl : waiter = .away := h
  cases pending <;> cases wakeUp <;> rfl

/-! ## What is pending -/

/-- The clear flags of the requests since the last time somebody took what was
pending. -/
def since (events : List RedrawEvent) : List Bool :=
  events.foldl (fun flags e => match e with
    | .asked clear => flags ++ [clear]
    | .took _ => []) []

/-- **Merged requests**: none if there are none, and one that clears the screen if any
of them does. -/
def merged (flags : List Bool) : Option Bool :=
  if flags.isEmpty then none else some (flags.any id)

theorem since_concat_asked (events : List RedrawEvent) (clear : Bool) :
    since (events ++ [.asked clear]) = since events ++ [clear] := by
  unfold since
  rw [List.foldl_append]
  rfl

theorem since_concat_took (events : List RedrawEvent) (found : Option Bool) :
    since (events ++ [.took found]) = [] := by
  unfold since
  rw [List.foldl_append]
  rfl

theorem merged_concat (flags : List Bool) (clear : Bool) :
    merged (flags ++ [clear]) = some ((merged flags).getD false || clear) := by
  unfold merged
  rw [List.any_append]
  cases flags with
  | nil => simp
  | cons flag rest => simp

/-- **Sound** runs: what was taken is what had been asked since the time before, and the
loop does not wait for a request that is there. -/
structure Sound (s : RedrawRun) : Prop where
  /-- What is pending is what was asked since the last time. -/
  pending : s.slot.pending = merged (since s.events)
  /-- So was what was taken. -/
  taken : ∀ before found rest, s.events = before ++ .took found :: rest →
    found = merged (since before)
  /-- A loop that sleeps has used up the wake-up that was kept. -/
  asleep : s.waiter = .asleep → s.slot.wakeUp = false
  /-- A loop that waits will be woken up for what is pending. -/
  awaited : s.waiter.waits = true → s.slot.pending.isSome = true →
    s.slot.wakeUp = true ∨ s.waking ≠ 0

theorem sound_fresh : fresh.Sound where
  pending := rfl
  taken := by
    intro before found rest heq
    exact absurd heq (by simp [fresh])
  asleep := by simp [fresh]
  awaited := by simp [fresh, Waiter.waits]

/-! ## One step -/

/-- A loop that does not wait cannot miss anything. -/
theorem Sound.awake (h : s.Sound) (slot : RedrawSlot) {waiter : Waiter}
    (hpending : slot.pending = s.slot.pending) (hwaits : waiter.waits = false) (waking : Nat) :
    ({ s with slot := slot, waiter := waiter, waking := waking } : RedrawRun).Sound where
  pending := hpending.trans h.pending
  taken := h.taken
  asleep := by
    rintro rfl
    exact absurd hwaits (by decide)
  awaited := fun hdoes => absurd (hwaits.symm.trans hdoes) Bool.false_ne_true

/-- A list that ends in a new element holds an event where it stood, or at its end. -/
theorem concat_eq_append_cons {α : Type} {l before rest : List α} {a b : α}
    (h : l ++ [a] = before ++ b :: rest) :
    (∃ rest', l = before ++ b :: rest') ∨ l = before ∧ a = b := by
  cases rest using List.reverseRecOn with
  | nil =>
    obtain ⟨hl, ha⟩ := List.append_inj' h rfl
    exact .inr ⟨hl, List.head_eq_of_cons_eq ha⟩
  | append_singleton rest' c =>
    rw [← List.cons_append, ← List.append_assoc] at h
    exact .inl ⟨rest', (List.append_inj' h rfl).1⟩

theorem Sound.mark (h : s.Sound) (clear : Bool) : (s.next (.mark clear)).Sound where
  pending := by
    show some (s.slot.pending.getD false || clear) = merged (since (s.events ++ [.asked clear]))
    rw [since_concat_asked, merged_concat, h.pending]
  taken := by
    intro before found rest heq
    obtain ⟨rest', hevents⟩ | ⟨-, habsurd⟩ := concat_eq_append_cons heq
    · exact h.taken before found rest' hevents
    · exact absurd habsurd (by simp)
  asleep := h.asleep
  -- Whoever has asked has not left the wake-up yet.
  awaited := fun _ _ => .inr (Nat.succ_ne_zero s.waking)

/-- A wake-up that nobody sleeps for is kept. -/
theorem Sound.wake (h : s.Sound) : (s.next .wake).Sound := by
  unfold RedrawRun.next
  dsimp only
  split
  · exact h
  · unfold giveWakeUp
    split
    · exact h.awake s.slot rfl rfl _
    · rename_i hasleep
      exact ⟨h.pending, h.taken, fun hwaiter => absurd hwaiter hasleep, fun _ _ => .inl rfl⟩

/-- Nothing is pending after somebody has taken it. -/
theorem Sound.takeUp (h : s.Sound) : s.takeUp.Sound where
  pending := by
    show none = merged (since (s.events ++ [.took s.slot.take.2]))
    rw [since_concat_took]
    rfl
  taken := by
    intro before found rest heq
    obtain ⟨rest', hevents⟩ | ⟨rfl, hfound⟩ := concat_eq_append_cons heq
    · exact h.taken before found rest' hevents
    · obtain rfl := RedrawEvent.took.inj hfound
      exact h.pending
  asleep := h.asleep
  awaited := fun _ hpending => absurd hpending Bool.false_ne_true

theorem Sound.look (h : s.Sound) : (s.next .look).Sound := by
  unfold RedrawRun.next
  dsimp only
  split
  · refine ⟨h.takeUp.pending, h.takeUp.taken, fun hasleep => ?_,
      fun _ hpending => absurd hpending Bool.false_ne_true⟩
    dsimp only at hasleep
    split at hasleep <;> cases hasleep
  · exact h

theorem Sound.listen (h : s.Sound) : (s.next .listen).Sound := by
  unfold RedrawRun.next
  dsimp only
  split
  · rename_i hempty
    split
    · exact h.awake { s.slot with wakeUp := false } rfl rfl _
    · rename_i hwakeUp
      -- Nothing is kept, so the wake-up for what came after the look is on its way.
      exact ⟨h.pending, h.taken, fun _ => Bool.not_eq_true _ |>.mp hwakeUp,
        fun _ => h.awaited (by rw [hempty]; rfl)⟩
  · exact h

/-- **Each step** keeps a run sound. -/
theorem Sound.next (h : s.Sound) (step : RedrawStep) : (s.next step).Sound := by
  cases step with
  | mark clear => exact h.mark clear
  | wake => exact h.wake
  | take => exact h.takeUp
  | look => exact h.look
  | listen => exact h.listen
  | enter | rise =>
    unfold RedrawRun.next
    dsimp only
    split
    · exact h.awake s.slot rfl rfl _
    · exact h
  | leave =>
    unfold RedrawRun.next
    dsimp only
    split
    · exact h.awake s.slot.wake rfl rfl _
    · exact h.awake s.slot rfl rfl _

/-! ## Whole runs -/

/-- **Runs are sound.** -/
theorem sound_after (run : List RedrawStep) : (after run).Sound := by
  induction run using List.reverseRecOn with
  | nil => exact sound_fresh
  | append_singleton run step ih =>
    rw [after_concat]
    exact ih.next step

theorem merged_eq_none_iff (flags : List Bool) : merged flags = none ↔ flags = [] := by
  unfold merged
  split
  · rename_i h
    exact iff_of_true rfl (List.isEmpty_iff.mp h)
  · rename_i h
    exact iff_of_false (by simp) (mt List.isEmpty_iff.mpr h)

theorem merged_eq_some_iff (flags : List Bool) (clear : Bool) :
    merged flags = some clear ↔ flags ≠ [] ∧ (clear = true ↔ true ∈ flags) := by
  unfold merged
  split
  · rename_i h
    simp [List.isEmpty_iff.mp h]
  · rename_i h
    have hany : flags.any id = true ↔ true ∈ flags := by simp
    rw [Option.some_inj, Bool.eq_iff_iff, hany]
    exact ⟨fun hiff => ⟨mt List.isEmpty_iff.mpr h, hiff.symm⟩, fun hboth => hboth.2.symm⟩

/-- **Redraw requests merge without loss.** Nothing is taken exactly if nothing was
asked since the time before, and what is taken clears the screen exactly if one of the
requests since then asked for that. The loop never waits for a request that is there,
unless a wake-up is kept or somebody is about to leave one. -/
theorem merge_without_loss (run : List RedrawStep) :
    (∀ before rest, (after run).events = before ++ .took none :: rest → since before = [])
      ∧ (∀ before clear rest, (after run).events = before ++ .took (some clear) :: rest →
          since before ≠ [] ∧ (clear = true ↔ true ∈ since before))
      ∧ ¬ ((after run).waiter.waits = true ∧ (after run).slot.pending.isSome = true
          ∧ (after run).slot.wakeUp = false ∧ (after run).waking = 0) := by
  have hsound := sound_after run
  refine ⟨fun before rest heq => ?_, fun before clear rest heq => ?_, ?_⟩
  · exact (merged_eq_none_iff _).mp (hsound.taken before none rest heq).symm
  · exact (merged_eq_some_iff _ clear).mp (hsound.taken before (some clear) rest heq).symm
  · rintro ⟨hwaits, hpending, hwakeUp, hwaking⟩
    obtain hkept | hcoming := hsound.awaited hwaits hpending
    · rw [hwakeUp] at hkept
      exact absurd hkept Bool.false_ne_true
    · exact hcoming hwaking

end RedrawRun

end Breadboard
