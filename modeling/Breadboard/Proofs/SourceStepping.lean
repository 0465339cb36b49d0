import Breadboard.Proofs.Routing
import Mathlib.Data.List.Sublists

/-!
# Stepping through the sources of a bus

The offsets by which a bus is stepped act on words as far as the bus's list reaches: a step and
another one make the step by the sum, a step back undoes a step, and there is no step exactly
where there is no entry to go to or none to start from.

That rests on three facts about lists that were written by hand. No two entries of a bus are
chosen by the same setting of its lines, so the entry a step arrives at is the one that is found
again. An entry sets lines of its own bus only, so all a step leaves behind is the entry chosen.
And no line chooses for two routed buses, whose lists have every setting: stepping one of them
can neither get stuck nor be seen on another.
-/

namespace Breadboard

namespace Bus

variable {bus other : Bus} {source : BusSource} {w w' : ControlWord} {i : Nat} {a b : Int}

/-! ## The lists -/

/-- No two entries of a bus are chosen by the same lines. -/
theorem place_eq_of_lines_eq :
    ∀ bus : Bus, ∀ i j : Fin bus.sources.length,
      bus.sources[i].lines = bus.sources[j].lines → i = j := by
  intro bus
  cases bus <;> decide

/-- **The source a word chooses** is the entry with the word's setting of the bus's lines. -/
theorem resolve?_eq_some_iff :
    bus.resolve? w = some i
      ↔ ∃ h : i < bus.sources.length, bus.sources[i].lines = w &&& bus.mask := by
  unfold resolve?
  rw [List.findIdx?_eq_some_iff_getElem]
  simp only [beq_iff_eq]
  constructor
  · rintro ⟨hi, hlines, -⟩
    exact ⟨hi, hlines⟩
  · rintro ⟨hi, hlines⟩
    refine ⟨hi, hlines, fun j hj hsame => ?_⟩
    -- An earlier entry would be chosen by the same lines.
    have hplace := place_eq_of_lines_eq bus ⟨j, Nat.lt_trans hj hi⟩ ⟨i, hi⟩
      (hsame.trans hlines.symm)
    exact absurd (congrArg Fin.val hplace) (Nat.ne_of_lt hj)

/-- A word chooses no source if no entry has its setting of the bus's lines. -/
theorem resolve?_eq_none_iff :
    bus.resolve? w = none ↔ ∀ source ∈ bus.sources, source.lines ≠ w &&& bus.mask := by
  unfold resolve?
  rw [List.findIdx?_eq_none_iff]
  simp only [beq_eq_false_iff_ne]

/-! ## Choosing a source -/

/-- The chosen source can be read off the bus's lines. -/
theorem route_and_mask (hs : source ∈ bus.sources) (w : ControlWord) :
    bus.route w source &&& bus.mask = source.lines := by
  refine ControlWord.eq_of_bit fun i => ?_
  rw [← lines_within_mask bus source hs]
  unfold route
  rw [ControlWord.bit_and, ControlWord.bit_or, ControlWord.bit_without, ControlWord.bit_and]
  cases bus.mask.bit i <;> simp

/-- Nothing of the old word's choice is left. -/
theorem without_route (hs : source ∈ bus.sources) (w : ControlWord) :
    (bus.route w source).without bus.mask = w.without bus.mask := by
  refine ControlWord.eq_of_bit fun i => ?_
  rw [ControlWord.bit_without, ControlWord.bit_without]
  cases hi : bus.mask.bit i with
  | true => rw [Bool.not_true, Bool.and_false, Bool.and_false]
  | false => rw [bit_route_of_not_mask hs w hi]

/-- **The last source chosen counts.** -/
theorem route_route (hs : source ∈ bus.sources) (w : ControlWord) (next : BusSource) :
    bus.route (bus.route w source) next = bus.route w next := by
  unfold route
  rw [show (w.without bus.mask ||| source.lines).without bus.mask = w.without bus.mask from
    without_route hs w]

/-- Choosing the source that is chosen changes nothing. -/
theorem route_eq_self (h : source.lines = w &&& bus.mask) : bus.route w source = w := by
  refine ControlWord.eq_of_bit fun i => ?_
  unfold route
  rw [h, ControlWord.bit_or, ControlWord.bit_without, ControlWord.bit_and]
  cases bus.mask.bit i <;> simp

/-- The source that was chosen last is found again. -/
theorem resolve?_route (hi : i < bus.sources.length) (w : ControlWord) :
    bus.resolve? (bus.route w bus.sources[i]) = some i :=
  resolve?_eq_some_iff.mpr ⟨hi, (route_and_mask (List.getElem_mem hi) w).symm⟩

/-! ## One step -/

/-- **A step** goes from the place of the chosen source to the one so many entries further on,
and chooses the source there. -/
theorem cycle?_eq_some_iff :
    bus.cycle? w a = some w'
      ↔ ∃ i j, ∃ hj : j < bus.sources.length,
        bus.resolve? w = some i ∧ (j : Int) = i + a ∧ w' = bus.route w bus.sources[j] := by
  unfold cycle?
  cases hw : bus.resolve? w with
  | none => simp
  | some i =>
    simp only [Option.bind_eq_bind, Option.bind_some, Option.some.injEq]
    constructor
    · intro h
      split at h
      · exact absurd h (by simp)
      · rename_i hpositive
        obtain ⟨source, hsource, hroute⟩ := Option.bind_eq_some_iff.mp h
        obtain ⟨hj, rfl⟩ := List.getElem?_eq_some_iff.mp hsource
        exact ⟨i, _, hj, rfl, by omega, (Option.some.inj hroute).symm⟩
    · rintro ⟨_, j, hj, rfl, htarget, rfl⟩
      have hplace : ((i : Int) + a).toNat = j := by omega
      rw [if_neg (by omega), hplace, List.getElem?_eq_getElem hj]
      rfl

/-- **There is no step** if the word chooses no listed source, or the place to go to lies outside
the list. -/
theorem cycle?_eq_none_iff :
    bus.cycle? w a = none
      ↔ bus.resolve? w = none
        ∨ ∃ i, bus.resolve? w = some i ∧ ¬ (0 ≤ (i : Int) + a ∧ (i : Int) + a < bus.sources.length) := by
  rw [Option.eq_none_iff_forall_ne_some]
  constructor
  · intro hnone
    cases hw : bus.resolve? w with
    | none => exact .inl rfl
    | some i =>
      refine .inr ⟨i, rfl, fun hinside => ?_⟩
      have hj : ((i : Int) + a).toNat < bus.sources.length := by omega
      exact hnone _ (cycle?_eq_some_iff.mpr ⟨i, _, hj, hw, by omega, rfl⟩)
  · rintro houtside w' hstep
    obtain ⟨i, j, hj, hw, htarget, -⟩ := cycle?_eq_some_iff.mp hstep
    obtain hnone | ⟨i', hi', hrange⟩ := houtside
    · exact absurd (hw.symm.trans hnone) (by simp)
    · obtain rfl := Option.some.inj (hi'.symm.trans hw)
      exact hrange (by omega)

/-- The places of the chosen sources differ by the offset. -/
theorem exists_places_of_cycle? (h : bus.cycle? w a = some w') :
    ∃ i j : Nat, bus.resolve? w = some i ∧ bus.resolve? w' = some j ∧ (j : Int) = i + a := by
  obtain ⟨i, j, hj, hw, htarget, rfl⟩ := cycle?_eq_some_iff.mp h
  exact ⟨i, j, hw, resolve?_route hj w, htarget⟩

/-- **Two steps** make the step by the sum of their offsets. -/
theorem cycle?_add {w₁ w₂ : ControlWord} (h₁ : bus.cycle? w a = some w₁)
    (h₂ : bus.cycle? w₁ b = some w₂) : bus.cycle? w (a + b) = some w₂ := by
  obtain ⟨i, j, hj, hw, hij, rfl⟩ := cycle?_eq_some_iff.mp h₁
  obtain ⟨j', k, hk, hw₁, hjk, rfl⟩ := cycle?_eq_some_iff.mp h₂
  obtain rfl := Option.some.inj (hw₁.symm.trans (resolve?_route hj w))
  refine cycle?_eq_some_iff.mpr ⟨i, k, hk, hw, by omega, ?_⟩
  exact route_route (List.getElem_mem hj) w _

/-- **A step back** undoes a step. -/
theorem cycle?_neg (h : bus.cycle? w a = some w') : bus.cycle? w' (-a) = some w := by
  obtain ⟨i, j, hj, hw, hij, rfl⟩ := cycle?_eq_some_iff.mp h
  obtain ⟨hi, hlines⟩ := resolve?_eq_some_iff.mp hw
  refine cycle?_eq_some_iff.mpr ⟨j, i, hi, resolve?_route hj w, by omega, ?_⟩
  rw [route_route (List.getElem_mem hj), route_eq_self hlines]

/-! ## Routed buses -/

/-- The part of a word that lies on a bus is one of the settings of the bus's lines. -/
theorem and_mask_eq (bus : Bus) (w : ControlWord) :
    w &&& bus.mask = .ofLines (bus.selectors.filter w.has) := by
  refine ControlWord.eq_of_bit fun i => Bool.eq_iff_iff.mpr ?_
  unfold mask
  rw [ControlWord.bit_and, Bool.and_eq_true, ControlWord.bit_ofLines, ControlWord.bit_ofLines]
  constructor
  · rintro ⟨hbit, line, hline, rfl⟩
    exact ⟨line, List.mem_filter.mpr ⟨hline, hbit⟩, rfl⟩
  · rintro ⟨line, hline, rfl⟩
    obtain ⟨hmem, hhas⟩ := List.mem_filter.mp hline
    exact ⟨hhas, line, hmem, rfl⟩

/-- The list of a routed bus has every setting of its lines. -/
theorem exists_source_of_routed :
    ∀ bus ∈ routed.toList, ∀ chosen ∈ bus.selectors.sublists,
      ∃ source ∈ bus.sources, source.lines = .ofLines chosen := by
  decide +kernel

/-- **Every word chooses a source of a routed bus.** -/
theorem resolve?_ne_none_of_routed (h : bus ∈ routed.toList) (w : ControlWord) :
    bus.resolve? w ≠ none := by
  rw [Ne, resolve?_eq_none_iff]
  intro hnone
  obtain ⟨source, hs, hlines⟩ := exists_source_of_routed bus h (bus.selectors.filter w.has)
    (List.mem_sublists.mpr List.filter_sublist)
  exact hnone source hs (hlines.trans (and_mask_eq bus w).symm)

/-- No line chooses for two routed buses. -/
theorem disjoint_selectors_of_routed :
    ∀ bus ∈ routed.toList, ∀ other ∈ routed.toList, other ≠ bus →
      ∀ line ∈ other.selectors, line ∉ bus.selectors := by
  decide

/-- A line that does not choose for a bus lies outside its mask. -/
theorem mask_bit_eq_false {line : Line} (h : line ∉ bus.selectors) :
    bus.mask.bit line.bit = false := by
  refine Bool.eq_false_iff.mpr fun hbit => ?_
  obtain ⟨named, hnamed, hsame⟩ := (ControlWord.bit_ofLines _ _).mp hbit
  obtain rfl := Line.bit_injective (Fin.ext hsame)
  exact h hnamed

/-- **Stepping one routed bus is not seen on another.** -/
theorem and_mask_of_cycle? (hbus : bus ∈ routed.toList) (hother : other ∈ routed.toList)
    (hne : other ≠ bus) (h : bus.cycle? w a = some w') : w' &&& other.mask = w &&& other.mask := by
  rw [and_mask_eq, and_mask_eq]
  refine congrArg _ (List.filter_congr fun line hline => ?_)
  have houtside := disjoint_selectors_of_routed bus hbus other hother hne line hline
  exact bit_cycle?_of_not_mask h (mask_bit_eq_false houtside)

/-- What a bus makes of a word it reads off its own lines. -/
theorem resolve?_congr (h : w' &&& bus.mask = w &&& bus.mask) :
    bus.resolve? w' = bus.resolve? w := by
  unfold resolve?
  rw [h]

/-- **Stepping is a partial action of the offsets**, on the lines of one bus. A step changes no
bit outside the bus, moves the place of the chosen source by its offset, is undone by the step
back, and followed by another step it is the step by the sum. There is no step exactly if no
entry has the word's setting of the bus's lines, or the place to go to lies outside the list.
A routed bus finds a source in every word, and stepping it leaves the other routed buses at the
places and sources they were at. -/
theorem cycle_acts (bus : Bus) (w : ControlWord) (a : Int) :
    (∀ w₁, bus.cycle? w a = some w₁ →
      (∀ i, bus.mask.bit i = false → w₁.bit i = w.bit i)
        ∧ (∃ i j : Nat, bus.resolve? w = some i ∧ bus.resolve? w₁ = some j ∧ (j : Int) = i + a)
        ∧ bus.cycle? w₁ (-a) = some w
        ∧ ∀ (b : Int) (w₂ : ControlWord), bus.cycle? w₁ b = some w₂ →
          bus.cycle? w (a + b) = some w₂)
      ∧ (bus.cycle? w a = none
        ↔ (∀ source ∈ bus.sources, source.lines ≠ w &&& bus.mask)
          ∨ ∃ i : Nat, bus.resolve? w = some i
            ∧ ¬ (0 ≤ (i : Int) + a ∧ (i : Int) + a < bus.sources.length))
      ∧ (bus ∈ routed.toList →
        (bus.sourceOf? w).isSome = true
          ∧ ∀ w₁, bus.cycle? w a = some w₁ → ∀ other ∈ routed.toList, other ≠ bus →
            other.resolve? w₁ = other.resolve? w ∧ other.sourceOf? w₁ = other.sourceOf? w) := by
  refine ⟨fun w₁ h => ⟨fun i hi => bit_cycle?_of_not_mask h hi, exists_places_of_cycle? h,
    cycle?_neg h, fun b w₂ h₂ => cycle?_add h h₂⟩, ?_, fun hbus => ⟨?_, ?_⟩⟩
  · rw [cycle?_eq_none_iff, resolve?_eq_none_iff]
  · obtain ⟨i, hi⟩ := Option.ne_none_iff_exists'.mp (resolve?_ne_none_of_routed hbus w)
    obtain ⟨hlength, -⟩ := resolve?_eq_some_iff.mp hi
    unfold sourceOf?
    rw [hi, Option.bind_eq_bind, Option.bind_some, List.getElem?_eq_getElem hlength]
    rfl
  · intro w₁ h other hother hne
    have hplace : other.resolve? w₁ = other.resolve? w :=
      resolve?_congr (and_mask_of_cycle? hbus hother hne h)
    refine ⟨hplace, ?_⟩
    unfold sourceOf?
    rw [hplace]

end Bus

end Breadboard
