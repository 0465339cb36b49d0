import Breadboard.Proofs.Word

/-!
# Routing

Stepping a bus replaces the lines that choose its source. What is said here is
what the rest of a word can rely on: no bit outside the bus's own lines changes.
-/

namespace Breadboard.Bus

/-- A source sets lines of its bus only. -/
theorem lines_within_mask :
    ∀ bus : Bus, ∀ source ∈ bus.sources, source.lines &&& bus.mask = source.lines := by
  intro bus
  cases bus <;> decide

/-- Choosing a source leaves all bits outside the bus as they were. -/
theorem bit_route_of_not_mask {bus : Bus} {source : BusSource} (hs : source ∈ bus.sources)
    (w : ControlWord) {i : Nat} (hi : bus.mask.bit i = false) :
    (bus.route w source).bit i = w.bit i := by
  have hoff : source.lines.bit i = false := by
    rw [← lines_within_mask bus source hs, ControlWord.bit_and, hi, Bool.and_false]
  unfold route
  rw [ControlWord.bit_or, ControlWord.bit_without, hi, hoff, Bool.not_false, Bool.and_true,
    Bool.or_false]

/-- **A stepped word is the old one with another of the bus's sources chosen.** -/
theorem exists_route_of_cycle? {bus : Bus} {w w' : ControlWord} {offset : Int}
    (h : bus.cycle? w offset = some w') : ∃ source ∈ bus.sources, w' = bus.route w source := by
  unfold cycle? at h
  simp only [Option.bind_eq_bind, Option.bind_eq_some_iff] at h
  obtain ⟨index, -, h⟩ := h
  split at h
  · exact absurd h (by simp)
  · simp only [Option.bind_eq_some_iff] at h
    obtain ⟨source, hsource, h⟩ := h
    exact ⟨source, List.mem_of_getElem? hsource, (Option.some.inj h).symm⟩

/-- **Stepping a bus leaves all bits outside the bus as they were.** -/
theorem bit_cycle?_of_not_mask {bus : Bus} {w w' : ControlWord} {offset : Int}
    (h : bus.cycle? w offset = some w') {i : Nat} (hi : bus.mask.bit i = false) :
    w'.bit i = w.bit i := by
  obtain ⟨source, hs, rfl⟩ := exists_route_of_cycle? h
  exact bit_route_of_not_mask hs w hi

end Breadboard.Bus
