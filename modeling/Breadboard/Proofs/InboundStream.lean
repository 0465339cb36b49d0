import Breadboard.Proofs.BytePair
import Breadboard.Wire.Demux

/-!
# The inbound stream and its units

What the demultiplexer makes of a stream can be written out again, and nothing
is lost on the way: the units, each as its own bytes, followed by what has been
received of an open response, are the stream. This holds of every stream, those
that no board would send included.

The way back needs a condition, because a unit of its own is not told from what
its byte means: a byte that is a tag opens a response wherever none is open.
The units that do come back are the *proper* ones. They come back whatever
bytes the payloads hold, since a payload is never looked at.

Everything here follows from what one byte does and from what one unit does;
the streams are inductions on the list.
-/

namespace Breadboard

/-! ## Addresses and their two bytes -/

namespace Response

theorem ofAddressBytes_bytes (v : UInt16) :
    ofAddressBytes v.toUInt8 (v >>> 8).toUInt8 = address v :=
  congrArg address (or_shiftLeft_bytes v)

theorem wire_ofAddressBytes (low high : UInt8) :
    (ofAddressBytes low high).wire = [Tag.address.byte, low, high] := by
  show [Tag.address.byte, _, _] = _
  rw [low_of_or_shiftLeft, high_of_or_shiftLeft]

/-- A response of one payload byte is its tag and that byte. -/
theorem wire_ofByte {tag : Tag} (h : tag ≠ .address) (b : UInt8) :
    (ofByte tag b).wire = [tag.byte, b] := by
  cases tag with
  | address => exact absurd rfl h
  | _ => rfl

end Response

/-! ## One byte -/

namespace Demux

theorem wire_single (b : UInt8) : (single b).wire = [b] := by
  unfold single
  cases h : HardwareEvent.ofByte? b with
  | none => rfl
  | some e =>
    rw [HardwareEvent.ofByte?_eq_some_iff.mp h]
    rfl

/-- A byte that arrives where one payload byte is due completes the response. -/
theorem push_tagged {tag : Tag} (h : tag ≠ .address) (b : UInt8) :
    (tagged tag).push b = (idle, some (.response (.ofByte tag b))) := by
  cases tag with
  | address => exact absurd rfl h
  | _ => rfl

/-- **A byte is either kept or given out**, behind what was kept before it. -/
theorem wire_push (d : Demux) (b : UInt8) :
    (d.push b).2.toList.flatMap Inbound.wire ++ (d.push b).1.pending = d.pending ++ [b] := by
  cases d with
  | idle =>
    show _ = [b]
    unfold push
    cases h : Tag.ofByte? b with
    | some tag =>
      rw [Tag.ofByte?_eq_some_iff.mp h]
      rfl
    | none => exact (List.append_nil _).trans ((List.append_nil _).trans (wire_single b))
  | tagged tag =>
    by_cases h : tag = .address
    · rw [h]
      rfl
    · rw [push_tagged h]
      show ((Response.ofByte tag b).wire ++ []) ++ [] = _
      rw [Response.wire_ofByte h, List.append_nil, List.append_nil]
      rfl
  | halfAddress low =>
    show ((Response.ofAddressBytes low b).wire ++ []) ++ [] = _
    rw [Response.wire_ofAddressBytes, List.append_nil, List.append_nil]
    rfl

end Demux

/-! ## One unit -/

/-- **Proper** units: a byte on its own is unknown only if it is neither a tag
nor an event. -/
def Inbound.Proper : Inbound → Prop
  | unknown b => Tag.ofByte? b = none ∧ HardwareEvent.ofByte? b = none
  | _ => True

instance : (u : Inbound) → Decidable u.Proper
  | .unknown _ => inferInstanceAs (Decidable (_ ∧ _))
  | .response _ | .event _ => inferInstanceAs (Decidable True)

namespace Demux

/-- No event is reported by a letter that is a tag. -/
theorem tag_ofByte?_event (e : HardwareEvent) : Tag.ofByte? e.byte = none := by
  obtain ⟨s, high⟩ := e
  cases s <;> cases high <;> decide

/-- **Every unit that is given out is proper.** -/
theorem proper_of_push {d : Demux} {b : UInt8} {u : Inbound} (h : (d.push b).2 = some u) :
    u.Proper := by
  cases d with
  | idle =>
    unfold push at h
    cases htag : Tag.ofByte? b with
    | some tag =>
      rw [htag] at h
      exact absurd h (by simp)
    | none =>
      rw [htag] at h
      rw [← Option.some.inj h]
      unfold single
      cases hevent : HardwareEvent.ofByte? b with
      | some e => exact trivial
      | none => exact ⟨htag, hevent⟩
  | tagged tag =>
    by_cases haddress : tag = .address
    · rw [haddress] at h
      exact absurd h (by simp [push])
    · rw [push_tagged haddress] at h
      rw [← Option.some.inj h]
      exact trivial
  | halfAddress low =>
    rw [← Option.some.inj h]
    exact trivial

/-! ## Streams -/

@[simp]
theorem pushAll_nil (d : Demux) : d.pushAll [] = (d, []) := rfl

theorem pushAll_cons (d : Demux) (b : UInt8) (rest : List UInt8) :
    d.pushAll (b :: rest) = (((d.push b).1.pushAll rest).1,
      (d.push b).2.toList ++ ((d.push b).1.pushAll rest).2) := rfl

/-- Where a stream is cut does not matter. -/
theorem pushAll_append (d : Demux) (xs ys : List UInt8) :
    d.pushAll (xs ++ ys)
      = (((d.pushAll xs).1.pushAll ys).1, (d.pushAll xs).2 ++ ((d.pushAll xs).1.pushAll ys).2) := by
  induction xs generalizing d with
  | nil => rfl
  | cons b rest ih => rw [List.cons_append, pushAll_cons, pushAll_cons, ih, List.append_assoc]

/-- **Nothing is lost.** The units of a stream and what is left open, written
out, are what had been open and the stream. -/
theorem wire_pushAll (d : Demux) (bytes : List UInt8) :
    (d.pushAll bytes).2.flatMap Inbound.wire ++ (d.pushAll bytes).1.pending
      = d.pending ++ bytes := by
  induction bytes generalizing d with
  | nil => exact (List.append_nil _).symm
  | cons b rest ih =>
    rw [pushAll_cons]
    calc ((d.push b).2.toList ++ ((d.push b).1.pushAll rest).2).flatMap Inbound.wire
          ++ ((d.push b).1.pushAll rest).1.pending
        = (d.push b).2.toList.flatMap Inbound.wire ++ ((d.push b).1.pending ++ rest) := by
          rw [List.flatMap_append, List.append_assoc, ih]
      _ = d.pending ++ b :: rest := by
          rw [← List.append_assoc, wire_push, List.append_assoc]
          rfl

theorem proper_of_mem_pushAll {d : Demux} {bytes : List UInt8} {u : Inbound}
    (h : u ∈ (d.pushAll bytes).2) : u.Proper := by
  induction bytes generalizing d with
  | nil => exact absurd h List.not_mem_nil
  | cons b rest ih =>
    rw [pushAll_cons, List.mem_append, Option.mem_toList] at h
    obtain h | h := h
    · exact proper_of_push h
    · exact ih h

/-- **A proper unit comes back**, and nothing is left open behind it. -/
theorem pushAll_wire {u : Inbound} (h : u.Proper) : idle.pushAll u.wire = (idle, [u]) := by
  cases u with
  | response r =>
    cases r with
    | address v =>
      show (idle, [Inbound.response (.ofAddressBytes v.toUInt8 (v >>> 8).toUInt8)]) = _
      rw [Response.ofAddressBytes_bytes]
    | _ => rfl
  | event e =>
    have hpush : idle.push e.byte = (idle, some (.event e)) := by
      unfold push single
      rw [tag_ofByte?_event, HardwareEvent.ofByte?_byte]
    show idle.pushAll [e.byte] = _
    rw [pushAll_cons, hpush]
    rfl
  | unknown b =>
    have hpush : idle.push b = (idle, some (.unknown b)) := by
      unfold push single
      rw [h.1, h.2]
    show idle.pushAll [b] = _
    rw [pushAll_cons, hpush]
    rfl

/-- Proper units come back in their order. -/
theorem pushAll_flatMap_wire {units : List Inbound} (h : ∀ u ∈ units, u.Proper) :
    idle.pushAll (units.flatMap Inbound.wire) = (idle, units) := by
  induction units with
  | nil => rfl
  | cons u rest ih =>
    rw [List.flatMap_cons, pushAll_append, pushAll_wire (h u List.mem_cons_self),
      ih (fun v hv => h v (List.mem_cons_of_mem u hv))]
    rfl

/-- **The demultiplexer is lossless and unambiguous.** What it makes of a
stream is proper and can be written out as that stream again, and proper units
that were written out come back in order, with nothing left open. -/
theorem lossless_and_unambiguous :
    (∀ bytes : List UInt8,
      (idle.pushAll bytes).2.flatMap Inbound.wire ++ (idle.pushAll bytes).1.pending = bytes
        ∧ ∀ u ∈ (idle.pushAll bytes).2, u.Proper)
    ∧ ∀ units : List Inbound, (∀ u ∈ units, u.Proper) →
        idle.pushAll (units.flatMap Inbound.wire) = (idle, units) :=
  ⟨fun bytes => ⟨wire_pushAll idle bytes, fun _ h => proper_of_mem_pushAll h⟩,
    fun _ h => pushAll_flatMap_wire h⟩

/-- A status whose payload is the letter of a tag, an address whose bytes are
letters of events, and a byte that means nothing, with an event between them. -/
theorem letters_in_payloads :
    (∀ u ∈ [Inbound.response (.status 0x61), .event ⟨.clock, true⟩,
        .response (.address 0x5269), .unknown 0x2A], u.Proper)
      ∧ idle.pushAll [0x73, 0x61, 0x43, 0x61, 0x69, 0x52, 0x2A]
        = (idle, [.response (.status 0x61), .event ⟨.clock, true⟩,
            .response (.address 0x5269), .unknown 0x2A]) :=
  ⟨by decide, lossless_and_unambiguous.2
    [.response (.status 0x61), .event ⟨.clock, true⟩, .response (.address 0x5269), .unknown 0x2A]
    (by decide)⟩

end Demux

end Breadboard
