/-!
# Hardware events

Four wires of the board are reported whenever they change, by one letter each:
lower case for the low level and upper case for the high one. No letter is
also a response tag, so an event can stand between any two responses.
-/

namespace Breadboard

/-- **Signal**: a wire whose changes the board reports. -/
inductive Signal where
  /-- The system clock. -/
  | clock
  /-- The interrupt request. -/
  | irq
  /-- The non-maskable interrupt. -/
  | nmi
  /-- The reset line. -/
  | reset
  deriving DecidableEq, Repr

namespace Signal

/-- Every signal, in order. -/
def all : List Signal := [clock, irq, nmi, reset]

/-- The name of a signal. -/
def name : Signal → String
  | clock => "Clock"
  | irq => "Irq"
  | nmi => "Nmi"
  | reset => "Reset"

/-- The letter of a signal at a level. -/
def letter : Signal → Bool → Char
  | clock, false => 'c'
  | clock, true => 'C'
  | irq, false => 'i'
  | irq, true => 'I'
  | nmi, false => 'n'
  | nmi, true => 'N'
  | reset, false => 'r'
  | reset, true => 'R'

end Signal

/-- **Hardware event**: a signal and the level it changed to. -/
structure HardwareEvent where
  /-- The wire. -/
  signal : Signal
  /-- Its new level, `true` for high. -/
  high : Bool
  deriving DecidableEq, Repr

namespace HardwareEvent

/-- Every event, the low level of a signal before its high one. -/
def all : List HardwareEvent := Signal.all.flatMap fun s => [⟨s, false⟩, ⟨s, true⟩]

/-- The byte on the wire. -/
def byte (e : HardwareEvent) : UInt8 := UInt8.ofNat (e.signal.letter e.high).toNat

/-- The event that a byte reports. -/
def ofByte? (b : UInt8) : Option HardwareEvent := all.find? (·.byte = b)

@[simp]
theorem ofByte?_byte (e : HardwareEvent) : ofByte? e.byte = some e := by
  obtain ⟨s, h⟩ := e
  cases s <;> cases h <;> rfl

theorem ofByte?_eq_some_iff {b : UInt8} {e : HardwareEvent} :
    ofByte? b = some e ↔ b = e.byte := by
  constructor
  · intro h
    have hb : e.byte = b := by simpa using List.find?_some h
    exact hb.symm
  · rintro rfl
    simp

end HardwareEvent

end Breadboard
