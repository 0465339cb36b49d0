import Breadboard.Control.Phase

/-!
# The forty-eight control lines

A control word drives forty-eight wires, and everything else in this library
speaks about them one at a time: a dashboard column is a line, an edit changes
a line, a description names the lines that are asserted. The constructors are
listed in wire order, so a line's position is its place in the declaration,
and `Line.ofBit` and `Line.bit` are inverse to each other.

One wire has two jobs. On phi-1 `aula` loads the A input of the ALU, on phi-2
it overrides the carry input; its mnemonic and description therefore depend on
the phase.
-/

namespace Breadboard

/-- **Control line**: one wire of the control word, from bit 0 (`cenb`) to
bit 47 (`ctmr`). -/
inductive Line where
  /-- Enable carry-in for ALU -/
  | cenb
  /-- Flag select NZI-A (0=Reg/Manual(I), 1=Reg/Bus) -/
  | fsia
  /-- Manual setting line for flags -/
  | fman
  /-- Flag select C-A (0=Reg/Manual, 1=CPU/Bus) -/
  | fsca
  /-- Flag select C-B (0=first, 1=second) -/
  | fscb
  /-- Flag select V-B (0=first, 1=second) -/
  | fsvb
  /-- Flag select NZI-B (0=first, 1=second) -/
  | fsib
  /-- Flag select V-A (0=Reg/Manual, 1=CPU/Bus) -/
  | fsva
  /-- Special Bus driver 4-bit -/
  | sbd2
  /-- Special Bus driver 2-bit -/
  | sbd1
  /-- Special Bus driver 1-bit -/
  | sbd0
  /-- Special Bus load X -/
  | sblx
  /-- Special Bus load Y -/
  | sbly
  /-- Special Bus load Accumulator -/
  | sbla
  /-- Shift direction selector (0=Left, 1=Right) -/
  | aulr
  /-- ALU Shift #2 selector (0=first, 1=second) -/
  | aus2
  /-- ALU Shift #1 selector (0=Log/Rot, 1=Arth/Sum) -/
  | aus1
  /-- ALU Op Selector #1 (0=Sum/And, 1=Or/Xor) -/
  | auo1
  /-- ALU Op Selector #2 (0=first, 1=second) -/
  | auo2
  /-- ALU Load A Selector (0=Special Bus, 1=zeros) -/
  | ausa
  /-- ALU Load B Selector (0=DB, 1=ABL) -/
  | ausb
  /-- ALU Load Invert data bus -/
  | auib
  /-- Set clock manual step mode -/
  | paus
  /-- ALU Input A Load -/
  | aula
  /-- ALU Input B Load -/
  | aulb
  /-- Clear Reset -/
  | crst
  /-- Address Low constant (0) -/
  | alc0
  /-- Address Low constant (1) -/
  | alc1
  /-- Address Low constant (2) -/
  | alc2
  /-- Stack pointer load -/
  | spld
  /-- Load address bus high from ABH -/
  | ahld
  /-- Load address bus low from ABL -/
  | alld
  /-- Load program counter from ABH -/
  | pclh
  /-- Load program counter from ABL -/
  | pcll
  /-- Increment program counter -/
  | pcin
  /-- Select secondary flags (carry/sign of the last address add) -/
  | flg2
  /-- Data bus Read/Write (0=Write, 1=Read) -/
  | dbrw
  /-- Address Low driver 4-bit -/
  | ald2
  /-- Address Low driver 2-bit -/
  | ald1
  /-- Address Low driver 1-bit -/
  | ald0
  /-- Data Bus driver 4-bit -/
  | dbd2
  /-- Data Bus driver 2-bit -/
  | dbd1
  /-- Data Bus driver 1-bit -/
  | dbd0
  /-- Address Bus High Constant (0) -/
  | ahc0
  /-- Address Bus High Constant (1-7) -/
  | ahc1
  /-- Address High driver 2-bit -/
  | ahd1
  /-- Address High driver 1-bit -/
  | ahd0
  /-- Timer reset -/
  | ctmr
  deriving DecidableEq, Repr

namespace Line

/-! ## Position on the wire -/

/-- Number of lines in a word. -/
abbrev count : Nat := 48

/-- Every line, bit 0 first. -/
def all : Vector Line count := #v[
  .cenb, .fsia, .fman, .fsca, .fscb, .fsvb, .fsib, .fsva,
  .sbd2, .sbd1, .sbd0, .sblx, .sbly, .sbla, .aulr, .aus2,
  .aus1, .auo1, .auo2, .ausa, .ausb, .auib, .paus, .aula,
  .aulb, .crst, .alc0, .alc1, .alc2, .spld, .ahld, .alld,
  .pclh, .pcll, .pcin, .flg2, .dbrw, .ald2, .ald1, .ald0,
  .dbd2, .dbd1, .dbd0, .ahc0, .ahc1, .ahd1, .ahd0, .ctmr]

/-- The line at a bit position. -/
def ofBit (bit : Fin count) : Line := all[bit]

/-- The bit position of a line. -/
def bit (line : Line) : Fin count :=
  ⟨line.ctorIdx, by cases line <;> decide⟩

@[simp]
theorem ofBit_bit (line : Line) : ofBit line.bit = line := by
  cases line <;> rfl

@[simp]
theorem bit_ofBit (bit : Fin count) : (ofBit bit).bit = bit := by
  revert bit
  decide

theorem bit_injective {a b : Line} (h : a.bit = b.bit) : a = b := by
  rw [← ofBit_bit a, ← ofBit_bit b, h]

/-- The line a byte addresses; bytes from 48 on address none. -/
def ofByte? (byte : UInt8) : Option Line :=
  if h : byte.toNat < count then some (ofBit ⟨byte.toNat, h⟩) else none

/-- Every line, bit 47 first: the order in which words are displayed and in
which the EPROM pairs are wired. -/
def descending : List Line := all.toList.reverse

/-! ## Names -/

/-- The four-letter name of a line. `aula` is called `CIOV` on phi-2. -/
def mnemonic (line : Line) (phase : Phase) : String :=
  match line, phase with
  | .cenb, _ => "CENB"
  | .fsia, _ => "FSIA"
  | .fman, _ => "FMAN"
  | .fsca, _ => "FSCA"
  | .fscb, _ => "FSCB"
  | .fsvb, _ => "FSVB"
  | .fsib, _ => "FSIB"
  | .fsva, _ => "FSVA"
  | .sbd2, _ => "SBD2"
  | .sbd1, _ => "SBD1"
  | .sbd0, _ => "SBD0"
  | .sblx, _ => "SBLX"
  | .sbly, _ => "SBLY"
  | .sbla, _ => "SBLA"
  | .aulr, _ => "AULR"
  | .aus2, _ => "AUS2"
  | .aus1, _ => "AUS1"
  | .auo1, _ => "AUO1"
  | .auo2, _ => "AUO2"
  | .ausa, _ => "AUSA"
  | .ausb, _ => "AUSB"
  | .auib, _ => "AUIB"
  | .paus, _ => "PAUS"
  | .aula, .phi1 => "AULA"
  | .aula, .phi2 => "CIOV"
  | .aulb, _ => "AULB"
  | .crst, _ => "CRST"
  | .alc0, _ => "ALC0"
  | .alc1, _ => "ALC1"
  | .alc2, _ => "ALC2"
  | .spld, _ => "SPLD"
  | .ahld, _ => "AHLD"
  | .alld, _ => "ALLD"
  | .pclh, _ => "PCLH"
  | .pcll, _ => "PCLL"
  | .pcin, _ => "PCIN"
  | .flg2, _ => "FLG2"
  | .dbrw, _ => "DBRW"
  | .ald2, _ => "ALD2"
  | .ald1, _ => "ALD1"
  | .ald0, _ => "ALD0"
  | .dbd2, _ => "DBD2"
  | .dbd1, _ => "DBD1"
  | .dbd0, _ => "DBD0"
  | .ahc0, _ => "AHC0"
  | .ahc1, _ => "AHC1"
  | .ahd1, _ => "AHD1"
  | .ahd0, _ => "AHD0"
  | .ctmr, _ => "CTMR"

/-- What a line does, as the dashboard explains it. -/
def description (line : Line) (phase : Phase) : String :=
  match line, phase with
  | .cenb, _ => "Enable carry-in for ALU"
  | .fsia, _ => "Flag select NZI-A (0=Reg/Manual(I), 1=Reg/Bus)"
  | .fman, _ => "Manual setting line for flags"
  | .fsca, _ => "Flag select C-A (0=Reg/Manual, 1=CPU/Bus)"
  | .fscb, _ => "Flag select C-B (0=first, 1=second)"
  | .fsvb, _ => "Flag select V-B (0=first, 1=second)"
  | .fsib, _ => "Flag select NZI-B (0=first, 1=second)"
  | .fsva, _ => "Flag select V-A (0=Reg/Manual, 1=CPU/Bus)"
  | .sbd2, _ => "Special Bus driver 4-bit"
  | .sbd1, _ => "Special Bus driver 2-bit"
  | .sbd0, _ => "Special Bus driver 1-bit"
  | .sblx, _ => "Special Bus load X"
  | .sbly, _ => "Special Bus load Y"
  | .sbla, _ => "Special Bus load Accumulator"
  | .aulr, _ => "Shift direction selector (0=Left, 1=Right)"
  | .aus2, _ => "ALU Shift #2 selector (0=first, 1=second)"
  | .aus1, _ => "ALU Shift #1 selector (0=Log/Rot, 1=Arth/Sum)"
  | .auo1, _ => "ALU Op Selector #1 (0=Sum/And, 1=Or/Xor)"
  | .auo2, _ => "ALU Op Selector #2 (0=first, 1=second)"
  | .ausa, _ => "ALU Load A Selector (0=Special Bus, 1=zeros)"
  | .ausb, _ => "ALU Load B Selector (0=DB, 1=ABL)"
  | .auib, _ => "ALU Load Invert data bus"
  | .paus, _ => "Set clock manual step mode"
  | .aula, .phi1 => "ALU Input A Load"
  | .aula, .phi2 => "Carry-in override (0=off, 1=on)"
  | .aulb, _ => "ALU Input B Load"
  | .crst, _ => "Clear Reset"
  | .alc0, _ => "Address Low constant (0)"
  | .alc1, _ => "Address Low constant (1)"
  | .alc2, _ => "Address Low constant (2)"
  | .spld, _ => "Stack pointer load"
  | .ahld, _ => "Load address bus high from ABH"
  | .alld, _ => "Load address bus low from ABL"
  | .pclh, _ => "Load program counter from ABH"
  | .pcll, _ => "Load program counter from ABL"
  | .pcin, _ => "Increment program counter"
  | .flg2, _ => "Select secondary flags (carry/sign of the last address add)"
  | .dbrw, _ => "Data bus Read/Write (0=Write, 1=Read)"
  | .ald2, _ => "Address Low driver 4-bit"
  | .ald1, _ => "Address Low driver 2-bit"
  | .ald0, _ => "Address Low driver 1-bit"
  | .dbd2, _ => "Data Bus driver 4-bit"
  | .dbd1, _ => "Data Bus driver 2-bit"
  | .dbd0, _ => "Data Bus driver 1-bit"
  | .ahc0, _ => "Address Bus High Constant (0)"
  | .ahc1, _ => "Address Bus High Constant (1-7)"
  | .ahd1, _ => "Address High driver 2-bit"
  | .ahd0, _ => "Address High driver 1-bit"
  | .ctmr, _ => "Timer reset"

/-- The line with a given name in a phase. -/
def ofMnemonic? (name : String) (phase : Phase) : Option Line :=
  all.toList.find? fun line => line.mnemonic phase == name

/-! ## Names by position -/

/-- The name shown for a bit position; where there is no line it is `????`. -/
def mnemonicAt (bit : UInt8) (phase : Phase) : String :=
  (ofByte? bit).elim "????" (·.mnemonic phase)

/-- What the line at a bit position does; nothing where there is no line. -/
def descriptionAt (bit : UInt8) (phase : Phase) : String :=
  (ofByte? bit).elim "" (·.description phase)

end Line

end Breadboard
