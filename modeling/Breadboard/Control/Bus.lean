import Breadboard.Control.Word

/-!
# Buses and their sources

A bus is fed by one of several sources, chosen by a small group of control
lines. The dashboard shows the chosen source of every bus by name and lets the
operator step the four routed buses through their sources, one entry at a
time; the step past either end of a bus's list is refused.

A name that ends in `*` is the source the idle word selects.
-/

namespace Breadboard

/-- **Bus source**: one thing that can feed a bus, and the setting of the
bus's lines that chooses it. -/
structure BusSource where
  /-- The lines set when this source is chosen; the bus's other lines are
  clear. -/
  lines : ControlWord
  /-- The name shown for it. -/
  name : String
  deriving DecidableEq, Inhabited

/-- **Bus**: a group of control lines that together choose one source. The
ALU's inputs, operation and shift direction are chosen in the same way and
count as buses. -/
inductive Bus where
  | data
  | addressHigh
  | addressLow
  | special
  | aluA
  | aluB
  | aluOp
  | shiftDirection
  deriving DecidableEq, Repr

namespace Bus

/-- The buses whose source can be stepped from the dashboard, in the order of
its selector. -/
def routed : Vector Bus 4 := #v[.data, .addressHigh, .addressLow, .special]

/-- The buses in the order in which the dashboard lists their sources. -/
def displayed : List Bus :=
  [.addressHigh, .data, .addressLow, .special, .aluB, .aluA, .aluOp, .shiftDirection]

/-- The short name of a bus. -/
def label : Bus → String
  | data => "DB"
  | addressHigh => "ABH"
  | addressLow => "ABL"
  | special => "SB"
  | aluA => "ALU-A"
  | aluB => "ALU-B"
  | aluOp => "OP"
  | shiftDirection => "Dir"

/-- The lines that choose a bus's source. -/
def selectors : Bus → List Line
  | data => [.dbd0, .dbd1, .dbd2]
  | addressHigh => [.ahd0, .ahd1]
  | addressLow => [.ald0, .ald1, .ald2]
  | special => [.sbd0, .sbd1, .sbd2]
  | aluA => [.ausa]
  | aluB => [.ausb]
  | aluOp => [.auib, .aus1, .aus2, .auo1, .auo2]
  | shiftDirection => [.aus1, .aus2, .aulr]

/-- The word in which exactly the bus's lines are set. -/
def mask (bus : Bus) : ControlWord := .ofLines bus.selectors

/-- A source chosen by the listed lines. -/
private def source (lines : List Line) (name : String) : BusSource := ⟨.ofLines lines, name⟩

/-- Every source of a bus, in the order in which it is stepped through. -/
def sources : Bus → List BusSource
  | data => [
    source [] "None (0)",
    source [.dbd0] "Accumulator",
    source [.dbd1] "Processor status",
    source [.dbd0, .dbd1] "Special bus",
    source [.dbd2] "Program counter high",
    source [.dbd0, .dbd2] "Program counter low",
    source [.dbd1, .dbd2] "Input data latch*",
    source [.dbd0, .dbd1, .dbd2] "None (7)"]
  | addressHigh => [
    source [] "Input data latch",
    source [.ahd0] "Constants*",
    source [.ahd1] "Program counter",
    source [.ahd0, .ahd1] "Special bus"]
  | addressLow => [
    source [] "Input data latch",
    source [.ald0] "Program counter",
    source [.ald1] "Constants",
    source [.ald0, .ald1] "Stack pointer",
    source [.ald2] "ALU",
    source [.ald0, .ald2] "PC Low Register",
    source [.ald1, .ald2] "None (6)",
    source [.ald0, .ald1, .ald2] "None* (7)"]
  | special => [
    source [] "Accumulator",
    source [.sbd0] "Y register",
    source [.sbd1] "X register",
    source [.sbd0, .sbd1] "ALU",
    source [.sbd2] "Stack pointer",
    source [.sbd0, .sbd2] "Data bus",
    source [.sbd1, .sbd2] "Address high bus",
    source [.sbd0, .sbd1, .sbd2] "None* (7)"]
  | aluA => [
    source [] "Special Bus*",
    source [.ausa] "Zeros"]
  | aluB => [
    source [] "Data bus*",
    source [.ausb] "Address bus low"]
  | aluOp => [
    source [] "Logical Shift",
    source [.aus1] "Rotation Shift",
    source [.aus2] "Arithmetic Shift",
    source [.aus1, .aus2] "Add*",
    source [.aus1, .aus2, .auo1] "OR",
    source [.aus1, .aus2, .auo2] "AND",
    source [.aus1, .aus2, .auo1, .auo2] "XOR",
    source [.auib] "Logical Shift",
    source [.auib, .aus1] "Rotation Shift",
    source [.auib, .aus2] "Arithmetic Shift",
    source [.auib, .aus1, .aus2] "Subtract",
    source [.auib, .aus1, .aus2, .auo1] "OR",
    source [.auib, .aus1, .aus2, .auo2] "AND",
    source [.auib, .aus1, .aus2, .auo1, .auo2] "XOR"]
  | shiftDirection => [
    source [] "Left",
    source [.aulr] "Right",
    source [.aus1] "Left",
    source [.aus1, .aulr] "Right",
    source [.aus2] "Left",
    source [.aus2, .aulr] "Right",
    source [.aus1, .aus2] "",
    source [.aus1, .aus2, .aulr] ""]

/-- The position of the source a word chooses, if the bus's list has one. -/
def resolve? (bus : Bus) (word : ControlWord) : Option Nat :=
  bus.sources.findIdx? fun source => source.lines == word &&& bus.mask

/-- The source a word chooses. -/
def sourceOf? (bus : Bus) (word : ControlWord) : Option BusSource := do
  bus.sources[← bus.resolve? word]?

/-- The name shown for the source a word chooses. -/
def sourceName (bus : Bus) (word : ControlWord) : String :=
  ((bus.sourceOf? word).map (·.name)).getD "Unknown"

/-- The word with the bus's lines set to choose the given source, all other
lines as they were. -/
def route (bus : Bus) (word : ControlWord) (source : BusSource) : ControlWord :=
  word.without bus.mask ||| source.lines

/-- **Stepping a bus**: the word that chooses the source `offset` entries
further on. There is none past either end of the list, nor if the word
chooses no listed source. -/
def cycle? (bus : Bus) (word : ControlWord) (offset : Int) : Option ControlWord := do
  let index ← bus.resolve? word
  let target := (index : Int) + offset
  if target < 0 then none
  else return bus.route word (← bus.sources[target.toNat]?)

end Bus

end Breadboard
