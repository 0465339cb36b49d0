import Breadboard.Instruction.Opcode
import Breadboard.Instruction.Stroke

/-!
# Instruction shapes

The instruction set has few kinds of instruction and many instructions of each
kind. A kind is an `Operation`; together with the addressing mode and the
number of steps it determines the strokes of every flags slot, and so the
whole matrix.

Instructions with an operand begin with the strokes of their addressing mode
and almost all instructions end with the *trailer*, which puts the program
counter on the address bus and increments it. These two shared parts make up
the *skeleton*; what is left when it is taken away is the operation itself.

The flags slots differ because the carry of an address addition decides
whether a page was crossed: a slot with the carry set spends one more step on
the high byte, a slot without it finishes early.
-/

namespace Breadboard

namespace Flag

/-- The carry bit of the flags nibble. -/
def carry : UInt8 := 1

/-- The zero bit of the flags nibble. -/
def zero : UInt8 := 2

/-- The overflow bit of the flags nibble. -/
def overflow : UInt8 := 4

/-- The negative bit of the flags nibble. -/
def negative : UInt8 := 8

end Flag

/-- **Form**: what the shape of an instruction depends on besides its
operation. -/
structure Form where
  /-- The addressing mode. -/
  mode : AddressMode
  /-- The number of steps. -/
  steps : Nat
  /-- Whether one of the steps is there for a page crossing. -/
  pageCross : Bool
  deriving DecidableEq

/-- What a stack instruction does. -/
inductive StackTransfer where
  /-- X to the stack pointer. -/
  | fromX
  /-- The stack pointer to X. -/
  | toX
  /-- Pushes what the lines drive onto the data bus. -/
  | push (source : ControlWord)
  /-- Pulls into what the lines load. -/
  | pull (load : ControlWord)
  deriving DecidableEq

/-- What the board's pseudo-instructions and BRK are entered for. -/
inductive Interrupt where
  | brk
  | reset
  | nonMaskable
  | request
  deriving DecidableEq

/-- **Operation**: the kind of an instruction, with the lines in which
instructions of the kind differ. -/
inductive Operation where
  /-- Adds, subtracts or compares. -/
  | arithmetic (source results : ControlWord)
  /-- Combines with the accumulator bit by bit. -/
  | logic (operator aluA : ControlWord)
  /-- Shifts the accumulator or a byte of memory. -/
  | shift (operator direction : ControlWord)
  /-- Tests bits of a byte of memory. -/
  | bitTest
  /-- Loads a register. -/
  | load (register : ControlWord)
  /-- Stores a register. -/
  | store (register : ControlWord)
  /-- Counts a byte of memory up or down. -/
  | modify (direction : ControlWord)
  /-- Does nothing. -/
  | noOperation
  /-- Returns from a subroutine. -/
  | returnSubroutine
  /-- Returns from an interrupt. -/
  | returnInterrupt
  /-- Enters an interrupt. -/
  | interrupt (kind : Interrupt)
  /-- Branches on a flag. -/
  | branch (bit : UInt8) (wanted : Bool)
  /-- One step of work on registers and flags. -/
  | implied (phi1 phi2 : ControlWord)
  /-- Works on the stack. -/
  | stack (transfer : StackTransfer)
  /-- Calls a subroutine. -/
  | jumpSubroutine
  /-- Jumps. -/
  | jump
  /-- An opcode without a definition. -/
  | undefined
  deriving DecidableEq

namespace Form

open ControlWord (ofLines)
open Line

/-- Index of the last step. -/
def last (form : Form) : Nat := form.steps - 1

/-- The step that completes an indexed read when no page was crossed, if that
is not the last step. -/
def shortPath? (form : Form) (carry : Bool) : Option Nat :=
  if carry || !form.pageCross then none
  else some (if form.mode = .izy then 4 else 3)

/-- Program counter onto the address buses. -/
def fetch : ControlWord := ofLines [ahd0, ahd1, ald1, ald2, ahld, alld]

/-- The special-bus lines that choose X when flipped. -/
def xIndex : ControlWord := ofLines [sbd0, sbd2]

/-- The special-bus lines that choose Y when flipped. -/
def yIndex : ControlWord := ofLines [sbd1, sbd2]

/-- The trailer on a given step. Before the last step it resets the timer as
well, for otherwise the instruction would go on. -/
def finish (form : Form) (step : Nat) : List Stroke := [
  .phi1 step fetch,
  .phi2 step (if step = form.last then ofLines [pcin] else ofLines [pcin, ctmr])]

/-- The trailer on the last step. -/
def trailer (form : Form) : List Stroke := form.finish form.last

end Form

open ControlWord (ofLines) in
open Line Form in
/-- **Addressing skeleton**: the strokes that fetch the operand of a mode, in
a flags slot with the carry set or clear. -/
def AddressMode.skeleton (mode : AddressMode) (carry : Bool) : List Stroke :=
  match mode with
  | .acc => [.phi1 0 (ofLines [dbd0, dbd2, sbd0, sbd1, sbd2])]
  | .imm | .rel => [.phi1 0 fetch, .phi2 0 (ofLines [pcin])]
  | .zpg => [
      .phi1 0 fetch, .phi2 0 (ofLines [pcin]),
      .phi1 1 (ofLines [ahc1, ahc0, ald0, ald1, ald2, ahld, alld])]
  | .zpx => zeroPage xIndex
  | .zpy => zeroPage yIndex
  | .abs => [
      .phi1 0 fetch, .phi2 0 (ofLines [pcin]),
      .phi1 1 (fetch ||| ofLines [aulb, aula, ausa]), .phi2 1 (ofLines [pcin]),
      .phi1 2 (ofLines [ahd0, ald0, ald1, alld, ahld])]
  | .abx => absolute xIndex
  | .aby => absolute yIndex
  | .izx => [
      .phi1 0 (fetch ||| ofLines [aula] ||| xIndex), .phi2 0 (ofLines [pcin]),
      .phi1 1 (ofLines [aulb]),
      .phi1 2 (ofLines [ahc1, ahc0, ald0, ald1, alld, ahld, aulb, aula, ausb, ausa]),
      .phi2 2 (ofLines [fman]),
      .phi1 3 (ofLines [ald0, ald1, alld, aulb, aula, ausa]),
      .phi1 4 (ofLines [ahd0, ald0, ald1, alld, ahld])]
  | .izy => [
      .phi1 0 fetch, .phi2 0 (ofLines [pcin]),
      .phi1 1 (ofLines [ahc1, ahc0, ald0, ald1, ald2, alld, ahld, aulb, aula, ausa]),
      .phi2 1 (ofLines [fman]),
      .phi1 2 (ofLines [ald0, ald1, alld, aulb, aula] ||| yIndex), .phi2 2 (ofLines [flg2]),
      .phi1 3 (ofLines [ahd0, ald0, ald1, alld, ahld, flg2]), .phi2 3 (ofLines [flg2]),
      .phi1 4 (ofLines [flg2]), .phi2 4 (ofLines [flg2]), .phi1 5 (ofLines [flg2])]
      ++ nextPage 3
  | .imp | .ind => []
where
  /-- An indexed zero-page address. -/
  zeroPage (register : ControlWord) : List Stroke := [
    .phi1 0 fetch, .phi2 0 (ofLines [pcin]),
    .phi1 1 (ofLines [aulb, aula] ||| register),
    .phi1 2 (ofLines [ahc1, ahc0, ald0, ald1, ahld, alld])]
  /-- An indexed full address. -/
  absolute (register : ControlWord) : List Stroke := [
    .phi1 0 (fetch ||| register ||| ofLines [aula]), .phi2 0 (ofLines [pcin]),
    .phi1 1 (fetch ||| ofLines [aulb]), .phi2 1 (ofLines [pcin, flg2]),
    .phi1 2 (ofLines [ahd0, ald0, ald1, alld, ahld, flg2]), .phi2 2 (ofLines [flg2]),
    .phi1 3 (ofLines [flg2]), .phi2 3 (ofLines [flg2]), .phi1 4 (ofLines [flg2])]
    ++ nextPage 2
  /-- The increment of the high byte after a page crossing. -/
  nextPage (step : Nat) : List Stroke :=
    if carry then [
      .phi1 step (ofLines [aulb, aula, ausa]), .phi2 step (ofLines [fman]),
      .phi1 (step + 1) (ofLines [ahd1, ahld, sbd2])]
    else []

namespace Operation

open ControlWord (ofLines)
open Line Form

/-- Whether instructions of this kind begin with the skeleton of their
addressing mode. -/
def usesAddressing : Operation → Bool
  | arithmetic .. | logic .. | shift .. | bitTest | load _ | store _ | modify _
  | noOperation | returnSubroutine | returnInterrupt => true
  | _ => false

/-- Whether instructions of this kind end with the trailer. -/
def usesTrailer : Operation → Bool
  | branch .. | undefined => false
  | _ => true

/-- The step a read finishes on in a slot, and the strokes that keep the
secondary flags selected when this is early. -/
private def readEnd (form : Form) (carry : Bool) : Nat × List Stroke :=
  match form.shortPath? carry with
  | some step => (step, [.phi2 step (ofLines [flg2])])
  | none => (form.last, [])

/-- The strokes of a conditional branch. Whether it is taken decides the end of
step 1; the secondary flags then tell whether the target lies on the next page
(carry alone), on the previous one (sign alone) or on the same. -/
private def branchStrokes (taken carry negative : Bool) : List Stroke :=
  [.phi1 0 fetch, .phi2 0 (ofLines [pcin]),
    .phi1 1 (fetch ||| ofLines [aulb, aula, ausb, sbd1]),
    .phi2 1 (if taken then ofLines [ald0, ald1, pcll, flg2] else ofLines [ctmr, pcin, flg2])]
  ++ (match carry, negative with
    | true, false => [
        .phi1 2 (ofLines [ahd0, ahd1, dbd0, aulb, aula, auib, flg2, sbd0]),
        .phi2 2 (ofLines [ahd1, pclh, aula, flg2, sbd2, cenb])]
    | false, true => [
        .phi1 2 (ofLines [ahd0, ahd1, ald0, ald2, aulb, aula, ausb, flg2, sbd0]),
        .phi2 2 (ofLines [ahd1, pclh, sbd2])]
    | _, _ => [
        .phi1 2 (ofLines [ald0, ald1, alld, flg2]), .phi2 2 (ofLines [ctmr, pcin])])
  ++ [.phi1 3 (ofLines [ahd1, ald1, ald2, alld, ahld, sbd2]), .phi2 3 (ofLines [pcin])]

/-- The strokes that enter an interrupt. A reset loads its vector with the
stack untouched; the others push the program counter and the status and differ
in their vector only. -/
private def interruptStrokes (kind : Interrupt) (carry : Bool) (form : Form) : List Stroke :=
  [.phi2 0 (ofLines [pcin]),
    .phi1 1 (ofLines [ahc1, dbd1, ald2, alld, ahld, aulb, aula, ausb]),
    .phi1 2 (ofLines [dbd0, dbd1, ald0, ald1, alld, aulb, ausb]),
    .phi1 3 (ofLines [dbd2, ald0, ald1, alld, aulb, ausb]),
    .phi1 4 (ofLines [ald0, ald2, alld, ahld, spld, aulb, sbd2]),
    .phi2 4 (ofLines [ald0, ald1, ald2, pcll]),
    .phi1 5 (ofLines [ald0, ald2, alld]),
    .phi2 5 (ofLines [ahd0, pclh, fsib, fman])]
  ++ form.trailer
  ++ (if kind = .brk then [] else [.phi2 2 (ofLines (if carry then [fscb, fman] else [fscb]))])
  ++ (match kind with
    | .reset => [
        .phi1 0 (ofLines [ahc1, ahc0, spld, crst, sbd0]),
        .phi2 0 (ofLines [ahc1, ahc0, dbd0, dbd2, sbd0, fsva, fsib, fsvb, fscb, fsca, fsia]),
        .phi1 4 (ofLines [alc1, alc0]), .phi1 5 (ofLines [alc1])]
    | .nonMaskable =>
        [.phi1 0 (ofLines [crst]), .phi1 5 (ofLines [alc2])] ++ pushes (ofLines [alc2, alc0])
    | .brk | .request => pushes (ofLines [alc0]))
where
  /-- Writing for three cycles, then the constant that forms the vector. -/
  pushes (vector : ControlWord) : List Stroke := [
    .phi2 1 (ofLines [dbrw]), .phi1 2 (ofLines [dbrw]), .phi2 2 (ofLines [dbrw]),
    .phi1 3 (ofLines [dbrw]), .phi2 3 (ofLines [dbrw]), .phi1 4 (ofLines [dbrw] ||| vector)]

/-- The strokes of a stack instruction, its trailer apart. -/
private def stackStrokes : StackTransfer → List Stroke
  | .fromX => [.phi1 0 (ofLines [spld] ||| xIndex)]
  | .toX => [.phi2 0 (ofLines [sblx, sbd0, sbd1, fsia])]
  | .push source => [
      .phi1 0 (ofLines [ahc1, ald2, alld, ahld] ||| source), .phi2 0 (ofLines [dbrw]),
      .phi1 1 (ofLines [dbrw, ald2, aulb, aula, ausb, sbd0]),
      .phi1 2 (ofLines [spld, sbd2])]
  | .pull target => [
      .phi1 0 (ofLines [ald2, aulb, aula, ausb, ausa]), .phi2 0 (ofLines [fman, cenb]),
      .phi1 1 (ofLines [ahc1, ald0, ald1, alld, ahld, spld, sbd2]),
      .phi1 2 (ofLines [aulb, aula, ausa]),
      .phi2 2 (ofLines [dbd0, dbd2, sbla, sbd2] ||| target)]

/-- **The strokes of the operation itself** in one flags slot, those of the
addressing mode apart. -/
def strokes (operation : Operation) (form : Form) (flags : Fin 16) : List Stroke :=
  let carry := flags.val.testBit 0
  let negative := flags.val.testBit 3
  let last := form.last
  match operation with
  | arithmetic source results =>
    let (step, early) := readEnd form carry
    early
      ++ (if results.has sbla then [] else [.phi2 0 (ofLines [fscb, fman])])
      ++ [.phi1 step (ofLines [aulb, aula] ||| source),
        .phi2 step (ofLines [dbd0, dbd2, sbd2, fsca, fsia, cenb] ||| results)]
      ++ form.finish step
  | logic operator aluA =>
    let (step, early) := readEnd form carry
    early
      ++ [.phi1 step (operator ||| ofLines [aulb] ||| aluA),
        .phi2 step (operator ||| ofLines [dbd0, dbd2, sbla, sbd2, fsia])]
      ++ form.finish step
  | shift operator direction =>
    let alu := ofLines [dbd0, dbd2, sbd2, fsca, fsia] ||| operator ||| direction
    (if form.mode = .acc then
      [.phi1 0 (ofLines [aula, aulb, ausa]), .phi2 0 (alu ||| ofLines [sbla])]
    else [
      .phi1 (last - 2) (ofLines [aula, aulb, ausa]), .phi2 (last - 2) alu,
      .phi1 (last - 1) (ofLines [dbd0, dbd2, sbd2]), .phi2 (last - 1) (ofLines [dbrw]),
      .phi1 last (ofLines [dbrw])])
      ++ form.trailer
  | bitTest => [
      .phi1 (last - 1) (ofLines [dbd0, dbd2, aulb, sbd0, sbd1, sbd2]),
      .phi2 (last - 1) (ofLines [fsva, fsib, fsvb, flg2, fsia]),
      .phi1 last (ofLines [aula, sbd1]),
      .phi2 last (ofLines [dbd0, dbd2, auo2, flg2, sbd2, fsia])]
      ++ form.trailer
  | load register =>
    let read := register ||| ofLines [sbd1, fsia]
    (match form.shortPath? carry with
      | some step => [.phi2 (step - 1) (read ||| ofLines [flg2])] ++ form.finish step
      | none => [.phi2 (last - 1) read])
      ++ form.trailer
  | store register => [
      .phi1 (last - 1) register, .phi2 (last - 1) (ofLines [dbrw]),
      .phi1 last (ofLines [dbrw])]
      ++ form.trailer
  | modify direction => [
      .phi1 (last - 2) (ofLines [aulb, aula, sbd0] ||| direction),
      .phi1 (last - 1) (ofLines [dbd0, dbd2, sbd2]), .phi2 (last - 1) (ofLines [dbrw, fsia]),
      .phi1 last (ofLines [dbrw])]
      ++ form.trailer
  | noOperation => form.trailer
  | returnSubroutine => [
      .phi1 0 (ofLines [ald2, aulb, aula, ausb, ausa]), .phi2 0 (ofLines [aula, cenb]),
      .phi1 1 (ofLines [ahc1, ald0, ald1, alld, ahld, spld, aulb, ausb, sbd2]),
      .phi2 1 (ofLines [ald0, ald1, ald2, pcll, aula, cenb]),
      .phi1 2 (ofLines [ald0, ald1, alld, spld, sbd2]), .phi2 2 (ofLines [ahd0, pclh]),
      .phi2 3 (ofLines [pcin])]
      ++ form.trailer
  | returnInterrupt => [
      .phi1 1 (ofLines [ald2, aulb, aula, ausb, ausa]), .phi2 1 (ofLines [fman, cenb]),
      .phi1 2 (ofLines [ahc1, ald0, ald1, alld, ahld, aulb, ausb]),
      .phi2 2 (ofLines [fsva, fsib, fsvb, fscb, fsca, fman, fsia, cenb]),
      .phi1 3 (ofLines [ald0, ald1, alld, aulb, ausb]),
      .phi2 3 (ofLines [ald0, ald1, ald2, pcll, fman, cenb]),
      .phi1 4 (ofLines [ald0, ald1, alld, spld, aulb, ausb]), .phi2 4 (ofLines [ahd0, pclh])]
      ++ form.trailer
  | interrupt kind => interruptStrokes kind carry form
  | branch bit wanted =>
    let taken := UInt8.ofNat flags.val &&& bit == (if wanted then bit else 0)
    branchStrokes taken carry negative
  | implied phi1 phi2 => [.phi1 0 phi1, .phi2 0 phi2] ++ form.trailer
  | stack transfer => stackStrokes transfer ++ form.trailer
  | jumpSubroutine => [
      .phi1 0 (fetch ||| ofLines [aula, ausa]), .phi2 0 (ofLines [pcin]),
      .phi1 1 (ofLines [ahc1, ald2, alld, ahld, spld, aulb, ausb, sbd1]),
      .phi1 2 (ofLines [dbd1, ald0, ald1, alld, aulb, aula, ausb]), .phi2 2 (ofLines [dbrw]),
      .phi1 3 (ofLines [dbrw, dbd0, dbd1, ald0, ald1, alld, aulb, ausb]),
      .phi2 3 (ofLines [dbrw]),
      .phi1 4 (fetch ||| ofLines [dbrw]), .phi2 4 (ofLines [ahd0, ald2, pcll, pclh]),
      .phi1 5 (ofLines [spld, sbd2])]
      ++ form.trailer
  | jump =>
    let target := ofLines [ahd0, ald0, ald1, pcll, pclh]
    [.phi1 0 fetch, .phi2 0 (ofLines [pcin]),
      .phi1 1 (fetch ||| ofLines [aula, aulb, ausa])]
      ++ (if form.mode = .ind then [
          .phi2 1 (ofLines [pcin]),
          .phi1 2 (ofLines [ahd0, ald0, ald1, alld, ahld]), .phi2 2 (ofLines [aula]),
          .phi1 3 (ofLines [ald0, ald1, alld, aulb]), .phi2 3 target]
        else [.phi2 1 target])
      ++ form.trailer
  | undefined => []

/-- All strokes of an instruction in one flags slot. -/
def allStrokes (operation : Operation) (form : Form) (flags : Fin 16) : List Stroke :=
  (if operation.usesAddressing then form.mode.skeleton (flags.val.testBit 0) else [])
    ++ operation.strokes form flags

end Operation

namespace Opcode

/-- The form of an opcode. -/
def form (op : Opcode) : Form := ⟨op.mode, op.steps.toNat, op.pageCross⟩

/-- **Skeleton**: what the addressing mode and the trailer flip in each cell.
Flipping it again leaves the lines that belong to the operation itself. -/
def skeleton (op : Opcode) : Matrix :=
  .ofStrokes fun flags =>
    (if op.usesAddressing then op.mode.skeleton (flags.val.testBit 0) else [])
      ++ (if op.usesTrailer then op.form.trailer else [])

end Opcode

end Breadboard
