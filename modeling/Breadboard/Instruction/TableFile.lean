import Breadboard.Files.Session
import Breadboard.Instruction.Codec
import Breadboard.Instruction.Eprom

/-!
# Saving and loading the table

A table is saved as one JSON list of its opcodes. Loading accepts the opcodes
in any order and refuses everything short of a whole table: an entry with an
impossible step count, two entries for one opcode, or an opcode without an
entry. Faults are reported in that order of reading, so the first bad entry of
a file decides, and only a file without one is checked for completeness.
-/

namespace Breadboard

/-- **Why a table cannot be saved or loaded.** -/
inductive TableError where
  /-- A file operation failed. -/
  | file (path : Path) (cause : FileError)
  /-- The file holds no list of opcodes. -/
  | malformed
  /-- Opcodes without an entry. -/
  | incomplete (missing : Nat)
  /-- A second entry for an opcode. -/
  | duplicate (code : UInt8)
  /-- An entry with a step count no matrix has room for. -/
  | steps (code steps : UInt8)
  deriving DecidableEq

namespace TableError

/-- The text of an error. -/
def message : TableError → String
  | file path cause => "Failed to access opcode table " ++ path.text ++ ": " ++ cause.message
  | malformed => "Malformed opcode table:"
  | incomplete missing => "Opcode table is missing " ++ toString missing ++ " of 256 entries"
  | duplicate code => "Opcode 0x" ++ Hex.byte code ++ " is defined more than once"
  | steps code count =>
    "Opcode 0x" ++ Hex.byte code ++ " declares " ++ toString count.toNat ++ " steps (expected 1-8)"

end TableError

namespace OpcodeTable

/-! ## Bytes and tables -/

/-- **The saved form of a table.** -/
def print (t : OpcodeTable) : List UInt8 := (Json.array (t.entries.toList.map Opcode.toJson)).print

/-- Looks for the first bad entry; `seen` are the opcode bytes before. -/
def checkEntries : List UInt8 → List Opcode → Except TableError Unit
  | _, [] => pure ()
  | seen, op :: rest =>
    if op.steps = 0 ∨ 8 < op.steps then throw (.steps op.code op.steps)
    else if op.code ∈ seen then throw (.duplicate op.code)
    else checkEntries (op.code :: seen) rest

theorem steps_of_checkEntries {seen : List UInt8} {ops : List Opcode}
    (h : checkEntries seen ops = .ok ()) :
    ∀ op ∈ ops, 1 ≤ op.steps.toNat ∧ op.steps.toNat ≤ Cell.maxSteps := by
  induction ops generalizing seen with
  | nil => exact fun _ h => absurd h (List.not_mem_nil)
  | cons op rest ih =>
    unfold checkEntries at h
    split at h
    · exact absurd h (by simp [throw, throwThe, MonadExceptOf.throw])
    · rename_i bad
      split at h
      · exact absurd h (by simp [throw, throwThe, MonadExceptOf.throw])
      · intro o ho
        rcases List.mem_cons.1 ho with rfl | ho
        · rw [not_or, UInt8.not_lt, UInt8.le_iff_toNat_le, ← UInt8.toNat_inj] at bad
          have h8 : (8 : UInt8).toNat = 8 := rfl
          have h0 : (0 : UInt8).toNat = 0 := rfl
          rw [h8, h0] at bad
          exact ⟨Nat.one_le_iff_ne_zero.2 bad.1, bad.2⟩
        · exact ih h o ho

/-- **A table of entries** in any order. -/
def ofEntries (ops : List Opcode) : Except TableError OpcodeTable :=
  match h : checkEntries [] ops with
  | .error e => .error e
  | .ok () =>
    let found := Vector.ofFn fun i : Fin 256 => ops.find? fun op => op.code.toNat == i.val
    if complete : ∀ i : Fin 256, (found.get i).isSome then
      have get (i : Fin 256) : ops.find? (fun op => op.code.toNat == i.val)
          = some ((found.get i).get (complete i)) := by
        rw [Option.some_get]
        exact (Vector.getElem_ofFn (f := fun j : Fin 256 =>
          ops.find? fun op => op.code.toNat == j.val) i.isLt).symm
      .ok (ofFn (fun i => (found.get i).get (complete i))
        (fun i => by simpa using List.find?_some (get i))
        (fun i => steps_of_checkEntries h _ (List.mem_of_find?_eq_some (get i))))
    else .error (.incomplete (found.toList.countP (·.isNone)))

/-- **The table that bytes hold.** -/
def parse (bytes : List UInt8) : Except TableError OpcodeTable :=
  match Json.parse? bytes >>= Json.list? Opcode.ofJson? with
  | none => .error .malformed
  | some ops => ofEntries ops

/-! ## Files -/

variable {m : Type → Type} [Monad m] [MonadFiles m] [MonadLog m]

/-- Logs an error of loading. -/
private def logged (e : TableError) : m (Except TableError OpcodeTable) := do
  MonadLog.log ⟨.error, none, [("error", e.message)], .table⟩
  return .error e

/-- **Loading a table.** -/
def load (path : Path) : m (Except TableError OpcodeTable) := do
  match ← MonadFiles.readFile path with
  | .error cause => logged (.file path cause)
  | .ok bytes =>
    match parse bytes with
    | .error e => logged e
    | .ok t =>
      MonadLog.log (.info .table "Opcode table loaded" [("path", path.text)])
      return .ok t

/-- Loads a table, or takes the built-in one if that is not possible. -/
def loadOrBuiltin (path : Path) : m OpcodeTable := do
  if !(← MonadFiles.pathExists path) then
    MonadLog.log
      (.info .table "No saved opcode table, using built-in definitions" [("path", path.text)])
    return builtin
  match ← load path with
  | .ok t => return t
  | .error e =>
    MonadLog.log (.warn .table "Using built-in opcode table" [("err", e.message)])
    return builtin

/-- **Saving a table.** -/
def save (t : OpcodeTable) (path : Path) : m (Except TableError Unit) := do
  match ← MonadFiles.writeFile path t.print with
  | .error cause => return .error (.file path cause)
  | .ok () =>
    MonadLog.log (.info .table "Opcode table saved" [("path", path.text)])
    return .ok ()

/-- Writes the images of some pairs, stopping at the first failure. -/
private def exportPairs (t : OpcodeTable) (dir : Path) :
    List (Fin 3) → m (Except TableError (List Path))
  | [] => return .ok []
  | pair :: rest => do
    let path := dir.join (imageName pair)
    match ← MonadFiles.writeFile path (t.epromImage pair) with
    | .error cause => return .error (.file path cause)
    | .ok () => return (path :: ·) <$> (← exportPairs t dir rest)

/-- **Exporting** the three EPROM images into a directory. -/
def exportEproms (t : OpcodeTable) (dir : Path) : m (Except TableError (List Path)) := do
  match ← exportPairs t dir (List.finRange 3) with
  | .error e => return .error e
  | .ok paths =>
    MonadLog.log (.info .table "EPROM images exported" [("dir", dir.text)])
    return .ok paths

end OpcodeTable

end Breadboard
