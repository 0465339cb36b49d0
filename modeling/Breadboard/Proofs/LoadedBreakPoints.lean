import Breadboard.Proofs.BreakPointSet

/-!
# What loading break points reports

Loading break points reports a number. It is the number of those that were loaded, and as loading
replaces the whole set it is then also the number of those that are set. But there may be nothing to
load: a memory without a program file keeps its break points to itself, and where none were saved
there is no file. Then none were loaded, and zero is reported, whatever break points are set – they
stay. A file that is there and cannot be read is an error, which leaves them alone as well.

So the number that is reported is that of the break points set afterwards, but for one case: nothing
was there to be loaded, and break points were set.
-/

namespace Breadboard

namespace BreakPoints

variable {s : BreakPoints}

/-- How many addresses have a break point. -/
def count (s : BreakPoints) : Nat :=
  (List.range Store.size).countP fun place => s.contains (UInt16.ofNat place)

/-- No address is listed twice, so the list is as long as the set is large. -/
theorem count_eq_length (s : BreakPoints) : s.count = s.addresses.length := by
  have hlisted : (s.addresses.map UInt16.toNat).Nodup := by
    have hascending : (s.addresses.map UInt16.toNat).Pairwise (· < ·) :=
      List.pairwise_map.mpr (s.ascending.imp UInt16.lt_iff_toNat_lt.mp)
    exact hascending.imp Nat.ne_of_lt
  have hperm : ((List.range Store.size).filter fun place => s.contains (UInt16.ofNat place)).Perm
      (s.addresses.map UInt16.toNat) := by
    refine (List.perm_ext_iff_of_nodup (List.nodup_range.filter _) hlisted).mpr fun place => ?_
    rw [List.mem_filter, List.mem_range, contains_iff, List.mem_map]
    constructor
    · rintro ⟨hlt, hmem⟩
      exact ⟨_, hmem, UInt16.toNat_ofNat_of_lt' hlt⟩
    · rintro ⟨a, hmem, rfl⟩
      exact ⟨a.toNat_lt, by rwa [UInt16.ofNat_toNat]⟩
  unfold count
  rw [List.countP_eq_length_filter, hperm.length_eq, List.length_map]

theorem count_eq_zero_iff : s.count = 0 ↔ s = .empty := by
  rw [count_eq_length, List.length_eq_zero_iff]
  constructor
  · intro h
    cases s
    cases h
    rfl
  · rintro rfl
    rfl

end BreakPoints

namespace Memory

variable {m : Memory} {t : OpcodeTable} {path : Path} {files : FileTree} {bytes : List UInt8}

/-! ## What is there to be loaded -/

/-- **Saved**: bytes that can be read from the place for break points. -/
def Saved (m : Memory) (files : FileTree) (bytes : List UInt8) : Prop :=
  ∃ path, m.breakPointFile = some path ∧ files.read path = .ok bytes

/-- **Nothing saved**: there is no place for break points, or no file there. -/
def NothingSaved (m : Memory) (files : FileTree) : Prop :=
  m.breakPointFile = none
    ∨ ∃ path, m.breakPointFile = some path ∧ files.read path = .error .notFound

/-- **Unreadable**: there is a place for break points, and reading it fails otherwise. -/
def Unreadable (m : Memory) (files : FileTree) (e : MemoryError) : Prop :=
  ∃ path cause, m.breakPointFile = some path ∧ files.read path = .error cause
    ∧ cause ≠ .notFound ∧ e = .breakPoints path cause

/-- One of the three is the case. -/
theorem saved_cases (m : Memory) (files : FileTree) :
    (∃ bytes, m.Saved files bytes) ∨ m.NothingSaved files ∨ ∃ e, m.Unreadable files e := by
  cases hfile : m.breakPointFile with
  | none => exact .inr (.inl (.inl hfile))
  | some path =>
    cases hread : files.read path with
    | ok bytes => exact .inl ⟨bytes, path, hfile, hread⟩
    | error cause =>
      by_cases hcause : cause = .notFound
      · subst hcause
        exact .inr (.inl (.inr ⟨path, hfile, hread⟩))
      · exact .inr (.inr ⟨_, path, cause, hfile, hread, hcause, rfl⟩)

/-- What can be read is not missing. -/
theorem Saved.not_nothingSaved (h : m.Saved files bytes) : ¬ m.NothingSaved files := by
  obtain ⟨path, hfile, hread⟩ := h
  rintro (hnone | ⟨path', hfile', hread'⟩)
  · rw [hfile] at hnone
    cases hnone
  · rw [hfile] at hfile'
    cases hfile'
    rw [hread] at hread'
    cases hread'

/-! ## The exits of loading -/

/-- What loading break points reports, with the memory it leaves. -/
def loading (m : Memory) (t : OpcodeTable) (s : Session) : Except MemoryError (Memory × Nat) :=
  ((m.loadBreakPoints t : StateM Session (Except MemoryError (Memory × Nat))) s).1

variable {s : Session}

theorem loading_of_saved (h : m.Saved s.files bytes) :
    m.loading t s = .ok (m.withBreakPoints (m.savedBreakPoints t bytes),
      (m.savedBreakPoints t bytes).count) := by
  obtain ⟨path, hfile, hread⟩ := h
  rw [BreakPoints.count_eq_length]
  exact loadBreakPoints_of_read hfile hread

theorem loading_of_nothingSaved (h : m.NothingSaved s.files) : m.loading t s = .ok (m, 0) := by
  unfold loading loadBreakPoints
  obtain hnone | ⟨path, hfile, hread⟩ := h
  · rw [hnone]
    rfl
  · rw [hfile]
    simp only [bind, StateT.bind, MonadFiles.readFile, hread]
    rfl

theorem loading_of_unreadable {e : MemoryError} (h : m.Unreadable s.files e) :
    m.loading t s = .error e := by
  obtain ⟨path, cause, hfile, hread, hcause, rfl⟩ := h
  unfold loading loadBreakPoints
  rw [hfile]
  simp only [bind, StateT.bind, MonadFiles.readFile, hread]
  -- All causes but the one are handed on.
  cases cause with
  | notFound => exact absurd rfl hcause
  | _ => rfl

/-- **Loading fails** exactly if what is saved cannot be read. -/
theorem loading_eq_error_iff {e : MemoryError} :
    m.loading t s = .error e ↔ m.Unreadable s.files e := by
  refine ⟨fun h => ?_, loading_of_unreadable⟩
  obtain ⟨bytes, hsaved⟩ | hnothing | ⟨e', hunreadable⟩ := m.saved_cases s.files
  · rw [loading_of_saved hsaved] at h
    cases h
  · rw [loading_of_nothingSaved hnothing] at h
    cases h
  · rw [loading_of_unreadable hunreadable] at h
    exact Except.error.inj h ▸ hunreadable

/-- **Loading succeeds** in two ways. -/
theorem loading_ok_cases {m' : Memory} {n : Nat} (h : m.loading t s = .ok (m', n)) :
    (∃ bytes, m.Saved s.files bytes ∧ m' = m.withBreakPoints (m.savedBreakPoints t bytes)
        ∧ n = m'.breakPoints.count)
      ∨ m.NothingSaved s.files ∧ m' = m ∧ n = 0 := by
  obtain ⟨bytes, hsaved⟩ | hnothing | ⟨e, hunreadable⟩ := m.saved_cases s.files
  · rw [loading_of_saved hsaved] at h
    cases h
    exact .inl ⟨bytes, hsaved, rfl, rfl⟩
  · rw [loading_of_nothingSaved hnothing] at h
    cases h
    exact .inr ⟨hnothing, rfl, rfl⟩
  · rw [loading_of_unreadable hunreadable] at h
    cases h

/-- **The number that is reported** is that of the break points set afterwards, unless nothing was
there to be loaded and some were set. -/
theorem count_of_loading_iff {m' : Memory} {n : Nat} (h : m.loading t s = .ok (m', n)) :
    n = m'.breakPoints.count ↔ ¬ (m.NothingSaved s.files ∧ m.breakPoints ≠ .empty) := by
  obtain ⟨bytes, hsaved, rfl, hcount⟩ | ⟨hnothing, rfl, rfl⟩ := loading_ok_cases h
  · exact iff_of_true hcount fun hstale => hsaved.not_nothingSaved hstale.1
  · rw [eq_comm, BreakPoints.count_eq_zero_iff, and_iff_right hnothing, not_not]

/-- **Loading break points reports how many it loaded.** Whatever memory, table and files there are:
if a number is reported, either saved bytes were read, and so many break points are set afterwards,
namely the saved addresses that are those of instructions; or there was nothing to be read, the
number is zero, and the break points are as they were. So it is the number of break points set
afterwards unless there was nothing to be read and some were set. Loading fails exactly if what is
saved cannot be read, and leaves the break points as they were. Nothing but the break points is ever
changed. -/
theorem loading_reports (m : Memory) (t : OpcodeTable) (s : Session) :
    (∀ m' n, m.loading t s = .ok (m', n) →
        ((∃ bytes, m.Saved s.files bytes ∧ n = m'.breakPoints.count
            ∧ ∀ a, m'.breakPoints.contains a = true
              ↔ m.instructionStart? t a = some a ∧ a ∈ BreakPoints.addressesOf bytes)
          ∨ m.NothingSaved s.files ∧ n = 0 ∧ m'.breakPoints = m.breakPoints)
        ∧ (n = m'.breakPoints.count ↔ ¬ (m.NothingSaved s.files ∧ m.breakPoints ≠ .empty)))
      ∧ (∀ e, m.loading t s = .error e ↔ m.Unreadable s.files e)
      ∧ let after := m.settled (m.loading t s)
        (∀ e, m.loading t s = .error e → after.breakPoints = m.breakPoints)
        ∧ after = m.withBreakPoints after.breakPoints := by
  refine ⟨fun m' n h => ⟨?_, count_of_loading_iff h⟩, fun _ => loading_eq_error_iff, ?_, ?_⟩
  · obtain ⟨bytes, hsaved, rfl, hcount⟩ | ⟨hnothing, rfl, rfl⟩ := loading_ok_cases h
    · exact .inl ⟨bytes, hsaved, hcount, m.contains_savedBreakPoints t bytes⟩
    · exact .inr ⟨hnothing, rfl, rfl⟩
  · intro e herror
    rw [herror]
    rfl
  · cases hloading : m.loading t s with
    | error e => rfl
    | ok loaded =>
      obtain ⟨m', n⟩ := loaded
      obtain ⟨bytes, -, rfl, -⟩ | ⟨-, rfl, -⟩ := loading_ok_cases hloading
      · rfl
      · rfl

/-- An image of one instruction that came from no file, with a break point on it. -/
def nopWithoutFile : Memory :=
  fresh.after [.loadImage [0xEA] 0x0200, .toggleBreakPoint .builtin 0x0200]

/-- The same from a program file, beside which no break points were saved. -/
def nopUnsaved : Memory :=
  fresh.after [.loadProgram
    ((FileTree.empty.write ⟨"demo.bin"⟩ [0xEA]).toOption.getD .empty) ⟨"demo.bin"⟩ 0x0200,
    .toggleBreakPoint .builtin 0x0200]

/-- Loading reports zero in both, with one break point set. -/
theorem loading_reports_zero_of_one :
    nopWithoutFile.loading .builtin (.start .empty) = .ok (nopWithoutFile, 0)
      ∧ nopWithoutFile.breakPoints.count = 1
      ∧ nopUnsaved.loading .builtin (.start .empty) = .ok (nopUnsaved, 0)
      ∧ nopUnsaved.breakPoints.count = 1 := by
  have hplace : nopWithoutFile.breakPointFile = none := by decide +kernel
  have hplace' : nopUnsaved.breakPointFile = some ⟨".demo.bp"⟩ := by decide +kernel
  refine ⟨loading_of_nothingSaved (.inl hplace), ?_,
    loading_of_nothingSaved (.inr ⟨_, hplace', rfl⟩), ?_⟩
  · rw [BreakPoints.count_eq_length]
    decide +kernel
  · rw [BreakPoints.count_eq_length]
    decide +kernel

end Memory

end Breadboard
