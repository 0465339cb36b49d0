import Breadboard.Memory.RomFile

/-!
# Runs of the host memory

Everything that is ever done to a host memory is one of a few acts. An image is laid over it, given
as bytes or read from a file; the board writes bytes and the operator edits them; an edit is taken
back; break points are flipped, or loaded from a file. A run is a list of such acts. Files may
change between two acts in any way, so an act that reads one brings its own. Saving break points is
not among the acts, for it leaves the memory as it is.

The image is the last one that fitted. An act that brings no image leaves the region of the image
alone, however much it changes of the bytes in it, and so does one whose image is refused.
-/

namespace Breadboard

/-- **Memory act**: one thing done to a host memory. -/
inductive MemoryAct where
  /-- An image is laid over the memory. -/
  | loadImage (image : List UInt8) (origin : UInt16)
  /-- An image is read from a file and laid over the memory. -/
  | loadProgram (files : FileTree) (path : Path) (origin : UInt16)
  /-- The board writes a byte. -/
  | write (a : UInt16) (v : UInt8)
  /-- The operator edits a byte. -/
  | edit (a : UInt16) (v : UInt8)
  /-- The latest edit is taken back. -/
  | undo
  /-- The break point of an instruction is flipped. -/
  | toggleBreakPoint (t : OpcodeTable) (a : UInt16)
  /-- The saved break points are loaded. -/
  | loadBreakPoints (files : FileTree) (t : OpcodeTable)

namespace MemoryAct

/-- The image that an act brings, with its origin. -/
def image? : MemoryAct → Option (UInt16 × List UInt8)
  | loadImage image origin => some (origin, image)
  | loadProgram files path origin => (files.read path).toOption.map (origin, ·)
  | _ => none

/-- The origin and the length of the image that an act brings, if it fits. -/
def region? (act : MemoryAct) : Option (UInt16 × Nat) :=
  act.image?.bind fun brought =>
    if brought.1.toNat + brought.2.length ≤ Store.size then some (brought.1, brought.2.length)
    else none

theorem fits_of_region? {act : MemoryAct} {region : UInt16 × Nat} (h : act.region? = some region) :
    region.1.toNat + region.2 ≤ Store.size := by
  obtain ⟨brought, -, h⟩ := Option.bind_eq_some_iff.mp h
  split at h
  · rename_i hfits
    rw [← Option.some.inj h]
    exact hfits
  · exact absurd h (by simp)

end MemoryAct

namespace Memory

variable {m : Memory}

/-- The memory behind an operation that may have failed. -/
def settled (m : Memory) : Except MemoryError (Memory × Nat) → Memory
  | .ok loaded => loaded.1
  | .error _ => m

/-- **The memory after an act.** What is refused or fails changes nothing. -/
def next (m : Memory) : MemoryAct → Memory
  | .loadImage image origin => (m.loadImage? image origin).getD m
  | .loadProgram files path origin =>
    m.settled ((m.loadProgram path origin : StateM Session _) (.start files)).1
  | .write a v => m.write a v
  | .edit a v => m.edit a v
  | .undo => (m.undo?.map (·.1)).getD m
  | .toggleBreakPoint t a => ((m.toggleBreakPoint? t a).map (·.1)).getD m
  | .loadBreakPoints files t =>
    m.settled ((m.loadBreakPoints t : StateM Session _) (.start files)).1

/-- **The memory after a run.** -/
def after (m : Memory) (acts : List MemoryAct) : Memory := acts.foldl next m

/-- The origin and the length of the image. -/
def region (m : Memory) : UInt16 × Nat := (m.origin, m.loaded)

/-- An image that fits is where it was laid, one that does not changes nothing. -/
theorem region_loadImage? (m : Memory) (image : List UInt8) (origin : UInt16) :
    ((m.loadImage? image origin).getD m).region
      = if origin.toNat + image.length ≤ Store.size then (origin, image.length) else m.region := by
  unfold loadImage?
  split <;> rfl

theorem region_next_of_image? {act : MemoryAct} {origin : UInt16} {image : List UInt8}
    (h : act.image? = some (origin, image)) :
    act.region?.getD m.region = ((m.loadImage? image origin).getD m).region := by
  unfold MemoryAct.region?
  rw [h, region_loadImage?]
  dsimp only [Option.bind]
  split <;> rfl

/-- A program that was read is laid over the memory as its bytes are. -/
theorem region_loadProgram (m : Memory) (files : FileTree) (path : Path) (origin : UInt16) :
    (m.next (.loadProgram files path origin)).region
      = (MemoryAct.loadProgram files path origin).region?.getD m.region := by
  unfold next loadProgram
  simp only [bind, StateT.bind, MonadFiles.readFile, Session.start]
  cases hread : files.read path with
  | error cause =>
    have himage : (MemoryAct.loadProgram files path origin).image? = none := by
      simp [MemoryAct.image?, hread, Except.toOption]
    unfold MemoryAct.region?
    rw [himage]
    rfl
  | ok image =>
    have himage : (MemoryAct.loadProgram files path origin).image? = some (origin, image) := by
      simp [MemoryAct.image?, hread, Except.toOption]
    rw [region_next_of_image? himage]
    cases hload : m.loadImage? image origin <;> simp only [hload] <;> rfl

/-- Break points are not part of the region. -/
theorem region_loadBreakPoints (m : Memory) (files : FileTree) (t : OpcodeTable) :
    (m.next (.loadBreakPoints files t)).region = m.region := by
  unfold next loadBreakPoints
  cases m.breakPointFile with
  | none => rfl
  | some path =>
    simp only [bind, StateT.bind, MonadFiles.readFile, Session.start]
    cases files.read path with
    | error cause => cases cause <;> rfl
    | ok bytes => rfl

/-- **An act moves the region** to the image it brings, if that fits, and not otherwise. -/
theorem region_next (m : Memory) (act : MemoryAct) :
    (m.next act).region = act.region?.getD m.region := by
  cases act with
  | loadImage image origin => exact (region_next_of_image? rfl).symm
  | loadProgram files path origin => exact region_loadProgram m files path origin
  | write a v => rfl
  | edit a v => rfl
  | undo =>
    show ((m.undo?.map (·.1)).getD m).region = m.region
    unfold undo?
    cases m.lastEdit <;> rfl
  | toggleBreakPoint t a =>
    show (((m.toggleBreakPoint? t a).map (·.1)).getD m).region = m.region
    unfold toggleBreakPoint?
    cases m.instructionStart? t a <;> rfl
  | loadBreakPoints files t => exact region_loadBreakPoints m files t

/-- **The region after a run** is that of the last image that fitted. -/
theorem region_after (m : Memory) (acts : List MemoryAct) :
    (m.after acts).region = (acts.filterMap MemoryAct.region?).getLast?.getD m.region := by
  induction acts generalizing m with
  | nil => rfl
  | cons act rest ih =>
    rw [show m.after (act :: rest) = (m.next act).after rest from rfl, ih, region_next,
      List.filterMap_cons]
    cases act.region? with
    | none => rfl
    | some region =>
      rw [List.getLast?_cons]
      rfl

/-- **No run leaves an image that reaches beyond the address space.** -/
theorem region_after_fits (acts : List MemoryAct) :
    (fresh.after acts).region.1.toNat + (fresh.after acts).region.2 ≤ Store.size := by
  rw [region_after]
  cases hlast : (acts.filterMap MemoryAct.region?).getLast? with
  | none => decide
  | some region =>
    obtain ⟨act, -, hact⟩ := List.mem_filterMap.mp (List.mem_of_getLast? hlast)
    exact MemoryAct.fits_of_region? hact

end Memory

end Breadboard
