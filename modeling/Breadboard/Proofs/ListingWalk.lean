import Breadboard.Memory.Listing
import Breadboard.Proofs.MemoryRun
import Mathlib.Data.List.Chain

/-!
# The listing covers the image

The listing is read from the origin of the image, and where an item begins depends on all items
before it. What can be relied on is that nothing is left out on the way: each item begins where the
one before it ends and takes at least one byte, so the byte at any address of the image is taken by
exactly one of them. The last item may reach beyond the image; that takes nothing away from this.

An instruction is looked up by walking the listing until the item is found that takes an address.
The walk is the search in the listing – no more and no less – and it looks at nothing but the
beginnings of items. These lie in the image, and so within the address space, whatever the lengths
are that the table declares: a walk in which each lookup is checked goes through without a failure.
-/

namespace Breadboard

namespace ListingItem

theorem takes_iff {item : ListingItem} {a : Nat} :
    item.takes a = true ↔ item.start ≤ a ∧ a < item.start + item.length := by
  simp [takes]

/-- The address of an instruction; data has none. -/
def code? (item : ListingItem) : Option UInt16 :=
  if item.isCode then some (UInt16.ofNat item.start) else none

end ListingItem

namespace Memory

variable {m : Memory} {t : OpcodeTable} {pc a : Nat} {item : ListingItem}

/-! ## Items -/

/-- The item that begins at a place. -/
def itemAt (m : Memory) (t : OpcodeTable) (pc : Nat) : ListingItem :=
  ⟨pc, (m.opcodeAt t pc).length, !(m.opcodeAt t pc).isVirtual⟩

theorem itemAt_takes_self (m : Memory) (t : OpcodeTable) (pc : Nat) :
    (m.itemAt t pc).takes pc = true :=
  ListingItem.takes_iff.mpr ⟨Nat.le_refl pc, Nat.lt_add_of_pos_right (Opcode.length_pos _)⟩

/-- Within the image the items from a place on are the one that begins there, and those behind. -/
theorem itemsFrom_of_lt (h : pc < m.stop) :
    m.itemsFrom t pc = m.itemAt t pc :: m.itemsFrom t (pc + (m.opcodeAt t pc).length) := by
  rw [itemsFrom, if_pos h]
  rfl

theorem itemsFrom_of_le (h : m.stop ≤ pc) : m.itemsFrom t pc = [] := by
  rw [itemsFrom, if_neg (Nat.not_lt.mpr h)]

/-- **An item of the listing** begins in the image and is what the table says of its first byte. -/
theorem of_mem_itemsFrom (h : item ∈ m.itemsFrom t pc) :
    pc ≤ item.start ∧ item.start < m.stop ∧ item = m.itemAt t item.start := by
  fun_induction itemsFrom m t pc with
  | case1 pc hlt op ih =>
    obtain rfl | hrest := List.mem_cons.mp h
    · exact ⟨Nat.le_refl _, hlt, rfl⟩
    · obtain ⟨hle, hrest⟩ := ih hrest
      exact ⟨Nat.le_of_add_right_le hle, hrest⟩
  | case2 => exact absurd h List.not_mem_nil

/-- From an item on the listing goes on as it does from its place. -/
theorem exists_append_itemsFrom (h : item ∈ m.itemsFrom t pc) :
    ∃ before, m.itemsFrom t pc = before ++ m.itemsFrom t item.start := by
  fun_induction itemsFrom m t pc with
  | case1 pc hlt op ih =>
    obtain rfl | hrest := List.mem_cons.mp h
    · exact ⟨[], (itemsFrom_of_lt hlt).symm⟩
    · obtain ⟨before, hbefore⟩ := ih hrest
      exact ⟨_ :: before, congrArg (List.cons _) hbefore⟩
  | case2 => exact absurd h List.not_mem_nil

/-- The items follow each other without a gap. -/
theorem isChain_itemsFrom (m : Memory) (t : OpcodeTable) (pc : Nat) :
    (m.itemsFrom t pc).IsChain fun item following =>
      following.start = item.start + item.length := by
  fun_induction itemsFrom m t pc with
  | case1 pc hlt op ih =>
    refine List.isChain_cons.mpr ⟨fun following hfollowing => ?_, ih⟩
    by_cases hmore : pc + op.length < m.stop
    · rw [itemsFrom_of_lt hmore] at hfollowing
      rw [← Option.some.inj hfollowing]
      rfl
    · rw [itemsFrom_of_le (Nat.not_lt.mp hmore)] at hfollowing
      exact absurd hfollowing (by simp)
  | case2 => exact .nil

/-- Which addresses the first item takes, of those from its place on. -/
theorem itemAt_takes_iff (hle : pc ≤ a) :
    (m.itemAt t pc).takes a = true ↔ a < pc + (m.opcodeAt t pc).length :=
  ListingItem.takes_iff.trans (and_iff_right hle)

/-- **Each address is taken by exactly one item**, from the place on where the items begin. -/
theorem countP_takes (hle : pc ≤ a) (hlt : a < m.stop) :
    (m.itemsFrom t pc).countP (·.takes a) = 1 := by
  fun_induction itemsFrom m t pc with
  | case1 pc hpc op ih =>
    by_cases hhere : a < pc + op.length
    · -- The other items begin behind the address.
      have hrest : (m.itemsFrom t (pc + op.length)).countP (·.takes a) = 0 := by
        refine List.countP_eq_zero.mpr fun item hitem htakes => ?_
        have hbehind := (of_mem_itemsFrom hitem).1
        exact Nat.not_lt.mpr (Nat.le_trans hbehind (ListingItem.takes_iff.mp htakes).1) hhere
      have hcount := List.countP_cons_of_pos (p := fun item : ListingItem => item.takes a)
        (l := m.itemsFrom t (pc + op.length)) ((itemAt_takes_iff (m := m) (t := t) hle).mpr hhere)
      exact hcount.trans (congrArg Nat.succ hrest)
    · have hcount := List.countP_cons_of_neg (p := fun item : ListingItem => item.takes a)
        (l := m.itemsFrom t (pc + op.length)) (mt (itemAt_takes_iff (m := m) (t := t) hle).mp hhere)
      exact hcount.trans (ih (Nat.not_lt.mp hhere))
  | case2 pc hpc => exact absurd (Nat.lt_of_le_of_lt hle hlt) hpc

/-- The items that take an address are the same one. -/
theorem eq_of_takes {item other : ListingItem} (hitem : item ∈ m.itemsFrom t pc)
    (hother : other ∈ m.itemsFrom t pc) (ha : a < m.stop) (htakes : item.takes a = true)
    (hothertakes : other.takes a = true) : item = other := by
  have hle : pc ≤ a :=
    Nat.le_trans (of_mem_itemsFrom hitem).1 (ListingItem.takes_iff.mp htakes).1
  have hone := countP_takes (t := t) hle ha
  rw [List.countP_eq_length_filter, List.length_eq_one_iff] at hone
  obtain ⟨only, honly⟩ := hone
  have hmem : ∀ x ∈ m.itemsFrom t pc, x.takes a = true → x = only := fun x hx hxtakes =>
    List.mem_singleton.mp (honly ▸ List.mem_filter.mpr ⟨hx, hxtakes⟩)
  exact (hmem item hitem htakes).trans (hmem other hother hothertakes).symm

/-! ## The walk -/

theorem code?_itemAt (m : Memory) (t : OpcodeTable) (pc : Nat) :
    (m.itemAt t pc).code?
      = if (m.opcodeAt t pc).isVirtual then none else some (UInt16.ofNat pc) := by
  unfold ListingItem.code? itemAt
  cases (m.opcodeAt t pc).isVirtual <;> rfl

/-- One step of the walk. -/
theorem walkTo_of_lt (h : pc < m.stop) (target : Nat) :
    m.walkTo t target pc
      = if target < pc + (m.opcodeAt t pc).length then (m.itemAt t pc).code?
        else m.walkTo t target (pc + (m.opcodeAt t pc).length) := by
  rw [walkTo, if_pos h, code?_itemAt]

/-- **The walk is the search in the listing.** -/
theorem walkTo_eq_find? (hle : pc ≤ a) :
    m.walkTo t a pc = ((m.itemsFrom t pc).find? (·.takes a)).bind ListingItem.code? := by
  fun_induction itemsFrom m t pc with
  | case1 pc hpc op ih =>
    rw [walkTo_of_lt hpc]
    by_cases hhere : a < pc + op.length
    · have hfind := List.find?_cons_of_pos (p := fun item : ListingItem => item.takes a)
        (l := m.itemsFrom t (pc + op.length))
        ((itemAt_takes_iff (m := m) (t := t) hle).mpr hhere)
      rw [if_pos hhere]
      exact (congrArg (·.bind ListingItem.code?) hfind).symm
    · have hfind := List.find?_cons_of_neg (p := fun item : ListingItem => item.takes a)
        (l := m.itemsFrom t (pc + op.length))
        (mt (itemAt_takes_iff (m := m) (t := t) hle).mp hhere)
      rw [if_neg hhere, ih (Nat.not_lt.mp hhere)]
      exact (congrArg (·.bind ListingItem.code?) hfind).symm
  | case2 pc hpc =>
    rw [walkTo, if_neg hpc]
    rfl

/-- A place in the image is one of the address space. -/
theorem lt_size_of_lt_stop (h : pc < m.stop) : pc < Store.size :=
  Nat.lt_of_lt_of_le h m.fits

/-- The beginning of an item is not truncated to an address. -/
theorem toNat_ofNat_start (h : item ∈ m.itemsFrom t pc) :
    (UInt16.ofNat item.start).toNat = item.start :=
  UInt16.toNat_ofNat_of_lt' (lt_size_of_lt_stop (of_mem_itemsFrom h).2.1)

theorem covers_iff {a : UInt16} :
    m.covers a = true ↔ m.origin.toNat ≤ a.toNat ∧ a.toNat < m.stop := by
  simp [covers]

/-- **The instruction of an address** is the item that takes it, if the address is in the image
and the item is an instruction. -/
theorem instructionStart?_eq_some_iff {a s : UInt16} :
    m.instructionStart? t a = some s
      ↔ (m.origin.toNat ≤ a.toNat ∧ a.toNat < m.stop)
        ∧ ∃ item ∈ m.listing t, item.takes a.toNat = true ∧ item.start = s.toNat
          ∧ item.isCode = true := by
  unfold instructionStart? listing
  split
  · rename_i hcovers
    obtain ⟨hle, hlt⟩ := covers_iff.mp hcovers
    rw [walkTo_eq_find? hle, Option.bind_eq_some_iff]
    constructor
    · rintro ⟨item, hfind, hcode⟩
      have hitem := List.mem_of_find?_eq_some hfind
      have htakes := List.find?_some hfind
      unfold ListingItem.code? at hcode
      split at hcode
      · rename_i hisCode
        rw [← Option.some.inj hcode]
        exact ⟨⟨hle, hlt⟩, item, hitem, htakes, (toNat_ofNat_start hitem).symm, hisCode⟩
      · exact absurd hcode (by simp)
    · rintro ⟨-, item, hitem, htakes, hstart, hisCode⟩
      refine ⟨item, ?_, ?_⟩
      · cases hfind : (m.itemsFrom t m.origin.toNat).find? (·.takes a.toNat) with
        | none => exact absurd htakes (List.find?_eq_none.mp hfind item hitem)
        | some found =>
          have hfound := List.find?_some hfind
          rw [eq_of_takes (List.mem_of_find?_eq_some hfind) hitem hlt hfound htakes]
      · unfold ListingItem.code?
        rw [if_pos hisCode, hstart, UInt16.ofNat_toNat]
  · rename_i hcovers
    exact ⟨fun h => absurd h (by simp), fun h => absurd (covers_iff.mpr h.1) hcovers⟩

/-- **An instruction starts at its own address**, which is not behind the addresses it takes. -/
theorem instructionStart?_self {a s : UInt16} (h : m.instructionStart? t a = some s) :
    s ≤ a ∧ m.instructionStart? t s = some s := by
  obtain ⟨-, item, hitem, htakes, hstart, hisCode⟩ := instructionStart?_eq_some_iff.mp h
  obtain ⟨horigin, hstop, hself⟩ := of_mem_itemsFrom hitem
  refine ⟨UInt16.le_iff_toNat_le.mpr (hstart ▸ (ListingItem.takes_iff.mp htakes).1), ?_⟩
  have htakes' : item.takes s.toNat = true := by
    rw [hself, hstart]
    exact itemAt_takes_self m t s.toNat
  exact instructionStart?_eq_some_iff.mpr
    ⟨⟨hstart ▸ horigin, hstart ▸ hstop⟩, item, hitem, htakes', hstart, hisCode⟩

/-! ## Lookups -/

/-- The byte at a place of the store, if the store has that place. -/
def byteAt? (m : Memory) (place : Nat) : Option UInt8 :=
  if place < Store.size then some (m.read (UInt16.ofNat place)) else none

/-- The walk with each lookup checked: there is no answer if one leaves the store. -/
def checkedWalk? (m : Memory) (t : OpcodeTable) (target pc : Nat) : Option (Option UInt16) :=
  if pc < m.stop then
    match m.byteAt? pc with
    | none => none
    | some byte =>
      if target < pc + (t.lookup byte).length then
        some (if (t.lookup byte).isVirtual then none else some (UInt16.ofNat pc))
      else m.checkedWalk? t target (pc + (t.lookup byte).length)
  else some none
termination_by m.stop - pc
decreasing_by
  have := Opcode.length_pos (t.lookup byte)
  omega

theorem byteAt?_of_lt {place : Nat} (h : place < Store.size) :
    m.byteAt? place = some (m.read (UInt16.ofNat place)) :=
  if_pos h

/-- **No lookup leaves the store**, so checking changes nothing. -/
theorem checkedWalk?_eq (m : Memory) (t : OpcodeTable) (target pc : Nat) :
    m.checkedWalk? t target pc = some (m.walkTo t target pc) := by
  fun_induction m.checkedWalk? t target pc with
  | case1 pc hpc hbyte =>
    rw [byteAt?_of_lt (lt_size_of_lt_stop hpc)] at hbyte
    exact absurd hbyte (by simp)
  | case2 pc hpc byte hbyte hhere =>
    rw [byteAt?_of_lt (lt_size_of_lt_stop hpc)] at hbyte
    obtain rfl := Option.some.inj hbyte
    rw [walkTo_of_lt hpc, if_pos (show pc + (m.opcodeAt t pc).length > target from hhere),
      code?_itemAt]
    rfl
  | case3 pc hpc byte hbyte hhere ih =>
    rw [byteAt?_of_lt (lt_size_of_lt_stop hpc)] at hbyte
    obtain rfl := Option.some.inj hbyte
    rw [ih, walkTo_of_lt hpc, if_neg (show ¬ pc + (m.opcodeAt t pc).length > target from hhere)]
    rfl
  | case4 pc hpc => rw [walkTo, if_neg hpc]

/-- The lookup of an instruction with each byte checked. -/
def checkedStart? (m : Memory) (t : OpcodeTable) (a : UInt16) : Option (Option UInt16) :=
  if m.covers a then m.checkedWalk? t a.toNat m.origin.toNat else some none

theorem checkedStart?_eq (m : Memory) (t : OpcodeTable) (a : UInt16) :
    m.checkedStart? t a = some (m.instructionStart? t a) := by
  unfold checkedStart? instructionStart?
  rw [checkedWalk?_eq]
  split <;> rfl

/-- The listing begins at the origin, if there is an image. -/
theorem head?_listing (m : Memory) (t : OpcodeTable) :
    (m.listing t).head?.map (·.start) = if m.loaded = 0 then none else some m.origin.toNat := by
  unfold listing
  by_cases hempty : m.loaded = 0
  · rw [if_pos hempty, itemsFrom_of_le (by unfold stop; omega)]
    rfl
  · rw [if_neg hempty, itemsFrom_of_lt (by unfold stop; omega)]
    rfl

/-- **The listing partitions the image**, in every memory that a run leaves and for every table. The
image is the last one that fitted and ends within the address space. The items follow each other
from its origin on, each as long as the table says of its first byte, and each address of the image
is taken by exactly one of them. The instruction of an address is the item that takes it, by its
whole address, if that is not data; it does not begin behind the address, and is its own
instruction. No lookup on the way leaves the store. -/
theorem listing_partitions_image (acts : List MemoryAct) (t : OpcodeTable) :
    let m := fresh.after acts
    (m.region = (acts.filterMap MemoryAct.region?).getLast?.getD (0, 0)
        ∧ m.origin.toNat + m.loaded ≤ 65536)
      ∧ ((m.listing t).head?.map (·.start) = if m.loaded = 0 then none else some m.origin.toNat)
      ∧ (m.listing t).IsChain (fun item following => following.start = item.start + item.length)
      ∧ (∀ item ∈ m.listing t, (m.origin.toNat ≤ item.start ∧ item.start < m.stop)
        ∧ item.length = (if (m.opcodeAt t item.start).isVirtual then 1
          else 1 + (m.opcodeAt t item.start).operands.toNat)
        ∧ item.isCode = !(m.opcodeAt t item.start).isVirtual)
      ∧ (∀ a, m.origin.toNat ≤ a → a < m.stop → (m.listing t).countP (·.takes a) = 1)
      ∧ (∀ a s, m.instructionStart? t a = some s
        ↔ (m.origin.toNat ≤ a.toNat ∧ a.toNat < m.stop)
          ∧ ∃ item ∈ m.listing t, item.takes a.toNat = true ∧ item.start = s.toNat
            ∧ item.isCode = true)
      ∧ (∀ a s, m.instructionStart? t a = some s → s ≤ a ∧ m.instructionStart? t s = some s)
      ∧ ∀ a, m.checkedStart? t a = some (m.instructionStart? t a) := by
  intro m
  refine ⟨⟨region_after fresh acts, region_after_fits acts⟩, m.head?_listing t,
    m.isChain_itemsFrom t _, fun item hitem => ?_, fun _ => countP_takes,
    fun _ _ => instructionStart?_eq_some_iff, fun _ _ => instructionStart?_self,
    m.checkedStart?_eq t⟩
  obtain ⟨horigin, hstop, hitem⟩ := of_mem_itemsFrom hitem
  exact ⟨⟨horigin, hstop⟩, congrArg ListingItem.length hitem, congrArg ListingItem.isCode hitem⟩

end Memory

end Breadboard
