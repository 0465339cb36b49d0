/-!
# Sixty-four kilobytes

The address space as 256 pages of 256 bytes. Every sixteen-bit address has a
byte, so reading and writing cannot fail.
-/

namespace Breadboard

/-- **Store**: a byte for every address. -/
structure Store where
  /-- The bytes, page by page. -/
  pages : Vector (Vector UInt8 256) 256
  deriving DecidableEq

namespace Store

/-- The number of addresses. -/
abbrev size : Nat := 65536

/-- The page an address is on. -/
def page (a : UInt16) : Fin 256 := ⟨a.toNat / 256, by have := a.toNat_lt; omega⟩

/-- The place of an address within its page. -/
def offset (a : UInt16) : Fin 256 := ⟨a.toNat % 256, by omega⟩

theorem eq_of_page_of_offset {a b : UInt16} (hp : page a = page b) (ho : offset a = offset b) :
    a = b := by
  apply UInt16.toNat.inj
  have hp' := congrArg Fin.val hp
  have ho' := congrArg Fin.val ho
  simp only [page, offset] at hp' ho'
  omega

/-- All bytes zero. -/
def zero : Store := ⟨Vector.replicate 256 (Vector.replicate 256 0)⟩

/-- The byte at an address. -/
def get (s : Store) (a : UInt16) : UInt8 := s.pages[page a][offset a]

/-- The store with the byte at one address replaced. -/
def set (s : Store) (a : UInt16) (v : UInt8) : Store :=
  ⟨s.pages.set (page a) (s.pages[page a].set (offset a) v)⟩

/-- The store with bytes laid over it from an address on. -/
def overlay (s : Store) (a : UInt16) : List UInt8 → Store
  | [] => s
  | v :: rest => (s.set a v).overlay (a + 1) rest

@[simp]
theorem get_zero (a : UInt16) : zero.get a = 0 := by simp [zero, get]

theorem get_set (s : Store) (a b : UInt16) (v : UInt8) :
    (s.set a v).get b = if a = b then v else s.get b := by
  by_cases hp : page a = page b
  · by_cases ho : offset a = offset b
    · have := eq_of_page_of_offset hp ho
      subst this
      simp [get, set]
    · have hab : a ≠ b := fun h => ho (by rw [h])
      have ho' : (offset a : Nat) ≠ offset b := fun h => ho (Fin.ext h)
      simp [get, set, hp, hab, ho']
  · have hab : a ≠ b := fun h => hp (by rw [h])
    have hp' : (page a : Nat) ≠ page b := fun h => hp (Fin.ext h)
    simp [get, set, hp', hab]

@[simp]
theorem get_set_self (s : Store) (a : UInt16) (v : UInt8) : (s.set a v).get a = v := by
  simp [get_set]

end Store

end Breadboard
