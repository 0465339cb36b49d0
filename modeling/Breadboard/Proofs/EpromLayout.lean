import Breadboard.Instruction.Eprom
import Breadboard.Proofs.BuiltinTable
import Breadboard.Wire.Request

/-!
# What the EPROM images hold

An image is a list of blocks within blocks: opcodes, steps, phases and flags,
and two bytes of a word at the end. All blocks of one kind are of one length, so
a byte is found by its place in each of them, and that is the address under
which the board asks for it.

A word is therefore in the images, in full and where the board looks for it:
the two bytes at its address in each of the three, put back into the order of
their bits and joined, are the word. The images leave no room for more than the
forty-eight lines, so this is said of words that fit, and tables of such words
that are burnt alike have the same lines.
-/

namespace Breadboard

/-! ## Blocks of one length -/

/-- The pieces of a list of blocks are found by the block and the place in it. -/
theorem getElem?_flatMap_blocks {α β : Type} {f : α → List β} {n : Nat}
    (hn : ∀ x, (f x).length = n) (xs : List α) (i : Nat) {j : Nat} (hj : j < n) :
    (xs.flatMap f)[n * i + j]? = xs[i]?.bind fun x => (f x)[j]? := by
  induction xs generalizing i with
  | nil => rfl
  | cons x rest ih =>
    rw [List.flatMap_cons]
    cases i with
    | zero =>
      rw [Nat.mul_zero, Nat.zero_add, List.getElem?_append_left (by rw [hn]; exact hj)]
      rfl
    | succ i =>
      rw [List.getElem?_append_right (by rw [hn, Nat.mul_succ]; omega), hn,
        show n * (i + 1) + j - n = n * i + j by rw [Nat.mul_succ]; omega, ih]
      rfl

theorem length_flatMap_blocks {α β : Type} {f : α → List β} {n : Nat}
    (hn : ∀ x, (f x).length = n) (xs : List α) :
    (xs.flatMap f).length = xs.length * n := by
  rw [List.length_flatMap, List.map_congr_left (fun x _ => hn x), List.map_const',
    List.sum_replicate_nat]

/-! ## Bytes and words -/

namespace ControlWord

/-- The byte of a word from a bit on. -/
theorem toNat_extract_byte (w : ControlWord) (shift : Nat) :
    (UInt8.ofBitVec (w.bits.extractLsb' shift 8)).toNat = w.toNat >>> shift % 256 :=
  BitVec.extractLsb'_toNat shift 8 w.bits

/-- **A word that fits is its six bytes**, most significant first. -/
theorem ofWire_bytes {w : ControlWord} (hfits : w.fits = true) :
    ofWire ([40, 32, 24, 16, 8, 0].map fun shift =>
      UInt8.ofBitVec (w.bits.extractLsb' shift 8)) = w := by
  have hlt : w.toNat < 2 ^ 48 := of_decide_eq_true hfits
  unfold ofWire
  simp only [List.map_cons, List.map_nil, List.foldl_cons, List.foldl_nil, toNat_extract_byte]
  have hjoin : (((((0 * 256 + w.toNat >>> 40 % 256) * 256 + w.toNat >>> 32 % 256) * 256
      + w.toNat >>> 24 % 256) * 256 + w.toNat >>> 16 % 256) * 256
      + w.toNat >>> 8 % 256) * 256 + w.toNat >>> 0 % 256 = w.toNat := by omega
  rw [hjoin, ofNat_toNat]

end ControlWord

namespace OpcodeTable

/-- Turning the bits of a burnt byte around gives the byte. -/
theorem reverse_reverseBits (b : UInt8) :
    UInt8.ofBitVec (reverseBits b).toBitVec.reverse = b := by
  refine UInt8.toBitVec_inj.mp (BitVec.eq_of_getLsbD_eq fun i _ => ?_)
  show b.toBitVec.reverse.reverse.getLsbD i = _
  rw [BitVec.getLsbD_reverse, BitVec.getMsbD_reverse]

/-! ## Addresses -/

/-- **The address of a word**: opcode, step, phase and flags, from most to
least significant. -/
def epromAddress (code : UInt8) (c : Cell) : Nat :=
  ((code.toNat * 8 + c.step.val) * 2 + c.phase.index.val) * 16 + c.flags.val

theorem length_addressed (op : Opcode) : (addressed op).length = 256 := by
  unfold addressed
  rw [length_flatMap_blocks (n := 32) (fun _ => by simp [Phase.all]), List.length_finRange]

/-- The words of one opcode by their place among them. -/
theorem getElem?_addressed (op : Opcode) (c : Cell) :
    (addressed op)[32 * c.step.val + (16 * c.phase.index.val + c.flags.val)]?
      = some (op.word c) := by
  obtain ⟨flags, step, phase⟩ := c
  have hphase := phase.index.isLt
  have hplace : Phase.all[phase.index.val]? = some phase := by cases phase <;> rfl
  unfold addressed
  rw [getElem?_flatMap_blocks (fun _ => by simp [Phase.all]) _ _ (by dsimp only; omega),
    List.getElem?_eq_getElem (by simp), List.getElem_finRange, Option.bind_some,
    getElem?_flatMap_blocks (fun _ => by simp) _ _ flags.isLt, hplace, Option.bind_some]
  simp

/-- The bytes of one opcode in an image. -/
theorem length_image_block (shift : Nat) (op : Opcode) :
    ((addressed op).flatMap (pairBytes shift)).length = 512 := by
  rw [length_flatMap_blocks (n := 2) (fun _ => rfl), length_addressed]

theorem length_epromImage (t : OpcodeTable) (pair : Fin 3) :
    (t.epromImage pair).length = 131072 := by
  unfold epromImage
  rw [length_flatMap_blocks (length_image_block _), Vector.length_toList]

/-- **What stands at an address**: the two bytes of the word. -/
theorem getElem?_epromImage (t : OpcodeTable) (pair : Fin 3) (code : UInt8) (c : Cell) {k : Nat}
    (hk : k < 2) :
    (t.epromImage pair)[2 * epromAddress code c + k]?
      = (pairBytes pairShifts[pair] ((t.lookup code).word c))[k]? := by
  have hphase := c.phase.index.isLt
  -- The address, split into the places in the three kinds of blocks.
  rw [show 2 * epromAddress code c + k = 512 * code.toNat
      + (2 * (32 * c.step.val + (16 * c.phase.index.val + c.flags.val)) + k) by
    unfold epromAddress
    omega]
  unfold epromImage
  rw [getElem?_flatMap_blocks (length_image_block _) _ _ (by omega),
    show t.entries.toList[code.toNat]? = some (t.lookup code) by
      rw [Vector.getElem?_toList]
      exact Vector.getElem?_eq_getElem _,
    Option.bind_some, getElem?_flatMap_blocks (n := 2) (fun _ => rfl) _ _ hk, getElem?_addressed,
    Option.bind_some]

/-! ## Reading words back -/

/-- **The word that three images hold at an address.** The bits of each byte are
turned around, and the bytes joined, those of the first image first. -/
def burntWord? (images : Fin 3 → List UInt8) (address : Nat) : Option ControlWord := do
  let pairs ← (List.finRange 3).mapM fun pair => do
    return [← (images pair)[2 * address]?, ← (images pair)[2 * address + 1]?]
  return .ofWire (pairs.flatten.map fun b => UInt8.ofBitVec b.toBitVec.reverse)

theorem burntWord?_epromImage (t : OpcodeTable) (code : UInt8) (c : Cell)
    (hfits : ((t.lookup code).word c).fits = true) :
    burntWord? t.epromImage (epromAddress code c) = some ((t.lookup code).word c) := by
  have hhigh (pair : Fin 3) := getElem?_epromImage t pair code c (k := 0) (by decide)
  have hlow (pair : Fin 3) := getElem?_epromImage t pair code c (k := 1) (by decide)
  unfold burntWord?
  simp only [Nat.add_zero] at hhigh
  simp only [hhigh, hlow]
  show some (ControlWord.ofWire ([40, 32, 24, 16, 8, 0].map fun shift =>
    UInt8.ofBitVec (reverseBits (UInt8.ofBitVec
      (((t.lookup code).word c).bits.extractLsb' shift 8))).toBitVec.reverse)) = _
  simp only [reverse_reverseBits]
  rw [ControlWord.ofWire_bytes hfits]

/-- **The images carry all lines.** If the words of a table fit, each image has
a byte for every half of every address, every word is read back from its
address, and a table of such words with the same images has the same lines. -/
theorem images_carry_lines (t : OpcodeTable)
    (hfits : ∀ code c, ((t.lookup code).word c).fits = true) :
    (∀ pair, (t.epromImage pair).length = 131072)
    ∧ (∀ code c, burntWord? t.epromImage (epromAddress code c) = some ((t.lookup code).word c))
    ∧ ∀ t' : OpcodeTable, (∀ code c, ((t'.lookup code).word c).fits = true) →
        t'.epromImage = t.epromImage → ∀ code, (t'.lookup code).lines = (t.lookup code).lines := by
  refine ⟨length_epromImage t, fun code c => burntWord?_epromImage t code c (hfits code c),
    fun t' hfits' himages code => Matrix.ext fun c => ?_⟩
  have hword := burntWord?_epromImage t' code c (hfits' code c)
  rw [himages, burntWord?_epromImage t code c (hfits code c)] at hword
  exact (Option.some.inj hword).symm

/-- The images of the built-in table carry the word of every cell. -/
theorem images_carry_builtin :
    (∀ code c, ((builtin.lookup code).word c).fits = true)
      ∧ (builtin.epromImage 0).length = 131072
      ∧ burntWord? builtin.epromImage (epromAddress 0xEA ⟨0, 1, .phi2⟩)
        = some ((builtin.lookup 0xEA).word ⟨0, 1, .phi2⟩) := by
  have hfits : ∀ code c, ((builtin.lookup code).word c).fits = true := fun code c =>
    lookup_builtin code ▸ Declaration.fits_word (Catalogue.declaration_behaves code) c
  have h := images_carry_lines builtin hfits
  exact ⟨hfits, h.1 0, h.2.1 _ _⟩

end OpcodeTable

end Breadboard
