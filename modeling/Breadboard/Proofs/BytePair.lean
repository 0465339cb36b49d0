/-!
# Addresses as two bytes

An address is sent and saved as two bytes, the low one first. Nothing is lost either way: any two
bytes are those of an address, and the address is made up of them.
-/

namespace Breadboard

variable (low high : UInt8) (a : UInt16)

/-- **Two bytes as a number**: the low one, and the high one two hundred and fifty-six times. -/
theorem toNat_or_shiftLeft :
    (low.toUInt16 ||| (high.toUInt16 <<< 8)).toNat = low.toNat + 256 * high.toNat := by
  have hlow : low.toNat < 2 ^ 8 := low.toNat_lt
  have hhigh : high.toNat * 2 ^ 8 < 2 ^ 16 := by
    have := high.toNat_lt
    omega
  have hshift : (high.toUInt16 <<< 8).toNat = high.toNat * 2 ^ 8 := by
    rw [UInt16.toNat_shiftLeft, UInt8.toNat_toUInt16, Nat.shiftLeft_eq]
    exact Nat.mod_eq_of_lt hhigh
  rw [UInt16.toNat_or, UInt8.toNat_toUInt16, hshift, Nat.or_comm, Nat.mul_comm,
    ← Nat.two_pow_add_eq_or_of_lt hlow]
  omega

theorem toNat_high_byte : (a >>> 8).toUInt8.toNat = a.toNat / 256 := by
  have ha : a.toNat < 2 ^ 16 := a.toNat_lt
  have hshift : (a >>> 8).toNat = a.toNat / 256 := by
    rw [UInt16.toNat_shiftRight, Nat.shiftRight_eq_div_pow]
    rfl
  rw [UInt16.toNat_toUInt8, hshift]
  omega

/-- The low byte of two bytes. -/
theorem low_of_or_shiftLeft : (low.toUInt16 ||| (high.toUInt16 <<< 8)).toUInt8 = low := by
  have hlow := low.toNat_lt
  apply UInt8.toNat.inj
  rw [UInt16.toNat_toUInt8, toNat_or_shiftLeft]
  omega

/-- The high byte of two bytes. -/
theorem high_of_or_shiftLeft : ((low.toUInt16 ||| (high.toUInt16 <<< 8)) >>> 8).toUInt8 = high := by
  have hlow := low.toNat_lt
  apply UInt8.toNat.inj
  rw [toNat_high_byte, toNat_or_shiftLeft]
  omega

/-- **The bytes of an address** make it up. -/
theorem or_shiftLeft_bytes : a.toUInt8.toUInt16 ||| ((a >>> 8).toUInt8.toUInt16 <<< 8) = a := by
  apply UInt16.toNat.inj
  rw [toNat_or_shiftLeft, toNat_high_byte, UInt16.toNat_toUInt8]
  omega

end Breadboard
