/-! Big-endian 16-bit words in a byte stream. -/

namespace Dionysus.BigEndian

def high (word : UInt16) : UInt8 := (word >>> 8).toUInt8

def low (word : UInt16) : UInt8 := word.toUInt8

def word (high low : UInt8) : UInt16 := (high.toUInt16 <<< 8) ||| low.toUInt16

theorem high_toNat (value : UInt16) : (high value).toNat = value.toNat / 256 := by
  have bound := value.toNat_lt
  simp only [high, UInt16.toNat_toUInt8, UInt16.toNat_shiftRight]
  rw [show (8 : UInt16).toNat % 16 = 8 from rfl, Nat.shiftRight_eq_div_pow]
  omega

theorem low_toNat (value : UInt16) : (low value).toNat = value.toNat % 256 := by
  simp [low]

theorem word_toNat (high low : UInt8) : (word high low).toNat = 256 * high.toNat + low.toNat := by
  have top := high.toNat_lt
  have bottom := low.toNat_lt
  have shifted : (high.toUInt16 <<< 8).toNat = high.toNat <<< 8 := by
    simp only [UInt16.toNat_shiftLeft, UInt8.toNat_toUInt16]
    rw [show (8 : UInt16).toNat % 16 = 8 from rfl, Nat.shiftLeft_eq]
    omega
  rw [word, UInt16.toNat_or, shifted, UInt8.toNat_toUInt16, ← Nat.shiftLeft_add_eq_or_of_lt (by simpa using bottom),
    Nat.shiftLeft_eq]
  omega

theorem mask_eq_low (value : UInt16) : value &&& 0xFF = (low value).toUInt16 := by
  apply UInt16.toNat_inj.mp
  rw [UInt16.toNat_and, UInt8.toNat_toUInt16, low_toNat]
  exact Nat.and_two_pow_sub_one_eq_mod value.toNat 8

@[simp] theorem word_high_low (value : UInt16) : word (high value) (low value) = value := by
  apply UInt16.toNat_inj.mp
  rw [word_toNat, high_toNat, low_toNat]
  omega

@[simp] theorem high_word (top bottom : UInt8) : high (word top bottom) = top := by
  have below := bottom.toNat_lt
  apply UInt8.toNat_inj.mp
  rw [high_toNat, word_toNat]
  omega

@[simp] theorem low_word (top bottom : UInt8) : low (word top bottom) = bottom := by
  have below := bottom.toNat_lt
  apply UInt8.toNat_inj.mp
  rw [low_toNat, word_toNat]
  omega

end Dionysus.BigEndian
