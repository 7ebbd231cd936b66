/-!
# Numbers of four bytes

The values of the larger and the smaller of two numbers, and those of a number taken without its
sign and back.
-/

namespace Adventure

theorem toInt_max (a b : Int32) : (max a b).toInt = max a.toInt b.toInt := by
  show (if a ≤ b then b else a).toInt = _
  split
  · rename_i h
    rw [Int32.le_iff_toInt_le] at h
    omega
  · rename_i h
    rw [Int32.le_iff_toInt_le] at h
    omega

theorem toInt_min (a b : Int32) : (min a b).toInt = min a.toInt b.toInt := by
  show (if a ≤ b then a else b).toInt = _
  split
  · rename_i h
    rw [Int32.le_iff_toInt_le] at h
    omega
  · rename_i h
    rw [Int32.le_iff_toInt_le] at h
    omega

theorem toInt_toInt32 (w : UInt32) : w.toInt32.toInt = (w.toNat : Int).bmod 4294967296 :=
  BitVec.toInt_eq_toNat_bmod w.toBitVec

theorem toNat_toUInt32 (a : Int32) : (a.toUInt32.toNat : Int) = a.toInt % 4294967296 := by
  have hbits := toInt_toInt32 a.toUInt32
  have hlt := a.toUInt32.toNat_lt
  rw [Int32.toInt32_toUInt32, Int.bmod_eq_emod] at hbits
  split at hbits <;> omega

end Adventure
