/-
Byte arrays byte by byte. `byteAt` is total, so these hold for every index, and two arrays of one size with the same
bytes are equal (`ext_byteAt`).
-/
import ScriptHost.Memory.Changes

namespace ScriptHost

theorem byteAt_of_lt {bytes : ByteArray} {i : Nat} (h : i < bytes.size) : byteAt bytes i = bytes[i] := by
  simp [byteAt, h]

theorem byteAt_of_size_le {bytes : ByteArray} {i : Nat} (h : bytes.size ≤ i) : byteAt bytes i = 0 := by
  simp [byteAt, Nat.not_lt.2 h]

theorem ext_byteAt {a b : ByteArray} (hsize : a.size = b.size) (h : ∀ i < a.size, byteAt a i = byteAt b i) :
    a = b := by
  apply ByteArray.ext_getElem hsize
  intro i ha hb
  rw [← byteAt_of_lt ha, ← byteAt_of_lt hb]
  exact h i ha

theorem byteAt_append (a b : ByteArray) (i : Nat) :
    byteAt (a ++ b) i = if i < a.size then byteAt a i else byteAt b (i - a.size) := by
  by_cases hi : i < (a ++ b).size
  · have hsum := ByteArray.size_append (a := a) (b := b)
    rw [byteAt_of_lt hi]
    split
    · rename_i ha
      rw [byteAt_of_lt ha, ByteArray.getElem_append_left ha]
    · rename_i ha
      rw [byteAt_of_lt (by omega), ByteArray.getElem_append_right (by omega)]
  · rw [ByteArray.size_append] at hi
    rw [byteAt_of_size_le (by rw [ByteArray.size_append]; omega), if_neg (by omega), byteAt_of_size_le (by omega)]

theorem byteAt_extract (bytes : ByteArray) {first last i : Nat} (hi : first + i < last) :
    byteAt (bytes.extract first last) i = byteAt bytes (first + i) := by
  have hsize : (bytes.extract first last).size = min last bytes.size - first := ByteArray.size_extract
  by_cases h : first + i < bytes.size
  · rw [byteAt_of_lt h, byteAt_of_lt (by omega), ByteArray.getElem_extract]
  · rw [byteAt_of_size_le (Nat.not_lt.1 h), byteAt_of_size_le (by omega)]

/-- an overwritten byte is the new one inside the replaced part, and the old one elsewhere -/
theorem byteAt_overwrite {bytes new : ByteArray} {start : Nat} (h : start + new.size ≤ bytes.size) (i : Nat) :
    byteAt (overwrite bytes start new) i =
      if start ≤ i ∧ i < start + new.size then byteAt new (i - start) else byteAt bytes i := by
  have hnew : new.data.size = new.size := rfl
  have hbefore : (bytes.extract 0 start).size = start := by rw [ByteArray.size_extract]; omega
  have hinner : (new.extract 0 (0 + new.size)).size = new.size := by rw [ByteArray.size_extract]; omega
  rw [overwrite, ByteArray.copySlice_eq_append, hnew, Nat.sub_zero, Nat.min_self, byteAt_append, byteAt_append,
    ByteArray.size_append, hbefore, hinner]
  by_cases hlow : i < start
  · rw [if_pos (by omega), if_pos hlow, if_neg (by omega), byteAt_extract _ (by omega), Nat.zero_add]
  · by_cases hhigh : i < start + new.size
    · rw [if_pos hhigh, if_neg hlow, if_pos (by omega), byteAt_extract _ (by omega), Nat.zero_add]
    · rw [if_neg hhigh, if_neg (by omega)]
      by_cases hin : i < bytes.size
      · rw [byteAt_extract _ (by rw [ByteArray.size_data]; omega)]
        congr 1
        omega
      · have hend : bytes.data.size = bytes.size := rfl
        rw [byteAt_of_size_le (Nat.not_lt.1 hin),
          byteAt_of_size_le (by rw [ByteArray.size_extract, hend]; omega)]

end ScriptHost
