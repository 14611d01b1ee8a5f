/-
Memories as their bytes. An honest memory has a byte at every address, and the copies that it accepts read or change
exactly the bytes that they address; which copies it accepts is its own affair, and they need not be those that lie
inside its size. A lawful memory besides stands by what it has shown: a write that it accepts leaves its size as it was,
and which of the copies inside that size it accepts. An exact memory accepts just the copies inside its size.

- Plain memories are exact.
- A memory of which one window is mapped is lawful. It is exact only where the window is the whole memory.
-/
import ScriptHost.Proofs.Memory.Bytes

namespace ScriptHost

/-- a memory that is its bytes: an accepted copy reads or changes the bytes that it addresses, and changes no others -/
class HonestMemory (μ : Type) [LinearMemory μ] where
  /-- the byte at an address; addresses need not lie below the size -/
  byte : μ → Nat → UInt8
  size_copyOut {m : μ} {offset len : Nat} {bytes : ByteArray} :
    LinearMemory.copyOut m offset len = some bytes → bytes.size = len
  byteAt_copyOut {m : μ} {offset len : Nat} {bytes : ByteArray} :
    LinearMemory.copyOut m offset len = some bytes → ∀ i < len, byteAt bytes i = byte m (offset + i)
  byte_copyIn {m m' : μ} {offset : Nat} {bytes : ByteArray} :
    LinearMemory.copyIn m offset bytes = some m' → ∀ i, byte m' i =
      if offset ≤ i ∧ i < offset + bytes.size then byteAt bytes (i - offset) else byte m i

/-- an honest memory that an accepted write does not turn into another one: neither its size changes, nor which copies it
accepts among those that lie inside the size -/
class LawfulMemory (μ : Type) [LinearMemory μ] extends HonestMemory μ where
  size_copyIn {m m' : μ} {offset : Nat} {bytes : ByteArray} :
    LinearMemory.copyIn m offset bytes = some m' → LinearMemory.size m' = LinearMemory.size m
  isSome_copyOut {m m' : μ} {offset : Nat} {bytes : ByteArray} :
    LinearMemory.copyIn m offset bytes = some m' → ∀ start len, start + len ≤ LinearMemory.size m →
      (LinearMemory.copyOut m' start len).isSome = (LinearMemory.copyOut m start len).isSome
  isSome_copyIn {m m' : μ} {offset : Nat} {bytes : ByteArray} :
    LinearMemory.copyIn m offset bytes = some m' → ∀ start new, start + ByteArray.size new ≤ LinearMemory.size m →
      (LinearMemory.copyIn m' start new).isSome = (LinearMemory.copyIn m start new).isSome

/-- a memory that accepts exactly the copies that lie inside its size -/
class ExactMemory (μ : Type) [LinearMemory μ] extends LawfulMemory μ where
  isSome_copyOut_iff (m : μ) (offset len : Nat) :
    (LinearMemory.copyOut m offset len).isSome ↔ offset + len ≤ LinearMemory.size m
  isSome_copyIn_iff (m : μ) (offset : Nat) (bytes : ByteArray) :
    (LinearMemory.copyIn m offset bytes).isSome ↔ offset + bytes.size ≤ LinearMemory.size m

/-! ## Plain memories -/

namespace ByteMemory

theorem copyOut_eq_some {m : ByteMemory} {offset len : Nat} {bytes : ByteArray} :
    LinearMemory.copyOut m offset len = some bytes ↔
      offset + len ≤ m.bytes.size ∧ bytes = m.bytes.extract offset (offset + len) := by
  simp only [LinearMemory.copyOut]
  split
  · simp [*, eq_comm]
  · simp [*]

theorem copyIn_eq_some {m m' : ByteMemory} {offset : Nat} {bytes : ByteArray} :
    LinearMemory.copyIn m offset bytes = some m' ↔
      offset + bytes.size ≤ m.bytes.size ∧ m' = ⟨overwrite m.bytes offset bytes⟩ := by
  simp only [LinearMemory.copyIn]
  split
  · simp [*, eq_comm]
  · simp [*]

theorem isSome_copyOut_iff (m : ByteMemory) (offset len : Nat) :
    (LinearMemory.copyOut m offset len).isSome ↔ offset + len ≤ m.bytes.size := by
  simp only [LinearMemory.copyOut]
  split <;> simp [*]

theorem isSome_copyIn_iff (m : ByteMemory) (offset : Nat) (bytes : ByteArray) :
    (LinearMemory.copyIn m offset bytes).isSome ↔ offset + bytes.size ≤ m.bytes.size := by
  simp only [LinearMemory.copyIn]
  split <;> simp [*]

theorem size_copyIn {m m' : ByteMemory} {offset : Nat} {bytes : ByteArray}
    (h : LinearMemory.copyIn m offset bytes = some m') : m'.bytes.size = m.bytes.size := by
  obtain ⟨hin, rfl⟩ := copyIn_eq_some.1 h
  exact size_overwrite _ _ _ hin

instance : ExactMemory ByteMemory where
  byte m := byteAt m.bytes
  size_copyOut h := by
    obtain ⟨hin, rfl⟩ := copyOut_eq_some.1 h
    rw [ByteArray.size_extract]
    omega
  byteAt_copyOut h i hi := by
    obtain ⟨-, rfl⟩ := copyOut_eq_some.1 h
    exact byteAt_extract _ (by omega)
  byte_copyIn h i := by
    obtain ⟨hin, rfl⟩ := copyIn_eq_some.1 h
    exact byteAt_overwrite hin i
  size_copyIn := size_copyIn
  isSome_copyOut h start len _ := by
    rw [Bool.eq_iff_iff, isSome_copyOut_iff, isSome_copyOut_iff, size_copyIn h]
  isSome_copyIn h start new _ := by
    rw [Bool.eq_iff_iff, isSome_copyIn_iff, isSome_copyIn_iff, size_copyIn h]
  isSome_copyOut_iff := isSome_copyOut_iff
  isSome_copyIn_iff := isSome_copyIn_iff

end ByteMemory

/-! ## Memories of which a part is mapped -/

namespace WindowMemory

theorem copyOut_eq_some {m : WindowMemory} {offset len : Nat} {bytes : ByteArray} :
    LinearMemory.copyOut m offset len = some bytes ↔
      m.base ≤ offset ∧ LinearMemory.copyOut m.window (offset - m.base) len = some bytes := by
  change (if m.base ≤ offset then LinearMemory.copyOut m.window (offset - m.base) len else none) = _ ↔ _
  split <;> simp [*]

theorem copyIn_eq_some {m m' : WindowMemory} {offset : Nat} {bytes : ByteArray} :
    LinearMemory.copyIn m offset bytes = some m' ↔ m.base ≤ offset ∧
      ∃ window, LinearMemory.copyIn m.window (offset - m.base) bytes = some window ∧ { m with window } = m' := by
  change (if m.base ≤ offset then
    (LinearMemory.copyIn m.window (offset - m.base) bytes).map fun window => { m with window } else none) = _ ↔ _
  split <;> simp [*]

theorem isSome_copyOut_iff (m : WindowMemory) (offset len : Nat) :
    (LinearMemory.copyOut m offset len).isSome ↔
      m.base ≤ offset ∧ offset - m.base + len ≤ m.window.bytes.size := by
  change (if m.base ≤ offset then LinearMemory.copyOut m.window (offset - m.base) len else none).isSome ↔ _
  split
  · rw [ByteMemory.isSome_copyOut_iff]
    exact ⟨fun h => ⟨‹_›, h⟩, And.right⟩
  · simp [*]

theorem isSome_copyIn_iff (m : WindowMemory) (offset : Nat) (bytes : ByteArray) :
    (LinearMemory.copyIn m offset bytes).isSome ↔
      m.base ≤ offset ∧ offset - m.base + bytes.size ≤ m.window.bytes.size := by
  change (if m.base ≤ offset then
    (LinearMemory.copyIn m.window (offset - m.base) bytes).map fun window => { m with window } else none).isSome ↔ _
  split
  · rw [Option.isSome_map, ByteMemory.isSome_copyIn_iff]
    exact ⟨fun h => ⟨‹_›, h⟩, And.right⟩
  · simp [*]

instance : LawfulMemory WindowMemory where
  byte m i := if m.base ≤ i then HonestMemory.byte m.window (i - m.base) else 0
  size_copyOut h := HonestMemory.size_copyOut (copyOut_eq_some.1 h).2
  byteAt_copyOut {m offset len bytes} h i hi := by
    obtain ⟨hbase, hw⟩ := copyOut_eq_some.1 h
    rw [HonestMemory.byteAt_copyOut hw i hi, if_pos (by omega)]
    congr 1
    omega
  byte_copyIn {m m' offset bytes} h i := by
    obtain ⟨hbase, window, hw, rfl⟩ := copyIn_eq_some.1 h
    dsimp only
    by_cases hi : m.base ≤ i
    · rw [if_pos hi, HonestMemory.byte_copyIn hw]
      by_cases hin : offset ≤ i ∧ i < offset + bytes.size
      · rw [if_pos hin, if_pos (by omega)]
        congr 1
        omega
      · rw [if_neg hin, if_neg (by omega), if_pos hi]
    · rw [if_neg hi, if_neg (by omega), if_neg hi]
  size_copyIn h := by
    obtain ⟨-, window, -, rfl⟩ := copyIn_eq_some.1 h
    rfl
  isSome_copyOut h start len _ := by
    obtain ⟨-, window, hw, rfl⟩ := copyIn_eq_some.1 h
    rw [Bool.eq_iff_iff, isSome_copyOut_iff, isSome_copyOut_iff, ByteMemory.size_copyIn hw]
  isSome_copyIn h start new _ := by
    obtain ⟨-, window, hw, rfl⟩ := copyIn_eq_some.1 h
    rw [Bool.eq_iff_iff, isSome_copyIn_iff, isSome_copyIn_iff, ByteMemory.size_copyIn hw]

end WindowMemory

end ScriptHost
