/-
Guest memory as the host sees it: a size in bytes and two raw copies. A copy happens whole, or is refused and then
changes nothing.

Two memories are given here. `ByteMemory` allows exactly the copies that lie inside it. `WindowMemory` announces a size
of its own and allows the copies that lie inside one window of addresses, as where a host maps only a part of the
guest's memory.
-/
namespace ScriptHost

/-- an address in a guest's memory -/
abbrev Pointer := UInt32

/-- why the host cannot read or write a region of guest memory -/
inductive AccessError where
  /-- the region does not lie inside the memory -/
  | outOfBounds
  /-- the value is longer than the buffer that the guest declared for it -/
  | bufferTooSmall
  /-- the instance has no memory bound to the host -/
  | unavailable
deriving DecidableEq, Repr

/-- a memory that can be measured and copied from and to -/
class LinearMemory (μ : Type) where
  /-- the size in bytes -/
  size : μ → Nat
  /-- copies `len` bytes out, starting at an offset -/
  copyOut : μ → (offset len : Nat) → Option ByteArray
  /-- copies bytes in, starting at an offset -/
  copyIn : μ → (offset : Nat) → ByteArray → Option μ

/-! ## Bytes -/

/-- `n` bytes of one value -/
def filled (n : Nat) (b : UInt8) : ByteArray :=
  if n = 0 then .empty
  else
    let half := filled (n / 2) b
    if n % 2 = 0 then half ++ half else (half ++ half).push b

/-- replaces the bytes from index `i` on by others -/
def overwrite (bytes : ByteArray) (i : Nat) (new : ByteArray) : ByteArray := new.copySlice 0 bytes i new.size

@[simp] theorem size_filled (n : Nat) (b : UInt8) : (filled n b).size = n := by
  fun_induction filled n b with
  | case1 => rfl
  | case2 n _ half even ih => simp only [half, ByteArray.size_append, ih]; omega
  | case3 n _ half odd ih => simp only [half, ByteArray.size_push, ByteArray.size_append, ih]; omega

/-- replacing bytes keeps the size, where there are bytes to replace -/
theorem size_overwrite (bytes : ByteArray) (i : Nat) (new : ByteArray) (h : i + new.size ≤ bytes.size) :
    (overwrite bytes i new).size = bytes.size := by
  have hsize : new.data.size = new.size := rfl
  rw [overwrite, ByteArray.copySlice_eq_append]
  simp only [ByteArray.size_append, ByteArray.size_extract, hsize, ByteArray.size_data]
  omega

/-! ## Plain memories -/

/-- a memory that is a plain sequence of bytes -/
structure ByteMemory where
  bytes : ByteArray

namespace ByteMemory

instance : LinearMemory ByteMemory where
  size m := m.bytes.size
  copyOut m offset len :=
    if offset + len ≤ m.bytes.size then some (m.bytes.extract offset (offset + len)) else none
  copyIn m offset bytes :=
    if offset + bytes.size ≤ m.bytes.size then some ⟨overwrite m.bytes offset bytes⟩ else none

end ByteMemory

/-! ## Memories of which a part is mapped -/

/-- a memory that says it is `size` bytes long and lets the host reach the bytes of `window`, the first at `base` -/
structure WindowMemory where
  size : Nat
  base : Nat
  window : ByteMemory

namespace WindowMemory

instance : LinearMemory WindowMemory where
  size m := m.size
  copyOut m offset len :=
    if m.base ≤ offset then LinearMemory.copyOut m.window (offset - m.base) len else none
  copyIn m offset bytes :=
    if m.base ≤ offset then
      (LinearMemory.copyIn m.window (offset - m.base) bytes).map fun window => { m with window }
    else none

end WindowMemory

end ScriptHost
