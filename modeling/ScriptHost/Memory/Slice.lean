/-
Copies between slices of bytes, as a plain memory makes them for whoever holds it. An index of a slice has 64 bits, and so
has an offset. A copy works out the range that it asks for and cuts the slice there; then it copies between two slices,
which have to be equally long. If they are not, the host stops.

A range that ends past the last index ends at the last index instead, so it can be shorter than what was asked for.
-/
import ScriptHost.Memory.Basic

namespace ScriptHost

/-- an index of a slice -/
abbrev Offset := UInt64

/-- the last index -/
def lastOffset : Offset := 0xFFFFFFFFFFFFFFFF

/-- no slice is as long as this -/
def sliceLimit : Nat := 0x8000000000000000

/-- where a range of `len` bytes ends -/
def rangeEnd (start : Offset) (len : Nat) : Offset :=
  if start.toNat + len ≤ lastOffset.toNat then UInt64.ofNat (start.toNat + len) else lastOffset

/-- the bytes from one index up to another, which is left out, if there are such bytes -/
def slice? (bytes : ByteArray) (start stop : Offset) : Option ByteArray :=
  if start.toNat ≤ stop.toNat ∧ stop.toNat ≤ bytes.size then some (bytes.extract start.toNat stop.toNat) else none

/-- two slices between which bytes were to be copied are not equally long; this stops the host -/
structure UnequalSlices where
deriving DecidableEq, Repr

/-- what a slice holds after another one was copied to it -/
def copySlice (target source : ByteArray) : Except UnequalSlices ByteArray :=
  if target.size = source.size then .ok source else .error {}

namespace ByteMemory

/-- copies bytes out to a slice; answers whether it did, with what the slice holds then -/
def readInto (m : ByteMemory) (offset : Offset) (target : ByteArray) : Except UnequalSlices (Bool × ByteArray) :=
  match slice? m.bytes offset (rangeEnd offset target.size) with
  | some source => do return (true, ← copySlice target source)
  | none => return (false, target)

/-- copies the bytes of a slice in; answers whether it did, with what the memory holds then -/
def writeFrom (m : ByteMemory) (offset : Offset) (source : ByteArray) : Except UnequalSlices (Bool × ByteMemory) :=
  match slice? m.bytes offset (rangeEnd offset source.size) with
  | some target => do return (true, ⟨overwrite m.bytes offset.toNat (← copySlice target source)⟩)
  | none => return (false, m)

end ByteMemory

namespace WindowMemory

/-- copies bytes of the window out -/
def readInto (m : WindowMemory) (offset : Offset) (target : ByteArray) : Except UnequalSlices (Bool × ByteArray) :=
  if m.base ≤ offset.toNat then m.window.readInto (UInt64.ofNat (offset.toNat - m.base)) target
  else return (false, target)

/-- copies bytes into the window -/
def writeFrom (m : WindowMemory) (offset : Offset) (source : ByteArray) :
    Except UnequalSlices (Bool × WindowMemory) := do
  if m.base ≤ offset.toNat then
    let (done, window) ← m.window.writeFrom (UInt64.ofNat (offset.toNat - m.base)) source
    return (done, { m with window })
  else return (false, m)

end WindowMemory

end ScriptHost
