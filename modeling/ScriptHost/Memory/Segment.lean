/-
Vectored output. A guest describes text that lies in several places by an array of 8-byte records, each the address and
the length of one segment; the text is the concatenation of the segments, so a character may be cut by a segment's end.
-/
import ScriptHost.Memory.Access

namespace ScriptHost

open Wire

variable {μ : Type} [LinearMemory μ]

/-- one piece of a vectored buffer -/
structure Segment where
  ptr : Pointer
  len : UInt32
deriving DecidableEq, Repr

/-- the size of a segment's record in a guest's array -/
def segmentRecordSize : Nat := 8

/-- reads `n` records, the first at an address -/
def readSegmentRecords (m : μ) : (address n : Nat) → Except AccessError (List Segment)
  | _, 0 => .ok []
  | address, n + 1 => do
    let ptr ← readValue m (← pointer address)
    let len ← readValue m (← pointer (address + 4))
    let rest ← readSegmentRecords m (address + segmentRecordSize) n
    return ⟨ptr, len⟩ :: rest

/-- reads an array of segment records; the whole array is checked first, so a huge count fails at once -/
def readSegments (m : μ) (addr : Pointer) (count : UInt32) : Except AccessError (List Segment) := do
  checkBounds (LinearMemory.size m) addr (segmentRecordSize * count.toNat)
  readSegmentRecords m addr.toNat count.toNat

/-- the bytes of all segments, one after another -/
def gather (m : μ) (segments : List Segment) : Except AccessError ByteArray :=
  segments.foldlM (fun bytes segment => do return bytes ++ (← readBytes m segment.ptr segment.len.toNat)) .empty

/-- the bytes that an array of segment records describes -/
def readGathered (m : μ) (addr : Pointer) (count : UInt32) : Except AccessError ByteArray := do
  gather m (← readSegments m addr count)

/-- the text that an array of segment records describes, and the number of its bytes -/
def readVector (m : μ) (addr : Pointer) (count : UInt32) : Except AccessError (String × Nat) := do
  let bytes ← readGathered m addr count
  return (Text.decodeLossy bytes, bytes.size)

end ScriptHost
