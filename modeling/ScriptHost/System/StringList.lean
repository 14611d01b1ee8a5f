/-
Lists of strings in guest memory. A guest first asks for the number of strings and for the bytes that all of them take
with a zero byte after each; then it has them written: an array of pointers, and the strings themselves packed into one
buffer in the same order.
-/
import ScriptHost.Memory.Region

namespace ScriptHost

open Wire

variable {μ : Type} [LinearMemory μ]

namespace StringList

/-- a string with its terminator -/
def terminated (text : String) : ByteArray := text.toUTF8.push 0

/-- a number that is told to the guest in one word -/
def word (n : Nat) : Except AccessError UInt32 :=
  if n < wordLimit then .ok (UInt32.ofNat n) else .error .bufferTooSmall

/-- the number of bytes that a string takes with its terminator -/
def room (text : String) : Nat := text.utf8ByteSize + 1

/-- the number of bytes that some strings take with their terminators -/
def totalSize : List String → Nat
  | [] => 0
  | text :: rest => room text + totalSize rest

/-- the number of strings, and the size of the buffer that holds them all -/
def sizes (strings : List String) : Except AccessError (UInt32 × UInt32) := do
  let count ← word strings.length
  let size ← word (totalSize strings)
  return (count, size)

/-- the pointers to strings that are packed from an address on -/
def pointers : (address : Nat) → List String → Except AccessError (List Pointer)
  | _, [] => .ok []
  | address, text :: rest => do
    let first ← pointer address
    return first :: (← pointers (address + room text) rest)

/-- the packed strings -/
def packed (strings : List String) : ByteArray :=
  strings.foldl (fun bytes text => bytes ++ terminated text) .empty

@[simp] theorem size_terminated (text : String) : (terminated text).size = room text := by
  simp [terminated, room, String.toUTF8]

/-- the packed strings take as many bytes as the guest is told -/
@[simp] theorem size_packed (strings : List String) : (packed strings).size = totalSize strings := by
  suffices h : ∀ start : ByteArray,
      (strings.foldl (fun bytes text => bytes ++ terminated text) start).size = start.size + totalSize strings by
    simpa [packed] using h .empty
  intro start
  induction strings generalizing start with
  | nil => rfl
  | cons text rest ih => simp [ih, totalSize, Nat.add_assoc]

/-- the regions that tell a guest the sizes; both slots are checked before either is written -/
def sizeRegions (m : μ) (strings : List String) (count size : Pointer) : Except AccessError (List Region) := do
  let (n, total) ← sizes strings
  checkBounds (LinearMemory.size m) count 4
  checkBounds (LinearMemory.size m) size 4
  return [.ofValue count n, .ofValue size total]

/-- the regions that hold the pointers and the strings; both are checked before either is written -/
def regions (m : μ) (strings : List String) (array buffer : Pointer) : Except AccessError (List Region) := do
  let first := Region.ofValues array (← pointers buffer.toNat strings)
  checkBounds (LinearMemory.size m) array first.bytes.size
  checkBounds (LinearMemory.size m) buffer (totalSize strings)
  return [first, ⟨buffer, packed strings⟩]

/-- writes what was planned, if it could be planned -/
def perform (m : μ) : Except AccessError (List Region) → μ × Except AccessError Unit
  | .ok regions => writeRegions m regions
  | .error e => (m, .error e)

/-- writes the number of strings and the size of their buffer -/
def writeSizes (m : μ) (strings : List String) (count size : Pointer) : μ × Except AccessError Unit :=
  perform m (sizeRegions m strings count size)

/-- writes the strings and the pointers to them -/
def write (m : μ) (strings : List String) (array buffer : Pointer) : μ × Except AccessError Unit :=
  perform m (regions m strings array buffer)

end StringList

end ScriptHost
