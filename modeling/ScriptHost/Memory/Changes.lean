/-
What changed between two states of a memory: the longest runs of neighbouring bytes whose values differ, in order. Where
one state is shorter, the bytes that it lacks count as zero.
-/
import ScriptHost.Memory.Paged

namespace ScriptHost

/-- a run of changed bytes: the offset of its first byte, and the new values -/
structure Change where
  offset : Nat
  bytes : List UInt8
deriving DecidableEq, Repr

namespace Change

/-- puts a changed byte in front of the runs that follow it -/
def cons (offset : Nat) (b : UInt8) : List Change → List Change
  | [] => [⟨offset, [b]⟩]
  | run :: rest =>
    if run.offset = offset + 1 then ⟨offset, b :: run.bytes⟩ :: rest else ⟨offset, [b]⟩ :: run :: rest

end Change

/-- the byte at an index, zero where there is none -/
def byteAt (bytes : ByteArray) (i : Nat) : UInt8 := if h : i < bytes.size then bytes[i] else 0

/-- the changed runs of the first `n` bytes, in front of the runs that follow them; the first byte has an offset -/
def changesBelow (start : Nat) (before after : ByteArray) : (n : Nat) → List Change → List Change
  | 0, runs => runs
  | n + 1, runs =>
    let new := byteAt after n
    changesBelow start before after n (if byteAt before n = new then runs else Change.cons (start + n) new runs)

/-- the changed runs between two states of a plain memory, in order -/
def ByteMemory.changes (before after : ByteMemory) : List Change :=
  if before.bytes.beq after.bytes then []
  else changesBelow 0 before.bytes after.bytes (max before.bytes.size after.bytes.size) []

/-- the changed runs between two states of a memory in pages, in order -/
def PagedMemory.changes (before after : PagedMemory) : List Change :=
  (List.range (max before.pages.size after.pages.size)).foldr
    (fun k runs =>
      if (before.page k).looksLike (after.page k) then runs
      else changesBelow (k * pageSize) (before.page k).bytes (after.page k).bytes pageSize runs) []

end ScriptHost
