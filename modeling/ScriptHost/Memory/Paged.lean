/-
Memory in pages, as guests have it. A page whose bytes are all equal is kept as that one byte, so a memory needs room
only for what is written to it, however large it is.

A region is treated page by page. Page `k` holds the bytes from `k * pageSize` on; of a region that starts at `offset`
it holds the bytes from its own index `offset - k * pageSize` on, which is 0 where the region starts before the page.
-/
import ScriptHost.Memory.Basic

namespace ScriptHost

/-- the unit in which the memory of a guest is measured and grows -/
def pageSize : Nat := 65536

/-- the bytes of one page -/
inductive Page where
  /-- all bytes have one value -/
  | uniform (b : UInt8)
  | mixed (bytes : ByteArray)

namespace Page

/-- a page that nothing was written to -/
def blank : Page := uniform 0

def bytes : Page → ByteArray
  | uniform b => filled pageSize b
  | mixed bytes => bytes

/-- are two pages kept in the same way and with the same bytes? A page can be kept in two ways, so they may hold the
same bytes even if not -/
def looksLike : Page → Page → Bool
  | uniform b, uniform b' => b == b'
  | mixed bytes, mixed bytes' => bytes.beq bytes'
  | _, _ => false

/-- the bytes from index `first` up to index `last`, which is left out -/
def slice (first last : Nat) : Page → ByteArray
  | uniform b => filled (last - first) b
  | mixed bytes => bytes.extract first last

/-- the page with the bytes from index `i` on replaced -/
def write (i : Nat) (new : ByteArray) (page : Page) : Page := mixed (overwrite page.bytes i new)

/-- the page with the bytes from index `first` up to index `last` replaced by one value -/
def fill (first last : Nat) (b : UInt8) (page : Page) : Page :=
  if first = 0 ∧ last = pageSize then uniform b else page.write first (filled (last - first) b)

end Page

/-- a memory that consists of whole pages -/
structure PagedMemory where
  pages : Array Page := #[]

namespace PagedMemory

/-- `n` blank pages -/
def blank (n : Nat) : PagedMemory := ⟨Array.replicate n .blank⟩

/-- the memory with `n` more pages -/
def grow (m : PagedMemory) (n : Nat) : PagedMemory := ⟨m.pages ++ (blank n).pages⟩

/-- the page at an index; behind the memory all pages are blank -/
def page (m : PagedMemory) (k : Nat) : Page := m.pages.getD k .blank

/-- the index of the first page that a region does not reach -/
def reach (offset len : Nat) : Nat := (offset + len + (pageSize - 1)) / pageSize

/-- the indices of the pages that a region touches, in order -/
def touched (offset len : Nat) : List Nat :=
  List.range' (offset / pageSize) (reach offset len - offset / pageSize)

/-- where a region ends inside a page -/
def stop (offset len k : Nat) : Nat := min pageSize (offset + len - k * pageSize)

/-- the bytes of a region -/
def read (m : PagedMemory) (offset len : Nat) : ByteArray :=
  (touched offset len).foldl
    (fun bytes k => bytes ++ (m.page k).slice (offset - k * pageSize) (stop offset len k)) .empty

/-- the part of some bytes that falls into a page when they are written to an offset -/
def part (offset : Nat) (bytes : ByteArray) (k : Nat) : ByteArray :=
  bytes.extract (k * pageSize - offset) ((k + 1) * pageSize - offset)

/-- the memory with bytes written to an offset, as far as it reaches -/
def write (m : PagedMemory) (offset : Nat) (bytes : ByteArray) : PagedMemory :=
  ⟨(touched offset bytes.size).foldl
    (fun pages k => pages.modify k (Page.write (offset - k * pageSize) (part offset bytes k))) m.pages⟩

/-- the memory with `len` bytes of one value from an offset on, as far as it reaches -/
def fill (m : PagedMemory) (offset len : Nat) (b : UInt8) : PagedMemory :=
  ⟨(touched offset len).foldl
    (fun pages k => pages.modify k (Page.fill (offset - k * pageSize) (stop offset len k) b)) m.pages⟩

instance : LinearMemory PagedMemory where
  size m := m.pages.size * pageSize
  copyOut m offset len := if offset + len ≤ m.pages.size * pageSize then some (m.read offset len) else none
  copyIn m offset bytes :=
    if offset + bytes.size ≤ m.pages.size * pageSize then some (m.write offset bytes) else none

end PagedMemory

end ScriptHost
