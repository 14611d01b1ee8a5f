/-
Modules: what the host knows of a guest before it is linked. A module declares the functions that it imports and perhaps
a memory, says what the memory holds at first and what the guest does when it is linked, and exports functions, its
memory and its globals under names that differ from each other.
-/
import ScriptHost.Guest.Import
import ScriptHost.Guest.Program

namespace ScriptHost

/-- how many pages a memory can have -/
def maxPages : Nat := 65536

/-- something that a module exports -/
inductive ExportItem where
  /-- a function, as a behaviour that depends on the words of a call -/
  | function (params results : List WordType) (body : List Word → Program)
  | memory
  | global

/-- bytes that a memory holds at first -/
structure DataSegment where
  offset : Pointer
  bytes : List UInt8
deriving DecidableEq, Repr

/-- a module -/
structure Module where
  imports : List Import := []
  /-- the number of pages that the memory has at first; a module may have no memory -/
  pages : Option Nat := none
  data : List DataSegment := []
  /-- what the guest does when it is linked -/
  start : Program := .done
  exports : List (String × ExportItem) := []

namespace Module

/-- what a module exports under a name -/
def export? (m : Module) (name : String) : Option ExportItem := m.exports.lookup name

/-- the host's functions for all imports, in order -/
def link? (m : Module) (sceneNamespace : String) : Option (List HostFunction) :=
  m.imports.mapM (HostFunction.ofImport? sceneNamespace)

/-- the memory before any data is written -/
def blankMemory (m : Module) : PagedMemory := .blank (m.pages.getD 0)

/-- writes data segments; one that does not lie inside the memory cannot be written -/
def writeData? (memory : PagedMemory) : List DataSegment → Option PagedMemory
  | [] => some memory
  | segment :: rest => do writeData? (← LinearMemory.copyIn memory segment.offset.toNat segment.bytes.toByteArray) rest

/-- the memory when the guest is linked -/
def memory? (m : Module) : Option PagedMemory := writeData? m.blankMemory m.data

/-- the start of every binary module, and the whole of a module that declares nothing -/
def header : List UInt8 := [0x00, 0x61, 0x73, 0x6D, 0x01, 0x00, 0x00, 0x00]

/-- the module in a binary; of binaries only the one that declares nothing is understood -/
def ofBytes (bytes : List UInt8) : Except String Module :=
  if bytes = header then .ok {} else .error "not a module"

end Module

end ScriptHost
