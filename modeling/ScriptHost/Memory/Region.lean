/-
Writes that belong together. A call that answers in guest memory first settles all regions that it will write and then
writes them one after another; the first refusal ends the writing, and what was written before it stays.
-/
import ScriptHost.Memory.Access

namespace ScriptHost

variable {μ : Type} [LinearMemory μ]

/-- bytes and the address they go to -/
structure Region where
  addr : Pointer
  bytes : ByteArray

namespace Region

open Wire

variable {α : Type} [WireValue α]

/-- a value of a fixed layout as it goes to an address -/
def ofValue (addr : Pointer) (value : α) : Region := ⟨addr, (encode value).toByteArray⟩

/-- values as a packed array that goes to an address -/
def ofValues (addr : Pointer) (values : List α) : Region := ⟨addr, (encodeAll values).toByteArray⟩

end Region

/-- writes the regions in order, up to the first that is refused -/
def writeRegions (m : μ) : List Region → μ × Except AccessError Unit
  | [] => (m, .ok ())
  | region :: rest =>
    match writeBytes m region.addr region.bytes with
    | (m, .ok ()) => writeRegions m rest
    | (m, .error e) => (m, .error e)

end ScriptHost
