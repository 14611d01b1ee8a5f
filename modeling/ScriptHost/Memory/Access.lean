/-
Checked access to guest memory. Every region is checked against the memory's size, in unbounded arithmetic, before any
byte is copied, so an address near the top of the 32-bit range never wraps around and a refused access changes nothing.
-/
import ScriptHost.Memory.Basic
import ScriptHost.Text.Utf8
import ScriptHost.Wire.Value

namespace ScriptHost

open Wire

variable {μ : Type} [LinearMemory μ] {α : Type} [WireValue α]

/-- does a region of `len` bytes lie inside a memory of `size` bytes? -/
def checkBounds (size : Nat) (addr : Pointer) (len : Nat) : Except AccessError Unit :=
  if addr.toNat + len ≤ size then .ok () else .error .outOfBounds

theorem checkBounds_eq_ok_iff (size : Nat) (addr : Pointer) (len : Nat) :
    checkBounds size addr len = .ok () ↔ addr.toNat + len ≤ size := by
  unfold checkBounds
  split <;> simp_all

/-- an address that is computed and may be past what a pointer can say -/
def pointer (address : Nat) : Except AccessError Pointer :=
  if address < wordLimit then .ok (UInt32.ofNat address) else .error .outOfBounds

/-- reads `len` bytes -/
def readBytes (m : μ) (addr : Pointer) (len : Nat) : Except AccessError ByteArray := do
  checkBounds (LinearMemory.size m) addr len
  match LinearMemory.copyOut m addr.toNat len with
  | some bytes => return bytes
  | none => throw .outOfBounds

/-- writes bytes, all or none -/
def writeBytes (m : μ) (addr : Pointer) (bytes : ByteArray) : μ × Except AccessError Unit :=
  match checkBounds (LinearMemory.size m) addr bytes.size with
  | .ok () =>
    match LinearMemory.copyIn m addr.toNat bytes with
    | some m => (m, .ok ())
    | none => (m, .error .outOfBounds)
  | .error e => (m, .error e)

/-- reads a value of a fixed layout -/
def readValue (m : μ) (addr : Pointer) : Except AccessError α := do
  match decode? (← readBytes m addr (wireSize α)).data.toList with
  | some value => return value
  | none => throw .outOfBounds

/-- writes a value of a fixed layout -/
def writeValue (m : μ) (addr : Pointer) (value : α) : μ × Except AccessError Unit :=
  writeBytes m addr (encode value).toByteArray

/-- writes values as a packed array -/
def writeArray (m : μ) (addr : Pointer) (values : List α) : μ × Except AccessError Unit :=
  writeBytes m addr (encodeAll values).toByteArray

/-- reads `len` bytes as text; bytes that are no text are replaced, so only the bounds can fail -/
def readText (m : μ) (addr : Pointer) (len : Nat) : Except AccessError String := do
  return Text.decodeLossy (← readBytes m addr len)

/-- the bytes of a text, if they fit into a buffer of `capacity` bytes -/
def textBytes (capacity : Nat) (text : String) : Except AccessError ByteArray :=
  if text.utf8ByteSize ≤ capacity then .ok text.toUTF8 else .error .bufferTooSmall

/-- the length of a text in bytes, as the signed word that tells it to a guest -/
def textLength (text : String) : Except AccessError Int32 :=
  if text.utf8ByteSize < signedLimit then .ok (Int32.ofNat text.utf8ByteSize) else .error .bufferTooSmall

/-- writes a text into a guest's buffer of `capacity` bytes, without a terminator -/
def writeText (m : μ) (addr : Pointer) (capacity : Nat) (text : String) : μ × Except AccessError Unit :=
  match textBytes capacity text with
  | .ok bytes => writeBytes m addr bytes
  | .error e => (m, .error e)

/-- writes the number of bytes that `writeText` needs -/
def writeTextLength (m : μ) (addr : Pointer) (text : String) : μ × Except AccessError Unit :=
  match textLength text with
  | .ok length => writeValue m addr length
  | .error e => (m, .error e)

end ScriptHost
