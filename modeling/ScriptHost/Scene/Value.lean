/-
The values that elements are made of: single-precision numbers, vectors, rotations, colours and scales.

A single-precision number is kept as its 32-bit pattern. The host never calculates with one, it only stores and copies
them, so every pattern comes back as it was given, not-a-number payloads included.
-/
import ScriptHost.Wire.Value

namespace ScriptHost

open Wire

/-- a single-precision number, as its bit pattern -/
structure F32 where
  bits : UInt32
deriving DecidableEq, Repr

namespace F32

def zero : F32 := ⟨0⟩

def one : F32 := ⟨0x3F800000⟩

instance : WireValue F32 where
  wireSize := 4
  encode v := encode v.bits
  length_encode v := length_encode v.bits
  take? bytes := (take? bytes).map fun (bits, rest) => (⟨bits⟩, rest)

end F32

/-- a position, or a scale along each axis -/
structure Vec3 where
  x : F32
  y : F32
  z : F32
deriving DecidableEq, Repr

namespace Vec3

def zero : Vec3 := ⟨.zero, .zero, .zero⟩

/-- the same number on all three axes -/
def splat (v : F32) : Vec3 := ⟨v, v, v⟩

instance : WireValue Vec3 where
  wireSize := 12
  encode v := encode v.x ++ encode v.y ++ encode v.z
  length_encode v := by simp only [List.length_append, length_encode]; rfl
  take? bytes := do
    let (x, bytes) ← take? bytes
    let (y, bytes) ← take? bytes
    let (z, bytes) ← take? bytes
    return (⟨x, y, z⟩, bytes)

end Vec3

/-- a rotation -/
structure Quaternion where
  x : F32
  y : F32
  z : F32
  w : F32
deriving DecidableEq, Repr

namespace Quaternion

def identity : Quaternion := ⟨.zero, .zero, .zero, .one⟩

instance : WireValue Quaternion where
  wireSize := 16
  encode v := encode v.x ++ encode v.y ++ encode v.z ++ encode v.w
  length_encode v := by simp only [List.length_append, length_encode]; rfl
  take? bytes := do
    let (x, bytes) ← take? bytes
    let (y, bytes) ← take? bytes
    let (z, bytes) ← take? bytes
    let (w, bytes) ← take? bytes
    return (⟨x, y, z, w⟩, bytes)

end Quaternion

/-- a colour with an alpha channel -/
structure Rgba where
  r : F32
  g : F32
  b : F32
  a : F32
deriving DecidableEq, Repr

namespace Rgba

def transparent : Rgba := ⟨.zero, .zero, .zero, .zero⟩

instance : WireValue Rgba where
  wireSize := 16
  encode v := encode v.r ++ encode v.g ++ encode v.b ++ encode v.a
  length_encode v := by simp only [List.length_append, length_encode]; rfl
  take? bytes := do
    let (r, bytes) ← take? bytes
    let (g, bytes) ← take? bytes
    let (b, bytes) ← take? bytes
    let (a, bytes) ← take? bytes
    return (⟨r, g, b, a⟩, bytes)

end Rgba

/-- how an element is scaled: by one number, or along each axis -/
inductive Scale where
  | uniform (factor : F32)
  | axes (factors : Vec3)
deriving DecidableEq, Repr

/-- the scale along each axis -/
def Scale.toVec3 : Scale → Vec3
  | uniform factor => .splat factor
  | axes factors => factors

/-- how an element is described to a guest: its descriptor and the code of its kind -/
structure ElementRecord where
  descriptor : Int32
  kind : Int32
deriving DecidableEq, Repr

instance : WireValue ElementRecord where
  wireSize := 8
  encode v := encode v.descriptor ++ encode v.kind
  length_encode v := by simp only [List.length_append, length_encode]; rfl
  take? bytes := do
    let (descriptor, bytes) ← take? bytes
    let (kind, bytes) ← take? bytes
    return (⟨descriptor, kind⟩, bytes)

end ScriptHost
