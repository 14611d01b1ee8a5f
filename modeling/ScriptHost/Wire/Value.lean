/-
Values with a fixed layout in guest memory. Every one is little-endian and tightly packed, so a record is the
concatenation of its fields and an array the concatenation of its elements.

`take?` reads a value from the front of some bytes and hands back the rest; `decode?` drops the rest.
-/
import ScriptHost.Wire.LittleEndian

namespace ScriptHost.Wire

/-- a type whose values are exchanged with guests in exactly `wireSize` bytes -/
class WireValue (α : Type) where
  wireSize : Nat
  encode : α → List UInt8
  length_encode : ∀ value, (encode value).length = wireSize
  take? : List UInt8 → Option (α × List UInt8)

export WireValue (wireSize encode length_encode take?)

/-- reads a value from the front of some bytes; what follows it is ignored -/
def decode? {α : Type} [WireValue α] (bytes : List UInt8) : Option α :=
  (take? bytes).map Prod.fst

/-- an array of values: their encodings, one after another -/
def encodeAll {α : Type} [WireValue α] (values : List α) : List UInt8 :=
  values.flatMap encode

theorem length_encodeAll {α : Type} [WireValue α] (values : List α) :
    (encodeAll values).length = wireSize α * values.length := by
  induction values with
  | nil => rfl
  | cons v rest ih =>
    rw [encodeAll, List.flatMap_cons, List.length_append, length_encode]
    rw [encodeAll] at ih
    rw [ih, List.length_cons, Nat.mul_succ, Nat.add_comm]

/-- reads a little-endian word of `n` bytes -/
def takeWord? (n : Nat) (bytes : List UInt8) : Option (Nat × List UInt8) :=
  if n ≤ bytes.length then some (ofLittleEndian (bytes.take n), bytes.drop n) else none

instance : WireValue UInt32 where
  wireSize := 4
  encode v := littleEndian 4 v.toNat
  length_encode _ := length_littleEndian 4 _
  take? bytes := (takeWord? 4 bytes).map fun (n, rest) => (UInt32.ofNat n, rest)

/-- signed words are written in two's complement -/
instance : WireValue Int32 where
  wireSize := 4
  encode v := littleEndian 4 v.toUInt32.toNat
  length_encode _ := length_littleEndian 4 _
  take? bytes := (takeWord? 4 bytes).map fun (n, rest) => ((UInt32.ofNat n).toInt32, rest)

instance : WireValue UInt64 where
  wireSize := 8
  encode v := littleEndian 8 v.toNat
  length_encode _ := length_littleEndian 8 _
  take? bytes := (takeWord? 8 bytes).map fun (n, rest) => (UInt64.ofNat n, rest)

instance : WireValue Int64 where
  wireSize := 8
  encode v := littleEndian 8 v.toUInt64.toNat
  length_encode _ := length_littleEndian 8 _
  take? bytes := (takeWord? 8 bytes).map fun (n, rest) => ((UInt64.ofNat n).toInt64, rest)

end ScriptHost.Wire
