/-
Little-endian words. A natural number below `byteValues n` and its `n` base-256 digits, least significant first,
determine each other: `ofLittleEndian_littleEndian` and `littleEndian_ofLittleEndian`.
-/
namespace ScriptHost.Wire

/-- how many values `n` bytes can have -/
def byteValues : Nat → Nat
  | 0 => 1
  | n + 1 => 256 * byteValues n

/-- unsigned words are below this -/
def wordLimit : Nat := byteValues 4

/-- natural numbers below this are signed words -/
def signedLimit : Nat := wordLimit / 2

/-- the `n` lowest base-256 digits of a number, least significant first -/
def littleEndian : Nat → Nat → List UInt8
  | 0, _ => []
  | n + 1, value => UInt8.ofNat value :: littleEndian n (value / 256)

/-- the number whose base-256 digits, least significant first, are the given bytes -/
def ofLittleEndian : List UInt8 → Nat
  | [] => 0
  | b :: rest => b.toNat + 256 * ofLittleEndian rest

@[simp] theorem length_littleEndian (n value : Nat) : (littleEndian n value).length = n := by
  induction n generalizing value with
  | zero => rfl
  | succ n ih => simp [littleEndian, ih]

/-- reading the digits back gives the number, less what does not fit in `n` bytes -/
theorem ofLittleEndian_littleEndian (n value : Nat) : ofLittleEndian (littleEndian n value) = value % byteValues n := by
  induction n generalizing value with
  | zero => simp [littleEndian, ofLittleEndian, byteValues, Nat.mod_one]
  | succ n ih =>
    have hb : (UInt8.ofNat value).toNat = value % 256 := rfl
    rw [littleEndian, ofLittleEndian, ih, hb, byteValues, Nat.mod_mul]

/-- writing the number of some bytes in as many bytes gives these bytes -/
theorem littleEndian_ofLittleEndian (bytes : List UInt8) :
    littleEndian bytes.length (ofLittleEndian bytes) = bytes := by
  induction bytes with
  | nil => rfl
  | cons b rest ih =>
    have hb : b.toNat < 256 := b.toNat_lt
    have hdiv : (b.toNat + 256 * ofLittleEndian rest) / 256 = ofLittleEndian rest := by omega
    have hmod : UInt8.ofNat (b.toNat + 256 * ofLittleEndian rest) = b := by
      apply UInt8.toNat_inj.1
      simp only [UInt8.toNat_ofNat']
      omega
    simp [littleEndian, ofLittleEndian, hdiv, hmod, ih]

end ScriptHost.Wire
