/-
Values and their own bytes. A layout that loses nothing may still read a value from bytes that are not those of the value,
as text with broken bytes in it is read. A faithful layout does not: the bytes that a value is read from are the ones that
it is written as (`FaithfulWire`). A record is faithful if its fields are.
-/
import ScriptHost.Proofs.Wire.RoundTrip

namespace ScriptHost.Wire

/-- a layout in which a value is read from the bytes that it is written as, and from no others -/
class FaithfulWire (α : Type) [WireValue α] : Prop where
  encode_append : ∀ {bytes rest : List UInt8} {value : α}, take? bytes = some (value, rest) →
    encode value ++ rest = bytes

export FaithfulWire (encode_append)

theorem ofLittleEndian_lt (bytes : List UInt8) : ofLittleEndian bytes < byteValues bytes.length := by
  have hpos : 0 < byteValues bytes.length := by
    induction bytes with
    | nil => exact Nat.one_pos
    | cons b rest ih => exact Nat.mul_pos (by decide) ih
  have hmod := ofLittleEndian_littleEndian bytes.length (ofLittleEndian bytes)
  rw [littleEndian_ofLittleEndian] at hmod
  rw [hmod]
  exact Nat.mod_lt _ hpos

/-- the number that is taken is below what the bytes can say, and its digits are the bytes -/
theorem takeWord?_eq_some {n value : Nat} {bytes rest : List UInt8} (h : takeWord? n bytes = some (value, rest)) :
    value < byteValues n ∧ littleEndian n value ++ rest = bytes := by
  rw [takeWord?] at h
  split at h
  · rename_i hn
    have hlength : (bytes.take n).length = n := List.length_take_of_le hn
    obtain ⟨rfl, rfl⟩ := Prod.mk.inj (Option.some.inj h)
    refine ⟨?_, ?_⟩
    · have hlt := ofLittleEndian_lt (bytes.take n)
      rwa [hlength] at hlt
    · have hdigits := littleEndian_ofLittleEndian (bytes.take n)
      rw [hlength] at hdigits
      rw [hdigits, List.take_append_drop]
  · cases h

instance : FaithfulWire UInt32 where
  encode_append {bytes rest value} h := by
    change (takeWord? 4 bytes).map _ = _ at h
    obtain ⟨⟨n, rest'⟩, htaken, heq⟩ := Option.map_eq_some_iff.1 h
    obtain ⟨rfl, rfl⟩ := Prod.mk.inj heq
    obtain ⟨hlt, hbytes⟩ := takeWord?_eq_some htaken
    change littleEndian 4 (UInt32.ofNat n).toNat ++ _ = _
    rwa [UInt32.toNat_ofNat_of_lt' hlt]

instance : FaithfulWire Int32 where
  encode_append {bytes rest value} h := by
    change (takeWord? 4 bytes).map _ = _ at h
    obtain ⟨⟨n, rest'⟩, htaken, heq⟩ := Option.map_eq_some_iff.1 h
    obtain ⟨rfl, rfl⟩ := Prod.mk.inj heq
    obtain ⟨hlt, hbytes⟩ := takeWord?_eq_some htaken
    change littleEndian 4 (UInt32.ofNat n).toInt32.toUInt32.toNat ++ _ = _
    rwa [UInt32.toUInt32_toInt32, UInt32.toNat_ofNat_of_lt' hlt]

instance : FaithfulWire F32 where
  encode_append {bytes rest value} h := by
    change (take? bytes).map _ = _ at h
    obtain ⟨⟨bits, rest'⟩, htaken, heq⟩ := Option.map_eq_some_iff.1 h
    obtain ⟨rfl, rfl⟩ := Prod.mk.inj heq
    have hbits : encode bits ++ rest' = bytes := encode_append htaken
    exact hbits

/-- a record is read field by field -/
theorem bind_take?_eq_some {α β : Type} [WireValue α] {bytes : List UInt8} {next : α × List UInt8 → Option β} {b : β}
    (h : take? bytes >>= next = some b) : ∃ value rest, take? bytes = some (value, rest) ∧ next (value, rest) = some b := by
  obtain ⟨⟨value, rest⟩, htaken, hnext⟩ := Option.bind_eq_some_iff.1 h
  exact ⟨value, rest, htaken, hnext⟩

instance : FaithfulWire Vec3 where
  encode_append h := by
    obtain ⟨x, _, hx, h⟩ := bind_take?_eq_some h
    obtain ⟨y, _, hy, h⟩ := bind_take?_eq_some h
    obtain ⟨z, _, hz, h⟩ := bind_take?_eq_some h
    cases h
    rw [← encode_append hx, ← encode_append hy, ← encode_append hz]
    simp only [encode, List.append_assoc]

instance : FaithfulWire Quaternion where
  encode_append h := by
    obtain ⟨x, _, hx, h⟩ := bind_take?_eq_some h
    obtain ⟨y, _, hy, h⟩ := bind_take?_eq_some h
    obtain ⟨z, _, hz, h⟩ := bind_take?_eq_some h
    obtain ⟨w, _, hw, h⟩ := bind_take?_eq_some h
    cases h
    rw [← encode_append hx, ← encode_append hy, ← encode_append hz, ← encode_append hw]
    simp only [encode, List.append_assoc]

instance : FaithfulWire Rgba where
  encode_append h := by
    obtain ⟨r, _, hr, h⟩ := bind_take?_eq_some h
    obtain ⟨g, _, hg, h⟩ := bind_take?_eq_some h
    obtain ⟨b, _, hb, h⟩ := bind_take?_eq_some h
    obtain ⟨a, _, ha, h⟩ := bind_take?_eq_some h
    cases h
    rw [← encode_append hr, ← encode_append hg, ← encode_append hb, ← encode_append ha]
    simp only [encode, List.append_assoc]

instance : FaithfulWire ElementRecord where
  encode_append h := by
    obtain ⟨descriptor, _, hdescriptor, h⟩ := bind_take?_eq_some h
    obtain ⟨kind, _, hkind, h⟩ := bind_take?_eq_some h
    cases h
    rw [← encode_append hdescriptor, ← encode_append hkind]
    simp only [encode, List.append_assoc]

end ScriptHost.Wire
