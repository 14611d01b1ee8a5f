/-
Reading back what was written. A lawful layout loses nothing: from the bytes of a value, whatever follows them, exactly
that value is read, and what follows is left (`LawfulWire`). A record is lawful if its fields are, so every bit pattern of
a number in it comes back. A total layout has a value for any bytes, if they are enough for one (`TotalWire`).
-/
import ScriptHost.Scene.Value

namespace ScriptHost.Wire

/-- a layout whose values are read back as they were written -/
class LawfulWire (α : Type) [WireValue α] : Prop where
  take?_encode : ∀ (value : α) (rest : List UInt8), take? (encode value ++ rest) = some (value, rest)

export LawfulWire (take?_encode)

/-! ## Words -/

theorem takeWord?_littleEndian (n value : Nat) (rest : List UInt8) :
    takeWord? n (littleEndian n value ++ rest) = some (value % byteValues n, rest) := by
  have hlength : (littleEndian n value).length = n := length_littleEndian n value
  rw [takeWord?, if_pos (by rw [List.length_append, hlength]; omega), List.take_left' hlength,
    List.drop_left' hlength, ofLittleEndian_littleEndian]

theorem ofNat_mod_byteValues (v : UInt32) : UInt32.ofNat (v.toNat % byteValues 4) = v := by
  have hlt : v.toNat < byteValues 4 := v.toNat_lt
  rw [Nat.mod_eq_of_lt hlt, UInt32.ofNat_toNat]

instance : LawfulWire UInt32 where
  take?_encode v rest := by
    change (takeWord? 4 (littleEndian 4 v.toNat ++ rest)).map _ = _
    rw [takeWord?_littleEndian, Option.map_some]
    dsimp only
    rw [ofNat_mod_byteValues]

instance : LawfulWire Int32 where
  take?_encode v rest := by
    change (takeWord? 4 (littleEndian 4 v.toUInt32.toNat ++ rest)).map _ = _
    rw [takeWord?_littleEndian, Option.map_some]
    dsimp only
    rw [ofNat_mod_byteValues, Int32.toInt32_toUInt32]

/-! ## Records -/

instance : LawfulWire F32 where
  take?_encode v rest := by
    change (take? (encode v.bits ++ rest)).map _ = _
    rw [take?_encode]
    rfl

instance : LawfulWire Vec3 where
  take?_encode v rest := by
    change take? (encode v.x ++ encode v.y ++ encode v.z ++ rest) >>= _ = _
    simp only [List.append_assoc, take?_encode, bind, Option.bind_some]
    rfl

instance : LawfulWire Quaternion where
  take?_encode v rest := by
    change take? (encode v.x ++ encode v.y ++ encode v.z ++ encode v.w ++ rest) >>= _ = _
    simp only [List.append_assoc, take?_encode, bind, Option.bind_some]
    rfl

instance : LawfulWire Rgba where
  take?_encode v rest := by
    change take? (encode v.r ++ encode v.g ++ encode v.b ++ encode v.a ++ rest) >>= _ = _
    simp only [List.append_assoc, take?_encode, bind, Option.bind_some]
    rfl

instance : LawfulWire ElementRecord where
  take?_encode v rest := by
    change take? (encode v.descriptor ++ encode v.kind ++ rest) >>= _ = _
    simp only [List.append_assoc, take?_encode, bind, Option.bind_some]
    rfl

theorem decode?_encode {α : Type} [WireValue α] [LawfulWire α] (value : α) : decode? (encode value) = some value := by
  have h := take?_encode value []
  rw [List.append_nil] at h
  rw [decode?, h]
  rfl

/-! ## Any bytes -/

/-- a layout in which any bytes are a value, if they are enough for one -/
class TotalWire (α : Type) [WireValue α] : Prop where
  take?_of_le : ∀ bytes : List UInt8, wireSize α ≤ bytes.length →
    ∃ value : α, take? bytes = some (value, bytes.drop (wireSize α))

export TotalWire (take?_of_le)

theorem takeWord?_of_le {n : Nat} {bytes : List UInt8} (h : n ≤ bytes.length) :
    takeWord? n bytes = some (ofLittleEndian (bytes.take n), bytes.drop n) := if_pos h

instance : TotalWire UInt32 where
  take?_of_le bytes h := by
    have htaken : takeWord? 4 bytes = _ := takeWord?_of_le h
    refine ⟨UInt32.ofNat (ofLittleEndian (bytes.take 4)), ?_⟩
    change (takeWord? 4 bytes).map _ = _
    rw [htaken]
    rfl

instance : TotalWire Int32 where
  take?_of_le bytes h := by
    have htaken : takeWord? 4 bytes = _ := takeWord?_of_le h
    refine ⟨(UInt32.ofNat (ofLittleEndian (bytes.take 4))).toInt32, ?_⟩
    change (takeWord? 4 bytes).map _ = _
    rw [htaken]
    rfl

instance : TotalWire F32 where
  take?_of_le bytes h := by
    obtain ⟨bits, hbits⟩ := take?_of_le (α := UInt32) bytes h
    refine ⟨⟨bits⟩, ?_⟩
    change (take? bytes).map _ = _
    rw [hbits]
    rfl

/-- of enough bytes, numbers can be taken one after another -/
theorem take?_number (bytes : List UInt8) (n : Nat) (h : n + 4 ≤ bytes.length) :
    ∃ value : F32, take? (bytes.drop n) = some (value, bytes.drop (n + 4)) := by
  have hrest : wireSize F32 ≤ (bytes.drop n).length := by
    rw [List.length_drop]
    exact Nat.le_sub_of_add_le' h
  obtain ⟨value, hvalue⟩ := take?_of_le (bytes.drop n) hrest
  exact ⟨value, by rw [hvalue, List.drop_drop]; rfl⟩

instance : TotalWire Vec3 where
  take?_of_le bytes h := by
    obtain ⟨x, hx⟩ := take?_number bytes 0 (Nat.le_trans (by decide) h)
    obtain ⟨y, hy⟩ := take?_number bytes 4 (Nat.le_trans (by decide) h)
    obtain ⟨z, hz⟩ := take?_number bytes 8 h
    refine ⟨⟨x, y, z⟩, ?_⟩
    change take? (bytes.drop 0) >>= _ = _
    simp only [hx, hy, hz, bind, Option.bind_some]
    rfl

/-- of enough bytes, four numbers can be taken -/
theorem take?_four_numbers {bytes : List UInt8} (h : 16 ≤ bytes.length) : ∃ a b c d : F32,
    take? bytes = some (a, bytes.drop 4) ∧ take? (bytes.drop 4) = some (b, bytes.drop 8) ∧
      take? (bytes.drop 8) = some (c, bytes.drop 12) ∧ take? (bytes.drop 12) = some (d, bytes.drop 16) := by
  obtain ⟨a, ha⟩ := take?_number bytes 0 (Nat.le_trans (by decide) h)
  obtain ⟨b, hb⟩ := take?_number bytes 4 (Nat.le_trans (by decide) h)
  obtain ⟨c, hc⟩ := take?_number bytes 8 (Nat.le_trans (by decide) h)
  obtain ⟨d, hd⟩ := take?_number bytes 12 h
  exact ⟨a, b, c, d, ha, hb, hc, hd⟩

instance : TotalWire Quaternion where
  take?_of_le bytes h := by
    obtain ⟨x, y, z, w, hx, hy, hz, hw⟩ := take?_four_numbers h
    refine ⟨⟨x, y, z, w⟩, ?_⟩
    change take? bytes >>= _ = _
    simp only [hx, hy, hz, hw, bind, Option.bind_some]
    rfl

instance : TotalWire Rgba where
  take?_of_le bytes h := by
    obtain ⟨r, g, b, a, hr, hg, hb, ha⟩ := take?_four_numbers h
    refine ⟨⟨r, g, b, a⟩, ?_⟩
    change take? bytes >>= _ = _
    simp only [hr, hg, hb, ha, bind, Option.bind_some]
    rfl

instance : TotalWire ElementRecord where
  take?_of_le bytes h := by
    have hrest : wireSize Int32 ≤ (bytes.drop 4).length := by
      rw [List.length_drop]
      exact Nat.le_sub_of_add_le' h
    obtain ⟨descriptor, hdescriptor⟩ := take?_of_le (α := Int32) bytes (Nat.le_trans (by decide) h)
    obtain ⟨kind, hkind⟩ := take?_of_le (α := Int32) (bytes.drop 4) hrest
    refine ⟨⟨descriptor, kind⟩, ?_⟩
    change take? bytes >>= _ = _
    rw [hdescriptor, Option.bind_eq_bind, Option.bind_some]
    change take? (bytes.drop 4) >>= _ = _
    rw [hkind, List.drop_drop]
    rfl

theorem exists_decode? {α : Type} [WireValue α] [TotalWire α] {bytes : List UInt8} (h : wireSize α ≤ bytes.length) :
    ∃ value : α, decode? bytes = some value := by
  obtain ⟨value, hvalue⟩ := take?_of_le bytes h
  exact ⟨value, by rw [decode?, hvalue, Option.map_some]⟩

end ScriptHost.Wire
