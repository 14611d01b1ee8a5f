/-
Reading. An exact memory gives the bytes of just those spans that lie inside of it (`readBytes_of_inside`,
`readBytes_of_outside`), and a value or a text can be read just there, whatever the bytes are (`readValue_of_inside`,
`readText_of_inside`). So the bytes of a write can be read at its address (`readBytes_writeBytes`), those of a batch of
writes at all of its addresses (`readBytes_writeRegions`), and where the bytes of a value stand, or those of a text, the
host reads that value or that text.
-/
import ScriptHost.Proofs.Memory.Access
import ScriptHost.Proofs.Wire.RoundTrip

namespace ScriptHost

open Wire

/-- the bytes of a text hold that text -/
theorem Text.decodeLossy_toUTF8 (text : String) : decodeLossy text.toUTF8 = text := by
  have hread : String.fromUTF8? text.toUTF8 = some text := dif_pos text.isValidUTF8
  rw [decodeLossy, hread]

theorem Text.toByteArray_utf8 (text : String) : (utf8 text).toByteArray = text.toUTF8 :=
  ByteArray.ext List.data_toByteArray

variable {μ : Type} [LinearMemory μ]

theorem readValue_of_readBytes {α : Type} [WireValue α] [LawfulWire α] {m : μ} {addr : Pointer} {value : α}
    (h : readBytes m addr (wireSize α) = .ok (encode value).toByteArray) : readValue m addr = .ok value := by
  have hbytes : (encode value).toByteArray.data.toList = encode value := List.toList_data_toByteArray
  simp only [readValue, h, bind, Except.bind, hbytes, decode?_encode]
  rfl

/-- any bytes are read as text -/
theorem readText_of_bytes {m : μ} {addr : Pointer} {len : Nat} {bytes : ByteArray}
    (h : readBytes m addr len = .ok bytes) : readText m addr len = .ok (Text.decodeLossy bytes) := by
  simp only [readText, h, bind, Except.bind]
  rfl

theorem readText_of_readBytes {m : μ} {addr : Pointer} {len : Nat} {text : String}
    (h : readBytes m addr len = .ok text.toUTF8) : readText m addr len = .ok text := by
  simp only [readText, h, bind, Except.bind, Text.decodeLossy_toUTF8]
  rfl

/-! ## What a memory gives -/

/-- the bytes of a memory from an address on -/
def bytesAt [LawfulMemory μ] (m : μ) (addr : Pointer) (len : Nat) : ByteArray :=
  ((List.range len).map fun i => HonestMemory.byte m (addr.toNat + i)).toByteArray

/-- the text that the bytes from an address on hold -/
def textAt [LawfulMemory μ] (m : μ) (addr : Pointer) (len : Nat) : String := Text.decodeLossy (bytesAt m addr len)

section Lawful

variable [LawfulMemory μ] (m : μ) (addr : Pointer) (len : Nat)

@[simp] theorem size_bytesAt : (bytesAt m addr len).size = len := by
  rw [bytesAt, List.size_toByteArray, List.length_map, List.length_range]

theorem byteAt_bytesAt {i : Nat} (hi : i < len) :
    byteAt (bytesAt m addr len) i = HonestMemory.byte m (addr.toNat + i) := by
  rw [byteAt_of_lt (by rwa [size_bytesAt])]
  simp only [bytesAt, List.getElem_toByteArray, List.getElem_map, List.getElem_range]

end Lawful

section Exact

variable [ExactMemory μ] {m m' : μ} {addr : Pointer} {len : Nat} {bytes : ByteArray}

theorem readBytes_of_inside (h : addr.toNat + len ≤ LinearMemory.size m) :
    readBytes m addr len = .ok (bytesAt m addr len) := by
  obtain ⟨found, hfound⟩ :=
    Option.isSome_iff_exists.1 ((ExactMemory.isSome_copyOut_iff m addr.toNat len).2 h)
  have hsize : found.size = len := HonestMemory.size_copyOut hfound
  have hsame : found = bytesAt m addr len := by
    refine ext_byteAt (by rw [hsize, size_bytesAt]) ?_
    intro i hi
    rw [hsize] at hi
    rw [HonestMemory.byteAt_copyOut hfound i hi, byteAt_bytesAt m addr len hi]
  rw [readBytes_eq, if_pos h, hfound, hsame]

omit [ExactMemory μ] in
theorem readBytes_of_outside (h : LinearMemory.size m < addr.toNat + len) :
    readBytes m addr len = .error .outOfBounds := by
  rw [readBytes_eq, if_neg (Nat.not_le.2 h)]

/-- what can be read tells what is there -/
theorem readBytes_eq_ok_iff : readBytes m addr len = .ok bytes ↔ bytes.size = len ∧
    addr.toNat + len ≤ LinearMemory.size m ∧ ∀ i, i < len → byteAt bytes i = HonestMemory.byte m (addr.toNat + i) := by
  constructor
  · intro h
    by_cases hin : addr.toNat + len ≤ LinearMemory.size m
    · rw [readBytes_of_inside hin] at h
      cases h
      exact ⟨size_bytesAt .., hin, fun i hi => byteAt_bytesAt m addr len hi⟩
    · rw [readBytes_of_outside (Nat.lt_of_not_le hin)] at h
      cases h
  · rintro ⟨rfl, hin, hbytes⟩
    rw [readBytes_of_inside hin]
    refine congrArg Except.ok (ext_byteAt (size_bytesAt ..) ?_)
    intro i hi
    rw [size_bytesAt] at hi
    rw [byteAt_bytesAt m addr _ hi, hbytes i hi]

theorem readBytes_writeBytes (h : writeBytes m addr bytes = (m', .ok ())) : readBytes m' addr bytes.size = .ok bytes := by
  have hin : addr.toNat + bytes.size ≤ LinearMemory.size m' := by
    rw [size_writeBytes h]
    exact (writeBytes_eq_ok_iff.1 h).1
  refine readBytes_eq_ok_iff.2 ⟨rfl, hin, ?_⟩
  intro i hi
  rw [byte_writeBytes h, if_pos (by omega), Nat.add_sub_cancel_left]

/-- the first of several regions can be read back if the later ones do not reach into it -/
theorem readBytes_writeRegions {r : Region} {rest : List Region} (h : (writeRegions m (r :: rest)).2 = .ok ())
    (hapart : ∀ q ∈ rest, ∀ i, r.Covers i → ¬ q.Covers i) :
    readBytes (writeRegions m (r :: rest)).1 r.addr r.bytes.size = .ok r.bytes := by
  rw [writeRegions] at h ⊢
  split at h
  · rename_i m' hw
    obtain ⟨-, hin, hbytes⟩ := readBytes_eq_ok_iff.1 (readBytes_writeBytes hw)
    refine readBytes_eq_ok_iff.2 ⟨rfl, by rwa [size_writeRegions], ?_⟩
    intro i hi
    rw [byte_writeRegions_outside m' rest _ fun q hq => hapart q hq _ ⟨by omega, by omega⟩]
    exact hbytes i hi
  · cases h

/-- of some bytes that can be read the first ones can be read -/
theorem readBytes_of_append {first rest : List UInt8} (h : readBytes m addr len = .ok (first ++ rest).toByteArray) :
    readBytes m addr first.length = .ok first.toByteArray := by
  obtain ⟨hsize, hin, hbytes⟩ := readBytes_eq_ok_iff.1 h
  rw [List.size_toByteArray, List.length_append] at hsize
  refine readBytes_eq_ok_iff.2 ⟨List.size_toByteArray, by omega, ?_⟩
  intro i hi
  rw [← hbytes i (by omega), byteAt_of_lt (by rwa [List.size_toByteArray]),
    byteAt_of_lt (by rw [List.size_toByteArray, List.length_append]; omega)]
  simp only [List.getElem_toByteArray, List.getElem_append_left hi]

omit [ExactMemory μ] in
/-- when regions are taken, the later ones are taken by what the first one left -/
theorem writeRegions_of_cons {r : Region} {rest : List Region} (h : (writeRegions m (r :: rest)).2 = .ok ()) :
    ∃ m', writeRegions m (r :: rest) = writeRegions m' rest := by
  rw [writeRegions] at h ⊢
  split at h
  · exact ⟨_, rfl⟩
  · cases h

variable {α : Type} [WireValue α]

theorem readValue_writeRegions [LawfulWire α] {value : α} {rest : List Region}
    (h : (writeRegions m (.ofValue addr value :: rest)).2 = .ok ())
    (hapart : ∀ q ∈ rest, ∀ i, (Region.ofValue addr value).Covers i → ¬ q.Covers i) :
    readValue (writeRegions m (.ofValue addr value :: rest)).1 addr = .ok value := by
  have hsize : (encode value).toByteArray.size = wireSize α := by rw [List.size_toByteArray, length_encode]
  refine readValue_of_readBytes ?_
  rw [← hsize]
  exact readBytes_writeRegions h hapart

theorem readValue_of_inside [TotalWire α] (h : addr.toNat + wireSize α ≤ LinearMemory.size m) :
    ∃ value : α, readValue m addr = .ok value := by
  have hlength : wireSize α ≤ (bytesAt m addr (wireSize α)).data.toList.length :=
    Nat.le_of_eq (size_bytesAt m addr _).symm
  obtain ⟨value, hvalue⟩ := exists_decode? hlength
  refine ⟨value, ?_⟩
  simp only [readValue, readBytes_of_inside h, bind, Except.bind, hvalue]
  rfl

omit [ExactMemory μ] in
theorem readValue_of_outside (h : LinearMemory.size m < addr.toNat + wireSize α) :
    (readValue m addr : Except AccessError α) = .error .outOfBounds := by
  simp only [readValue, readBytes_of_outside h, bind, Except.bind]

theorem readText_of_inside (h : addr.toNat + len ≤ LinearMemory.size m) :
    readText m addr len = .ok (textAt m addr len) := by
  simp only [readText, readBytes_of_inside h, bind, Except.bind]
  rfl

omit [ExactMemory μ] in
theorem readText_of_outside (h : LinearMemory.size m < addr.toNat + len) :
    readText m addr len = .error .outOfBounds := by
  simp only [readText, readBytes_of_outside h, bind, Except.bind]

end Exact

end ScriptHost
