/-
What stands in a memory, as lists of bytes. Bytes that stand one after another stand there part by part
(`stands_append`), so the words of an array and the records of a vectored buffer are found one by one.

- `stands_of_readBytes`: what the host reads stands there; so does what it wrote, as that can be read back.
- `wordAt_eq`, `wordAt_of_stands`: a word, and the words of an array.
- `stands_of_encodeAll`, `readValue_of_written`: the values of an array, and what the host reads there once it was written.
- `segmentsAt_of_stands`: the records of a vectored buffer.
- `stands_pair`, `stands_last`: so do two regions that were written, if they are apart, and the last one anyway.
- `stands_between`: so do the parts that a plain memory is put together from.
- `size_gathered`: the segments of a vectored buffer yield as many bytes as their lengths say, all together.
-/
import Mathlib.Algebra.GroupWithZero.Nat
import ScriptHost.Proofs.Memory.Segments

namespace ScriptHost

open Wire

section Bytes

variable {μ : Type} [LinearMemory μ] [LawfulMemory μ]

/-- the `n` bytes from an address on -/
def listAt (m : μ) (address n : Nat) : List UInt8 := (List.range n).map fun i => HonestMemory.byte m (address + i)

/-- some bytes stand in a memory from an address on -/
def Stands (m : μ) (address : Nat) (bytes : List UInt8) : Prop := listAt m address bytes.length = bytes

variable (m : μ) (address : Nat)

@[simp] theorem length_listAt (n : Nat) : (listAt m address n).length = n := by
  rw [listAt, List.length_map, List.length_range]

theorem listAt_add (k n : Nat) : listAt m address (k + n) = listAt m address k ++ listAt m (address + k) n := by
  rw [listAt, List.range_add, List.map_append, List.map_map]
  refine congrArg _ (List.map_congr_left fun i _ => ?_)
  rw [Function.comp_apply, Nat.add_assoc]

variable {m address}

theorem stands_append {first rest : List UInt8} :
    Stands m address (first ++ rest) ↔ Stands m address first ∧ Stands m (address + first.length) rest := by
  rw [Stands, List.length_append, listAt_add]
  constructor
  · intro h
    exact List.append_inj h (length_listAt ..)
  · rintro ⟨hfirst, hrest⟩
    rw [Stands] at hfirst hrest
    rw [hfirst, hrest]

theorem stands_iff {bytes : List UInt8} :
    Stands m address bytes ↔ ∀ i (h : i < bytes.length), HonestMemory.byte m (address + i) = bytes[i] := by
  constructor
  · intro h i hi
    rw [← List.getElem_of_eq h (by rwa [length_listAt])]
    simp only [listAt, List.getElem_map, List.getElem_range]
  · intro h
    refine List.ext_getElem (length_listAt ..) ?_
    intro i _ hi
    simp only [listAt, List.getElem_map, List.getElem_range]
    exact h i hi

theorem Stands.of_bytes {m' : μ} {bytes : List UInt8} (h : Stands m address bytes)
    (hsame : ∀ i, i < bytes.length → HonestMemory.byte m' (address + i) = HonestMemory.byte m (address + i)) :
    Stands m' address bytes := by
  refine stands_iff.2 fun i hi => ?_
  rw [hsame i hi]
  exact stands_iff.1 h i hi

/-! ## Words -/

/-- the word that stands at an address -/
theorem wordAt_eq {w : UInt32} (h : Stands m address (encode w)) : wordAt m address = w := by
  have hlength : (encode w).length = 4 := length_encode w
  have hencode : encode w = littleEndian 4 w.toNat := rfl
  have hlist : listAt m address 4 = littleEndian 4 w.toNat := by rwa [Stands, hlength, hencode] at h
  have hword : wordAt m address = UInt32.ofNat (ofLittleEndian (listAt m address 4)) := rfl
  rw [hword, hlist, ofLittleEndian_littleEndian, ofNat_mod_byteValues]

/-- of an array each value stands in its place -/
theorem stands_of_encodeAll {α : Type} [WireValue α] {vs : List α} (h : Stands m address (encodeAll vs)) (i : Nat)
    (hi : i < vs.length) : Stands m (address + wireSize α * i) (encode vs[i]) := by
  induction vs generalizing address i with
  | nil => cases hi
  | cons v rest ih =>
    obtain ⟨hv, hrest⟩ := stands_append.1 h
    cases i with
    | zero => exact hv
    | succ i =>
      have hnext : address + wireSize α * (i + 1) = address + (encode v).length + wireSize α * i := by
        rw [length_encode, Nat.mul_succ]
        omega
      rw [hnext, List.getElem_cons_succ]
      exact ih hrest i _

theorem wordAt_of_stands {ws : List UInt32} (h : Stands m address (encodeAll ws)) (i : Nat) (hi : i < ws.length) :
    wordAt m (address + 4 * i) = ws[i] := wordAt_eq (stands_of_encodeAll h i hi)

theorem Region.toList_ofValue {α : Type} [WireValue α] (addr : Pointer) (value : α) :
    (ofValue addr value).bytes.data.toList = encode value := List.toList_data_toByteArray

theorem Region.toList_ofValues {α : Type} [WireValue α] (addr : Pointer) (values : List α) :
    (ofValues addr values).bytes.data.toList = encodeAll values := List.toList_data_toByteArray

/-! ## Segments -/

/-- the record of a segment: two words -/
def Segment.words (s : Segment) : List UInt32 := [s.ptr, s.len]

theorem segmentsAt_of_stands {segments : List Segment} (h : Stands m address (encodeAll (segments.flatMap Segment.words))) :
    segmentsAt m address segments.length = segments := by
  induction segments generalizing address with
  | nil => rfl
  | cons s rest ih =>
    have hptr : (encode s.ptr).length = 4 := length_encode s.ptr
    have hlen : (encode s.len).length = 4 := length_encode s.len
    obtain ⟨hfirst, h⟩ := stands_append.1 h
    obtain ⟨hsecond, hrest⟩ := stands_append.1 h
    rw [hptr] at hsecond hrest
    rw [hlen] at hrest
    rw [List.length_cons, segmentsAt_succ, wordAt_eq hfirst, wordAt_eq hsecond]
    exact congrArg _ (ih hrest)

/-- a record takes eight bytes -/
theorem length_records (segments : List Segment) :
    (encodeAll (segments.flatMap Segment.words)).length = 8 * segments.length := by
  have hwords : (segments.flatMap Segment.words).length = 2 * segments.length := by
    induction segments with
    | nil => rfl
    | cons s rest ih =>
      rw [List.flatMap_cons, List.length_append, ih, List.length_cons, Segment.words, Nat.mul_succ, Nat.add_comm]
      rfl
  have hsize : wireSize UInt32 = 4 := rfl
  rw [length_encodeAll, hwords, hsize]
  omega

theorem size_gathered (m : μ) (segments : List Segment) :
    (gathered m segments).size = (segments.map fun s => s.len.toNat).sum := by
  suffices h : ∀ start : ByteArray, (segments.foldl (fun bytes s => bytes ++ bytesAt m s.ptr s.len.toNat) start).size =
      start.size + (segments.map fun s => s.len.toNat).sum by
    simpa [gathered] using h .empty
  intro start
  induction segments generalizing start with
  | nil => rfl
  | cons s rest ih =>
    rw [List.foldl_cons, ih, ByteArray.size_append, size_bytesAt, List.map_cons, List.sum_cons, Nat.add_assoc]

end Bytes

section Exact

variable {μ : Type} [LinearMemory μ] [ExactMemory μ] {m : μ} {addr : Pointer} {len : Nat} {bytes : ByteArray}

theorem stands_of_readBytes (h : readBytes m addr len = .ok bytes) : Stands m addr.toNat bytes.data.toList := by
  obtain ⟨hsize, -, hbytes⟩ := readBytes_eq_ok_iff.1 h
  refine stands_iff.2 fun i hi => ?_
  have hlength : bytes.data.toList.length = bytes.size := rfl
  rw [← hbytes i (by omega), byteAt_of_lt (by omega)]
  rfl

/-- what stands inside the memory is what the host reads -/
theorem readBytes_of_stands {bytes : List UInt8} (h : Stands m addr.toNat bytes)
    (hinside : addr.toNat + bytes.length ≤ LinearMemory.size m) :
    readBytes m addr bytes.length = .ok bytes.toByteArray := by
  have hsize : bytes.toByteArray.size = bytes.length := List.size_toByteArray
  refine readBytes_eq_ok_iff.2 ⟨hsize, hinside, ?_⟩
  intro i hi
  rw [stands_iff.1 h i hi, byteAt_of_lt (by omega), List.getElem_toByteArray]

theorem readValue_of_stands {α : Type} [WireValue α] [LawfulWire α] {v : α} (h : Stands m addr.toNat (encode v))
    (hinside : addr.toNat + wireSize α ≤ LinearMemory.size m) : readValue m addr = .ok v := by
  have hlength : (encode v).length = wireSize α := length_encode v
  have hread := readBytes_of_stands h (by rwa [hlength])
  rw [hlength] at hread
  exact readValue_of_readBytes hread

/-- a word that is written alone -/
theorem wordAt_written {p : Pointer} {w : UInt32} (h : (writeRegions m [.ofValue p w]).2 = .ok ()) :
    wordAt (writeRegions m [.ofValue p w]).1 p.toNat = w := by
  have hstands := stands_of_readBytes (readBytes_writeRegions h nofun)
  rw [Region.toList_ofValue] at hstands
  exact wordAt_eq hstands

/-- of two regions the first one stood where it was written to until the last one was written, which left everything else as
it was -/
theorem exists_stands_first {r s : Region} (h : (writeRegions m [r, s]).2 = .ok ()) :
    ∃ m' : μ, Stands m' r.addr.toNat r.bytes.data.toList ∧
      ∀ i, ¬ s.Covers i → HonestMemory.byte (writeRegions m [r, s]).1 i = HonestMemory.byte m' i := by
  rw [writeRegions] at h ⊢
  split at h
  · rename_i m' hw
    refine ⟨m', stands_of_readBytes (readBytes_writeBytes hw), ?_⟩
    intro i hi
    exact byte_writeRegions_outside m' [s] i (List.forall_mem_singleton.2 hi)
  · cases h

/-- of an array that was written first, the host reads each value that the other region does not reach into -/
theorem readValue_of_written {α : Type} [WireValue α] [LawfulWire α] {array p : Pointer} {vs : List α} {s : Region}
    (h : (writeRegions m [.ofValues array vs, s]).2 = .ok ()) {i : Nat} (hi : i < vs.length)
    (hp : p.toNat = array.toNat + wireSize α * i) (hapart : (⟨p, wireSize α⟩ : Span).Apart s.span) :
    readValue (writeRegions m [.ofValues array vs, s]).1 p = .ok vs[i] := by
  obtain ⟨m', harray, hsame⟩ := exists_stands_first h
  rw [Region.toList_ofValues] at harray
  have hstands : Stands (writeRegions m [.ofValues array vs, s]).1 p.toNat (encode vs[i]) := by
    have hvalue := stands_of_encodeAll harray i hi
    have haddr : (Region.ofValues array vs).addr.toNat + wireSize α * i = p.toNat := hp.symm
    rw [haddr] at hvalue
    refine hvalue.of_bytes ?_
    intro j hj
    rw [length_encode] at hj
    exact hsame _ (hapart _ ⟨Nat.le_add_right _ _, Nat.add_lt_add_left hj _⟩)
  refine readValue_of_stands hstands ?_
  have hinside : array.toNat + (Region.ofValues array vs).bytes.size ≤ LinearMemory.size m :=
    writeRegions_eq_ok_iff.1 h _ List.mem_cons_self
  have hsize : (Region.ofValues array vs).bytes.size = wireSize α * vs.length :=
    congrArg Span.size (Region.span_ofValues array vs)
  have hroom : wireSize α * i + wireSize α ≤ wireSize α * vs.length := Nat.mul_le_mul_left _ hi
  rw [size_writeRegions]
  omega

/-- of two regions the one that was written last stands where it was written to -/
theorem stands_last {r s : Region} (h : (writeRegions m [r, s]).2 = .ok ()) :
    Stands (writeRegions m [r, s]).1 s.addr.toNat s.bytes.data.toList := by
  obtain ⟨m', hrest⟩ := writeRegions_of_cons h
  rw [hrest] at h ⊢
  exact stands_of_readBytes (readBytes_writeRegions h nofun)

/-- two regions that are apart both do -/
theorem stands_pair {r s : Region} (h : (writeRegions m [r, s]).2 = .ok ()) (hapart : r.span.Apart s.span) :
    Stands (writeRegions m [r, s]).1 r.addr.toNat r.bytes.data.toList ∧
      Stands (writeRegions m [r, s]).1 s.addr.toNat s.bytes.data.toList := by
  obtain ⟨m', hfirst, hsame⟩ := exists_stands_first h
  refine ⟨hfirst.of_bytes ?_, stands_last h⟩
  intro i hi
  exact hsame _ (hapart _ ⟨Nat.le_add_right _ _, Nat.add_lt_add_left hi _⟩)

end Exact

/-- what a plain memory is put together from stands in it -/
theorem stands_between (before after : ByteArray) (bytes : List UInt8) :
    Stands (⟨before ++ bytes.toByteArray ++ after⟩ : ByteMemory) before.size bytes := by
  refine stands_iff.2 fun i hi => ?_
  have hsize : bytes.toByteArray.size = bytes.length := List.size_toByteArray
  have hbyte : byteAt (before ++ bytes.toByteArray ++ after) (before.size + i) = byteAt bytes.toByteArray i := by
    rw [byteAt_append, if_pos (by rw [ByteArray.size_append]; omega), byteAt_append, if_neg (by omega),
      Nat.add_sub_cancel_left]
  change byteAt (before ++ bytes.toByteArray ++ after) (before.size + i) = bytes[i]
  rw [hbyte, byteAt_of_lt (by omega), List.getElem_toByteArray]

end ScriptHost
