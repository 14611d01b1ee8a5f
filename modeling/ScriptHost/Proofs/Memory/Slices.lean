/-
Copies of a plain memory, as exact as its slices. The end of a range is worked out in 64 bits and stays at the last index
where it would be past it. As no memory reaches that far, such a range is not cut at all (`slice?_rangeEnd`): a copy finds
as many bytes as were asked for, or it is refused. So the copies of slices are the copies of memories
(`readInto_eq`, `writeFrom_eq`), for which offsets have no limit.

- `raw_copies_exact`: what a copy does, for every offset of 64 bits and slices of any length.
-/
import ScriptHost.Memory.Slice
import ScriptHost.Proofs.Memory.Lawful

namespace ScriptHost

theorem toNat_lastOffset : lastOffset.toNat = 0xFFFFFFFFFFFFFFFF := rfl

/-- the end of a range, where an index can say it -/
theorem toNat_rangeEnd (start : Offset) (len : Nat) :
    (rangeEnd start len).toNat = min (start.toNat + len) lastOffset.toNat := by
  unfold rangeEnd
  split
  · rename_i h
    rw [toNat_lastOffset] at h ⊢
    rw [UInt64.toNat_ofNat_of_lt' (by simp only [UInt64.size]; omega), Nat.min_eq_left h]
  · omega

/-- a range that was asked for is cut whole, or it does not lie inside the slice -/
theorem slice?_rangeEnd {bytes : ByteArray} (hsize : bytes.size < sliceLimit) (start : Offset) (len : Nat) :
    slice? bytes start (rangeEnd start len) =
      if start.toNat + len ≤ bytes.size then some (bytes.extract start.toNat (start.toNat + len)) else none := by
  have hlimit : sliceLimit ≤ lastOffset.toNat := by decide
  rw [slice?, toNat_rangeEnd]
  by_cases hin : start.toNat + len ≤ bytes.size
  · have hend : min (start.toNat + len) lastOffset.toNat = start.toNat + len := by omega
    rw [hend, if_pos ⟨Nat.le_add_right _ _, hin⟩, if_pos hin]
  · rw [if_neg hin, if_neg]
    -- at the last index there is no byte either
    rintro ⟨-, hinside⟩
    omega

namespace ByteMemory

variable {m : ByteMemory}

/-- copying out to a slice is copying out -/
theorem readInto_eq (hsize : m.bytes.size < sliceLimit) (offset : Offset) (target : ByteArray) :
    m.readInto offset target = .ok (match LinearMemory.copyOut m offset.toNat target.size with
      | some bytes => (true, bytes)
      | none => (false, target)) := by
  by_cases hin : offset.toNat + target.size ≤ m.bytes.size
  · have hlength : target.size = (m.bytes.extract offset.toNat (offset.toNat + target.size)).size := by
      rw [ByteArray.size_extract]
      omega
    simp only [readInto, slice?_rangeEnd hsize, LinearMemory.copyOut, if_pos hin, copySlice, if_pos hlength]
    rfl
  · simp only [readInto, slice?_rangeEnd hsize, LinearMemory.copyOut, if_neg hin]
    rfl

/-- copying a slice in is copying in -/
theorem writeFrom_eq (hsize : m.bytes.size < sliceLimit) (offset : Offset) (source : ByteArray) :
    m.writeFrom offset source = .ok (match LinearMemory.copyIn m offset.toNat source with
      | some m' => (true, m')
      | none => (false, m)) := by
  by_cases hin : offset.toNat + source.size ≤ m.bytes.size
  · have hlength : (m.bytes.extract offset.toNat (offset.toNat + source.size)).size = source.size := by
      rw [ByteArray.size_extract]
      omega
    simp only [writeFrom, slice?_rangeEnd hsize, LinearMemory.copyIn, if_pos hin, copySlice, if_pos hlength]
    rfl
  · simp only [writeFrom, slice?_rangeEnd hsize, LinearMemory.copyIn, if_neg hin]
    rfl

end ByteMemory

/-- what the copies of a plain memory do; none of them stops the host -/
structure CopiesExactly (m : ByteMemory) : Prop where
  /-- bytes are copied out just where all of them lie inside the memory: then they fill the slice, and otherwise the slice
  stays as it is -/
  reads (offset : Offset) (target : ByteArray) :
    (offset.toNat + target.size ≤ m.bytes.size ∧ ∃ filled, m.readInto offset target = .ok (true, filled) ∧
        filled.size = target.size ∧ ∀ i, i < target.size → byteAt filled i = byteAt m.bytes (offset.toNat + i)) ∨
      (m.bytes.size < offset.toNat + target.size ∧ m.readInto offset target = .ok (false, target))
  /-- bytes are copied in just where all of them go inside the memory: then they replace the bytes there and no others, and
  otherwise the memory stays as it is -/
  writes (offset : Offset) (source : ByteArray) :
    (offset.toNat + source.size ≤ m.bytes.size ∧ ∃ after, m.writeFrom offset source = .ok (true, after) ∧
        after.bytes.size = m.bytes.size ∧ ∀ i, byteAt after.bytes i =
          if offset.toNat ≤ i ∧ i < offset.toNat + source.size then byteAt source (i - offset.toNat)
          else byteAt m.bytes i) ∨
      (m.bytes.size < offset.toNat + source.size ∧ m.writeFrom offset source = .ok (false, m))
  /-- the bytes that a copy finds are as many as were asked for -/
  whole (offset : Offset) (len : Nat) (part : ByteArray) :
    slice? m.bytes offset (rangeEnd offset len) = some part → part.size = len
  /-- these are the copies that every access to the memory makes -/
  accesses (offset : Offset) (slice : ByteArray) :
    (LinearMemory.copyOut m offset.toNat slice.size = match m.readInto offset slice with
      | .ok (true, filled) => some filled
      | _ => none) ∧
    (LinearMemory.copyIn m offset.toNat slice = match m.writeFrom offset slice with
      | .ok (true, after) => some after
      | _ => none)

/-- **Copies are exact over all offsets.** Whatever a plain memory holds, at whatever offset, and however long the slice is: a
copy is made just if the bytes that were asked for lie inside the memory, where the sum of offset and length has no limit;
it is made whole, and one that is refused changes nothing. -/
theorem raw_copies_exact (m : ByteMemory) (hsize : m.bytes.size < sliceLimit) : CopiesExactly m where
  reads offset target := by
    rw [ByteMemory.readInto_eq hsize]
    cases hcopy : LinearMemory.copyOut m offset.toNat target.size with
    | some bytes =>
      have hin := (ByteMemory.copyOut_eq_some.1 hcopy).1
      exact .inl ⟨hin, bytes, rfl, HonestMemory.size_copyOut hcopy, HonestMemory.byteAt_copyOut hcopy⟩
    | none =>
      have hout : ¬ offset.toNat + target.size ≤ m.bytes.size := by
        rw [← ByteMemory.isSome_copyOut_iff, hcopy]
        nofun
      exact .inr ⟨Nat.lt_of_not_le hout, rfl⟩
  writes offset source := by
    rw [ByteMemory.writeFrom_eq hsize]
    cases hcopy : LinearMemory.copyIn m offset.toNat source with
    | some m' =>
      have hin := (ByteMemory.copyIn_eq_some.1 hcopy).1
      exact .inl ⟨hin, m', rfl, ByteMemory.size_copyIn hcopy, HonestMemory.byte_copyIn hcopy⟩
    | none =>
      have hout : ¬ offset.toNat + source.size ≤ m.bytes.size := by
        rw [← ByteMemory.isSome_copyIn_iff, hcopy]
        nofun
      exact .inr ⟨Nat.lt_of_not_le hout, rfl⟩
  whole offset len part h := by
    rw [slice?_rangeEnd hsize] at h
    split at h
    · cases h
      rw [ByteArray.size_extract]
      omega
    · cases h
  accesses offset slice := by
    rw [ByteMemory.readInto_eq hsize, ByteMemory.writeFrom_eq hsize]
    constructor
    · cases LinearMemory.copyOut m offset.toNat slice.size <;> rfl
    · cases LinearMemory.copyIn m offset.toNat slice <;> rfl

/-- of four bytes, two are copied from the middle, and none where offset and length add up past 64 bits -/
theorem raw_copies_past_last_offset :
    let m : ByteMemory := ⟨⟨#[1, 2, 3, 4]⟩⟩
    let target : ByteArray := ⟨#[7, 8]⟩
    m.bytes.size < sliceLimit ∧ m.readInto 0xFFFFFFFFFFFFFFFF target = .ok (false, target) ∧
      m.writeFrom 0xFFFFFFFFFFFFFFFF target = .ok (false, m) ∧
      ∃ filled, m.readInto 1 target = .ok (true, filled) ∧ byteAt filled 0 = 2 ∧ byteAt filled 1 = 3 := by
  intro m target
  have hsize : m.bytes.size < sliceLimit := by decide
  have hexact := raw_copies_exact m hsize
  have hpast : ¬ (0xFFFFFFFFFFFFFFFF : Offset).toNat + target.size ≤ m.bytes.size := by decide
  have hinside : ¬ m.bytes.size < (1 : Offset).toNat + target.size := by decide
  refine ⟨hsize, ?_, ?_, ?_⟩
  · rcases hexact.reads 0xFFFFFFFFFFFFFFFF target with ⟨hin, -⟩ | ⟨-, hrefused⟩
    · exact absurd hin hpast
    · exact hrefused
  · rcases hexact.writes 0xFFFFFFFFFFFFFFFF target with ⟨hin, -⟩ | ⟨-, hrefused⟩
    · exact absurd hin hpast
    · exact hrefused
  · rcases hexact.reads 1 target with ⟨-, filled, hread, -, hbytes⟩ | ⟨hout, -⟩
    · exact ⟨filled, hread, hbytes 0 (by decide), hbytes 1 (by decide)⟩
    · exact absurd hout hinside

end ScriptHost
