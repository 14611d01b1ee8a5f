/-
Vectored buffers. What a guest describes by an array of records is known from the bytes of its memory: the segments
(`segmentsAt`), and what they hold (`gathered`). In an exact memory of at most 2^32 bytes the host reads just that, if the
array lies inside of it (`readSegments_cases`), and so does each segment (`gather_cases`); otherwise it is out of bounds.

- `readGathered_cases`: both together, for the whole of a vectored buffer.
-/
import ScriptHost.Memory.Segment
import ScriptHost.Proofs.Memory.ReadBack

namespace ScriptHost

open Wire

theorem pointer_of_lt (address : Nat) (h : address < wordLimit) :
    ∃ p, pointer address = .ok p ∧ p.toNat = address :=
  ⟨UInt32.ofNat address, if_pos h, UInt32.toNat_ofNat_of_lt' h⟩

theorem toNat_of_pointer {address : Nat} {p : Pointer} (h : pointer address = .ok p) : p.toNat = address := by
  unfold pointer at h
  split at h
  · cases h
    exact UInt32.toNat_ofNat_of_lt' ‹_›
  · cases h

/-- the bytes that a segment describes -/
def Segment.span (s : Segment) : Span := ⟨s.ptr, s.len.toNat⟩

section Bytes

variable {μ : Type} [LinearMemory μ] [LawfulMemory μ] (m : μ)

/-- the little-endian word at an address -/
def wordAt (address : Nat) : UInt32 :=
  UInt32.ofNat (ofLittleEndian ((List.range 4).map fun i => HonestMemory.byte m (address + i)))

/-- the segments that an array of `n` records describes -/
def segmentsAt (address n : Nat) : List Segment :=
  (List.range n).map fun i => ⟨wordAt m (address + 8 * i), wordAt m (address + 8 * i + 4)⟩

theorem segmentsAt_succ (address n : Nat) : segmentsAt m address (n + 1) =
    ⟨wordAt m address, wordAt m (address + 4)⟩ :: segmentsAt m (address + segmentRecordSize) n := by
  rw [segmentsAt, List.range_succ_eq_map, List.map_cons, List.map_map, segmentsAt]
  congr 1
  refine List.map_congr_left fun i _ => ?_
  have hnext : address + 8 * (i + 1) = address + segmentRecordSize + 8 * i := by
    rw [segmentRecordSize]
    omega
  simp only [Function.comp_apply, Nat.succ_eq_add_one, hnext]

/-- the bytes that the host looks at to read a vectored buffer: the array of records, and the segments -/
def vectorSpans (addr : Pointer) (count : UInt32) : List Span :=
  ⟨addr, 8 * count.toNat⟩ :: (segmentsAt m addr.toNat count.toNat).map Segment.span

/-- the bytes of some segments, one after another -/
def gathered (segments : List Segment) : ByteArray :=
  segments.foldl (fun bytes s => bytes ++ bytesAt m s.ptr s.len.toNat) .empty

end Bytes

section Exact

variable {μ : Type} [LinearMemory μ] [ExactMemory μ] {m : μ}

theorem readWord_of_inside {p : Pointer} (h : p.toNat + 4 ≤ LinearMemory.size m) :
    readValue m p = .ok (wordAt m p.toNat) := by
  have hbytes : (bytesAt m p 4).data.toList = (List.range 4).map fun i => HonestMemory.byte m (p.toNat + i) :=
    List.toList_data_toByteArray
  have hdecode : decode? (bytesAt m p 4).data.toList = some (wordAt m p.toNat) := by
    rw [hbytes]
    rfl
  have hread : readBytes m p (wireSize UInt32) = .ok (bytesAt m p 4) := readBytes_of_inside h
  simp only [readValue, hread, bind, Except.bind]
  rw [hdecode]
  rfl

/-! ## The records -/

theorem readSegmentRecords_of_inside (address n : Nat) (hsize : LinearMemory.size m ≤ wordLimit)
    (h : address + segmentRecordSize * n ≤ LinearMemory.size m) :
    readSegmentRecords m address n = .ok (segmentsAt m address n) := by
  induction n generalizing address with
  | zero => rfl
  | succ n ih =>
    have hrecord : segmentRecordSize = 8 := rfl
    rw [Nat.mul_succ] at h
    obtain ⟨p, hp, hpaddress⟩ := pointer_of_lt address (by omega)
    obtain ⟨q, hq, hqaddress⟩ := pointer_of_lt (address + 4) (by omega)
    have hptr : readValue m p = .ok (wordAt m address) := by
      rw [readWord_of_inside (by omega), hpaddress]
    have hlen : readValue m q = .ok (wordAt m (address + 4)) := by
      rw [readWord_of_inside (by omega), hqaddress]
    have hrest := ih (address + segmentRecordSize) (by omega)
    simp only [readSegmentRecords, hp, hq, hptr, hlen, hrest, bind, Except.bind]
    rw [segmentsAt_succ]
    rfl

/-- an array of records is read, or it does not lie inside the memory -/
theorem readSegments_cases (m : μ) (hsize : LinearMemory.size m ≤ wordLimit) (addr : Pointer) (count : UInt32) :
    ((⟨addr, 8 * count.toNat⟩ : Span).Outside (LinearMemory.size m) ∧
      readSegments m addr count = .error .outOfBounds) ∨
    (¬ (⟨addr, 8 * count.toNat⟩ : Span).Outside (LinearMemory.size m) ∧
      readSegments m addr count = .ok (segmentsAt m addr.toNat count.toNat)) := by
  have hrecord : segmentRecordSize * count.toNat = 8 * count.toNat := rfl
  rcases checkBounds_cases (LinearMemory.size m) ⟨addr, 8 * count.toNat⟩ with ⟨houtside, hcheck⟩ | ⟨hinside, hcheck⟩
  · refine .inl ⟨houtside, ?_⟩
    simp only [readSegments, hrecord, hcheck, bind, Except.bind]
  · refine .inr ⟨hinside, ?_⟩
    simp only [readSegments, hrecord, hcheck, bind, Except.bind]
    exact readSegmentRecords_of_inside _ _ hsize (Nat.not_lt.1 hinside)

/-! ## What the segments hold -/

/-- segments are read, or one of them does not lie inside the memory -/
theorem gather_cases (m : μ) (segments : List Segment) :
    ((∃ s ∈ segments, s.span.Outside (LinearMemory.size m)) ∧ gather m segments = .error .outOfBounds) ∨
    ((∀ s ∈ segments, ¬ s.span.Outside (LinearMemory.size m)) ∧
      gather m segments = .ok (gathered m segments)) := by
  suffices h : ∀ start : ByteArray,
      let found := segments.foldlM (fun bytes s => do return bytes ++ (← readBytes m s.ptr s.len.toNat)) start
      ((∃ s ∈ segments, s.span.Outside (LinearMemory.size m)) ∧ found = .error .outOfBounds) ∨
      ((∀ s ∈ segments, ¬ s.span.Outside (LinearMemory.size m)) ∧
        found = .ok (segments.foldl (fun bytes s => bytes ++ bytesAt m s.ptr s.len.toNat) start)) from h .empty
  intro start
  induction segments generalizing start with
  | nil => exact .inr ⟨List.forall_mem_nil _, rfl⟩
  | cons s rest ih =>
    by_cases hs : s.span.Outside (LinearMemory.size m)
    · have hread : readBytes m s.ptr s.len.toNat = .error .outOfBounds := readBytes_of_outside hs
      refine .inl ⟨⟨s, List.mem_cons_self, hs⟩, ?_⟩
      simp only [List.foldlM_cons, hread, bind, Except.bind]
    · have hread : readBytes m s.ptr s.len.toNat = .ok (bytesAt m s.ptr s.len.toNat) :=
        readBytes_of_inside (Nat.not_lt.1 hs)
      simp only [List.foldlM_cons, hread, bind, Except.bind, pure, Except.pure, List.foldl_cons]
      rcases ih (start ++ bytesAt m s.ptr s.len.toNat) with ⟨⟨s', hs', houtside⟩, hrest⟩ | ⟨hinside, hrest⟩
      · exact .inl ⟨⟨s', List.mem_cons_of_mem _ hs', houtside⟩, hrest⟩
      · exact .inr ⟨List.forall_mem_cons.2 ⟨hs, hinside⟩, hrest⟩

/-- a vectored buffer is read, or something of it does not lie inside the memory -/
theorem readGathered_cases (m : μ) (hsize : LinearMemory.size m ≤ wordLimit) (addr : Pointer) (count : UInt32) :
    ((∃ p ∈ vectorSpans m addr count, p.Outside (LinearMemory.size m)) ∧
      readGathered m addr count = .error .outOfBounds) ∨
    ((∀ p ∈ vectorSpans m addr count, ¬ p.Outside (LinearMemory.size m)) ∧
      readGathered m addr count = .ok (gathered m (segmentsAt m addr.toNat count.toNat))) := by
  rcases readSegments_cases m hsize addr count with ⟨houtside, hread⟩ | ⟨hinside, hread⟩
  · refine .inl ⟨⟨_, List.mem_cons_self, houtside⟩, ?_⟩
    simp only [readGathered, hread, bind, Except.bind]
  · simp only [readGathered, hread, bind, Except.bind]
    rcases gather_cases m (segmentsAt m addr.toNat count.toNat) with ⟨⟨s, hs, houtside⟩, hgather⟩ | ⟨hall, hgather⟩
    · exact .inl ⟨⟨_, List.mem_cons_of_mem _ (List.mem_map_of_mem hs), houtside⟩, hgather⟩
    · refine .inr ⟨List.forall_mem_cons.2 ⟨hinside, ?_⟩, hgather⟩
      intro p hp
      obtain ⟨s, hs, rfl⟩ := List.mem_map.1 hp
      exact hall s hs

end Exact

end ScriptHost
