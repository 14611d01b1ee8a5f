/-
Vectored buffers, read exactly. One check of the whole array of records stands in front of all that is read of it. In a
memory of at most 2^32 bytes it is enough: each record that the array has begins and ends below 2^32, so the address of
neither of its words is cut when it becomes a pointer (`pointer_of_record`), and the words that are read are those that
stand there (`stands_wordAt`).

- `gathered_eq`: what the segments hold is the bytes of all of them, one segment after another.
- `vectors_read_exactly`: when the records are read and what they are; when the text is read, what it is and how many bytes
  it is made of.
-/
import ScriptHost.Proofs.Memory.Stands
import ScriptHost.Proofs.Wire.Faithful

namespace ScriptHost

open Wire

section Bytes

variable {μ : Type} [LinearMemory μ] [LawfulMemory μ]

/-- at an address stands the word of that address -/
theorem stands_wordAt (m : μ) (address : Nat) : Stands m address (encode (wordAt m address)) := by
  have htaken : take? (listAt m address 4) = some (wordAt m address, []) := rfl
  have hbytes := encode_append htaken
  rw [List.append_nil] at hbytes
  rw [Stands, length_encode, hbytes]
  rfl

theorem gathered_eq (m : μ) (segments : List Segment) :
    gathered m segments = (segments.flatMap fun s => listAt m s.ptr.toNat s.len.toNat).toByteArray := by
  suffices h : ∀ start : List UInt8,
      segments.foldl (fun bytes s => bytes ++ bytesAt m s.ptr s.len.toNat) start.toByteArray =
        (start ++ segments.flatMap fun s => listAt m s.ptr.toNat s.len.toNat).toByteArray from h []
  intro start
  induction segments generalizing start with
  | nil => rw [List.foldl_nil, List.flatMap_nil, List.append_nil]
  | cons s rest ih =>
    have hbytes : bytesAt m s.ptr s.len.toNat = (listAt m s.ptr.toNat s.len.toNat).toByteArray := rfl
    rw [List.foldl_cons, hbytes, ← List.toByteArray_append, ih, List.flatMap_cons, List.append_assoc]

end Bytes

variable {μ : Type} [LinearMemory μ] {m : μ} {addr : Pointer} {count : UInt32}

/-- both words of a record have an address that a pointer can say -/
theorem pointer_of_record (hsize : LinearMemory.size m ≤ wordLimit)
    (h : addr.toNat + 8 * count.toNat ≤ LinearMemory.size m) {i : Nat} (hi : i < count.toNat) :
    (∃ p, pointer (addr.toNat + 8 * i) = .ok p ∧ p.toNat = addr.toNat + 8 * i) ∧
      ∃ q, pointer (addr.toNat + 8 * i + 4) = .ok q ∧ q.toNat = addr.toNat + 8 * i + 4 :=
  ⟨pointer_of_lt _ (by omega), pointer_of_lt _ (by omega)⟩

variable [ExactMemory μ]

variable (m addr count) in
/-- an array of records and the text that they describe are read exactly -/
structure ReadsVector : Prop where
  /-- the records are read just where the array lies inside the memory: as many as were asked for, each of them the two
  words that stand in its place, the least significant byte first -/
  records :
    (addr.toNat + 8 * count.toNat ≤ LinearMemory.size m ∧ ∃ segments, readSegments m addr count = .ok segments ∧
        segments.length = count.toNat ∧ ∀ i (hi : i < segments.length), Stands m (addr.toNat + 8 * i)
          (littleEndian 4 segments[i].ptr.toNat ++ littleEndian 4 segments[i].len.toNat)) ∨
      (LinearMemory.size m < addr.toNat + 8 * count.toNat ∧ readSegments m addr count = .error .outOfBounds)
  /-- a text is read just where moreover every segment lies inside, an empty one too: it is made of the bytes of all
  segments, which are as many as the lengths say together -/
  text (segments : List Segment) : readSegments m addr count = .ok segments →
    ((∀ s ∈ segments, s.ptr.toNat + s.len.toNat ≤ LinearMemory.size m) ∧ readVector m addr count = .ok
        (Text.decodeLossy (segments.flatMap fun s => listAt m s.ptr.toNat s.len.toNat).toByteArray,
          (segments.map fun s => s.len.toNat).sum)) ∨
      ((∃ s ∈ segments, LinearMemory.size m < s.ptr.toNat + s.len.toNat) ∧
        readVector m addr count = .error .outOfBounds)
  /-- without the records there is no text -/
  noText (e : AccessError) : readSegments m addr count = .error e → readVector m addr count = .error e
  /-- where the array lies inside, the addresses in it are not cut -/
  addresses : addr.toNat + 8 * count.toNat ≤ LinearMemory.size m → ∀ i < count.toNat,
    (∃ p, pointer (addr.toNat + 8 * i) = .ok p ∧ p.toNat = addr.toNat + 8 * i) ∧
      ∃ q, pointer (addr.toNat + 8 * i + 4) = .ok q ∧ q.toNat = addr.toNat + 8 * i + 4

theorem stands_segmentsAt (m : μ) (address n i : Nat) (hi : i < (segmentsAt m address n).length) :
    Stands m (address + 8 * i) (littleEndian 4 (segmentsAt m address n)[i].ptr.toNat ++
      littleEndian 4 (segmentsAt m address n)[i].len.toNat) := by
  have hrecord : (segmentsAt m address n)[i] =
      ⟨wordAt m (address + 8 * i), wordAt m (address + 8 * i + 4)⟩ := by
    simp only [segmentsAt, List.getElem_map, List.getElem_range]
  rw [hrecord]
  refine stands_append.2 ⟨stands_wordAt m _, ?_⟩
  rw [length_littleEndian]
  exact stands_wordAt m _

theorem readVector_of_segments {segments : List Segment} (h : readSegments m addr count = .ok segments) :
    ((∀ s ∈ segments, s.ptr.toNat + s.len.toNat ≤ LinearMemory.size m) ∧
        readVector m addr count = .ok (Text.decodeLossy (gathered m segments), (gathered m segments).size)) ∨
      ((∃ s ∈ segments, LinearMemory.size m < s.ptr.toNat + s.len.toNat) ∧
        readVector m addr count = .error .outOfBounds) := by
  simp only [readVector, readGathered, h, bind, Except.bind]
  rcases gather_cases m segments with ⟨⟨s, hs, houtside⟩, hgather⟩ | ⟨hinside, hgather⟩
  · rw [hgather]
    exact .inr ⟨⟨s, hs, houtside⟩, rfl⟩
  · rw [hgather]
    exact .inl ⟨fun s hs => Nat.not_lt.1 (hinside s hs), rfl⟩

/-- **Vectored buffers are read exactly.** Whatever a memory of at most 2^32 bytes holds, wherever an array of records is said
to be and however many records it is said to have: the records are read if the array lies inside the memory, and the text
if the segments do as well; otherwise nothing is. -/
theorem vectors_read_exactly (m : μ) (hsize : LinearMemory.size m ≤ wordLimit) (addr : Pointer) (count : UInt32) :
    ReadsVector m addr count where
  records := by
    rcases readSegments_cases m hsize addr count with ⟨houtside, hread⟩ | ⟨hinside, hread⟩
    · exact .inr ⟨houtside, hread⟩
    · refine .inl ⟨Nat.not_lt.1 hinside, _, hread, ?_, stands_segmentsAt m _ _⟩
      rw [segmentsAt, List.length_map, List.length_range]
  text segments h := by
    have hread := readVector_of_segments h
    rwa [size_gathered, gathered_eq] at hread
  noText e h := by
    simp only [readVector, readGathered, h, bind, Except.bind]
  addresses h _ hi := pointer_of_record hsize h hi

/-- three records end where the memory ends: two of the segments overlap, and the last one is empty and starts at the end; a
fourth record would be outside -/
theorem vectors_read_at_end :
    let m : ByteMemory := ⟨(encodeAll ([0x21216968, 0, 4, 2, 2, 28, 0] : List UInt32)).toByteArray⟩
    LinearMemory.size m ≤ wordLimit ∧ readSegments m 4 3 = .ok [⟨0, 4⟩, ⟨2, 2⟩, ⟨28, 0⟩] ∧
      readVector m 4 3 = .ok ("hi!!!!", 6) ∧ readVector m 4 4 = .error .outOfBounds := by
  intro m
  have hsize : LinearMemory.size m ≤ wordLimit := by decide +kernel
  have hsegments : segmentsAt m 4 3 = [⟨0, 4⟩, ⟨2, 2⟩, ⟨28, 0⟩] := by decide +kernel
  have hread : readSegments m 4 3 = .ok [⟨0, 4⟩, ⟨2, 2⟩, ⟨28, 0⟩] := by
    have hinside : ¬ LinearMemory.size m < (4 : Pointer).toNat + 8 * (3 : UInt32).toNat := by decide +kernel
    rcases readSegments_cases m hsize 4 3 with ⟨houtside, -⟩ | ⟨-, hread⟩
    · exact absurd houtside hinside
    · exact hread.trans (congrArg Except.ok hsegments)
  have hinside : ∀ s ∈ ([⟨0, 4⟩, ⟨2, 2⟩, ⟨28, 0⟩] : List Segment),
      ¬ LinearMemory.size m < s.ptr.toNat + s.len.toNat := by decide +kernel
  have hbytes : (([⟨0, 4⟩, ⟨2, 2⟩, ⟨28, 0⟩] : List Segment).flatMap
      fun s => listAt m s.ptr.toNat s.len.toNat).toByteArray = "hi!!!!".toUTF8 := by decide +kernel
  refine ⟨hsize, hread, ?_, ?_⟩
  · rcases (vectors_read_exactly m hsize 4 3).text _ hread with ⟨-, htext⟩ | ⟨⟨s, hs, houtside⟩, -⟩
    · rw [hbytes, Text.decodeLossy_toUTF8] at htext
      exact htext
    · exact absurd houtside (hinside s hs)
  · have hpast : ¬ (4 : Pointer).toNat + 8 * (4 : UInt32).toNat ≤ LinearMemory.size m := by decide +kernel
    rcases (vectors_read_exactly m hsize 4 4).records with ⟨hin, -⟩ | ⟨-, hrefused⟩
    · exact absurd hin hpast
    · exact (vectors_read_exactly m hsize 4 4).noText _ hrefused

end ScriptHost
