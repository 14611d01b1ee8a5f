/-
What a guest prints. A call that prints succeeds just if there are such a stream, a slot for the number of bytes and a
buffer to read (`write_eq_success_iff`), and then it leaves one record and one word (`Prints.run_eq`). Both are told from
the bytes of the buffer, and not from the segments that these lie in.

- `SystemCall.write_logs_concatenation`: the record is the text of all segments together, less the newlines at its end.
- `SystemCall.write_counts_modulo`: the word is the number of bytes as far as a word can tell it. Segments may overlap, so
  there is no bound on that number in the size of the memory (`write_of_repeated`), and in a memory of two megabytes the
  word can be wrong already (`write_count_wraps`).
-/
import ScriptHost.Proofs.Memory.Stands
import ScriptHost.Proofs.System.Calls
import ScriptHost.Proofs.Text.Newlines

namespace ScriptHost

open Wire

section Buffer

variable {μ : Type} [LinearMemory μ] [LawfulMemory μ]

/-- the bytes that a vectored buffer holds -/
def vectorBytes (m : μ) (addr : Pointer) (count : UInt32) : ByteArray :=
  gathered m (segmentsAt m addr.toNat count.toNat)

/-- the lengths of the segments of a vectored buffer, all together -/
def vectorLength (m : μ) (addr : Pointer) (count : UInt32) : Nat :=
  ((segmentsAt m addr.toNat count.toNat).map fun s => s.len.toNat).sum

theorem size_vectorBytes (m : μ) (addr : Pointer) (count : UInt32) :
    (vectorBytes m addr count).size = vectorLength m addr count := size_gathered ..

end Buffer

namespace SystemCall

variable {μ : Type} [LinearMemory μ] [ExactMemory μ] {process : ProcessInfo} {reading : Reading} {m : μ} {fd : Int32}
  {segments : Pointer} {count : UInt32} {written : Pointer} {stream : Stream}

/-! ## What stands against it -/

variable (m fd segments count written stream) in
/-- nothing stands against printing to a stream -/
structure Prints : Prop where
  stream : streamOf? fd = some stream
  slot : ¬ (⟨written, 4⟩ : Span).Outside (LinearMemory.size m)
  buffer : ∀ p ∈ vectorSpans m segments count, ¬ p.Outside (LinearMemory.size m)

/-- the record of some bytes that were printed -/
def record (stream : Stream) (bytes : ByteArray) : Notice :=
  .printed stream (Text.trimNewlines (Text.decodeLossy bytes))

/-- the word that tells a number of bytes -/
def told (written : Pointer) (n : Nat) : Region := .ofValue written (UInt32.ofNat n)

theorem taken_told (hslot : ¬ (⟨written, 4⟩ : Span).Outside (LinearMemory.size m)) (n : Nat) :
    (writeRegions m [told written n]).2 = .ok () := by
  apply writeRegions_of_inside
  refine List.forall_mem_singleton.2 ?_
  have hspan : (told written n).span = ⟨written, 4⟩ := Region.span_ofValue written (UInt32.ofNat n)
  rw [← hspan] at hslot
  exact Nat.not_lt.1 hslot

theorem Prints.run_eq (h : Prints m fd segments count written stream) (hsize : LinearMemory.size m ≤ wordLimit) :
    (write fd segments count written).run process reading m = {
      errno := .success
      memory := (writeRegions m [told written (vectorBytes m segments count).size]).1
      notices := [record stream (vectorBytes m segments count)] } := by
  have hslot : checkBounds (LinearMemory.size m) written 4 = .ok () := if_pos (Nat.not_lt.1 h.slot)
  have hread : readGathered m segments count = .ok (vectorBytes m segments count) := by
    rcases readGathered_cases m hsize segments count with ⟨⟨p, hp, houtside⟩, -⟩ | ⟨-, hread⟩
    · exact absurd houtside (h.buffer p hp)
    · exact hread
  have hplan : (write fd segments count written).plan process reading m = .ok {
      notices := [record stream (vectorBytes m segments count)]
      regions := [told written (vectorBytes m segments count).size] } := by
    simp only [plan, h.stream, hslot, hread]
    rfl
  simp only [run, hplan]
  rw [taken_told h.slot]
  rfl

/-- printing succeeds just if nothing stands against it -/
theorem write_eq_success_iff (hsize : LinearMemory.size m ≤ wordLimit) :
    ((write fd segments count written).run process reading m).errno = .success ↔
      ∃ stream, Prints m fd segments count written stream := by
  constructor
  · intro h
    simp only [run, plan] at h
    cases hstream : streamOf? fd with
    | none =>
      simp only [hstream] at h
      cases h
    | some stream =>
      simp only [hstream] at h
      rcases checkBounds_cases (LinearMemory.size m) ⟨written, 4⟩ with ⟨-, hcheck⟩ | ⟨hslot, hcheck⟩
      · simp only [hcheck] at h
        cases h
      · simp only [hcheck] at h
        rcases readGathered_cases m hsize segments count with ⟨-, hread⟩ | ⟨hbuffer, -⟩
        · simp only [hread] at h
          cases h
        · exact ⟨stream, hstream, hslot, hbuffer⟩
  · rintro ⟨stream, h⟩
    rw [h.run_eq hsize]

/-! ## The record -/

/-- a record of some bytes that were printed to a file descriptor -/
structure Logs (fd : Int32) (bytes : ByteArray) (notice : Notice) : Prop where
  target : (fd = 1 ∧ notice.level = .info ∧ notice.channel = .stdout) ∨
    (fd = 2 ∧ notice.level = .warn ∧ notice.channel = .stderr)
  trimmed : notice.message.toList.getLast? ≠ some '\n'
  /-- the bytes read as the record and some newlines -/
  whole : ∃ n, Text.decodeLossy bytes = notice.message.pushn '\n' n
  text : ∀ text : String, bytes = text.toUTF8 → notice.message.toList = text.toList.rdropWhile (· = '\n')

theorem target_record (h : streamOf? fd = some stream) (bytes : ByteArray) :
    (fd = 1 ∧ (record stream bytes).level = .info ∧ (record stream bytes).channel = .stdout) ∨
      (fd = 2 ∧ (record stream bytes).level = .warn ∧ (record stream bytes).channel = .stderr) := by
  unfold streamOf? at h
  split at h
  · cases h
    exact .inl ⟨‹_›, rfl, rfl⟩
  · split at h
    · cases h
      exact .inr ⟨‹_›, rfl, rfl⟩
    · cases h

theorem logs_record (h : streamOf? fd = some stream) (bytes : ByteArray) : Logs fd bytes (record stream bytes) where
  target := target_record h bytes
  trimmed := Text.getLast?_trimNewlines _
  whole := Text.trimNewlines_append _
  text text htext := by
    subst htext
    have hmessage : (record stream text.toUTF8).message = Text.trimNewlines text :=
      congrArg Text.trimNewlines (Text.decodeLossy_toUTF8 text)
    rw [hmessage, Text.toList_trimNewlines]

/-- **The concatenation is logged.** A call that prints leaves one record, on the channel of its file descriptor. What the
record says is the text of all segments together, less the newlines at its end. Any other call that prints the same bytes
to the same file descriptor leaves the same record, however many segments they come in and wherever they are cut. -/
theorem write_logs_concatenation (hsize : LinearMemory.size m ≤ wordLimit)
    (h : ((write fd segments count written).run process reading m).errno = .success) :
    ∃ notice, ((write fd segments count written).run process reading m).notices = [notice] ∧
      Logs fd (vectorBytes m segments count) notice ∧
      ∀ (process' : ProcessInfo) (reading' : Reading) (m' : μ) (segments' : Pointer) (count' : UInt32)
        (written' : Pointer), LinearMemory.size m' ≤ wordLimit →
        ((write fd segments' count' written').run process' reading' m').errno = .success →
        vectorBytes m' segments' count' = vectorBytes m segments count →
        ((write fd segments' count' written').run process' reading' m').notices = [notice] := by
  obtain ⟨stream, hprints⟩ := (write_eq_success_iff hsize).1 h
  refine ⟨record stream (vectorBytes m segments count), ?_, logs_record hprints.stream _, ?_⟩
  · rw [hprints.run_eq hsize]
  · intro process' reading' m' segments' count' written' hsize' h' hbytes
    obtain ⟨stream', hprints'⟩ := (write_eq_success_iff hsize').1 h'
    have hstream : stream' = stream := Option.some.inj (hprints'.stream.symm.trans hprints.stream)
    rw [hprints'.run_eq hsize', hbytes, hstream]

/-- three segments, one of them empty, cut the bytes of `€` in two; a fourth one holds all of them -/
theorem write_logs_cut_character :
    let reading : Reading := { realtime := 0, monotonic := 0, entropy := .ok fun _ => 0 }
    let m : ByteMemory := ⟨(encodeAll ([32, 2, 34, 0, 34, 3, 32, 5, 0xAC82E261, 0x0A, 0] : List UInt32)).toByteArray⟩
    let cut := (write 2 0 3 40).run ⟨[], []⟩ reading m
    let whole := (write 2 24 1 40).run ⟨[], []⟩ reading m
    cut.errno = .success ∧ whole.errno = .success ∧
      ∃ notice, cut.notices = [notice] ∧ whole.notices = [notice] ∧ Logs 2 "a€\n".toUTF8 notice ∧
        notice.message.toList = ['a', '€'] := by
  intro reading m cut whole
  have hcut : cut.errno = .success := by decide +kernel
  have hwhole : whole.errno = .success := by decide +kernel
  have hsize : LinearMemory.size m ≤ wordLimit := by decide +kernel
  have hbytes : vectorBytes m 0 3 = "a€\n".toUTF8 := by decide +kernel
  have hsame : vectorBytes m 24 1 = vectorBytes m 0 3 := by decide +kernel
  have htrimmed : "a€\n".toList.rdropWhile (· = '\n') = ['a', '€'] := by decide +kernel
  obtain ⟨notice, hnotice, hlogs, hothers⟩ := write_logs_concatenation hsize hcut
  rw [hbytes] at hlogs
  have htext : notice.message.toList = ['a', '€'] := (hlogs.text "a€\n" rfl).trans htrimmed
  exact ⟨hcut, hwhole, notice, hnotice, hothers _ _ _ _ _ _ hsize hwhole hsame, hlogs, htext⟩

/-! ## The count -/

/-- the word that a call leaves in its slot -/
theorem Prints.wordAt_run (h : Prints m fd segments count written stream) (hsize : LinearMemory.size m ≤ wordLimit) :
    wordAt ((write fd segments count written).run process reading m).memory written.toNat =
      UInt32.ofNat (vectorLength m segments count) := by
  rw [h.run_eq hsize, ← size_vectorBytes]
  exact wordAt_written (taken_told h.slot _)

/-- **The count, as far as a word tells it.** The number of bytes that are gathered and logged is the sum of the lengths of
all segments. A call that prints leaves that number modulo 2^32, so it is exact just if it is below that. -/
theorem write_counts_modulo (hsize : LinearMemory.size m ≤ wordLimit)
    (h : ((write fd segments count written).run process reading m).errno = .success) :
    let told := (wordAt ((write fd segments count written).run process reading m).memory written.toNat).toNat
    (vectorBytes m segments count).size = vectorLength m segments count ∧
      told = vectorLength m segments count % wordLimit ∧
      (told = vectorLength m segments count ↔ vectorLength m segments count < wordLimit) := by
  obtain ⟨stream, hprints⟩ := (write_eq_success_iff hsize).1 h
  have htold : (wordAt ((write fd segments count written).run process reading m).memory written.toNat).toNat =
      vectorLength m segments count % wordLimit := by
    rw [hprints.wordAt_run hsize]
    exact UInt32.toNat_ofNat'
  refine ⟨size_vectorBytes .., htold, ?_⟩
  rw [htold]
  constructor
  · intro heq
    rw [← heq]
    exact Nat.mod_lt _ (by decide)
  · exact Nat.mod_eq_of_lt

/-- two segments of four bytes overlap in two bytes, which are counted twice -/
theorem write_counts_overlap :
    let reading : Reading := { realtime := 0, monotonic := 0, entropy := .ok fun _ => 0 }
    let m : ByteMemory := ⟨(encodeAll ([16, 4, 18, 4, 0x6F6C6568, 0x0A21, 0] : List UInt32)).toByteArray⟩
    let o := (write 1 0 2 24).run ⟨[], []⟩ reading m
    o.errno = .success ∧ (vectorBytes m 0 2).size = 8 ∧ (wordAt o.memory 24).toNat = 8 := by
  intro reading m o
  have hok : o.errno = .success := by decide +kernel
  have hsize : LinearMemory.size m ≤ wordLimit := by decide +kernel
  have hlength : vectorLength m 0 2 = 8 := by decide +kernel
  obtain ⟨hbytes, -, hexact⟩ := write_counts_modulo hsize hok
  rw [hlength] at hbytes hexact
  exact ⟨hok, hbytes, hexact.2 (by decide)⟩

/-! ## Counts that no word can tell -/

/-- a memory that holds a text, as many records of all of it, and room for a word -/
def repeated (len : UInt32) (n : Nat) : ByteMemory :=
  ⟨filled len.toNat 10 ++ (encodeAll ((List.replicate n (⟨0, len⟩ : Segment)).flatMap Segment.words)).toByteArray ++
    filled 4 10⟩

theorem size_repeated (len : UInt32) (n : Nat) : LinearMemory.size (repeated len n) = len.toNat + 8 * n + 4 := by
  change (repeated len n).bytes.size = _
  rw [repeated, ByteArray.size_append, ByteArray.size_append, size_filled, size_filled, List.size_toByteArray,
    length_records, List.length_replicate]

theorem segmentsAt_repeated (len : UInt32) (n : Nat) :
    segmentsAt (repeated len n) len.toNat n = List.replicate n ⟨0, len⟩ := by
  have hstands := stands_between (filled len.toNat 10) (filled 4 10)
    (encodeAll ((List.replicate n (⟨0, len⟩ : Segment)).flatMap Segment.words))
  have hsegments := segmentsAt_of_stands hstands
  rwa [size_filled, List.length_replicate] at hsegments

/-- a text that is printed again and again is counted as often, as far as a word tells it -/
theorem write_of_repeated (process : ProcessInfo) (reading : Reading) {len count written : UInt32} {n : Nat}
    (hcount : count.toNat = n) (hwritten : written.toNat = len.toNat + 8 * n)
    (hsize : LinearMemory.size (repeated len n) ≤ wordLimit) :
    ((write 1 len count written).run process reading (repeated len n)).errno = .success ∧
      vectorLength (repeated len n) len count = n * len.toNat ∧
      wordAt ((write 1 len count written).run process reading (repeated len n)).memory written.toNat =
        UInt32.ofNat (n * len.toNat) := by
  have hlength : vectorLength (repeated len n) len count = n * len.toNat := by
    rw [vectorLength, hcount, segmentsAt_repeated, List.map_replicate, List.sum_replicate_nat]
  have hprints : Prints (repeated len n) 1 len count written .stdout := by
    refine ⟨rfl, ?_, ?_⟩
    · rw [Span.Outside, size_repeated]
      dsimp only
      omega
    · rw [vectorSpans, hcount, segmentsAt_repeated, List.map_replicate]
      refine List.forall_mem_cons.2 ⟨?_, ?_⟩
      · rw [Span.Outside, size_repeated]
        dsimp only
        omega
      · intro p hp
        have hzero : (0 : UInt32).toNat = 0 := rfl
        rw [List.eq_of_mem_replicate hp, Segment.span, Span.Outside, size_repeated]
        dsimp only
        omega
  refine ⟨?_, hlength, ?_⟩
  · rw [hprints.run_eq hsize]
  · rw [hprints.wordAt_run hsize, hlength]

/-- two megabytes of text, printed 2046 times by one call, are 2^32 and 2042 bytes more; the call succeeds, and says that
it printed 2042 bytes -/
theorem write_count_wraps :
    let reading : Reading := { realtime := 0, monotonic := 0, entropy := .ok fun _ => 0 }
    let m := repeated 2099203 2046
    let o := (write 1 2099203 2046 2115571).run ⟨[], []⟩ reading m
    LinearMemory.size m ≤ wordLimit ∧ o.errno = .success ∧ vectorLength m 2099203 2046 = 4294969338 ∧
      (wordAt o.memory 2115571).toNat = 2042 := by
  have hlen : (2099203 : UInt32).toNat = 2099203 := rfl
  have hcount : (2046 : UInt32).toNat = 2046 := rfl
  have hslot : (2115571 : UInt32).toNat = 2115571 := rfl
  have hwritten : (2115571 : UInt32).toNat = (2099203 : UInt32).toNat + 8 * 2046 := by rw [hslot, hlen]
  have hsize : LinearMemory.size (repeated 2099203 2046) ≤ wordLimit := by
    rw [size_repeated, hlen]
    decide
  -- the memory is not to be evaluated, so the call is settled by its lemma
  have hcall := write_of_repeated ⟨[], []⟩ { realtime := 0, monotonic := 0, entropy := .ok fun _ => 0 } hcount hwritten
    hsize
  rw [hlen, hslot] at hcall
  obtain ⟨hok, hlength, hword⟩ := hcall
  dsimp only
  rw [hword]
  exact ⟨hsize, hok, hlength, rfl⟩

end SystemCall

end ScriptHost
