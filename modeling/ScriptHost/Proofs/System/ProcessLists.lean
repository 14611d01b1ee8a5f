/-
What a guest learns of its process. It is told the number of its arguments and the size of their buffer by one call, and
has them written by another one; the same goes for its environment. The two calls are decided apart, one by a sum and the
other by running pointers, and they agree: where the buffers that the first call asks for lie inside the memory the second
one succeeds, and only there.

- `StringList.write_cases`: the regions of a list are written, or nothing is.
- `StringList.laid_of_stands`: pointers that run through packed strings lead to them, one after another.
- `ProcessList.strings_read_back`: from what it was told and what was written, a guest reads back just its strings.
-/
import ScriptHost.Proofs.Memory.Stands
import ScriptHost.Proofs.System.Calls

namespace ScriptHost

open Wire

/-! ## Strings with terminators -/

section Terminated

variable {μ : Type} [LinearMemory μ] [LawfulMemory μ] (m : μ)

/-- the bytes from an address up to the next zero byte -/
def terminatedAt (address : Nat) : List UInt8 := (listAt m address (LinearMemory.size m - address)).takeWhile (· ≠ 0)

/-- the texts to which the pointers of an array lead, each up to the next zero byte -/
def textsAt (array n : Nat) : List String :=
  (List.range n).map fun i => Text.decodeLossy (terminatedAt m (wordAt m (array + 4 * i)).toNat).toByteArray

variable {m}

theorem terminatedAt_of_stands {address : Nat} {bytes : List UInt8} (h : Stands m address (bytes ++ [0]))
    (hin : address + (bytes ++ [0]).length ≤ LinearMemory.size m) (hzero : 0 ∉ bytes) :
    terminatedAt m address = bytes := by
  obtain ⟨rest, hrest⟩ : ∃ rest, LinearMemory.size m - address = (bytes ++ [0]).length + rest :=
    ⟨LinearMemory.size m - address - (bytes ++ [0]).length, by omega⟩
  have hpass : ∀ b ∈ bytes, (b ≠ 0 : Bool) = true := by
    intro b hb
    refine decide_eq_true ?_
    rintro rfl
    exact hzero hb
  rw [Stands] at h
  rw [terminatedAt, hrest, listAt_add, h, List.append_assoc, List.takeWhile_append_of_pos hpass]
  simp

end Terminated

namespace StringList

variable {strings : List String} {address : Nat}

/-! ## Running pointers -/

theorem totalSize_append (first rest : List String) : totalSize (first ++ rest) = totalSize first + totalSize rest := by
  induction first with
  | nil => exact (Nat.zero_add _).symm
  | cons text others ih => rw [List.cons_append, totalSize, totalSize, ih, Nat.add_assoc]

theorem totalSize_take_succ {i : Nat} (hi : i < strings.length) :
    totalSize (strings.take (i + 1)) = totalSize (strings.take i) + room strings[i] := by
  rw [List.take_succ_eq_append_getElem hi, totalSize_append]
  rfl

theorem totalSize_take_le (strings : List String) (i : Nat) : totalSize (strings.take i) ≤ totalSize strings := by
  have hsum := totalSize_append (strings.take i) (strings.drop i)
  rw [List.take_append_drop] at hsum
  omega

theorem getElem_pointers {ps : List Pointer} (h : pointers address strings = .ok ps) (i : Nat) (hi : i < ps.length) :
    ps[i].toNat = address + totalSize (strings.take i) := by
  induction strings generalizing address ps i with
  | nil =>
    cases h
    cases hi
  | cons text rest ih =>
    simp only [pointers, bind_eq_ok, pure_eq_ok] at h
    obtain ⟨first, hfirst, others, hothers, rfl⟩ := h
    cases i with
    | zero => exact toNat_of_pointer hfirst
    | succ i => rw [List.getElem_cons_succ, ih hothers, List.take_succ_cons, totalSize, Nat.add_assoc]

/-! ## Packed strings -/

theorem length_terminated (text : String) : (Text.utf8 text ++ [0]).length = room text := by
  rw [List.length_append, List.length_singleton]
  rfl

theorem toList_packed (strings : List String) :
    (packed strings).data.toList = strings.flatMap fun text => Text.utf8 text ++ [0] := by
  suffices h : ∀ start : ByteArray, (strings.foldl (fun bytes text => bytes ++ terminated text) start).data.toList =
      start.data.toList ++ strings.flatMap fun text => Text.utf8 text ++ [0] from h .empty
  intro start
  induction strings generalizing start with
  | nil => exact (List.append_nil _).symm
  | cons text rest ih =>
    have hterminated : (terminated text).data.toList = Text.utf8 text ++ [0] := Array.toList_push
    rw [List.foldl_cons, ih, ByteArray.data_append, Array.toList_append, hterminated, List.flatMap_cons, List.append_assoc]

section Laid

variable {μ : Type} [LinearMemory μ] [LawfulMemory μ] {m : μ}

/-- of packed strings, each stands behind those before it -/
theorem stands_getElem (h : Stands m address (strings.flatMap fun text => Text.utf8 text ++ [0])) (i : Nat)
    (hi : i < strings.length) : Stands m (address + totalSize (strings.take i)) (Text.utf8 strings[i] ++ [0]) := by
  induction strings generalizing address i with
  | nil => cases hi
  | cons text rest ih =>
    obtain ⟨htext, hrest⟩ := stands_append.1 h
    rw [length_terminated] at hrest
    cases i with
    | zero => exact htext
    | succ i =>
      rw [List.getElem_cons_succ, List.take_succ_cons, totalSize, ← Nat.add_assoc]
      exact ih hrest i _

variable (m) in
/-- `n` strings as a guest finds them: an array of pointers, and a buffer of `total` bytes to which they lead -/
structure Laid (strings : List String) (n total array buffer : Nat) : Prop where
  count : n = strings.length
  first : strings ≠ [] → (wordAt m array).toNat = buffer
  next : ∀ i (h : i + 1 < strings.length),
    (wordAt m (array + 4 * (i + 1))).toNat = (wordAt m (array + 4 * i)).toNat + (strings[i].utf8ByteSize + 1)
  bytes : ∀ i (h : i < strings.length), bytesAt m (wordAt m (array + 4 * i)) strings[i].utf8ByteSize = strings[i].toUTF8
  terminator : ∀ i (h : i < strings.length),
    HonestMemory.byte m ((wordAt m (array + 4 * i)).toNat + strings[i].utf8ByteSize) = 0
  last : ∀ h : strings ≠ [],
    (wordAt m (array + 4 * (n - 1))).toNat + ((strings.getLast h).utf8ByteSize + 1) = buffer + total
  texts : (∀ text ∈ strings, 0 ∉ Text.utf8 text) → textsAt m array n = strings

theorem laid_of_stands {array buffer : Nat} {ps : List Pointer} (hps : pointers buffer strings = .ok ps)
    (harray : Stands m array (encodeAll ps)) (hbuffer : Stands m buffer (packed strings).data.toList)
    (hin : buffer + totalSize strings ≤ LinearMemory.size m) :
    Laid m strings strings.length (totalSize strings) array buffer := by
  have hpointer : ∀ i, i < strings.length →
      (wordAt m (array + 4 * i)).toNat = buffer + totalSize (strings.take i) := by
    intro i hi
    rw [← length_pointers hps] at hi
    rw [wordAt_of_stands harray i hi, getElem_pointers hps]
  have hnext : ∀ i (hi : i < strings.length),
      (wordAt m (array + 4 * i)).toNat + room strings[i] = buffer + totalSize (strings.take (i + 1)) := by
    intro i hi
    rw [hpointer i hi, totalSize_take_succ hi, Nat.add_assoc]
  have hstands : ∀ i (hi : i < strings.length),
      Stands m (wordAt m (array + 4 * i)).toNat (Text.utf8 strings[i] ++ [0]) := by
    intro i hi
    rw [toList_packed] at hbuffer
    rw [hpointer i hi]
    exact stands_getElem hbuffer i hi
  exact {
    count := rfl
    first := by
      intro hsome
      exact hpointer 0 (List.length_pos_iff.2 hsome)
    next := by
      intro i hi
      rw [hpointer (i + 1) hi]
      exact (hnext i (Nat.lt_of_succ_lt hi)).symm
    bytes := by
      intro i hi
      have htext : listAt m (wordAt m (array + 4 * i)).toNat strings[i].utf8ByteSize = Text.utf8 strings[i] :=
        (stands_append.1 (hstands i hi)).1
      rw [← Text.toByteArray_utf8, ← htext]
      rfl
    terminator := by
      intro i hi
      exact stands_iff.1 (stands_append.1 (hstands i hi)).2 0 Nat.one_pos
    last := by
      intro hsome
      have hlength : 0 < strings.length := List.length_pos_iff.2 hsome
      have hlast := hnext (strings.length - 1) (Nat.sub_lt hlength Nat.one_pos)
      rw [Nat.sub_add_cancel hlength, List.take_length, ← List.getLast_eq_getElem hsome] at hlast
      exact hlast
    texts := by
      intro hzero
      refine List.ext_getElem (by rw [textsAt, List.length_map, List.length_range]) ?_
      intro i _ hi
      have hend : (wordAt m (array + 4 * i)).toNat + (Text.utf8 strings[i] ++ [0]).length ≤ LinearMemory.size m := by
        have hle := totalSize_take_le strings (i + 1)
        rw [length_terminated, hnext i hi]
        omega
      have hbytes := terminatedAt_of_stands (hstands i hi) hend (hzero _ (List.getElem_mem hi))
      simp only [textsAt, List.getElem_map, List.getElem_range]
      rw [hbytes, Text.toByteArray_utf8, Text.decodeLossy_toUTF8] }

end Laid

/-! ## Written or not -/

section Written

variable {μ : Type} [LinearMemory μ] {m : μ} {array buffer count size : Pointer} {rs : List Region}

theorem eq_of_regions (h : regions m strings array buffer = .ok rs) :
    ∃ ps, pointers buffer.toNat strings = .ok ps ∧ rs = [.ofValues array ps, ⟨buffer, packed strings⟩] := by
  simp only [regions, bind_eq_ok, pure_eq_ok] at h
  obtain ⟨ps, hps, -, -, -, -, rfl⟩ := h
  exact ⟨ps, hps, rfl⟩

theorem eq_of_sizeRegions (h : sizeRegions m strings count size = .ok rs) :
    rs = [.ofValue count (UInt32.ofNat strings.length), .ofValue size (UInt32.ofNat (totalSize strings))] := by
  simp only [sizeRegions, sizes, bind_eq_ok, pure_eq_ok, word_eq_ok] at h
  obtain ⟨_, ⟨_, ⟨-, rfl⟩, _, ⟨-, rfl⟩, rfl⟩, -, -, -, -, rfl⟩ := h
  rfl

/-- what could not be laid out is not written -/
theorem write_of_error {e : AccessError} (h : regions m strings array buffer = .error e) :
    write m strings array buffer = (m, .error e) := by
  rw [write, h, perform]

variable [ExactMemory μ]

/-- what could be laid out is written -/
theorem write_of_regions (h : regions m strings array buffer = .ok rs) :
    (∀ p ∈ spans strings array buffer, ¬ p.Outside (LinearMemory.size m)) ∧
      ∃ ps, pointers buffer.toNat strings = .ok ps ∧
        write m strings array buffer = writeRegions m [.ofValues array ps, ⟨buffer, packed strings⟩] ∧
        (write m strings array buffer).2 = .ok () := by
  obtain ⟨hspans, hinside⟩ := regions_eq_ok h
  obtain ⟨ps, hps, rfl⟩ := eq_of_regions h
  have hwrite : write m strings array buffer = writeRegions m [.ofValues array ps, ⟨buffer, packed strings⟩] := by
    rw [write, h, perform]
  refine ⟨?_, ps, hps, hwrite, ?_⟩
  · rw [← hspans]
    intro p hp
    obtain ⟨r, hr, rfl⟩ := List.mem_map.1 hp
    exact Nat.not_lt.2 (hinside r hr)
  · rw [hwrite]
    exact writeRegions_of_inside m _ hinside

/-- strings that were not written have changed nothing -/
theorem write_fst_of_error (h : (write m strings array buffer).2 ≠ .ok ()) : (write m strings array buffer).1 = m := by
  cases hregions : regions m strings array buffer with
  | ok rs =>
    obtain ⟨-, -, -, -, hok⟩ := write_of_regions hregions
    exact absurd hok h
  | error e => rw [write_of_error hregions]

/-- strings that were written stand in their buffer, and an array that is apart from it leads to them -/
theorem stands_of_write (h : (write m strings array buffer).2 = .ok ()) :
    Stands (write m strings array buffer).1 buffer.toNat (packed strings).data.toList ∧
      ((⟨array, 4 * strings.length⟩ : Span).Apart ⟨buffer, totalSize strings⟩ →
        Laid (write m strings array buffer).1 strings strings.length (totalSize strings) array.toNat buffer.toNat) := by
  cases hregions : regions m strings array buffer with
  | error e =>
    rw [write_of_error hregions] at h
    cases h
  | ok rs =>
    obtain ⟨hinside, ps, hps, hwrite, -⟩ := write_of_regions hregions
    rw [hwrite] at h ⊢
    refine ⟨stands_last h, ?_⟩
    intro hapart
    have hspan : (Region.ofValues array ps).span = ⟨array, 4 * strings.length⟩ := span_pointers (length_pointers hps)
    have hspan' : (⟨buffer, packed strings⟩ : Region).span = ⟨buffer, totalSize strings⟩ :=
      congrArg (Span.mk buffer) (size_packed strings)
    obtain ⟨harray, hbuffer⟩ := stands_pair h (by rwa [hspan, hspan'])
    rw [Region.toList_ofValues] at harray
    rw [spans, inside_pair] at hinside
    refine laid_of_stands hps harray hbuffer ?_
    rw [size_writeRegions]
    exact hinside.2

/-- the pointers and the strings are written, or one of the two does not lie inside the memory and nothing is -/
theorem write_cases (m : μ) (strings : List String) (array buffer : Pointer) (hsize : LinearMemory.size m ≤ wordLimit) :
    ((∀ p ∈ spans strings array buffer, ¬ p.Outside (LinearMemory.size m)) ∧
      ∃ ps, pointers buffer.toNat strings = .ok ps ∧
        write m strings array buffer = writeRegions m [.ofValues array ps, ⟨buffer, packed strings⟩] ∧
        (write m strings array buffer).2 = .ok ()) ∨
    (¬ (∀ p ∈ spans strings array buffer, ¬ p.Outside (LinearMemory.size m)) ∧
      ∃ e, write m strings array buffer = (m, .error e)) := by
  cases hregions : regions m strings array buffer with
  | ok rs => exact .inl (write_of_regions hregions)
  | error e =>
    refine .inr ⟨?_, e, write_of_error hregions⟩
    intro hinside
    obtain ⟨rs, hrs⟩ := regions_of_inside strings array buffer hsize hinside
    rw [hrs] at hregions
    cases hregions

end Written

end StringList

/-! ## The two lists of a process -/

/-- the lists of strings that a guest can ask for -/
inductive ProcessList where
  | args
  | environ

namespace ProcessList

open StringList

def strings (process : ProcessInfo) : ProcessList → List String
  | args => process.args
  | environ => process.environ

/-- the call that tells the number of the strings and the size of their buffer -/
def sizesCall (count size : Pointer) : ProcessList → SystemCall
  | args => .argsSizes count size
  | environ => .environSizes count size

/-- the call that writes the strings and the pointers to them -/
def listCall (array buffer : Pointer) : ProcessList → SystemCall
  | args => .args array buffer
  | environ => .environ array buffer

variable {μ : Type} [LinearMemory μ] {process : ProcessInfo} {reading : Reading} {m : μ} {which : ProcessList}
  {count size array buffer : Pointer}

/-- what a call answers that has written strings, or has tried to -/
def answer (written : μ × Except AccessError Unit) : SystemOutcome μ :=
  { errno := .ofResult (written.2.mapError Errno.ofAccessError), memory := written.1 }

theorem run_of_plan {call : SystemCall} {regions : Except AccessError (List Region)}
    (h : call.plan process reading m = do return { regions := ← SystemCall.access regions }) :
    call.run process reading m = answer (perform m regions) := by
  rw [SystemCall.run, h]
  cases regions <;> rfl

theorem run_sizesCall : (which.sizesCall count size).run process reading m =
    answer (writeSizes m (which.strings process) count size) := by
  cases which <;> exact run_of_plan rfl

theorem run_listCall : (which.listCall array buffer).run process reading m =
    answer (write m (which.strings process) array buffer) := by
  cases which <;> exact run_of_plan rfl

omit [LinearMemory μ] in
theorem answer_eq_success_iff {written : μ × Except AccessError Unit} :
    (answer written).errno = .success ↔ written.2 = .ok () := by
  obtain ⟨m', result⟩ := written
  cases result with
  | ok => exact ⟨fun _ => rfl, fun _ => rfl⟩
  | error e =>
    refine iff_of_false ?_ nofun
    cases e <;> nofun

variable [ExactMemory μ]

variable (m) in
/-- a guest is told that there are `n` strings and that they take `total` bytes. The size is told last, so it can be read
wherever its slot is; the number can be read if its slot does not reach into the other one -/
structure Told (count size : Pointer) (n total : Nat) : Prop where
  takes : (wordAt m size.toNat).toNat = total
  has : (⟨count, 4⟩ : Span).Apart ⟨size, 4⟩ → (wordAt m count.toNat).toNat = n

theorem told_of_success (h : ((which.sizesCall count size).run process reading m).errno = .success) :
    Told ((which.sizesCall count size).run process reading m).memory count size (which.strings process).length
      (totalSize (which.strings process)) := by
  rw [run_sizesCall] at h ⊢
  rw [answer_eq_success_iff] at h
  rw [writeSizes] at h ⊢
  cases hregions : sizeRegions m (which.strings process) count size with
  | error e =>
    rw [hregions] at h
    cases h
  | ok rs =>
    obtain ⟨-, -, hlength, htotal⟩ := sizeRegions_eq_ok hregions
    obtain rfl := eq_of_sizeRegions hregions
    rw [hregions, perform] at h
    constructor
    · have hlast := stands_last h
      rw [Region.toList_ofValue] at hlast
      exact (congrArg UInt32.toNat (wordAt_eq hlast)).trans (UInt32.toNat_ofNat_of_lt' htotal)
    · intro hslots
      obtain ⟨hfirst, -⟩ := stands_pair h (by rwa [Region.span_ofValue, Region.span_ofValue])
      rw [Region.toList_ofValue] at hfirst
      exact (congrArg UInt32.toNat (wordAt_eq hfirst)).trans (UInt32.toNat_ofNat_of_lt' hlength)

variable (m) in
/-- what comes of a call for `n` strings that take `total` bytes -/
structure ReadsBack (strings : List String) (n total : Nat) (array buffer : Pointer) (o : SystemOutcome μ) : Prop where
  succeeds : o.errno = .success ↔
    array.toNat + 4 * n ≤ LinearMemory.size m ∧ buffer.toNat + total ≤ LinearMemory.size m
  fails : o.errno ≠ .success → o.errno = .fault ∧ o.memory = m
  footprint : ∀ i, ¬ (⟨array, 4 * n⟩ : Span).Covers i → ¬ (⟨buffer, total⟩ : Span).Covers i →
    HonestMemory.byte o.memory i = HonestMemory.byte m i
  laid : o.errno = .success → (⟨array, 4 * n⟩ : Span).Apart ⟨buffer, total⟩ →
    Laid o.memory strings n total array.toNat buffer.toNat

theorem readsBack_write (strings : List String) (hsize : LinearMemory.size m ≤ wordLimit) (array buffer : Pointer) :
    ReadsBack m strings strings.length (totalSize strings) array buffer (answer (write m strings array buffer)) := by
  rcases write_cases m strings array buffer hsize with ⟨hinside, ps, hps, hwrite, hok⟩ | ⟨houtside, e, hwrite⟩
  · have hspan : (Region.ofValues array ps).span = ⟨array, 4 * strings.length⟩ := span_pointers (length_pointers hps)
    have hspan' : (⟨buffer, packed strings⟩ : Region).span = ⟨buffer, totalSize strings⟩ :=
      congrArg (Span.mk buffer) (size_packed strings)
    rw [spans, inside_pair] at hinside
    have hsuccess : (answer (write m strings array buffer)).errno = .success := answer_eq_success_iff.2 hok
    exact {
      succeeds := iff_of_true hsuccess hinside
      fails := fun hfail => absurd hsuccess hfail
      footprint := by
        intro i hi hi'
        rw [hwrite]
        apply byte_writeRegions_outside
        rw [List.forall_mem_cons, List.forall_mem_singleton]
        rw [← hspan] at hi
        rw [← hspan'] at hi'
        exact ⟨hi, hi'⟩
      laid := by
        intro _
        exact (stands_of_write hok).2 }
  · rw [spans, inside_pair] at houtside
    rw [hwrite]
    exact {
      succeeds := by
        rw [answer_eq_success_iff]
        exact iff_of_false nofun houtside
      fails := by
        intro _
        exact ⟨Errno.ofAccessError_eq e, rfl⟩
      footprint := by
        intro _ _ _
        rfl
      laid := by
        intro hok
        rw [answer_eq_success_iff] at hok
        cases hok }

/-- **The sizes are those of the strings, and the strings come back.** A guest that asks for the sizes of a list is told that
it has `n` strings and takes `total` bytes. It has the list written, then or later, just where an array of `n` pointers and
a buffer of `total` bytes lie inside its memory, and nothing is changed elsewhere. If the two are apart, the pointers lead to
the strings, one behind another with a zero byte after each, up to the last byte of the buffer. -/
theorem strings_read_back {μ : Type} [LinearMemory μ] [ExactMemory μ] (process : ProcessInfo) (which : ProcessList)
    {reading : Reading} {m : μ} {count size : Pointer}
    (htold : ((which.sizesCall count size).run process reading m).errno = .success)
    (reading' : Reading) {m' : μ} (hsize : LinearMemory.size m' ≤ wordLimit) (array buffer : Pointer) :
    ∃ n total, Told ((which.sizesCall count size).run process reading m).memory count size n total ∧
      n = (which.strings process).length ∧
      ReadsBack m' (which.strings process) n total array buffer
        ((which.listCall array buffer).run process reading' m') := by
  refine ⟨_, _, told_of_success htold, rfl, ?_⟩
  rw [run_listCall]
  exact readsBack_write _ hsize array buffer

/-- three arguments, one of them empty and one of two bytes for one character, in a buffer at the end of the memory; one
byte further there is no room for them -/
theorem strings_read_back_to_end :
    let process : ProcessInfo := { args := ["é", "", "ab"], environ := [] }
    let reading : Reading := { realtime := 0, monotonic := 0, entropy := .ok fun _ => 0 }
    let m : ByteMemory := ⟨filled 27 7⟩
    let told := (SystemCall.argsSizes 0 4).run process reading m
    let written := (SystemCall.args 8 20).run process reading m
    let refused := (SystemCall.args 8 21).run process reading m
    told.errno = .success ∧ textsAt written.memory 8 3 = process.args ∧ refused.errno = .fault ∧ refused.memory = m := by
  intro process reading m told written refused
  have htold : told.errno = .success := by decide +kernel
  have hcount : (wordAt told.memory (0 : Pointer).toNat).toNat = 3 := by decide +kernel
  have htotal : (wordAt told.memory (4 : Pointer).toNat).toNat = 7 := by decide +kernel
  have hslots : (⟨0, 4⟩ : Span).Apart ⟨4, 4⟩ := by
    rintro i ⟨-, hi⟩ ⟨hi', -⟩
    exact absurd (Nat.lt_of_lt_of_le hi hi') (Nat.lt_irrefl _)
  have hapart : (⟨8, 4 * 3⟩ : Span).Apart ⟨20, 7⟩ := by
    rintro i ⟨-, hi⟩ ⟨hi', -⟩
    exact absurd (Nat.lt_of_lt_of_le hi hi') (Nat.lt_irrefl _)
  have hsize : LinearMemory.size m ≤ wordLimit := by decide +kernel
  have hzero : ∀ text ∈ process.args, 0 ∉ Text.utf8 text := by decide +kernel
  have hback : ∀ buffer, ReadsBack m process.args 3 7 8 buffer ((SystemCall.args 8 buffer).run process reading m) := by
    intro buffer
    obtain ⟨n, total, hsizes, -, hreads⟩ := strings_read_back process .args htold reading hsize 8 buffer
    have hn : n = 3 := (hsizes.has hslots).symm.trans hcount
    have hbytes : total = 7 := hsizes.takes.symm.trans htotal
    subst hn hbytes
    exact hreads
  have hok : written.errno = .success := (hback 20).succeeds.2 (by decide +kernel)
  have hfail : refused.errno ≠ .success := by
    intro h
    exact absurd ((hback 21).succeeds.1 h) (by decide +kernel)
  exact ⟨htold, ((hback 20).laid hok hapart).texts hzero, (hback 21).fails hfail⟩

end ProcessList

end ScriptHost
