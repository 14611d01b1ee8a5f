/-
Memory as a store of bytes. The host exchanges words, bytes and texts with a guest (`Datum`). Each of them is written as
its bytes and read from bytes (`Datum.write_eq`, `Shape.read_eq`), words with the least significant byte first, so what
holds of bytes holds of all of them: where an access succeeds, what a read finds after a write, and which writes can change
places.

- `Datum.byte_put`: a write changes the bytes that it covers, if it is taken, and no others.
- `memory_stores_bytes`: the laws of the store, for every plain memory, every address and all data.
-/
import ScriptHost.Proofs.Memory.Confined
import ScriptHost.Proofs.Memory.ReadBack

namespace ScriptHost

open Wire

/-! ## Data -/

/-- something that the host exchanges with a guest -/
inductive Datum where
  | u32 (v : UInt32)
  | i32 (v : Int32)
  | f32 (v : F32)
  | u64 (v : UInt64)
  | i64 (v : Int64)
  | bytes (b : ByteArray)
  | text (t : String)

/-- what the host takes some bytes of a guest for -/
inductive Shape where
  | u32
  | i32
  | f32
  | u64
  | i64
  | bytes (len : Nat)
  | text (len : Nat)

namespace Shape

/-- how many bytes are read -/
def size : Shape → Nat
  | u32 | i32 | f32 => 4
  | u64 | i64 => 8
  | bytes len | text len => len

/-- what the bytes say; any bytes say something -/
def ofBytes (b : ByteArray) : Shape → Datum
  | u32 => .u32 (UInt32.ofNat (ofLittleEndian b.data.toList))
  | i32 => .i32 (UInt32.ofNat (ofLittleEndian b.data.toList)).toInt32
  | f32 => .f32 ⟨UInt32.ofNat (ofLittleEndian b.data.toList)⟩
  | u64 => .u64 (UInt64.ofNat (ofLittleEndian b.data.toList))
  | i64 => .i64 (UInt64.ofNat (ofLittleEndian b.data.toList)).toInt64
  | bytes _ => .bytes b
  | text _ => .text (Text.decodeLossy b)

variable {μ : Type} [LinearMemory μ]

/-- reads from an address -/
def read (m : μ) (addr : Pointer) : Shape → Except AccessError Datum
  | u32 => (readValue m addr).map .u32
  | i32 => (readValue m addr).map .i32
  | f32 => (readValue m addr).map .f32
  | u64 => (readValue m addr).map .u64
  | i64 => (readValue m addr).map .i64
  | bytes len => (readBytes m addr len).map .bytes
  | text len => (readText m addr len).map .text

end Shape

namespace Datum

/-- as what it is read back -/
def shape : Datum → Shape
  | u32 _ => .u32
  | i32 _ => .i32
  | f32 _ => .f32
  | u64 _ => .u64
  | i64 _ => .i64
  | bytes b => .bytes b.size
  | text t => .text t.utf8ByteSize

/-- the bytes as which it is written -/
def toBytes : Datum → ByteArray
  | u32 v => (littleEndian 4 v.toNat).toByteArray
  | i32 v => (littleEndian 4 v.toUInt32.toNat).toByteArray
  | f32 v => (littleEndian 4 v.bits.toNat).toByteArray
  | u64 v => (littleEndian 8 v.toNat).toByteArray
  | i64 v => (littleEndian 8 v.toUInt64.toNat).toByteArray
  | bytes b => b
  | text t => t.toUTF8

variable {μ : Type} [LinearMemory μ]

/-- writes to an address; a text goes into a buffer that has just room for it -/
def write (m : μ) (addr : Pointer) : Datum → μ × Except AccessError Unit
  | u32 v => writeValue m addr v
  | i32 v => writeValue m addr v
  | f32 v => writeValue m addr v
  | u64 v => writeValue m addr v
  | i64 v => writeValue m addr v
  | bytes b => writeBytes m addr b
  | text t => writeText m addr t.utf8ByteSize t

/-- a write as a step from one memory to the next, with what is answered in front -/
def put (d : Datum) (addr : Pointer) (m : μ) : Except AccessError Unit × μ := (d.write m addr).swap

/-- the bytes that it covers when it is written to an address -/
def span (d : Datum) (addr : Pointer) : Span := ⟨addr, d.shape.size⟩

/-! ### As bytes -/

@[simp] theorem size_toBytes (d : Datum) : d.toBytes.size = d.shape.size := by
  cases d with
  | u32 | i32 | f32 | u64 | i64 => simp [toBytes, shape, Shape.size, List.size_toByteArray]
  | bytes => rfl
  | text t => rfl

theorem write_eq (m : μ) (addr : Pointer) (d : Datum) : d.write m addr = writeBytes m addr d.toBytes := by
  cases d with
  | text t =>
    have hfits : textBytes t.utf8ByteSize t = .ok t.toUTF8 := if_pos (Nat.le_refl _)
    rw [write, writeText, hfits]
    rfl
  | _ => rfl

/-- the bytes of a datum say that datum -/
theorem ofBytes_toBytes (d : Datum) : d.shape.ofBytes d.toBytes = d := by
  have hword (v : UInt32) : UInt32.ofNat (ofLittleEndian (littleEndian 4 v.toNat)) = v := by
    rw [ofLittleEndian_littleEndian, ofNat_mod_byteValues]
  have hlong (v : UInt64) : UInt64.ofNat (ofLittleEndian (littleEndian 8 v.toNat)) = v := by
    have hlt : v.toNat < byteValues 8 := v.toNat_lt
    rw [ofLittleEndian_littleEndian, Nat.mod_eq_of_lt hlt, UInt64.ofNat_toNat]
  cases d with
  | bytes => rfl
  | text t => exact congrArg text (Text.decodeLossy_toUTF8 t)
  | u32 | i32 | f32 | u64 | i64 =>
    simp only [shape, Shape.ofBytes, toBytes, List.toList_data_toByteArray, hword, hlong, Int32.toInt32_toUInt32,
      Int64.toInt64_toUInt64]

end Datum

/-! ## Accesses of bytes -/

theorem takeWord?_of_size {n : Nat} {bytes : ByteArray} (h : bytes.size = n) :
    takeWord? n bytes.data.toList = some (ofLittleEndian bytes.data.toList, []) := by
  have hlength : bytes.data.toList.length = n := h
  rw [takeWord?_of_le (Nat.le_of_eq hlength.symm), List.take_of_length_le (Nat.le_of_eq hlength),
    List.drop_of_length_le (Nat.le_of_eq hlength)]

section Exact

variable {μ : Type} [LinearMemory μ] [ExactMemory μ] {m : μ} {addr : Pointer}

theorem Shape.read_of_readBytes {s : Shape} {bytes : ByteArray} (h : readBytes m addr s.size = .ok bytes) :
    s.read m addr = .ok (s.ofBytes bytes) := by
  have hsize : bytes.size = s.size := (readBytes_eq_ok_iff.1 h).1
  cases s with
  | bytes len =>
    rw [size] at h
    rw [read, h]
    rfl
  | text len =>
    rw [size] at h
    rw [read, readText_of_bytes h]
    rfl
  | u32 | i32 | f32 | u64 | i64 =>
    rw [size] at h hsize
    simp only [read, readValue, wireSize, h, bind, Except.bind, decode?, take?, takeWord?_of_size hsize]
    rfl

omit [ExactMemory μ] in
theorem Shape.read_of_outside {s : Shape} (h : (⟨addr, s.size⟩ : Span).Outside (LinearMemory.size m)) :
    s.read m addr = .error .outOfBounds := by
  cases s with
  | bytes len =>
    have hread : readBytes m addr len = .error .outOfBounds := readBytes_of_outside h
    rw [read, hread]
    rfl
  | text len =>
    have hread : readText m addr len = .error .outOfBounds := readText_of_outside h
    rw [read, hread]
    rfl
  | u32 | i32 | f32 | u64 | i64 =>
    rw [read, readValue_of_outside h]
    rfl

/-- whatever is read, it is what the bytes there say -/
theorem Shape.read_eq (m : μ) (addr : Pointer) (s : Shape) :
    s.read m addr = (readBytes m addr s.size).map s.ofBytes := by
  by_cases h : addr.toNat + s.size ≤ LinearMemory.size m
  · rw [readBytes_of_inside h, read_of_readBytes (readBytes_of_inside h)]
    rfl
  · have houtside : (⟨addr, s.size⟩ : Span).Outside (LinearMemory.size m) := Nat.lt_of_not_le h
    rw [readBytes_of_outside houtside, read_of_outside houtside]
    rfl

/-! ## Writes -/

namespace Datum

variable (d : Datum)

/-- a write is taken, or it does not lie inside the memory and leaves it as it is -/
theorem put_cases (m : μ) (addr : Pointer) :
    (addr.toNat + d.shape.size ≤ LinearMemory.size m ∧
        ∃ m', d.put addr m = (.ok (), m') ∧ writeBytes m addr d.toBytes = (m', .ok ())) ∨
      (LinearMemory.size m < addr.toNat + d.shape.size ∧ d.put addr m = (.error .outOfBounds, m)) := by
  rw [put, write_eq, ← size_toBytes]
  rcases writeBytes_cases m addr d.toBytes with ⟨hin, m', hm'⟩ | ⟨hout, hrefused⟩
  · rw [hm']
    exact .inl ⟨hin, m', rfl, rfl⟩
  · rw [hrefused]
    exact .inr ⟨hout, rfl⟩

theorem size_put (m : μ) (addr : Pointer) : LinearMemory.size (d.put addr m).2 = LinearMemory.size m := by
  rcases d.put_cases m addr with ⟨-, m', hput, hm'⟩ | ⟨-, hput⟩
  · rw [hput]
    exact size_writeBytes hm'
  · rw [hput]

/-- a write changes what it covers, if it is taken -/
theorem byte_put (m : μ) (addr : Pointer) (i : Nat) : HonestMemory.byte (d.put addr m).2 i =
    if addr.toNat + d.shape.size ≤ LinearMemory.size m ∧ addr.toNat ≤ i ∧ i < addr.toNat + d.shape.size
      then byteAt d.toBytes (i - addr.toNat) else HonestMemory.byte m i := by
  rcases d.put_cases m addr with ⟨hin, m', hput, hm'⟩ | ⟨hout, hput⟩
  · rw [hput, byte_writeBytes hm', size_toBytes]
    simp only [hin, true_and]
  · rw [hput, if_neg fun h => absurd h.1 (Nat.not_le_of_lt hout)]

/-- whether a write is taken does not hang on what was written before -/
theorem put_fst_of_size {m m' : μ} (h : LinearMemory.size m' = LinearMemory.size m) (addr : Pointer) :
    (d.put addr m').1 = (d.put addr m).1 := by
  rcases d.put_cases m addr with ⟨hin, _, hput, -⟩ | ⟨hout, hput⟩ <;>
    rcases d.put_cases m' addr with ⟨hin', _, hput', -⟩ | ⟨hout', hput'⟩
  · rw [hput, hput']
  · omega
  · omega
  · rw [hput, hput']

variable {d} {s : Shape} {p q : Pointer} {bytes : ByteArray}

theorem readBytes_put_apart (h : (d.span p).Apart ⟨q, s.size⟩) :
    readBytes (d.put p m).2 q s.size = readBytes m q s.size := by
  by_cases hin : q.toNat + s.size ≤ LinearMemory.size m
  · have hafter : q.toNat + s.size ≤ LinearMemory.size (d.put p m).2 := by rwa [size_put]
    refine readBytes_eq_ok_iff.2 ?_ |>.trans (readBytes_of_inside hin).symm
    refine ⟨size_bytesAt .., hafter, ?_⟩
    intro i hi
    rw [byteAt_bytesAt m q _ hi, byte_put, if_neg]
    rintro ⟨-, hcovers⟩
    exact h _ hcovers ⟨Nat.le_add_right _ _, Nat.add_lt_add_left hi _⟩
  · have hout : LinearMemory.size m < q.toNat + s.size := Nat.lt_of_not_le hin
    rw [readBytes_of_outside hout, readBytes_of_outside (by rwa [size_put])]

/-- of the bytes that a read finds, the new ones are those that the write covers -/
theorem readBytes_put_over (htaken : (d.put p m).1 = .ok ()) (hold : readBytes m q s.size = .ok bytes) :
    ∃ new, readBytes (d.put p m).2 q s.size = .ok new ∧ ∀ i, i < s.size → byteAt new i =
      if p.toNat ≤ q.toNat + i ∧ q.toNat + i < p.toNat + d.shape.size then byteAt d.toBytes (q.toNat + i - p.toNat)
      else byteAt bytes i := by
  obtain ⟨-, hin, hbytes⟩ := readBytes_eq_ok_iff.1 hold
  have hwritten : p.toNat + d.shape.size ≤ LinearMemory.size m := by
    rcases d.put_cases m p with ⟨hwritten, -⟩ | ⟨-, hput⟩
    · exact hwritten
    · rw [hput] at htaken
      cases htaken
  refine ⟨_, readBytes_of_inside (by rwa [size_put]), ?_⟩
  intro i hi
  rw [byteAt_bytesAt _ q _ hi, byte_put, hbytes i hi]
  simp only [hwritten, true_and]

theorem readBytes_put (htaken : (d.put p m).1 = .ok ()) :
    readBytes (d.put p m).2 p d.shape.size = .ok d.toBytes := by
  rcases d.put_cases m p with ⟨-, m', hput, hm'⟩ | ⟨-, hput⟩
  · have hread := readBytes_writeBytes hm'
    rwa [hput, ← size_toBytes]
  · rw [hput] at htaken
    cases htaken

/-- of two writes that are apart each byte is changed by one at most, so their order does not show -/
theorem byte_put_put {d' : Datum} (h : (d.span p).Apart (d'.span q)) (i : Nat) :
    HonestMemory.byte (d'.put q (d.put p m).2).2 i = HonestMemory.byte (d.put p (d'.put q m).2).2 i := by
  simp only [byte_put, size_put]
  by_cases hp : (d.span p).Covers i
  · have hq : ¬ (q.toNat ≤ i ∧ i < q.toNat + d'.shape.size) := h i hp
    simp only [hq, and_false, if_false]
  · have hp' : ¬ (p.toNat ≤ i ∧ i < p.toNat + d.shape.size) := hp
    simp only [hp', and_false, if_false]

end Datum

end Exact

/-! ## Plain memories -/

theorem ByteMemory.ext_byte {m m' : ByteMemory} (hsize : LinearMemory.size m = LinearMemory.size m')
    (hbytes : ∀ i, HonestMemory.byte m i = HonestMemory.byte m' i) : m = m' :=
  congrArg ByteMemory.mk (ext_byteAt hsize fun i _ => hbytes i)

/-- the laws of a store of bytes -/
structure StoresBytes (m : ByteMemory) : Prop where
  /-- a read succeeds just where its bytes lie inside the memory; addresses do not wrap around -/
  reads (s : Shape) (p : Pointer) :
    (p.toNat + s.size ≤ LinearMemory.size m ∧ ∃ d, s.read m p = .ok d) ∨
      (LinearMemory.size m < p.toNat + s.size ∧ s.read m p = .error .outOfBounds)
  /-- so does a write, and one that fails leaves the memory as it is -/
  writes (d : Datum) (p : Pointer) :
    (p.toNat + d.shape.size ≤ LinearMemory.size m ∧ (d.put p m).1 = .ok ()) ∨
      (LinearMemory.size m < p.toNat + d.shape.size ∧ d.put p m = (.error .outOfBounds, m))
  /-- a text may be given more room than it needs; with less room it is not written -/
  texts (t : String) (p : Pointer) (capacity : Nat) : writeText m p capacity t =
    if t.utf8ByteSize ≤ capacity then (Datum.text t).write m p else (m, .error .bufferTooSmall)
  /-- what was written is read back -/
  same (d : Datum) (p : Pointer) : (d.put p m).1 = .ok () → d.shape.read (d.put p m).2 p = .ok d
  /-- a read that is apart from a write answers what it answered before -/
  apart (d : Datum) (p : Pointer) (s : Shape) (q : Pointer) :
    (d.span p).Apart ⟨q, s.size⟩ → s.read (d.put p m).2 q = s.read m q
  /-- one that is not finds the new bytes where the write covers them, and the old ones elsewhere -/
  overlap (d : Datum) (p : Pointer) (s : Shape) (q : Pointer) (old : ByteArray) :
    (d.put p m).1 = .ok () → readBytes m q s.size = .ok old →
      ∃ new, readBytes (d.put p m).2 q s.size = .ok new ∧ s.read m q = .ok (s.ofBytes old) ∧
        s.read (d.put p m).2 q = .ok (s.ofBytes new) ∧ ∀ i, i < s.size → byteAt new i =
          if p.toNat ≤ q.toNat + i ∧ q.toNat + i < p.toNat + d.shape.size
            then byteAt d.toBytes (q.toNat + i - p.toNat) else byteAt old i
  /-- writes that are apart can change places, taken or not -/
  commute (d : Datum) (p : Pointer) (d' : Datum) (q : Pointer) : (d.span p).Apart (d'.span q) →
    (d.put p (d'.put q m).2).1 = (d.put p m).1 ∧ (d'.put q (d.put p m).2).1 = (d'.put q m).1 ∧
      (d'.put q (d.put p m).2).2 = (d.put p (d'.put q m).2).2

/-- **Memory is a store of bytes.** Whatever a plain memory holds, whatever is written to it or read from it, and at whatever
address: just what lies inside can be accessed, and a read finds the bytes that were last written, each of them in its
place. -/
theorem memory_stores_bytes (m : ByteMemory) : StoresBytes m where
  reads s p := by
    by_cases h : p.toNat + s.size ≤ LinearMemory.size m
    · exact .inl ⟨h, _, Shape.read_of_readBytes (readBytes_of_inside h)⟩
    · exact .inr ⟨Nat.lt_of_not_le h, Shape.read_of_outside (Nat.lt_of_not_le h)⟩
  writes d p := by
    rcases d.put_cases m p with ⟨hin, m', hput, -⟩ | ⟨hout, hput⟩
    · exact .inl ⟨hin, by rw [hput]⟩
    · exact .inr ⟨hout, hput⟩
  texts t p capacity := by
    rw [Datum.write_eq, writeText, textBytes]
    by_cases hfits : t.utf8ByteSize ≤ capacity
    · rw [if_pos hfits, if_pos hfits]
      rfl
    · rw [if_neg hfits, if_neg hfits]
  same d p htaken := by
    have hread := Shape.read_of_readBytes (Datum.readBytes_put htaken)
    rwa [Datum.ofBytes_toBytes] at hread
  apart d p s q h := by
    rw [Shape.read_eq, Shape.read_eq, Datum.readBytes_put_apart h]
  overlap d p s q old htaken hold := by
    obtain ⟨new, hnew, hbytes⟩ := Datum.readBytes_put_over htaken hold
    exact ⟨new, hnew, Shape.read_of_readBytes hold, Shape.read_of_readBytes hnew, hbytes⟩
  commute d p d' q h := by
    refine ⟨d.put_fst_of_size (d'.size_put m q) p, d'.put_fst_of_size (d.size_put m p) q, ?_⟩
    refine ByteMemory.ext_byte ?_ (Datum.byte_put_put h)
    rw [Datum.size_put, Datum.size_put, Datum.size_put, Datum.size_put]

/-- a word at the end of the address space does not wrap around, and nothing can be written up to the end, but not past it -/
example :
    let m : ByteMemory := ⟨[1, 2, 3, 4].toByteArray⟩
    (Datum.u32 7).put 0xFFFFFFFE m = (.error .outOfBounds, m) ∧ ((Datum.bytes .empty).put 4 m).1 = .ok () ∧
      (Datum.bytes .empty).put 5 m = (.error .outOfBounds, m) :=
  ⟨rfl, rfl, rfl⟩

end ScriptHost
