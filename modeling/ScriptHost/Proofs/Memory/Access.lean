/-
Checked writes of lawful memories, one region and several.

- `byte_writeBytes`: a write changes the bytes of its region and no others.
- `byte_writeRegions_past`: however many regions are written, nothing at or past the size changes.
- `byte_writeRegions_outside`: nothing outside of the regions changes.
- `writeRegions_atomic`: an exact memory takes all regions or none, provided that all but the first were checked
  before the writing began.
-/
import ScriptHost.Memory.Region
import ScriptHost.Proofs.Memory.Lawful

namespace ScriptHost

open Wire

theorem bind_eq_ok {ε α β : Type} {x : Except ε α} {f : α → Except ε β} {b : β} :
    x >>= f = .ok b ↔ ∃ a, x = .ok a ∧ f a = .ok b := by
  cases x with
  | ok a => simp [bind, Except.bind]
  | error e => simp [bind, Except.bind]

theorem pure_eq_ok {ε α : Type} {a b : α} : (pure a : Except ε α) = .ok b ↔ a = b := by
  simp [pure, Except.pure]

variable {μ : Type} [LinearMemory μ]

theorem readBytes_eq (m : μ) (addr : Pointer) (len : Nat) :
    readBytes m addr len =
      if addr.toNat + len ≤ LinearMemory.size m then
        match LinearMemory.copyOut m addr.toNat len with
        | some bytes => .ok bytes
        | none => .error .outOfBounds
      else .error .outOfBounds := by
  unfold readBytes checkBounds
  split <;> rfl

theorem writeBytes_eq (m : μ) (addr : Pointer) (bytes : ByteArray) :
    writeBytes m addr bytes =
      if addr.toNat + bytes.size ≤ LinearMemory.size m then
        match LinearMemory.copyIn m addr.toNat bytes with
        | some m' => (m', .ok ())
        | none => (m, .error .outOfBounds)
      else (m, .error .outOfBounds) := by
  unfold writeBytes checkBounds
  split <;> split <;> simp_all

theorem writeBytes_eq_ok_iff {m m' : μ} {addr : Pointer} {bytes : ByteArray} :
    writeBytes m addr bytes = (m', .ok ()) ↔
      addr.toNat + bytes.size ≤ LinearMemory.size m ∧ LinearMemory.copyIn m addr.toNat bytes = some m' := by
  rw [writeBytes_eq]
  by_cases hin : addr.toNat + bytes.size ≤ LinearMemory.size m
  · cases hcopy : LinearMemory.copyIn m addr.toNat bytes <;> simp [hin]
  · simp [hin]

/-- nothing but bounds stands against a write, and one that is refused leaves the memory as it is -/
theorem writeBytes_eq_error {m m' : μ} {addr : Pointer} {bytes : ByteArray} {e : AccessError}
    (h : writeBytes m addr bytes = (m', .error e)) : m' = m ∧ e = .outOfBounds := by
  rw [writeBytes_eq] at h
  split at h
  · split at h <;> cases h
    exact ⟨rfl, rfl⟩
  · cases h
    exact ⟨rfl, rfl⟩

/-! ## Where bytes go -/

/-- some bytes of a guest's memory -/
structure Span where
  addr : Pointer
  size : Nat

/-- the span covers an address -/
def Span.Covers (p : Span) (i : Nat) : Prop := p.addr.toNat ≤ i ∧ i < p.addr.toNat + p.size

/-- two spans have no address in common -/
def Span.Apart (p q : Span) : Prop := ∀ i, p.Covers i → ¬ q.Covers i

/-- the span does not lie inside a memory of `size` bytes -/
def Span.Outside (p : Span) (size : Nat) : Prop := size < p.addr.toNat + p.size

/-- a check finds a span outside of the memory, or inside -/
theorem checkBounds_cases (size : Nat) (p : Span) :
    (p.Outside size ∧ checkBounds size p.addr p.size = .error .outOfBounds) ∨
    (¬ p.Outside size ∧ checkBounds size p.addr p.size = .ok ()) := by
  by_cases h : p.addr.toNat + p.size ≤ size
  · exact .inr ⟨Nat.not_lt.2 h, if_pos h⟩
  · exact .inl ⟨Nat.lt_of_not_le h, if_neg h⟩

namespace Region

/-- the region covers an address -/
def Covers (r : Region) (i : Nat) : Prop := r.addr.toNat ≤ i ∧ i < r.addr.toNat + r.bytes.size

/-- the region lies inside a memory of `size` bytes -/
def Inside (r : Region) (size : Nat) : Prop := r.addr.toNat + r.bytes.size ≤ size

/-- the bytes that a region goes to -/
def span (r : Region) : Span := ⟨r.addr, r.bytes.size⟩

/-- regions lie inside a memory if the spans that they go to do -/
theorem inside_of_spans {regions : List Region} {spans : List Span} {size : Nat} (h : regions.map span = spans)
    (hspans : ∀ p ∈ spans, ¬ p.Outside size) : ∀ r ∈ regions, r.Inside size := by
  intro r hr
  exact Nat.not_lt.1 (hspans r.span (h ▸ List.mem_map_of_mem hr))

variable {α : Type} [WireValue α]

@[simp] theorem span_ofValue (addr : Pointer) (value : α) : (ofValue addr value).span = ⟨addr, wireSize α⟩ := by
  simp [span, ofValue, List.size_toByteArray, length_encode]

@[simp] theorem span_ofValues (addr : Pointer) (values : List α) :
    (ofValues addr values).span = ⟨addr, wireSize α * values.length⟩ := by
  simp [span, ofValues, List.size_toByteArray, length_encodeAll]

end Region

/-! ## Lawful memories -/

section Lawful

variable [LawfulMemory μ]

theorem size_writeBytes {m m' : μ} {addr : Pointer} {bytes : ByteArray} (h : writeBytes m addr bytes = (m', .ok ())) :
    LinearMemory.size m' = LinearMemory.size m :=
  LawfulMemory.size_copyIn (writeBytes_eq_ok_iff.1 h).2

theorem byte_writeBytes {m m' : μ} {addr : Pointer} {bytes : ByteArray} (h : writeBytes m addr bytes = (m', .ok ()))
    (i : Nat) :
    HonestMemory.byte m' i = if addr.toNat ≤ i ∧ i < addr.toNat + bytes.size then byteAt bytes (i - addr.toNat)
      else HonestMemory.byte m i :=
  HonestMemory.byte_copyIn (writeBytes_eq_ok_iff.1 h).2 i

theorem size_writeRegions (m : μ) (regions : List Region) :
    LinearMemory.size (writeRegions m regions).1 = LinearMemory.size m := by
  induction regions generalizing m with
  | nil => rfl
  | cons region rest ih =>
    rw [writeRegions]
    split
    · rename_i m' h
      rw [ih, size_writeBytes h]
    · rename_i m' e h
      rw [(writeBytes_eq_error h).1]

omit [LawfulMemory μ] in
theorem writeRegions_eq_error {m : μ} {regions : List Region} {e : AccessError}
    (h : (writeRegions m regions).2 = .error e) : e = .outOfBounds := by
  induction regions generalizing m with
  | nil => cases h
  | cons region rest ih =>
    rw [writeRegions] at h
    split at h
    · exact ih h
    · rename_i hw
      cases h
      exact (writeBytes_eq_error hw).2

theorem byte_writeRegions_outside (m : μ) (regions : List Region) (i : Nat) (h : ∀ r ∈ regions, ¬ r.Covers i) :
    HonestMemory.byte (writeRegions m regions).1 i = HonestMemory.byte m i := by
  induction regions generalizing m with
  | nil => rfl
  | cons region rest ih =>
    rw [writeRegions]
    split
    · rename_i m' hw
      rw [ih m' fun r hr => h r (List.mem_cons_of_mem _ hr), byte_writeBytes hw, if_neg]
      exact h region List.mem_cons_self
    · rename_i m' e hw
      rw [(writeBytes_eq_error hw).1]

theorem byte_writeRegions_past (m : μ) (regions : List Region) (i : Nat) (hi : LinearMemory.size m ≤ i) :
    HonestMemory.byte (writeRegions m regions).1 i = HonestMemory.byte m i := by
  induction regions generalizing m with
  | nil => rfl
  | cons region rest ih =>
    rw [writeRegions]
    split
    · rename_i m' hw
      have hin := (writeBytes_eq_ok_iff.1 hw).1
      rw [ih m' (by rw [size_writeBytes hw]; exact hi), byte_writeBytes hw, if_neg (by omega)]
    · rename_i m' e hw
      rw [(writeBytes_eq_error hw).1]

end Lawful

/-! ## Exact memories -/

section Exact

variable [ExactMemory μ]

theorem writeBytes_of_inside {m : μ} {addr : Pointer} {bytes : ByteArray}
    (h : addr.toNat + bytes.size ≤ LinearMemory.size m) : ∃ m', writeBytes m addr bytes = (m', .ok ()) := by
  obtain ⟨m', hm⟩ := Option.isSome_iff_exists.1 ((ExactMemory.isSome_copyIn_iff m addr.toNat bytes).2 h)
  exact ⟨m', writeBytes_eq_ok_iff.2 ⟨h, hm⟩⟩

/-- a write is taken, or it does not lie inside the memory -/
theorem writeBytes_cases (m : μ) (addr : Pointer) (bytes : ByteArray) :
    (addr.toNat + bytes.size ≤ LinearMemory.size m ∧ ∃ m', writeBytes m addr bytes = (m', .ok ())) ∨
    (LinearMemory.size m < addr.toNat + bytes.size ∧ writeBytes m addr bytes = (m, .error .outOfBounds)) := by
  by_cases h : addr.toNat + bytes.size ≤ LinearMemory.size m
  · exact .inl ⟨h, writeBytes_of_inside h⟩
  · exact .inr ⟨Nat.lt_of_not_le h, by rw [writeBytes_eq, if_neg h]⟩

theorem writeRegions_of_inside (m : μ) (regions : List Region)
    (h : ∀ r ∈ regions, r.Inside (LinearMemory.size m)) : (writeRegions m regions).2 = .ok () := by
  induction regions generalizing m with
  | nil => rfl
  | cons region rest ih =>
    obtain ⟨m', hw⟩ := writeBytes_of_inside (h region List.mem_cons_self)
    rw [writeRegions, hw]
    apply ih
    intro r hr
    rw [size_writeBytes hw]
    exact h r (List.mem_cons_of_mem _ hr)

/-- regions are taken just if all of them lie inside the memory -/
theorem writeRegions_eq_ok_iff {m : μ} {regions : List Region} :
    (writeRegions m regions).2 = .ok () ↔ ∀ r ∈ regions, r.Inside (LinearMemory.size m) := by
  refine ⟨?_, writeRegions_of_inside m regions⟩
  induction regions generalizing m with
  | nil => exact fun _ => nofun
  | cons region rest ih =>
    intro h
    rw [writeRegions] at h
    split at h
    · rename_i m' hw
      rw [List.forall_mem_cons]
      refine ⟨(writeBytes_eq_ok_iff.1 hw).1, ?_⟩
      rw [← size_writeBytes hw]
      exact ih h
    · cases h

/-- **All regions or none.** If all regions but the first lie inside the memory, only the first can be refused, and
then nothing has been written yet. -/
theorem writeRegions_atomic {m : μ} {regions : List Region} {e : AccessError}
    (htail : ∀ r ∈ regions.tail, r.Inside (LinearMemory.size m)) (h : (writeRegions m regions).2 = .error e) :
    (writeRegions m regions).1 = m := by
  cases regions with
  | nil => rfl
  | cons region rest =>
    rcases hw : writeBytes m region.addr region.bytes with ⟨m', refusal | done⟩
    · rw [writeRegions, hw]
      exact (writeBytes_eq_error hw).1
    · have hrest := writeRegions_of_inside m' rest fun r hr => by rw [size_writeBytes hw]; exact htail r hr
      rw [writeRegions, hw, hrest] at h
      cases h

end Exact

end ScriptHost
