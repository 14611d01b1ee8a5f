/-
Lists of strings in guest memory. The host decides on two regions for them, one behind the other in time: the pointers and
the packed strings, or the two numbers that tell their sizes. Both regions were found to lie inside the memory before
either is written (`regions_eq_ok`, `sizeRegions_eq_ok`). In a memory of at most 2^32 bytes nothing else stands against
the strings (`regions_of_inside`), as each of them begins where a pointer can lead; against their sizes stands that both
must be words (`Told`).
-/
import ScriptHost.Proofs.Memory.Access
import ScriptHost.Proofs.Memory.Segments
import ScriptHost.System.StringList

namespace ScriptHost.StringList

open Wire

/-- the number of the strings and the size of their buffer can be told, each in one word -/
def Told (strings : List String) : Prop := strings.length < wordLimit ∧ totalSize strings < wordLimit

/-- the bytes that take the pointers, and those that take the strings -/
def spans (strings : List String) (array buffer : Pointer) : List Span :=
  [⟨array, 4 * strings.length⟩, ⟨buffer, totalSize strings⟩]

/-- the bytes that take the two numbers -/
def sizeSpans (count size : Pointer) : List Span := [⟨count, 4⟩, ⟨size, 4⟩]

variable {strings : List String} {address : Nat} {array buffer count size : Pointer}

/-! ## Pointers -/

theorem length_pointers {ps : List Pointer} (h : pointers address strings = .ok ps) : ps.length = strings.length := by
  induction strings generalizing address ps with
  | nil =>
    cases h
    rfl
  | cons text rest ih =>
    simp only [pointers, bind_eq_ok, pure_eq_ok] at h
    obtain ⟨first, -, others, hothers, rfl⟩ := h
    rw [List.length_cons, List.length_cons, ih hothers]

/-- strings that end where a pointer can lead begin where pointers can lead -/
theorem exists_pointers (address : Nat) (strings : List String) (h : address + totalSize strings ≤ wordLimit) :
    ∃ ps, pointers address strings = .ok ps := by
  induction strings generalizing address with
  | nil => exact ⟨[], rfl⟩
  | cons text rest ih =>
    have hroom : 0 < room text := Nat.succ_pos _
    rw [totalSize] at h
    obtain ⟨first, hfirst, -⟩ := pointer_of_lt address (by omega)
    obtain ⟨others, hothers⟩ := ih (address + room text) (by omega)
    refine ⟨first :: others, ?_⟩
    simp only [pointers, hfirst, hothers, bind, Except.bind]
    rfl

/-! ## Decisions -/

variable {μ : Type} [LinearMemory μ] {m : μ} {rs : List Region}

theorem inside_pair {p q : Span} {size : Nat} : (∀ r ∈ [p, q], ¬ r.Outside size) ↔
    p.addr.toNat + p.size ≤ size ∧ q.addr.toNat + q.size ≤ size := by
  rw [List.forall_mem_cons, List.forall_mem_singleton]
  exact and_congr Nat.not_lt Nat.not_lt

theorem span_pointers {ps : List Pointer} (h : ps.length = strings.length) :
    (Region.ofValues array ps).span = ⟨array, 4 * strings.length⟩ := by
  rw [Region.span_ofValues, h]
  rfl

theorem regions_eq_ok (h : regions m strings array buffer = .ok rs) :
    rs.map Region.span = spans strings array buffer ∧ ∀ r ∈ rs, r.Inside (LinearMemory.size m) := by
  simp only [regions, bind_eq_ok, pure_eq_ok] at h
  obtain ⟨ps, hps, ⟨⟩, harray, ⟨⟩, hbuffer, rfl⟩ := h
  have hspans : [Region.ofValues array ps, ⟨buffer, packed strings⟩].map Region.span = spans strings array buffer := by
    rw [List.map_cons, List.map_singleton, span_pointers (length_pointers hps), Region.span, size_packed]
    rfl
  rw [checkBounds_eq_ok_iff] at harray hbuffer
  have hbytes : (Region.ofValues array ps).bytes.size = 4 * strings.length :=
    congrArg Span.size (span_pointers (length_pointers hps))
  rw [hbytes] at harray
  exact ⟨hspans, Region.inside_of_spans hspans (inside_pair.2 ⟨harray, hbuffer⟩)⟩

theorem regions_of_inside (strings : List String) (array buffer : Pointer) (hsize : LinearMemory.size m ≤ wordLimit)
    (h : ∀ p ∈ spans strings array buffer, ¬ p.Outside (LinearMemory.size m)) :
    ∃ rs, regions m strings array buffer = .ok rs := by
  obtain ⟨harray, hbuffer⟩ := inside_pair.1 h
  dsimp only at harray hbuffer
  obtain ⟨ps, hps⟩ := exists_pointers _ _ (Nat.le_trans hbuffer hsize)
  have hbytes : (Region.ofValues array ps).bytes.size = 4 * strings.length :=
    congrArg Span.size (span_pointers (length_pointers hps))
  rw [← hbytes] at harray
  refine ⟨[.ofValues array ps, ⟨buffer, packed strings⟩], ?_⟩
  simp only [regions, hps, bind, Except.bind, checkBounds, if_pos harray, if_pos hbuffer]
  rfl

theorem word_eq_ok {n : Nat} {w : UInt32} : word n = .ok w ↔ n < wordLimit ∧ UInt32.ofNat n = w := by
  unfold word
  split <;> simp [*]

theorem sizeRegions_eq_ok (h : sizeRegions m strings count size = .ok rs) :
    rs.map Region.span = sizeSpans count size ∧ (∀ r ∈ rs, r.Inside (LinearMemory.size m)) ∧ Told strings := by
  simp only [sizeRegions, sizes, bind_eq_ok, pure_eq_ok, word_eq_ok] at h
  obtain ⟨_, ⟨n, ⟨hlength, -⟩, total, ⟨htotal, -⟩, rfl⟩, ⟨⟩, hcount, ⟨⟩, hsize, rfl⟩ := h
  rw [checkBounds_eq_ok_iff] at hcount hsize
  have hspans : [Region.ofValue count n, .ofValue size total].map Region.span = sizeSpans count size := by
    rw [List.map_cons, List.map_singleton, Region.span_ofValue, Region.span_ofValue]
    rfl
  exact ⟨hspans, Region.inside_of_spans hspans (inside_pair.2 ⟨hcount, hsize⟩), hlength, htotal⟩

theorem sizeRegions_of_inside (count size : Pointer) (htold : Told strings)
    (h : ∀ p ∈ sizeSpans count size, ¬ p.Outside (LinearMemory.size m)) :
    ∃ rs, sizeRegions m strings count size = .ok rs := by
  obtain ⟨hcount, hsize⟩ := inside_pair.1 h
  dsimp only at hcount hsize
  have hsizes : sizes strings = .ok (UInt32.ofNat strings.length, UInt32.ofNat (totalSize strings)) := by
    simp only [sizes, word, if_pos htold.1, if_pos htold.2, bind, Except.bind]
    rfl
  refine ⟨[.ofValue count (UInt32.ofNat strings.length), .ofValue size (UInt32.ofNat (totalSize strings))], ?_⟩
  simp only [sizeRegions, hsizes, bind, Except.bind, checkBounds, if_pos hcount, if_pos hsize]
  rfl

end ScriptHost.StringList
