/-
Two memories that cannot be told apart from below their size.

`Alike m n`: the two have one size, hold the same bytes below it, and accept the same copies among those that lie inside
it. What they hold past the size, and which copies past it they accept, may differ.

`Confined f`: the computation `f` on a memory stays below the size. On memories that are alike it gives one result and
leaves them alike, and it never changes a byte at or past the size.

- Every checked read gives the same on honest memories that are alike (`Alike.readBytes` and what is built from it).
- `Confined.writeRegions`, `Confined.writeBytes`: checked writes are confined, if the memory is lawful. It is here that its
  size and the copies that it accepts must not change with a write: the next one meets them again (`Alike.copyIn`).
- `Confined.planned`: so is a computation that first reads and then goes on with what it has read.
-/
import ScriptHost.Memory.Segment
import ScriptHost.Proofs.Memory.Access
import ScriptHost.System.StringList

namespace ScriptHost

open Wire

variable {μ : Type} [LinearMemory μ] {ρ α : Type}

section Honest

variable [HonestMemory μ]

/-- two memories of one size that agree on what lies below it -/
structure Alike (m n : μ) : Prop where
  size_eq : LinearMemory.size m = LinearMemory.size n
  byte_eq : ∀ i < LinearMemory.size m, HonestMemory.byte m i = HonestMemory.byte n i
  accepts_copyOut : ∀ offset len, offset + len ≤ LinearMemory.size m →
    (LinearMemory.copyOut m offset len).isSome = (LinearMemory.copyOut n offset len).isSome
  accepts_copyIn : ∀ offset bytes, offset + ByteArray.size bytes ≤ LinearMemory.size m →
    (LinearMemory.copyIn m offset bytes).isSome = (LinearMemory.copyIn n offset bytes).isSome

/-- a computation that depends only on the bytes below a memory's size, and changes no others -/
structure Confined (f : μ → μ × ρ) : Prop where
  same : ∀ {m n : μ}, Alike m n → (f m).2 = (f n).2
  alike : ∀ {m n : μ}, Alike m n → Alike (f m).1 (f n).1
  size : ∀ m, LinearMemory.size (f m).1 = LinearMemory.size m
  past : ∀ m i, LinearMemory.size m ≤ i → HonestMemory.byte (f m).1 i = HonestMemory.byte m i

namespace Alike

variable {m n : μ}

/-! ## Raw copies that lie inside -/

theorem copyOut (h : Alike m n) {offset len : Nat} (hin : offset + len ≤ LinearMemory.size m) :
    LinearMemory.copyOut m offset len = LinearMemory.copyOut n offset len := by
  have hacc := h.accepts_copyOut offset len hin
  cases hm : LinearMemory.copyOut m offset len with
  | none =>
    rw [hm] at hacc
    exact (Option.isSome_eq_false_iff.1 hacc.symm |> Option.isNone_iff_eq_none.1).symm
  | some a =>
    rw [hm] at hacc
    obtain ⟨b, hn⟩ := Option.isSome_iff_exists.1 hacc.symm
    have ha := HonestMemory.size_copyOut hm
    have hb := HonestMemory.size_copyOut hn
    rw [hn]
    congr 1
    apply ext_byteAt (ha.trans hb.symm)
    intro i hi
    rw [HonestMemory.byteAt_copyOut hm i (by omega), HonestMemory.byteAt_copyOut hn i (by omega)]
    exact h.byte_eq _ (by omega)

/-! ## Checked reads -/

theorem readBytes (h : Alike m n) (addr : Pointer) (len : Nat) :
    ScriptHost.readBytes m addr len = ScriptHost.readBytes n addr len := by
  rw [readBytes_eq, readBytes_eq, ← h.size_eq]
  by_cases hin : addr.toNat + len ≤ LinearMemory.size m
  · rw [h.copyOut hin]
  · rw [if_neg hin, if_neg hin]

theorem readValue [WireValue α] (h : Alike m n) (addr : Pointer) :
    (ScriptHost.readValue m addr : Except AccessError α) = ScriptHost.readValue n addr := by
  unfold ScriptHost.readValue
  rw [h.readBytes]

theorem readText (h : Alike m n) (addr : Pointer) (len : Nat) :
    ScriptHost.readText m addr len = ScriptHost.readText n addr len := by
  unfold ScriptHost.readText
  rw [h.readBytes]

theorem readSegmentRecords (h : Alike m n) (address count : Nat) :
    ScriptHost.readSegmentRecords m address count = ScriptHost.readSegmentRecords n address count := by
  induction count generalizing address with
  | zero => rfl
  | succ count ih => simp only [ScriptHost.readSegmentRecords, h.readValue, ih]

theorem readSegments (h : Alike m n) (addr : Pointer) (count : UInt32) :
    ScriptHost.readSegments m addr count = ScriptHost.readSegments n addr count := by
  unfold ScriptHost.readSegments
  rw [h.size_eq, h.readSegmentRecords]

theorem gather (h : Alike m n) (segments : List Segment) :
    ScriptHost.gather m segments = ScriptHost.gather n segments := by
  unfold ScriptHost.gather
  simp only [h.readBytes]

theorem readGathered (h : Alike m n) (addr : Pointer) (count : UInt32) :
    ScriptHost.readGathered m addr count = ScriptHost.readGathered n addr count := by
  unfold ScriptHost.readGathered
  simp only [h.readSegments, h.gather]

end Alike

/-! ## Confined computations -/

namespace Confined

theorem reading {g : μ → ρ} (hg : ∀ {m n}, Alike m n → g m = g n) : Confined fun m => (m, g m) :=
  ⟨hg, id, fun _ => rfl, fun _ _ _ => rfl⟩

/-- a computation may choose by what it has read -/
theorem planned {g : μ → α} {f : α → μ → μ × ρ} (hg : ∀ {m n}, Alike m n → g m = g n)
    (hf : ∀ a, Confined (f a)) : Confined fun m => f (g m) m := by
  refine ⟨?_, ?_, fun m => (hf _).size m, fun m => (hf _).past m⟩
  · intro m n h
    rw [hg h]
    exact (hf _).same h
  · intro m n h
    rw [hg h]
    exact (hf _).alike h

/-- a result may be told in other words -/
theorem map {f : μ → μ × α} (hf : Confined f) (g : α → ρ) : Confined fun m => ((f m).1, g (f m).2) :=
  ⟨fun h => congrArg g (hf.same h), hf.alike, hf.size, hf.past⟩

end Confined

end Honest

/-! ## Checked writes -/

variable [LawfulMemory μ]

namespace Alike

variable {m n : μ}

theorem copyIn (h : Alike m n) {offset : Nat} {bytes : ByteArray} {m' n' : μ}
    (hm : LinearMemory.copyIn m offset bytes = some m') (hn : LinearMemory.copyIn n offset bytes = some n') :
    Alike m' n' := by
  have hsm := LawfulMemory.size_copyIn hm
  have hsn := LawfulMemory.size_copyIn hn
  refine ⟨hsm.trans (h.size_eq.trans hsn.symm), ?_, ?_, ?_⟩
  · intro i hi
    rw [HonestMemory.byte_copyIn hm, HonestMemory.byte_copyIn hn, h.byte_eq i (by omega)]
  · intro start len hin
    have hinside : start + len ≤ LinearMemory.size m := by omega
    rw [LawfulMemory.isSome_copyOut hm _ _ hinside, LawfulMemory.isSome_copyOut hn _ _ (h.size_eq ▸ hinside)]
    exact h.accepts_copyOut _ _ hinside
  · intro start new hin
    have hinside : start + new.size ≤ LinearMemory.size m := by omega
    rw [LawfulMemory.isSome_copyIn hm _ _ hinside, LawfulMemory.isSome_copyIn hn _ _ (h.size_eq ▸ hinside)]
    exact h.accepts_copyIn _ _ hinside

/-- a write is taken by both memories, which stay alike, or refused by both -/
theorem writeBytes (h : Alike m n) (addr : Pointer) (bytes : ByteArray) :
    (∃ m' n', ScriptHost.writeBytes m addr bytes = (m', .ok ()) ∧ ScriptHost.writeBytes n addr bytes = (n', .ok ()) ∧
      Alike m' n') ∨
    ∃ e, ScriptHost.writeBytes m addr bytes = (m, .error e) ∧ ScriptHost.writeBytes n addr bytes = (n, .error e) := by
  rw [writeBytes_eq, writeBytes_eq, ← h.size_eq]
  by_cases hin : addr.toNat + bytes.size ≤ LinearMemory.size m
  · rw [if_pos hin, if_pos hin]
    have hacc := h.accepts_copyIn _ _ hin
    cases hm : LinearMemory.copyIn m addr.toNat bytes <;> cases hn : LinearMemory.copyIn n addr.toNat bytes
    · exact Or.inr ⟨_, rfl, rfl⟩
    · simp [hm, hn] at hacc
    · simp [hm, hn] at hacc
    · exact Or.inl ⟨_, _, rfl, rfl, h.copyIn hm hn⟩
  · rw [if_neg hin, if_neg hin]
    exact Or.inr ⟨_, rfl, rfl⟩

theorem writeRegions (h : Alike m n) (regions : List Region) :
    (ScriptHost.writeRegions m regions).2 = (ScriptHost.writeRegions n regions).2 ∧
      Alike (ScriptHost.writeRegions m regions).1 (ScriptHost.writeRegions n regions).1 := by
  induction regions generalizing m n with
  | nil => exact ⟨rfl, h⟩
  | cons region rest ih =>
    rcases h.writeBytes region.addr region.bytes with ⟨m', n', hm, hn, h'⟩ | ⟨e, hm, hn⟩
    · rw [ScriptHost.writeRegions, ScriptHost.writeRegions, hm, hn]
      exact ih h'
    · rw [ScriptHost.writeRegions, ScriptHost.writeRegions, hm, hn]
      exact ⟨rfl, h⟩

end Alike

namespace Confined

theorem writeRegions (regions : List Region) : Confined fun m : μ => ScriptHost.writeRegions m regions :=
  ⟨fun h => (h.writeRegions regions).1, fun h => (h.writeRegions regions).2, fun m => size_writeRegions m regions,
    fun m i => byte_writeRegions_past m regions i⟩

theorem writeBytes (addr : Pointer) (bytes : ByteArray) : Confined fun m : μ => ScriptHost.writeBytes m addr bytes := by
  have hregion : (fun m : μ => ScriptHost.writeBytes m addr bytes) =
      fun m => ScriptHost.writeRegions m [⟨addr, bytes⟩] := by
    funext m
    rcases hw : ScriptHost.writeBytes m addr bytes with ⟨m', e | done⟩ <;> simp [ScriptHost.writeRegions, hw]
  rw [hregion]
  exact writeRegions [⟨addr, bytes⟩]

theorem writeText (addr : Pointer) (capacity : Nat) (text : String) :
    Confined fun m : μ => ScriptHost.writeText m addr capacity text := by
  unfold ScriptHost.writeText
  cases textBytes capacity text with
  | error e => exact reading (g := fun _ => Except.error e) fun _ => rfl
  | ok bytes => exact writeBytes addr bytes

theorem writeTextLength (addr : Pointer) (text : String) :
    Confined fun m : μ => ScriptHost.writeTextLength m addr text := by
  unfold ScriptHost.writeTextLength
  cases textLength text with
  | error e => exact reading (g := fun _ => Except.error e) fun _ => rfl
  | ok length => exact writeBytes addr _

end Confined

end ScriptHost
