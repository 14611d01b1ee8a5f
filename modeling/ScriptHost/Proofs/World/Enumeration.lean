/-
Enumerations in a world. Whatever happens in a world, its session has a registry that comes from registrations alone, so
counts, enumerations and the lookups by descriptor agree at any time.

- `enumerates_exactly`: in every state that a world comes to.
- `enumerates_after_removal`: of a node that was removed, one that was registered twice and one that was never registered.
-/
import ScriptHost.Proofs.SceneCall.Listing
import ScriptHost.Proofs.World.Edits
import ScriptHost.Proofs.World.FanOut

namespace ScriptHost

namespace World

/-- **Enumeration is exact.** Whatever happens in a world, its session tells its guests of just those registered nodes that
are still in the scene: how many they are, a record of each, and its descriptor. The records are in the order of their
descriptors with at most `Registry.capacity` nodes, and they are what can be found with at most `Registry.room`. -/
theorem enumerates_exactly {μ : Type} [LinearMemory μ] [ExactMemory μ] (w : World SceneStore)
    (acts : List Act) : (w.run acts).session.Enumerates μ :=
  (w.run acts).session.enumerates

/-- two elements are registered, the second one twice; a third one is not, and the first one is removed -/
def comings : List Act :=
  [.addRegistered { data := .text {} }, .addRegistered { data := .model {} }, .register ⟨1⟩, .add { data := .text {} },
    .remove ⟨0⟩]

/-- the removed element is not told of any more, the one that is left is told of once, under its own descriptor -/
theorem enumerates_after_removal :
    let s := (blank.run comings).session
    s.present = [⟨1⟩] ∧ ¬ s.Listed 10 ∧ s.Listed 11 ∧
      ∃ e : SceneCall.Enumeration ByteMemory s, e.length = 5 ∧
        (∃ all : Int32, all.toInt = 1 ∧ readValue e.after e.count = .ok all) ∧
        readBytes e.after e.array 8 = .ok (Session.packed [⟨11, 2⟩]).toByteArray := by
  intro s
  have hexact : s.Enumerates ByteMemory := enumerates_exactly blank comings
  have hpresent : s.present = [⟨1⟩] := by decide +kernel
  have hroom : s.registry.count ≤ Registry.room := by decide +kernel
  let m : ByteMemory := ⟨filled 32 7⟩
  let e : SceneCall.Enumeration ByteMemory s := ⟨⟨0⟩, m, 8, 5, 0, by decide +kernel⟩
  refine ⟨hpresent, ?_, ?_, e, rfl, ?_, ?_⟩
  · rw [← hexact.finds hroom (.getDisplay 10 0) 10 rfl m ⟨0⟩]
    decide +kernel
  · rw [← not_not (a := s.Listed 11), ← hexact.finds hroom (.getDisplay 11 0) 11 rfl m ⟨0⟩]
    decide +kernel
  · obtain ⟨all, hall, hread⟩ := hexact.total e
    rw [hpresent] at hall
    exact ⟨all, hall, hread⟩
  · have hcopied : e.copied = 1 := by
      rw [SceneCall.Enumeration.copied, hpresent]
      rfl
    have hrecords : s.records.take 5 = [⟨11, 2⟩] := by decide +kernel
    have hapart : e.target.Apart e.slot := by
      rintro i ⟨hfrom, -⟩ ⟨-, hto⟩
      exact absurd (Nat.lt_of_le_of_lt hfrom hto) (by decide)
    have hread := hexact.records e (by rw [hcopied]; decide) hapart
    rw [hcopied] at hread
    exact hrecords ▸ hread

end World

end ScriptHost
