/-
Scene calls are all or nothing.

`call_all_or_nothing` says of every call, in every world and with every memory that takes just the copies that lie inside
of it:
- a call that fails leaves the memory and the world as they were: descriptors, elements, subscriptions, journal, queues;
- a query that succeeds leaves the world as it was and changes no byte outside of its answer;
- any other call that succeeds leaves the memory as it was and changes the node that it names, and nothing else.

The one query that writes twice is the list of elements. It checks the slot of the total before it writes the records, so
only its first write can be refused (`writeRegions_atomic`); `bad_slot_writes_nothing` is such a refusal.
-/
import ScriptHost.Proofs.Scene.Host
import ScriptHost.Proofs.Scene.Store
import ScriptHost.Proofs.SceneCall.Footprint
import ScriptHost.Proofs.SceneCall.Outcome
import ScriptHost.World

namespace ScriptHost

variable {μ : Type} [LinearMemory μ] [ExactMemory μ] {σ : Type} [StoreHost σ]

/-- what a call may do to a world and to the memory it comes with -/
structure CallEffect (w : World σ) (m : μ) (call : SceneCall) (called : World.Called μ σ) : Prop where
  failed : called.status ≠ .success → called.memory = m ∧ called.world = w
  asked : called.status = .success → call.isQuery → called.world = w ∧
    ∀ i, (∀ p ∈ call.outputs w.session, ¬ p.Covers i) → HonestMemory.byte called.memory i = HonestMemory.byte m i
  changed : called.status = .success → ¬ call.isQuery → called.memory = m ∧
    ∃ d node e scene, call.descriptor? = some d ∧ w.session.resolve d = some (node, e) ∧
      called.world = w.withScene scene ∧ w.store.Alters node (SceneHost.store scene)

namespace CallEffect

variable {w : World σ} {m : μ} {call : SceneCall}

/-! ## The ways a call can end -/

theorem refused {status : CallStatus} {notices : List Notice} (h : status ≠ .success) :
    CallEffect w m call { status, memory := m, world := w, notices } where
  failed _ := ⟨rfl, rfl⟩
  asked hs := absurd hs h
  changed hs := absurd hs h

theorem answered {caller : ScriptId} {regions : List Region} (h : call.Decides caller m w.session (.write regions)) :
    CallEffect w m call
      { status := .ofResult (SceneCall.access (writeRegions m regions).2)
        memory := (writeRegions m regions).1
        world := w
        notices := [] } := by
  obtain ⟨hquery, hspans, hinside⟩ := h
  refine ⟨?_, ?_, fun _ hq => absurd hquery hq⟩
  · intro hs
    cases hresult : (writeRegions m regions).2 with
    | ok u => exact absurd (by rw [hresult]; rfl) hs
    | error e => exact ⟨writeRegions_atomic hinside hresult, rfl⟩
  · intro _ _
    refine ⟨rfl, ?_⟩
    intro i hi
    apply byte_writeRegions_outside
    intro r hr
    exact hi r.span (hspans r hr)

theorem altered {node : NodeId} {scene : σ} {notices : List Notice}
    (hcall : call.Names w.session node)
    (hscene : w.store.Alters node (SceneHost.store scene)) :
    CallEffect w m call { status := .success, memory := m, world := w.withScene scene, notices } := by
  obtain ⟨hquery, d, e, hd, hfound⟩ := hcall
  exact ⟨fun h => absurd rfl h, fun _ hq => absurd hq hquery,
    fun _ _ => ⟨rfl, d, node, e, scene, hd, hfound, rfl, hscene⟩⟩

end CallEffect

/-- **All or nothing, and a known footprint.** A call that fails changes neither the memory nor the world. A query that
succeeds leaves the world alone, and in the memory every byte outside of its answer. Any other call that succeeds leaves
the memory alone, and in the world everything but the node that it names. -/
theorem call_all_or_nothing (w : World σ) (caller : ScriptId) (m : μ) (call : SceneCall) :
    CallEffect w m call (w.call caller m call) := by
  cases hplan : call.plan caller m w.session with
  | error status =>
    have hstatus : status ≠ .success := fun h => SceneCall.honest_plan caller m w.session call (h ▸ hplan)
    simp only [World.call, SceneCall.run, hplan]
    exact .refused hstatus
  | ok act =>
    have hact := SceneCall.plan_decides hplan
    simp only [World.call, SceneCall.run, hplan]
    cases act with
    | write regions => exact .answered hact
    | patch node p =>
      cases hp : SceneBackend.patch? w.session.scene node p with
      | none =>
        simp only [SceneAction.perform, hp]
        exact .refused (by decide)
      | some scene =>
        simp only [SceneAction.perform, hp]
        exact .altered hact.1 (SceneStore.alters_patch? (StoreHost.store_patch? hp))
    | animate node clip playState wrap =>
      cases ha : SceneBackend.animate? w.session.scene node clip playState wrap with
      | none =>
        simp only [SceneAction.perform, ha]
        exact .refused (by decide)
      | some scene =>
        simp only [SceneAction.perform, ha]
        exact .altered hact.1 (SceneStore.alters_animate? (StoreHost.store_animate? ha))
    | subscribe node event subscriber =>
      have hstore := StoreHost.store_subscribe w.session.scene node event subscriber
      exact .altered hact.1 (hstore ▸ SceneStore.alters_subscribe w.store node event subscriber)

/-- a model and a text, registered in this order -/
def twoElements : World SceneStore :=
  let w : World SceneStore := { shared := { session := { scene := .empty } } }
  ((w.addRegistered { id := some "walker", data := .model {} }).2.addRegistered { data := .text {} }).2

/-- both records would fit, and the slot of the total sticks out by one byte: nothing is written, not even the records -/
theorem bad_slot_writes_nothing :
    let m : ByteMemory := ⟨filled 32 7⟩
    let called := twoElements.call ⟨0⟩ m (.getElements 0 2 29)
    called.status = .invalidArgument ∧ called.memory = m ∧ called.world = twoElements := by
  intro m called
  have hstatus : called.status = .invalidArgument := by decide +kernel
  have heffect := call_all_or_nothing twoElements ⟨0⟩ m (.getElements 0 2 29)
  exact ⟨hstatus, heffect.failed (by rw [hstatus]; decide)⟩

end ScriptHost
