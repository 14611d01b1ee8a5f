/-
Lookups by id in a world. The registry keeps of all nodes that were ever registered with an id the first one, for good; the
scene loses nodes, and the host may give elements other ids. So a lookup by an id can be trusted, but it does not see
everything.

- `lookups_cohere`: in every state that a world comes to from an empty registry, what is found is listed and was registered
  first with the id; as long as the host gives no registered element another id, ids that are copied out lead back.
- `lookups_cohere_by_door`: a guest that moves a door before it copies the door's id and looks it up.
- `lookup_finds_first`: what a lookup finds and what it misses. Of the elements with an id the first is found just if the
  node that was registered first with that id is still in the scene.
- `lookup_finds_first_door`: of two doors the second one is removed, and the first one is found.
- `lookup_misses_second_door`: of two doors the first one is removed, and the second one is not found, though it is listed.
-/
import ScriptHost.Proofs.SceneCall.ById
import ScriptHost.Proofs.World.Enumeration
import ScriptHost.Proofs.World.Names

namespace ScriptHost.World

section Run

variable {μ : Type} [LinearMemory μ] [ExactMemory μ]

/-- **Lookups cohere.** Whatever happens in a world, a lookup by an id that succeeds finds a record that is listed, with
the lowest descriptor that was ever given to a node registered with the id. As long as the host gives no registered element
another id, this record tells the id, and each element that was registered first with its id is found by it. -/
theorem lookups_cohere (w : World SceneStore) (hfresh : w.session.registry = {}) (acts : List Act)
    (hcount : (w.run acts).session.registry.count ≤ Registry.capacity) :
    (w.run acts).session.SoundById μ ∧ (w.KeepsIds acts → (w.run acts).session.CoherentById μ) := by
  refine ⟨Session.soundById_of_count hcount, ?_⟩
  intro hkeeps
  have hkept := unrenamed_run (placed_of_fresh hfresh) (unrenamed_of_fresh hfresh) hkeeps
  exact Session.coherentById_of_unrenamed hcount hkept

end Run

/-- a door is registered and then moved by a guest -/
def movedDoor : List Act :=
  [.addRegistered { id := some "door", data := .generic },
    .call ⟨0⟩ (⟨filled 16 1⟩ : ByteMemory) (.setPosition firstDescriptor 0)]

/-- the guest is told the id of the door, and with it it comes back to the door -/
theorem lookups_cohere_by_door :
    let s := (blank.run movedDoor).session
    let t : IdTrip ByteMemory := ⟨⟨0⟩, ⟨filled 32 7⟩, 0, 4, 8⟩
    blank.session.registry = {} ∧ s.registry.count ≤ Registry.capacity ∧ blank.KeepsIds movedDoor ∧
      s.TellsId 10 "door" ∧ t.LeadsTo s ⟨10, 1⟩ := by
  intro s t
  have hcount : s.registry.count ≤ Registry.capacity := by decide +kernel
  have hkeeps : blank.KeepsIds movedDoor := ⟨fun _ _ => id, fun _ _ => id, trivial⟩
  have hcohere := (lookups_cohere (μ := ByteMemory) blank rfl movedDoor hcount).2 hkeeps
  have hentry : (⟨10, ⟨0⟩, some "door"⟩ : Registration) ∈ s.registry.all := by decide +kernel
  have hfirst : s.registry.First "door" ⟨10, ⟨0⟩, some "door"⟩ := ⟨hentry, rfl, by decide +kernel⟩
  have helement : s.scene.element? ⟨0⟩ = some { id := some "door", position := .splat ⟨0x01010101⟩, data := .generic } := by
    decide +kernel
  have howns : s.Owns "door" ⟨10, 1⟩ := ⟨⟨_, hentry, _, helement, rfl, rfl⟩, _, hfirst, rfl⟩
  refine ⟨rfl, hcount, hkeeps, (hcohere.found _ _ howns).1, hcohere.back _ _ howns (by decide) t ?_⟩
  exact ⟨by decide +kernel, by decide +kernel, by decide +kernel⟩

/-- **What lookups find.** Whatever happens in a world, as long as the host gives no registered element another id, a
lookup by an id either finds the first of the elements with that id, or it finds nothing; and then no node was registered
with the id, or the one that was first has left the scene, whatever came after it. -/
theorem lookup_finds_first {μ : Type} [LinearMemory μ] [ExactMemory μ] (w : World SceneStore)
    (hfresh : w.session.registry = {}) (acts : List Act) (hkeeps : w.KeepsIds acts)
    (hcount : (w.run acts).session.registry.count ≤ Registry.capacity) (l : Lookup μ) :
    l.Answers (w.run acts).session :=
  l.answers_of_unrenamed hcount
    (unrenamed_run (placed_of_fresh hfresh) (unrenamed_of_fresh hfresh) hkeeps)

/-- two doors are registered, and one of them is removed -/
def twoDoors (removed : NodeId) : List Act :=
  [.addRegistered { id := some "door", data := .generic }, .addRegistered { id := some "door", data := .model {} },
    .remove removed]

/-- a lookup by "door" -/
def doorLookup : Lookup ByteMemory where
  caller := ⟨0⟩
  memory := ⟨"door".toUTF8 ++ filled 60 0⟩
  id := 0
  length := 4
  out := 16
  natural := by decide
  inside := by decide +kernel
  room := by decide +kernel

theorem text_doorLookup : doorLookup.text = "door" := by decide +kernel

/-- the second door is gone: the first one is found -/
theorem lookup_finds_first_door :
    let s := (blank.run (twoDoors ⟨1⟩)).session
    blank.session.registry = {} ∧ blank.KeepsIds (twoDoors ⟨1⟩) ∧ s.registry.count ≤ Registry.capacity ∧
      s.Least "door" ⟨10, 1⟩ ∧ doorLookup.Finds s ⟨10, 1⟩ := by
  intro s
  have hkeeps : blank.KeepsIds (twoDoors ⟨1⟩) := ⟨fun _ _ => id, fun _ _ => id, fun _ _ => id, trivial⟩
  have hcount : s.registry.count ≤ Registry.capacity := by decide +kernel
  have hanswers := lookup_finds_first blank rfl (twoDoors ⟨1⟩) hkeeps hcount doorLookup
  have hentry : (⟨10, ⟨0⟩, some "door"⟩ : Registration) ∈ s.registry.all := by decide +kernel
  have helement : s.scene.element? ⟨0⟩ = some { id := some "door", data := .generic } := by decide +kernel
  have hfirst : s.registry.First "door" ⟨10, ⟨0⟩, some "door"⟩ := ⟨hentry, rfl, by decide +kernel⟩
  have hleast : s.Least "door" ⟨10, 1⟩ := by
    refine ⟨⟨_, hentry, _, helement, rfl, rfl⟩, ?_⟩
    rintro _ ⟨other, hother, e, -, -, rfl⟩
    have hall : ∀ entry ∈ s.registry.all, 10 ≤ entry.descriptor := by decide +kernel
    exact hall other hother
  have hstays : ∃ entry e, s.registry.First doorLookup.text entry ∧ s.scene.element? entry.node = some e :=
    ⟨⟨10, ⟨0⟩, some "door"⟩, _, text_doorLookup ▸ hfirst, helement⟩
  exact ⟨rfl, hkeeps, hcount, hleast, (hanswers.least_iff _ (text_doorLookup ▸ hleast)).2 hstays⟩

/-- the first door is gone: the second one is listed and has the id that it was registered with, but it is not found -/
theorem lookup_misses_second_door :
    let s := (blank.run (twoDoors ⟨0⟩)).session
    blank.session.registry = {} ∧ blank.KeepsIds (twoDoors ⟨0⟩) ∧ s.records = [⟨11, 2⟩] ∧ s.Least "door" ⟨11, 2⟩ ∧
      doorLookup.text = "door" ∧ (doorLookup.outcome s).status = .elementNotFound ∧ ¬ doorLookup.Finds s ⟨11, 2⟩ := by
  intro s
  have hkeeps : blank.KeepsIds (twoDoors ⟨0⟩) := ⟨fun _ _ => id, fun _ _ => id, fun _ _ => id, trivial⟩
  have hentry : (⟨11, ⟨1⟩, some "door"⟩ : Registration) ∈ s.registry.all := by decide +kernel
  have helement : s.scene.element? ⟨1⟩ = some { id := some "door", data := .model {} } := by decide +kernel
  have hleast : s.Least "door" ⟨11, 2⟩ := by
    refine ⟨⟨_, hentry, _, helement, rfl, rfl⟩, ?_⟩
    rintro _ ⟨other, hother, e, hother', -, rfl⟩
    have hall : ∀ entry ∈ s.registry.all, (s.scene.element? entry.node).isSome → 11 ≤ entry.descriptor := by
      decide +kernel
    exact hall other hother (Option.isSome_iff_exists.2 ⟨e, hother'⟩)
  have hmissed : (doorLookup.outcome s).status = .elementNotFound := by
    rw [doorLookup.status_eq_iff, text_doorLookup]
    decide +kernel
  refine ⟨rfl, hkeeps, by decide +kernel, hleast, text_doorLookup, hmissed, ?_⟩
  rintro ⟨hsuccess, -⟩
  rw [hmissed] at hsuccess
  cases hsuccess

end ScriptHost.World
