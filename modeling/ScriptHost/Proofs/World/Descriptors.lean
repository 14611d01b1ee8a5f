/-
Descriptors over a whole session. The host registers nodes as often as it likes, and each time it is handed a descriptor
(`World.handed`). The registry only grows, and no two of its entries have one node, so what was handed out once for a node
is handed out for it again and leads to it ever after, also when the node has left the scene.

- `descriptors_last`: this, and what else a registration does, in every state that a world comes to from an empty registry.
- `descriptors_last_of_door`: a node that is removed and asked for again, and another one that is registered twice.
-/
import ScriptHost.Proofs.SceneCall.Verdict
import ScriptHost.Proofs.World.Enumeration
import ScriptHost.Proofs.World.Names

namespace ScriptHost

namespace World

variable {w : World SceneStore} {node : NodeId} {d : Int32}

/-! ## What is handed out -/

/-- the node and the descriptor that an act hands out -/
def handsOut (w : World SceneStore) : Act → Option (NodeId × Int32)
  | .addRegistered e => some (w.addRegistered e).1
  | .register node => (w.register node).1.map fun d => (node, d)
  | _ => none

/-- the nodes and descriptors that are handed out in a run, in order -/
def handed (w : World SceneStore) : List Act → List (NodeId × Int32)
  | [] => []
  | act :: rest => (w.handsOut act).toList ++ (w.step act).handed rest

theorem register_of_present {e : Element} (h : w.store.element? node = some e) :
    w.register node = (some (w.session.registry.register node e.id).1,
      w.withSession (w.session.enrol node e.id).2) := by
  have helement : SceneBackend.element? w.session.scene node = some e := h
  rw [World.register, Session.register, helement]
  rfl

theorem register_of_absent (h : w.store.element? node = none) : w.register node = (none, w) := by
  have helement : SceneBackend.element? w.session.scene node = none := h
  rw [World.register, Session.register, helement]
  rfl

theorem descriptor?_of_handsOut {act : Act} (hpair : w.handsOut act = some (node, d)) :
    (w.step act).session.registry.descriptor? node = some d := by
  cases act with
  | addRegistered e =>
    cases hpair
    exact w.session.indexed.descriptor?_register w.store.next e.id
  | register asked =>
    obtain ⟨_, hd, hsame⟩ := Option.map_eq_some_iff.1 hpair
    cases hsame
    cases helement : w.store.element? node with
    | none =>
      rw [register_of_absent helement] at hd
      cases hd
    | some e =>
      rw [register_of_present helement] at hd
      cases hd
      rw [step, register_of_present helement]
      exact w.session.indexed.descriptor?_register node e.id
  | _ => cases hpair

/-- a node that was handed a descriptor has it at the end -/
theorem descriptor?_of_handed {acts : List Act} (hpair : (node, d) ∈ w.handed acts) :
    (w.run acts).session.registry.descriptor? node = some d := by
  induction acts generalizing w with
  | nil => cases hpair
  | cons act rest ih =>
    rw [handed, List.mem_append, Option.mem_toList] at hpair
    rcases hpair with hnow | hlater
    · exact (w.step act).session.indexed.descriptor?_of_grown ((w.step act).run rest).session.indexed (all_run _ rest)
        (descriptor?_of_handsOut hnow)
    · exact ih hlater

/-- what is enrolled is handed out, and its node was not known before -/
theorem handsOut_of_enrolled {act : Act} {entry : Registration} (h : w.enrolled act = some entry) :
    w.handsOut act = some (entry.node, entry.descriptor) ∧
      w.session.registry.descriptor? entry.node = none := by
  cases act with
  | addRegistered e =>
    obtain ⟨hnew, rfl⟩ := Registry.enrol?_eq_some.1 h
    exact ⟨congrArg (fun d => some (w.store.next, d)) (Registry.register_fst_of_none hnew e.id), hnew⟩
  | register node =>
    obtain ⟨e, helement, h⟩ := Option.bind_eq_some_iff.1 h
    obtain ⟨hnew, rfl⟩ := Registry.enrol?_eq_some.1 h
    rw [handsOut, register_of_present helement, Registry.register_fst_of_none hnew]
    exact ⟨rfl, hnew⟩
  | _ => cases h

/-- every entry was made by some act -/
theorem exists_enrolled {acts : List Act} {entry : Registration} (h : entry ∈ (w.run acts).session.registry.all) :
    entry ∈ w.session.registry.all ∨
      ∃ before act after, acts = before ++ act :: after ∧ (w.run before).enrolled act = some entry := by
  induction acts generalizing w with
  | nil => exact .inl h
  | cons act rest ih =>
    rcases ih h with hold | ⟨before, later, after, rfl, hlater⟩
    · rw [all_step, List.mem_append, Option.mem_toList] at hold
      rcases hold with hold | hnow
      · exact .inl hold
      · exact .inr ⟨[], act, rest, rfl, hnow⟩
    · exact .inr ⟨act :: before, later, after, rfl, hlater⟩

/-- to add and register at once is to add and then to register -/
theorem addRegistered_eq (w : World SceneStore) (e : Element) :
    (w.add e).2.register (w.add e).1 = (some (w.addRegistered e).1.2, (w.addRegistered e).2) ∧
      (w.addRegistered e).1.1 = (w.add e).1 := by
  have helement : (w.add e).2.store.element? w.store.next = some e := by
    have hadd := w.store.element?_add e w.store.next
    rw [if_pos rfl] at hadd
    exact hadd
  refine ⟨?_, rfl⟩
  exact register_of_present helement

/-! ## Nodes that have left -/

/-- whoever asks for a registered node that is not in the scene does not find it -/
theorem status_of_gone {s : Session SceneStore} (hnode : s.registry.node? d = some node)
    (hgone : s.scene.element? node = none) {μ : Type} [LinearMemory μ] (caller : ScriptId) (m : μ) {call : SceneCall}
    (hd : call.descriptor? = some d) : (call.run caller m s).status = .elementNotFound := by
  refine SceneCall.status_of_error (SceneCall.plan_of_not_found hd ?_)
  rw [Option.eq_none_iff_forall_ne_some]
  rintro ⟨found, e⟩ hfound
  obtain ⟨hnode', helement⟩ := Session.resolve_eq_some.1 hfound
  rw [hnode] at hnode'
  cases hnode'
  exact absurd (hgone.symm.trans helement) nofun

/-! ## The session -/

/-- a run registers no more nodes than there are descriptors (`Registry.room`) -/
def HasRoom (w : World SceneStore) (acts : List Act) : Prop := (w.run acts).session.registry.count ≤ Registry.room

/-- what the descriptors of a session are worth, in the state that a run comes to and in all later ones -/
structure DescriptorsLast (w : World SceneStore) (acts : List Act) : Prop where
  /-- a descriptor that was handed out for a node leads to that node ever after, until all words were given out -/
  leads : ∀ node d, (node, d) ∈ w.handed acts → ∀ later, w.HasRoom (acts ++ later) →
    (w.run (acts ++ later)).session.registry.node? d = some node
  /-- it is handed out for no other node, and the node is handed no other -/
  oneToOne : ∀ p ∈ w.handed acts, ∀ q ∈ w.handed acts, p.1 = q.1 ↔ p.2 = q.2
  /-- no scene call changes the registry -/
  calls : ∀ {μ : Type} [LinearMemory μ] (caller : ScriptId) (m : μ) (call : SceneCall),
    ((w.run acts).call caller m call).world.session.registry = (w.run acts).session.registry
  /-- and no operation on a script, whatever its guest calls -/
  operations : ∀ id act st, (w.run acts).operate id act = some st →
    st.world.session.registry = (w.run acts).session.registry
  /-- just the nodes that are not in the scene are not registered, known or not, and then nothing changes -/
  absent : ∀ node, ((w.run acts).register node).1 = none ↔ (w.run acts).store.element? node = none
  unchanged : ∀ node, ((w.run acts).register node).1 = none → ((w.run acts).register node).2 = w.run acts
  /-- a node that was handed a descriptor is handed the same again, and nothing changes -/
  again : ∀ node d, (node, d) ∈ w.handed acts → (w.run acts).store.element? node ≠ none →
    (w.run acts).register node = (some d, w.run acts)
  /-- each entry is noted when its node is first handed a descriptor, with the id that the element has then -/
  noted : ∀ entry ∈ (w.run acts).session.registry.all, ∃ before act after, acts = before ++ act :: after ∧
    (w.run before).handsOut act = some (entry.node, entry.descriptor) ∧
    (∀ d, (entry.node, d) ∉ w.handed before) ∧
    ((w.run before).step act).store.idOf? entry.node = some entry.id
  /-- to add and register at once is to add and then to register -/
  added : ∀ e, ((w.run acts).add e).2.register ((w.run acts).add e).1 =
      (some ((w.run acts).addRegistered e).1.2, ((w.run acts).addRegistered e).2) ∧
    ((w.run acts).addRegistered e).1.1 = ((w.run acts).add e).1
  /-- a registered node that has left the scene is not found by any call, ever after -/
  gone : ∀ node d, (node, d) ∈ w.handed acts → (w.run acts).store.element? node = none →
    ∀ later, w.HasRoom (acts ++ later) →
    ∀ {μ : Type} [LinearMemory μ] (caller : ScriptId) (m : μ) (call : SceneCall), call.descriptor? = some d →
      (call.run caller m (w.run (acts ++ later)).session).status = .elementNotFound

section Run

variable {acts : List Act}

theorem node?_of_handed (hpair : (node, d) ∈ w.handed acts) {later : List Act} (hroom : w.HasRoom (acts ++ later)) :
    (w.run (acts ++ later)).session.registry.node? d = some node := by
  refine (w.run (acts ++ later)).session.indexed.node?_of_descriptor? hroom ?_
  have hgrown := all_run (w.run acts) later
  rw [← run_append] at hgrown
  exact (w.run acts).session.indexed.descriptor?_of_grown (w.run (acts ++ later)).session.indexed hgrown
    (descriptor?_of_handed hpair)

/-- in the state that the run comes to -/
theorem node?_run_of_handed (hpair : (node, d) ∈ w.handed acts) (hroom : w.HasRoom acts) :
    (w.run acts).session.registry.node? d = some node :=
  (w.run acts).session.indexed.node?_of_descriptor? hroom (descriptor?_of_handed hpair)

theorem oneToOne_handed (hroom : w.HasRoom acts) {p q : NodeId × Int32} (hp : p ∈ w.handed acts)
    (hq : q ∈ w.handed acts) : p.1 = q.1 ↔ p.2 = q.2 := by
  obtain ⟨node, d⟩ := p
  obtain ⟨node', d'⟩ := q
  constructor
  · rintro rfl
    exact Option.some.inj ((descriptor?_of_handed hp).symm.trans (descriptor?_of_handed hq))
  · rintro rfl
    exact Option.some.inj ((node?_run_of_handed hp hroom).symm.trans (node?_run_of_handed hq hroom))

theorem register_of_handed (hpair : (node, d) ∈ w.handed acts) (hpresent : (w.run acts).store.element? node ≠ none) :
    (w.run acts).register node = (some d, w.run acts) := by
  obtain ⟨e, helement⟩ := Option.ne_none_iff_exists'.1 hpresent
  have hsame := Session.enrol_of_some (descriptor?_of_handed hpair) e.id
  exact (register_of_present helement).trans (congrArg (fun enrolled => (some enrolled.1, withSession _ enrolled.2)) hsame)

theorem noted_of_fresh (hfresh : w.session.registry = {}) {entry : Registration}
    (hentry : entry ∈ (w.run acts).session.registry.all) : ∃ before act after, acts = before ++ act :: after ∧
      (w.run before).handsOut act = some (entry.node, entry.descriptor) ∧
      (∀ d, (entry.node, d) ∉ w.handed before) ∧
      ((w.run before).step act).store.idOf? entry.node = some entry.id := by
  rcases exists_enrolled hentry with hold | ⟨before, act, after, rfl, henrolled⟩
  · rw [hfresh] at hold
    cases hold
  · obtain ⟨hout, hnew⟩ := handsOut_of_enrolled henrolled
    refine ⟨before, act, after, rfl, hout, ?_, idOf?_of_enrolled henrolled⟩
    intro d hd
    rw [descriptor?_of_handed hd] at hnew
    cases hnew

theorem gone_of_handed (hroom : w.HasRoom acts) (hplaced : w.session.Placed) (hpair : (node, d) ∈ w.handed acts)
    (hgone : (w.run acts).store.element? node = none) (later : List Act) :
    (w.run (acts ++ later)).store.element? node = none := by
  obtain ⟨entry, hentry, -, rfl⟩ := (w.run acts).session.indexed.entry_of_node? (node?_run_of_handed hpair hroom)
  have hnumber := placed_run hplaced acts entry hentry
  rw [← SceneStore.idOf?_eq_none_iff, run_append]
  exact idOf?_run_of_gone hnumber (SceneStore.idOf?_eq_none_iff.2 hgone) later

end Run

/-- **Descriptors last.** From an empty registry, whatever happens, and as long as no more nodes are registered than there
are words (`World.HasRoom`): a descriptor that was handed out leads to its node for good and to no other, and it is answered
with `elementNotFound` for good when the node has left the scene. -/
theorem descriptors_last (w : World SceneStore) (hfresh : w.session.registry = {}) (acts : List Act)
    (hroom : w.HasRoom acts) : w.DescriptorsLast acts := by
  have hplaced : w.session.Placed := placed_of_fresh hfresh
  exact {
    leads := fun node d hpair later hlater => node?_of_handed hpair hlater
    oneToOne := fun p hp q hq => oneToOne_handed hroom hp hq
    calls := fun caller m call => (Session.sameNames_call caller m (w.run acts).session call).registry
    operations := fun id act st hst => by
      have hsame : (w.run acts).session.SameNames ((w.run acts).step (.operate id act)).session := sameNames_step rfl
      rw [step, hst] at hsame
      exact hsame.registry
    absent := fun node => by
      cases helement : (w.run acts).store.element? node with
      | none => simp only [register_of_absent helement]
      | some e => simp only [register_of_present helement, reduceCtorEq]
    unchanged := fun node hnone => by
      cases helement : (w.run acts).store.element? node with
      | none => rw [register_of_absent helement]
      | some e =>
        rw [register_of_present helement] at hnone
        cases hnone
    again := fun node d hpair hpresent => register_of_handed hpair hpresent
    noted := fun entry hentry => noted_of_fresh hfresh hentry
    added := addRegistered_eq (w.run acts)
    gone := fun node d hpair hgone later hlater μ _ caller m call hd =>
      status_of_gone (node?_of_handed hpair hlater) (gone_of_handed hroom hplaced hpair hgone later) caller m hd }

/-- a door is removed and asked for again, and one that comes after it is registered twice -/
def doors : List Act :=
  [.addRegistered { id := some "door", data := .generic }, .remove ⟨0⟩, .register ⟨0⟩,
    .addRegistered { id := some "door", data := .model {} }, .register ⟨1⟩]

/-- the first descriptor stays with the door that is gone, which is never found again; the other door keeps its own -/
theorem descriptors_last_of_door :
    let w := blank.run doors
    blank.session.registry = {} ∧ blank.HasRoom doors ∧
      blank.handed doors = [(⟨0⟩, 10), (⟨1⟩, 11), (⟨1⟩, 11)] ∧
      (w.register ⟨0⟩).1 = none ∧ w.register ⟨1⟩ = (some 11, w) ∧
      ∀ later, blank.HasRoom (doors ++ later) → (blank.run (doors ++ later)).session.registry.node? 10 = some ⟨0⟩ ∧
        ((SceneCall.getDisplay 10 0).run ⟨0⟩ (⟨.empty⟩ : ByteMemory) (blank.run (doors ++ later)).session).status =
          .elementNotFound := by
  intro w
  have hcount : w.session.registry.count ≤ Registry.room := by decide +kernel
  have hlast : blank.DescriptorsLast doors := descriptors_last blank rfl doors hcount
  have hhanded : blank.handed doors = [(⟨0⟩, 10), (⟨1⟩, 11), (⟨1⟩, 11)] := by decide +kernel
  have hfirst : (⟨0⟩, 10) ∈ blank.handed doors := by simp [hhanded]
  have hsecond : (⟨1⟩, 11) ∈ blank.handed doors := by simp [hhanded]
  have hgone : w.store.element? ⟨0⟩ = none := by decide +kernel
  refine ⟨rfl, hcount, hhanded, (hlast.absent ⟨0⟩).2 hgone, hlast.again _ _ hsecond (by decide +kernel), ?_⟩
  intro later hlater
  exact ⟨hlast.leads _ _ hfirst later hlater,
    hlast.gone _ _ hfirst hgone later hlater ⟨0⟩ _ (.getDisplay 10 0) rfl⟩

end World

end ScriptHost
