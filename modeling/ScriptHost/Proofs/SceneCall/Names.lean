/-
The names of nodes: the descriptors by which guests name them, and the ids of their elements. Scene calls change neither,
whatever they are (`Session.sameNames_call`): a guest can register nothing, remove nothing and give no element another id.
-/
import ScriptHost.Proofs.Registry
import ScriptHost.Proofs.Scene.Journal
import ScriptHost.Proofs.SceneCall.Attributes
import ScriptHost.Proofs.SceneCall.Outcome
import ScriptHost.Proofs.Script.Control

namespace ScriptHost

/-! ## The scene -/

namespace SceneStore

/-- the id of a node's element, if the node is in the scene -/
def idOf? (s : SceneStore) (node : NodeId) : Option (Option String) := (s.element? node).map (·.id)

variable {s s' : SceneStore} {node : NodeId}

theorem idOf?_eq_none_iff : s.idOf? node = none ↔ s.element? node = none := Option.map_eq_none_iff

theorem index_lt_of_idOf? {id : Option String} (h : s.idOf? node = some id) : node.index < s.next.index := by
  obtain ⟨e, helement, -⟩ := Option.map_eq_some_iff.1 h
  exact index_lt_of_element? helement

theorem idOf?_of_alters {other : NodeId} (h : s.Alters node s') (hother : other ≠ node) :
    s'.idOf? other = s.idOf? other :=
  congrArg (Option.map Element.id) (element?_of_alters h hother)

theorem idOf?_add (s : SceneStore) (e : Element) (node : NodeId) :
    (s.add e).2.idOf? node = if node = s.next then some e.id else s.idOf? node := by
  rw [idOf?, element?_add]
  split <;> rfl

theorem idOf?_remove (s : SceneStore) (removed node : NodeId) :
    (s.remove removed).2.idOf? node = if node = removed then none else s.idOf? node := by
  rw [idOf?, element?_remove]
  split <;> rfl

end SceneStore

/-! ## What leaves names alone -/

namespace Session

/-- the same nodes are registered, under the same descriptors, and the same nodes are in the scene, with the same ids -/
structure SameNames (s s' : Session SceneStore) : Prop where
  registry : s'.registry = s.registry
  next : s'.scene.next = s.scene.next
  idOf? : ∀ node, s'.scene.idOf? node = s.scene.idOf? node

namespace SameNames

theorem refl (s : Session SceneStore) : s.SameNames s := ⟨rfl, rfl, fun _ => rfl⟩

theorem trans {s t u : Session SceneStore} (h : s.SameNames t) (h' : t.SameNames u) : s.SameNames u :=
  ⟨h'.registry.trans h.registry, h'.next.trans h.next, fun node => (h'.idOf? node).trans (h.idOf? node)⟩

end SameNames

variable {s : Session SceneStore} {scene : SceneStore} {node : NodeId}

theorem sameNames_of_alters (h : s.scene.Alters node scene) (hid : scene.idOf? node = s.scene.idOf? node) :
    s.SameNames { s with scene } := by
  refine ⟨rfl, h.next, fun other => ?_⟩
  by_cases hother : other = node
  · rw [hother]
    exact hid
  · exact SceneStore.idOf?_of_alters h hother

theorem sameNames_animate? {clip : Clip} {playState : PlayState} {wrap : AnimationWrap}
    (h : s.scene.animate? node clip playState wrap = some scene) : s.SameNames { s with scene } := by
  refine sameNames_of_alters (SceneStore.alters_animate? h) ?_
  obtain ⟨old, new, hold, hnew, rfl⟩ := SceneStore.animate?_eq_some.1 h
  obtain ⟨_, _, -, rfl⟩ := SceneNode.eq_of_animate? hnew
  rw [SceneStore.idOf?, SceneStore.element?_put_self hold, SceneStore.idOf?, SceneStore.element?, hold]
  rfl

theorem sameNames_subscribe (s : Session SceneStore) (node : NodeId) (event : EventKind) (subscriber : Subscriber) :
    s.SameNames { s with scene := s.scene.subscribe node event subscriber } := by
  refine sameNames_of_alters (SceneStore.alters_subscribe s.scene node event subscriber) ?_
  rw [SceneStore.subscribe]
  split
  · rename_i old hold
    rw [SceneStore.idOf?, SceneStore.element?_put_self hold, SceneStore.idOf?, SceneStore.element?, hold]
    rfl
  · rfl

/-- what a guest sets is no id -/
theorem sameNames_patch? {e : Element} {v : AttributeValue} (helement : s.scene.element? node = some e)
    (h : s.scene.patch? node (v.patch e) = some scene) : s.SameNames { s with scene } := by
  refine sameNames_of_alters (SceneStore.alters_patch? h) ?_
  obtain ⟨old, hold, rfl⟩ := Option.map_eq_some_iff.1 helement
  obtain ⟨old', new, hold', hnew, rfl⟩ := SceneStore.patch?_eq_some.1 h
  obtain rfl : old = old' := Option.some.inj (hold.symm.trans hold')
  rw [Element.applyTo?_patch] at hnew
  split at hnew
  · cases hnew
    have hput := SceneStore.element?_put_self hold { old with element := old.element.assign v }
    have hid : ∀ journal, ({ s.scene.put node (some { old with element := old.element.assign v }) with journal } :
        SceneStore).idOf? node = some old.element.id :=
      fun _ => (congrArg (Option.map Element.id) hput).trans (congrArg some (old.element.id_assign v))
    rw [hid, SceneStore.idOf?, helement]
    rfl
  · cases hnew

theorem sameNames_call {μ : Type} [LinearMemory μ] (caller : ScriptId) (m : μ) (s : Session SceneStore)
    (call : SceneCall) : s.SameNames (call.run caller m s).session := by
  rcases call.session_cases caller m s with h | ⟨node, p, scene, hplan, hscene, h⟩ |
    ⟨node, clip, playState, wrap, scene, -, hscene, h⟩ | ⟨node, event, subscriber, -, h⟩
  · rw [h]
    exact .refl s
  · obtain ⟨d, e, v, -, hfound, -, rfl⟩ := SceneCall.plan_means hplan
    rw [h]
    exact sameNames_patch? (resolve_eq_some.1 hfound).2 hscene
  · rw [h]
    exact sameNames_animate? hscene
  · rw [h]
    exact sameNames_subscribe s node event subscriber

theorem sameNames_after (caller : ScriptId) (s : Session SceneStore) (calls : List Made) :
    s.SameNames (s.after caller calls) := by
  induction calls generalizing s with
  | nil => exact .refl s
  | cons made rest ih => exact (sameNames_call caller made.memory s made.call).trans (ih _)

end Session

/-! ## Names that are kept -/

namespace Session

/-- every registered node has a number that the scene has given out -/
def Placed (s : Session SceneStore) : Prop := ∀ entry ∈ s.registry.all, entry.node.index < s.scene.next.index

/-- every registered element that is in the scene has the id that it was registered with -/
def Unrenamed (s : Session SceneStore) : Prop :=
  ∀ entry ∈ s.registry.all, s.scene.idOf? entry.node = none ∨ s.scene.idOf? entry.node = some entry.id

theorem Unrenamed.id_eq {s : Session SceneStore} (h : s.Unrenamed) {entry : Registration} {e : Element}
    (hentry : entry ∈ s.registry.all) (helement : s.scene.element? entry.node = some e) : e.id = entry.id := by
  have hid : s.scene.idOf? entry.node = some e.id := congrArg (Option.map Element.id) helement
  rcases h entry hentry with hgone | hsame
  · rw [hid] at hgone
    cases hgone
  · exact Option.some.inj (hid.symm.trans hsame)

end Session

end ScriptHost
