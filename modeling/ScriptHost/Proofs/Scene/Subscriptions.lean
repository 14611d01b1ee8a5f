/-
What a scene in memory keeps of the requests for events that were made in the past. A node that is in the scene keeps
every request ever made of it, in order; a node that was removed keeps none, and as no node is numbered twice it never
meets them again (`Recalls`). Each operation of a scene keeps this up.
-/
import ScriptHost.Proofs.Scene.Store

namespace ScriptHost

/-- somebody asks to be told when a node raises an event -/
structure Request where
  node : NodeId
  event : EventKind
  subscriber : Subscriber
deriving DecidableEq, Repr

/-- those who asked for an event of a node, once for each time, in order -/
def askedFor (history : List Request) (node : NodeId) (event : EventKind) : List Subscriber :=
  (history.filter fun r => r.node = node ∧ r.event = event).map (·.subscriber)

theorem askedFor_append (history later : List Request) (node : NodeId) (event : EventKind) :
    askedFor (history ++ later) node event = askedFor history node event ++ askedFor later node event := by
  rw [askedFor, List.filter_append, List.map_append]
  rfl

theorem askedFor_of_unknown {history : List Request} {node : NodeId} (h : ∀ r ∈ history, r.node ≠ node)
    (event : EventKind) : askedFor history node event = [] := by
  rw [askedFor, List.filter_eq_nil_iff.2, List.map_nil]
  intro r hr
  simp [h r hr]

theorem SceneNode.subscriptions_animate? {node node' : SceneNode} {clip : Clip} {playState : PlayState}
    {wrap : AnimationWrap} (h : node.animate? clip playState wrap = some node') :
    node'.subscriptions = node.subscriptions := by
  simp only [SceneNode.animate?, bind, pure, Option.bind_eq_some_iff] at h
  obtain ⟨state, -, h⟩ := h
  cases clip with
  | index i =>
    dsimp only at h
    split at h
    · cases h
      rfl
    · cases h
  | name name =>
    obtain ⟨i, -, h⟩ := Option.bind_eq_some_iff.1 h
    cases h
    rfl

namespace SceneStore

variable {s s' : SceneStore} {history : List Request}

/-- the scene keeps of the history what concerns the nodes that are in it -/
structure Recalls (s : SceneStore) (history : List Request) : Prop where
  kept : ∀ id, (s.node? id).isSome → ∀ event, s.subscribers id event = askedFor history id event
  /-- requests were made of nodes that have a number already -/
  known : ∀ r ∈ history, r.node.index < s.nodes.size

theorem subscriptionCount_eq_length (s : SceneStore) (id : NodeId) (event : EventKind) :
    s.subscriptionCount id event = (s.subscribers id event).length := by
  unfold subscriptionCount subscribers
  cases s.node? id with
  | none => rfl
  | some node =>
    simp only [SceneNode.subscribers, List.length_reverse, List.length_map, List.countP_eq_length_filter]

namespace Recalls

theorem subscribers_eq (h : s.Recalls history) (id : NodeId) (event : EventKind) :
    s.subscribers id event = if (s.node? id).isSome then askedFor history id event else [] := by
  split
  · exact h.kept id ‹_› event
  · rename_i hnone
    rw [subscribers, Option.not_isSome_iff_eq_none.1 hnone]

theorem subscriptionCount_eq (h : s.Recalls history) (id : NodeId) (event : EventKind) :
    s.subscriptionCount id event = if (s.node? id).isSome then (askedFor history id event).length else 0 := by
  rw [subscriptionCount_eq_length, h.subscribers_eq]
  split <;> rfl

/-! ## Operations that leave the subscriptions alone -/

/-- scenes with the same nodes and the same subscriptions keep the same -/
theorem congr (h : s.Recalls history) (hsize : s'.nodes.size = s.nodes.size)
    (hnodes : ∀ id, (s'.node? id).map (·.subscriptions) = (s.node? id).map (·.subscriptions)) :
    s'.Recalls history := by
  have hsome : ∀ id, (s'.node? id).isSome = (s.node? id).isSome := fun id => by
    rw [← Option.isSome_map, hnodes, Option.isSome_map]
  have hsubscribers : ∀ id event, s'.subscribers id event = s.subscribers id event := by
    intro id event
    have hid := hnodes id
    unfold subscribers SceneNode.subscribers
    cases hn : s.node? id <;> cases hn' : s'.node? id <;> simp_all
  exact ⟨fun id hid event => hsubscribers id event ▸ h.kept id (hsome id ▸ hid) event,
    fun r hr => hsize ▸ h.known r hr⟩

theorem put {id : NodeId} {old new : SceneNode} (h : s.Recalls history) (hold : s.node? id = some old)
    (hnew : new.subscriptions = old.subscriptions) : (s.put id (some new)).Recalls history := by
  refine h.congr (by simp [SceneStore.put]) fun other => ?_
  by_cases hother : other = id
  · rw [hother, node?_put_self hold, hold, Option.map_some, Option.map_some, hnew]
  · rw [node?_put_of_ne hother]

theorem patch? {id : NodeId} {p : Patch} (h : s.Recalls history) (hp : s.patch? id p = some s') :
    s'.Recalls history := by
  obtain ⟨node, e, hnode, -, rfl⟩ := patch?_eq_some.1 hp
  have hput : (s.put id (some { node with element := e })).Recalls history := h.put hnode rfl
  exact hput.congr rfl fun _ => rfl

theorem animate? {id : NodeId} {clip : Clip} {playState : PlayState} {wrap : AnimationWrap} (h : s.Recalls history)
    (ha : s.animate? id clip playState wrap = some s') : s'.Recalls history := by
  obtain ⟨node, node', hnode, hnode', rfl⟩ := animate?_eq_some.1 ha
  exact h.put hnode (SceneNode.subscriptions_animate? hnode')

/-! ## Nodes that come and go -/

theorem add (h : s.Recalls history) (e : Element) : (s.add e).2.Recalls history := by
  have hsize : (s.add e).2.nodes.size = s.nodes.size + 1 := Array.size_push ..
  refine ⟨?_, fun r hr => by rw [hsize]; have := h.known r hr; omega⟩
  intro id hid event
  by_cases hnew : id = s.next
  · -- the number is fresh, so nobody can have asked for it yet
    have hunknown : ∀ r ∈ history, r.node ≠ id := by
      intro r hr heq
      have hlt := h.known r hr
      rw [heq, hnew] at hlt
      exact Nat.lt_irrefl _ hlt
    have hnode : (s.add e).2.node? id = some { element := e } := by simp [node?, SceneStore.add, hnew, next]
    rw [askedFor_of_unknown hunknown, subscribers, hnode]
    rfl
  · have hnode : (s.add e).2.node? id = s.node? id := by
      have hindex : id.index ≠ s.nodes.size := fun heq => hnew (congrArg NodeId.mk heq)
      simp only [node?, SceneStore.add, Array.getElem?_push, if_neg hindex]
    rw [subscribers, hnode]
    exact h.kept id (hnode ▸ hid) event

theorem remove (h : s.Recalls history) (id : NodeId) : (s.remove id).2.Recalls history := by
  refine ⟨?_, fun r hr => by simpa [SceneStore.remove, SceneStore.put] using h.known r hr⟩
  intro other hsome event
  by_cases hother : other = id
  · rw [hother, node?_remove_self] at hsome
    exact absurd hsome Bool.false_ne_true
  · have hnode : (s.remove id).2.node? other = s.node? other := node?_remove_of_ne hother
    rw [subscribers, hnode]
    exact h.kept other (hnode ▸ hsome) event

/-! ## Requests -/

theorem subscribe {id : NodeId} (h : s.Recalls history) (hid : (s.node? id).isSome) (event : EventKind)
    (subscriber : Subscriber) :
    (s.subscribe id event subscriber).Recalls (history ++ [⟨id, event, subscriber⟩]) := by
  obtain ⟨node, hnode⟩ := Option.isSome_iff_exists.1 hid
  have hstore : s.subscribe id event subscriber =
      s.put id (some { node with subscriptions := (event, subscriber) :: node.subscriptions }) := by
    rw [SceneStore.subscribe, hnode]
  rw [hstore]
  constructor
  · intro other hother kind
    rw [askedFor_append]
    by_cases heq : other = id
    · have hkept := h.kept id hid kind
      rw [heq, ← hkept, subscribers, subscribers, node?_put_self hnode, hnode]
      by_cases hkind : event = kind <;> simp [SceneNode.subscribers, askedFor, hkind]
    · have hlater : askedFor [⟨id, event, subscriber⟩] other kind = [] :=
        askedFor_of_unknown (fun r hr => by rw [List.mem_singleton.1 hr]; exact fun h => heq h.symm) kind
      rw [node?_put_of_ne heq] at hother
      rw [hlater, List.append_nil, subscribers, node?_put_of_ne heq]
      exact h.kept other hother kind
  · intro r hr
    rw [SceneStore.put, Array.size_setIfInBounds]
    rcases List.mem_append.1 hr with hr | hr
    · exact h.known r hr
    · rw [List.mem_singleton.1 hr]
      exact lt_size_of_node? hnode

theorem subscribe_absent {id : NodeId} (h : s.Recalls history) (hid : ¬ (s.node? id).isSome) (event : EventKind)
    (subscriber : Subscriber) : (s.subscribe id event subscriber).Recalls history := by
  rw [SceneStore.subscribe, Option.not_isSome_iff_eq_none.1 hid]
  exact h

end Recalls

end SceneStore

end ScriptHost
