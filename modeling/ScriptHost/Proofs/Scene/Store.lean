/-
What the operations of a scene in memory change. Each of them changes one node at most, and puts at most one patch into
the journal, under that node (`SceneStore.Alters`).
-/
import ScriptHost.Scene.Store

namespace ScriptHost.SceneStore

variable {s s' : SceneStore} {id other : NodeId}

/-! ## Nodes -/

theorem lt_size_of_node? {node : SceneNode} (h : s.node? id = some node) : id.index < s.nodes.size := by
  rcases Nat.lt_or_ge id.index s.nodes.size with hlt | hge
  · exact hlt
  · rw [node?, Array.getElem?_eq_none hge] at h
    cases h

theorem node?_put_of_ne (h : other ≠ id) (node : Option SceneNode) : (s.put id node).node? other = s.node? other := by
  have hindex : id.index ≠ other.index := fun heq => h (NodeId.mk.injEq .. ▸ heq.symm)
  rw [node?, put, Array.getElem?_setIfInBounds_ne hindex]
  rfl

theorem node?_put_self {old : SceneNode} (h : s.node? id = some old) (node : Option SceneNode) :
    (s.put id node).node? id = node := by
  rw [node?, put, Array.getElem?_setIfInBounds_self_of_lt (lt_size_of_node? h)]
  rfl

theorem node?_put_none (s : SceneStore) (id : NodeId) : (s.put id none).node? id = none := by
  cases h : s.node? id with
  | some old => exact node?_put_self h none
  | none =>
    rw [node?, put, Array.getElem?_setIfInBounds, if_pos rfl]
    split <;> rfl

theorem node?_remove_self (s : SceneStore) (id : NodeId) : (s.remove id).2.node? id = none := node?_put_none s id

theorem node?_remove_of_ne (h : other ≠ id) : (s.remove id).2.node? other = s.node? other := node?_put_of_ne h none

theorem element?_put_of_ne (h : other ≠ id) (node : Option SceneNode) :
    (s.put id node).element? other = s.element? other :=
  congrArg (Option.map SceneNode.element) (node?_put_of_ne h node)

theorem element?_put_self {old : SceneNode} (h : s.node? id = some old) (node : SceneNode) :
    (s.put id (some node)).element? id = some node.element :=
  congrArg (Option.map SceneNode.element) (node?_put_self h (some node))

theorem index_lt_of_element? {e : Element} (h : s.element? id = some e) : id.index < s.next.index := by
  obtain ⟨found, hfound, -⟩ := Option.map_eq_some_iff.1 h
  exact lt_size_of_node? hfound

theorem element?_add (s : SceneStore) (e : Element) (id : NodeId) :
    (s.add e).2.element? id = if id = s.next then some e else s.element? id := by
  have hnode : (s.add e).2.node? id = if id.index = s.nodes.size then some { element := e } else s.node? id := by
    simp only [node?, add, Array.getElem?_push]
    split <;> rfl
  have hnext : id = s.next ↔ id.index = s.nodes.size := by
    rw [next, NodeId.mk.injEq]
  rw [element?, hnode]
  simp only [hnext]
  split <;> rfl

theorem element?_remove (s : SceneStore) (removed id : NodeId) :
    (s.remove removed).2.element? id = if id = removed then none else s.element? id := by
  split
  · rename_i heq
    rw [element?, heq, node?_remove_self]
    rfl
  · rename_i hne
    exact congrArg (Option.map SceneNode.element) (node?_remove_of_ne hne)

theorem element?_subscribe (s : SceneStore) (id : NodeId) (event : EventKind) (subscriber : Subscriber) (other : NodeId) :
    (s.subscribe id event subscriber).element? other = s.element? other := by
  rw [subscribe]
  split
  · rename_i node hnode
    by_cases hother : other = id
    · rw [hother, element?_put_self hnode, element?, hnode]
      rfl
    · exact element?_put_of_ne hother _
  · rfl

theorem next_put (s : SceneStore) (id : NodeId) (node : Option SceneNode) : (s.put id node).next = s.next := by
  simp [put, next]

theorem patch?_eq_some {p : Patch} : s.patch? id p = some s' ↔
    ∃ node e, s.node? id = some node ∧ p.applyTo? node.element = some e ∧
      s' = { s.put id (some { node with element := e }) with journal := (id, p) :: s.journal } := by
  simp only [patch?, bind, pure, Option.bind_eq_some_iff, Option.some.injEq, exists_and_left]
  simp only [eq_comm]

theorem animate?_eq_some {clip : Clip} {playState : PlayState} {wrap : AnimationWrap} :
    s.animate? id clip playState wrap = some s' ↔
      ∃ node node', s.node? id = some node ∧ node.animate? clip playState wrap = some node' ∧
        s' = s.put id (some node') := by
  simp only [animate?, bind, pure, Option.bind_eq_some_iff, Option.some.injEq, exists_and_left]
  simp only [eq_comm]

/-! ## One node at a time -/

/-- the scenes differ in one node at most, and by at most one patch of it -/
structure Alters (id : NodeId) (s s' : SceneStore) : Prop where
  others : ∀ other, other ≠ id → s'.node? other = s.node? other
  next : s'.next = s.next
  journal : s'.journal = s.journal ∨ ∃ p, s'.journal = (id, p) :: s.journal

theorem alters_put (s : SceneStore) (id : NodeId) (node : Option SceneNode) : Alters id s (s.put id node) where
  others _ h := node?_put_of_ne h node
  next := next_put s id node
  journal := Or.inl rfl

theorem alters_patch? {p : Patch} (h : s.patch? id p = some s') : Alters id s s' := by
  obtain ⟨node, e, -, -, rfl⟩ := patch?_eq_some.1 h
  have hput := alters_put s id (some { node with element := e })
  exact ⟨hput.others, hput.next, Or.inr ⟨p, rfl⟩⟩

theorem alters_animate? {clip : Clip} {playState : PlayState} {wrap : AnimationWrap}
    (h : s.animate? id clip playState wrap = some s') : Alters id s s' := by
  obtain ⟨node, node', -, -, rfl⟩ := animate?_eq_some.1 h
  exact alters_put s id (some node')

theorem alters_subscribe (s : SceneStore) (id : NodeId) (event : EventKind) (subscriber : Subscriber) :
    Alters id s (s.subscribe id event subscriber) := by
  rw [subscribe]
  split
  · exact alters_put s id _
  · exact ⟨fun _ _ => rfl, rfl, Or.inl rfl⟩

theorem element?_of_alters (h : Alters id s s') (hother : other ≠ id) : s'.element? other = s.element? other :=
  congrArg (Option.map SceneNode.element) (h.others other hother)

end ScriptHost.SceneStore
