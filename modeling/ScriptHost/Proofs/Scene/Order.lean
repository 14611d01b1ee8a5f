/-
A scene in memory after any run that starts with an empty one. Its list of nodes and the nodes themselves are kept apart, and
every act keeps them in agreement (`SceneStore.Agrees`). A node that has its number is what the acts on it made of the element
that was added (`node?_run`); the acts on other nodes do not enter. So everything that a scene answers can be told from the
acts of its run (`SceneStore.ToldFrom`).

- `told_from_run`: which nodes are listed and in which order, what is answered when one is removed for the first time and
  ever after, that acts on a node that is not listed change nothing, and that acts on two nodes can change places.
-/
import ScriptHost.Proofs.Scene.Acts
import ScriptHost.Proofs.Scene.Subscriptions

namespace ScriptHost

/-! ## Acts on one node -/

/-- the element as an act leaves it; a patch that does not fit, and a clip that there is not, leave it as it was -/
def Element.treated (e : Element) : NodeAct → Element
  | .patch p => (p.applyTo? e).getD e
  | .animate clip playState wrap => (({ element := e : SceneNode }.animate? clip playState wrap).map (·.element)).getD e
  | .remove | .subscribe .. | .fire _ => e

/-- which clip of a model is played does not depend on who is told of its events -/
theorem SceneNode.element_animate? (node : SceneNode) (clip : Clip) (playState : PlayState) (wrap : AnimationWrap) :
    (node.animate? clip playState wrap).map (·.element) =
      (({ element := node.element : SceneNode }).animate? clip playState wrap).map (·.element) := by
  simp only [animate?, bind, pure, Option.map_bind]
  refine congrArg _ (funext fun state => ?_)
  cases clip with
  | index i =>
    dsimp only [Function.comp_apply]
    split <;> rfl
  | name name =>
    dsimp only [Function.comp_apply]
    cases state.clips.idxOf? name <;> rfl

/-- the node of an element that was added -/
def SceneAnswer.added? : SceneAnswer → Option NodeId
  | added id => some id
  | removed _ | taken _ | subscribed | told _ => none

namespace NodeAct

theorem added?_meet (act : NodeAct) (node : Option SceneNode) : (act.meet node).answer.added? = none := by
  cases node with
  | none => cases act <;> rfl
  | some node =>
    cases act with
    | remove | subscribe | fire => rfl
    | patch p => cases hp : p.applyTo? node.element <;> simp [meet, change, hp, SceneAnswer.added?]
    | animate clip playState wrap =>
      cases ha : node.animate? clip playState wrap <;> simp [meet, change, ha, SceneAnswer.added?]

/-- who asks with an act to be told of an event -/
def asks? (event : EventKind) : NodeAct → Option Subscriber
  | subscribe asked subscriber => if asked = event then some subscriber else none
  | remove | patch _ | animate .. | fire _ => none

/-- a node, if there is one, after some acts on it -/
def meetAll (acts : List NodeAct) (node : Option SceneNode) : Option SceneNode :=
  acts.foldl (fun node act => (act.meet node).node) node

theorem isSome_meetAll (acts : List NodeAct) (node : Option SceneNode) :
    (meetAll acts node).isSome ↔ node.isSome ∧ .remove ∉ acts := by
  induction acts generalizing node with
  | nil => simp [meetAll]
  | cons act rest ih =>
    have hrest : (meetAll (act :: rest) node).isSome ↔ (act.meet node).node.isSome ∧ .remove ∉ rest := ih _
    rw [hrest, isSome_meet, List.mem_cons, not_or, and_assoc, ne_comm]

/-- an act that does not remove a node changes its element and its subscriptions, each without a look at the other -/
theorem change_of_ne_remove {act : NodeAct} (h : act ≠ .remove) (node : SceneNode) : ∃ node',
    (act.change node).node = some node' ∧ node'.element = node.element.treated act ∧
      ∀ event, node'.subscribers event = node.subscribers event ++ (act.asks? event).toList := by
  cases act with
  | remove => exact absurd rfl h
  | patch p =>
    cases hp : p.applyTo? node.element with
    | none => exact ⟨node, by rw [change, hp], by rw [Element.treated, hp]; rfl, fun _ => (List.append_nil _).symm⟩
    | some e =>
      exact ⟨{ node with element := e }, by rw [change, hp], by rw [Element.treated, hp]; rfl,
        fun _ => (List.append_nil _).symm⟩
  | animate clip playState wrap =>
    have htreated : node.element.treated (.animate clip playState wrap) =
        ((node.animate? clip playState wrap).map (·.element)).getD node.element := by
      rw [Element.treated, ← node.element_animate?]
    rw [htreated]
    cases ha : node.animate? clip playState wrap with
    | none => exact ⟨node, by rw [change, ha], rfl, fun _ => (List.append_nil _).symm⟩
    | some node' =>
      refine ⟨node', by rw [change, ha], rfl, fun event => ?_⟩
      rw [SceneNode.subscribers, SceneNode.subscriptions_animate? ha]
      exact (List.append_nil _).symm
  | subscribe asked subscriber =>
    refine ⟨_, rfl, rfl, fun event => ?_⟩
    rw [SceneNode.subscribers, SceneNode.subscribers, asks?, List.filter_cons]
    by_cases hevent : asked = event <;> simp [hevent]
  | fire event => exact ⟨node, rfl, rfl, fun _ => (List.append_nil _).symm⟩

theorem meetAll_of_not_removed {acts : List NodeAct} (h : .remove ∉ acts) (node : SceneNode) : ∃ node',
    meetAll acts (some node) = some node' ∧ node'.element = acts.foldl Element.treated node.element ∧
      ∀ event, node'.subscribers event = node.subscribers event ++ acts.filterMap (asks? event) := by
  induction acts generalizing node with
  | nil => exact ⟨node, rfl, rfl, fun _ => (List.append_nil _).symm⟩
  | cons act rest ih =>
    rw [List.mem_cons, not_or] at h
    obtain ⟨next, hnext, helement, hsubscribers⟩ := change_of_ne_remove (Ne.symm h.1) node
    obtain ⟨last, hlast, helement', hsubscribers'⟩ := ih h.2 next
    refine ⟨last, ?_, ?_, fun event => ?_⟩
    · exact (congrArg (meetAll rest) hnext).trans hlast
    · rw [helement', helement, List.foldl_cons]
    · rw [hsubscribers', hsubscribers, List.append_assoc, List.filterMap_cons]
      cases act.asks? event <;> rfl

end NodeAct

/-- what is done to a node in a run, in order -/
def actsOn (id : NodeId) : List SceneAct → List NodeAct
  | [] => []
  | .add _ :: rest => actsOn id rest
  | .treat other act :: rest => if other = id then act :: actsOn id rest else actsOn id rest

theorem mem_actsOn {id : NodeId} {acts : List SceneAct} {act : NodeAct} :
    act ∈ actsOn id acts ↔ .treat id act ∈ acts := by
  induction acts with
  | nil => simp [actsOn]
  | cons first rest ih =>
    cases first with
    | add e => simp [actsOn, ih]
    | treat other act' =>
      by_cases hother : other = id
      · simp [actsOn, hother, ih]
      · simp [actsOn, hother, ih, Ne.symm hother]

namespace SceneStore

variable {s : SceneStore} {id other : NodeId} {e : Element} {acts later : List SceneAct}

theorem run_append (s : SceneStore) (acts later : List SceneAct) : s.run (acts ++ later) = (s.run acts).run later :=
  List.foldl_append

theorem node?_add_self (s : SceneStore) (e : Element) : (s.add e).2.node? s.next = some { element := e } := by
  simp [node?, add, next]

theorem node?_add_of_ne (h : id ≠ s.next) (e : Element) : (s.add e).2.node? id = s.node? id := by
  have hindex : id.index ≠ s.nodes.size := fun heq => h (congrArg NodeId.mk heq)
  simp only [node?, add, Array.getElem?_push, if_neg hindex]

theorem ne_next_of_lt (h : id.index < s.nodes.size) : id ≠ s.next := fun heq => Nat.ne_of_lt h (congrArg _ heq)

theorem size_add (s : SceneStore) (e : Element) : (s.add e).2.nodes.size = s.nodes.size + 1 := Array.size_push ..

/-- a node that has its number is what the acts on it make of it -/
theorem node?_run (h : id.index < s.nodes.size) (acts : List SceneAct) :
    (s.run acts).node? id = NodeAct.meetAll (actsOn id acts) (s.node? id) := by
  induction acts generalizing s with
  | nil => rfl
  | cons act rest ih =>
    cases act with
    | add e =>
      have hsize : id.index < (s.add e).2.nodes.size := by
        rw [size_add]
        exact Nat.lt_succ_of_lt h
      calc (s.run (.add e :: rest)).node? id
          = NodeAct.meetAll (actsOn id rest) ((s.add e).2.node? id) := ih hsize
        _ = NodeAct.meetAll (actsOn id rest) (s.node? id) := by rw [node?_add_of_ne (ne_next_of_lt h)]
    | treat other act =>
      have hsize : id.index < (s.treat other act).2.nodes.size := by rwa [size_treat]
      have hrun : (s.run (.treat other act :: rest)).node? id =
        NodeAct.meetAll (actsOn id rest) ((s.treat other act).2.node? id) := ih hsize
      by_cases hother : other = id
      · rw [hrun, hother, node?_treat_self, actsOn, if_pos rfl]
        rfl
      · rw [hrun, node?_treat_of_ne (Ne.symm hother), actsOn, if_neg hother]

/-! ## The list and the nodes -/

/-- the list names the nodes of the scene, each of them once, and those that were added first come first -/
structure Agrees (s : SceneStore) : Prop where
  mem_order (id : NodeId) : id ∈ s.order ↔ (s.node? id).isSome
  ascending : s.order.Pairwise fun a b => a.index < b.index

namespace Agrees

theorem empty : SceneStore.empty.Agrees where
  mem_order id := by simp [SceneStore.empty, node?]
  ascending := List.Pairwise.nil

theorem index_lt (h : s.Agrees) (hid : id ∈ s.order) : id.index < s.nodes.size := by
  obtain ⟨node, hnode⟩ := Option.isSome_iff_exists.1 ((h.mem_order id).1 hid)
  exact lt_size_of_node? hnode

theorem node?_eq_none (h : s.Agrees) (hid : id ∉ s.order) : s.node? id = none :=
  Option.not_isSome_iff_eq_none.1 (mt (h.mem_order id).2 hid)

theorem element?_eq_none (h : s.Agrees) (hid : id ∉ s.order) : s.element? id = none := by
  rw [element?, h.node?_eq_none hid, Option.map_none]

theorem nodup (h : s.Agrees) : s.order.Nodup := h.ascending.imp fun hlt heq => Nat.ne_of_lt hlt (congrArg _ heq)

theorem add (h : s.Agrees) (e : Element) : (s.add e).2.Agrees where
  mem_order id := by
    have hmem : id ∈ (s.add e).2.order ↔ id ∈ s.order ∨ id = s.next := by simp [SceneStore.add]
    rw [hmem]
    by_cases hnew : id = s.next
    · rw [hnew, node?_add_self]
      simp
    · rw [node?_add_of_ne hnew, h.mem_order, or_iff_left hnew]
  ascending := by
    refine List.pairwise_append.2 ⟨h.ascending, List.pairwise_singleton _ _, fun id hid fresh hfresh => ?_⟩
    rw [List.mem_singleton.1 hfresh]
    exact h.index_lt hid

theorem treat (h : s.Agrees) (id : NodeId) (act : NodeAct) : (s.treat id act).2.Agrees where
  mem_order other := by
    rw [order_treat, NodeAct.mem_listed, h.mem_order]
    by_cases hother : other = id
    · rw [hother, node?_treat_self, NodeAct.isSome_meet]
      simp
    · rw [node?_treat_of_ne hother]
      simp [hother]
  ascending := by
    rw [order_treat]
    exact h.ascending.sublist (NodeAct.listed_sublist act id s.order)

theorem run (h : s.Agrees) (acts : List SceneAct) : (s.run acts).Agrees := by
  induction acts generalizing s with
  | nil => exact h
  | cons act rest ih =>
    cases act with
    | add e => exact ih (h.add e)
    | treat id act => exact ih (h.treat id act)

end Agrees

/-! ## Runs that start with an empty scene -/

/-- a run adds an element as a node, and this is what it does later -/
def Adds (acts : List SceneAct) (id : NodeId) (e : Element) (later : List SceneAct) : Prop :=
  ∃ before, acts = before ++ .add e :: later ∧ ((SceneStore.empty.run before).add e).1 = id

theorem Adds.size (h : Adds acts id e later) :
    ∃ s : SceneStore, id.index < s.nodes.size ∧ s.node? id = some { element := e } ∧
      SceneStore.empty.run acts = s.run later := by
  obtain ⟨before, rfl, rfl⟩ := h
  refine ⟨((SceneStore.empty.run before).add e).2, ?_, node?_add_self _ e, run_append ..⟩
  rw [size_add]
  exact Nat.lt_succ_self _

theorem Adds.node? (h : Adds acts id e later) :
    (SceneStore.empty.run acts).node? id = NodeAct.meetAll (actsOn id later) (some { element := e }) := by
  obtain ⟨s, hsize, hnode, hrun⟩ := h.size
  rw [hrun, node?_run hsize, hnode]

/-- a number that is given out in a run is given to an element that is added then -/
theorem exists_add_of_lt (hold : ¬ id.index < s.nodes.size) (h : id.index < (s.run acts).nodes.size) :
    ∃ before e later, acts = before ++ .add e :: later ∧ ((s.run before).add e).1 = id := by
  induction acts generalizing s with
  | nil => exact absurd h hold
  | cons act rest ih =>
    by_cases hnow : id.index < (s.perform act).2.nodes.size
    · cases act with
      | add e =>
        have hsize : id.index < s.nodes.size + 1 := size_add s e ▸ hnow
        have heq : s.nodes.size = id.index := Nat.le_antisymm (Nat.not_lt.1 hold) (Nat.le_of_lt_succ hsize)
        exact ⟨[], e, rest, rfl, congrArg NodeId.mk heq⟩
      | treat other act => exact absurd (size_treat s other act ▸ hnow) hold
    · obtain ⟨before, e, later, rfl, hid⟩ := ih hnow h
      exact ⟨act :: before, e, later, rfl, hid⟩

theorem exists_adds (h : id.index < (SceneStore.empty.run acts).nodes.size) : ∃ e later, Adds acts id e later := by
  obtain ⟨before, e, later, hacts, hid⟩ := exists_add_of_lt (Nat.not_lt_zero _) h
  exact ⟨e, later, before, hacts, hid⟩

/-- the nodes of the elements that are added in a run, in order -/
def given (s : SceneStore) (acts : List SceneAct) : List NodeId := (s.answers acts).filterMap SceneAnswer.added?

theorem given_add (s : SceneStore) (e : Element) (rest : List SceneAct) :
    s.given (.add e :: rest) = s.next :: (s.add e).2.given rest := rfl

theorem given_treat (s : SceneStore) (id : NodeId) (act : NodeAct) (rest : List SceneAct) :
    s.given (.treat id act :: rest) = (s.treat id act).2.given rest := by
  have hanswer : (s.treat id act).1.added? = none := by rw [fst_treat, NodeAct.added?_meet]
  exact List.filterMap_cons_none hanswer

/-- the numbers that are given out in a run are fresh, and they increase -/
theorem given_ascending (s : SceneStore) (acts : List SceneAct) :
    (s.given acts).Pairwise (fun a b => a.index < b.index) ∧ ∀ id ∈ s.given acts, s.nodes.size ≤ id.index := by
  induction acts generalizing s with
  | nil => exact ⟨List.Pairwise.nil, fun _ h => absurd h List.not_mem_nil⟩
  | cons act rest ih =>
    cases act with
    | add e =>
      obtain ⟨hpairwise, hfresh⟩ := ih (s.add e).2
      rw [size_add] at hfresh
      rw [given_add]
      refine ⟨List.pairwise_cons.2 ⟨hfresh, hpairwise⟩, fun id hid => ?_⟩
      rcases List.mem_cons.1 hid with rfl | hlater
      · exact Nat.le_refl _
      · exact Nat.le_of_succ_le (hfresh id hlater)
    | treat id act =>
      rw [given_treat, ← size_treat s id act]
      exact ih (s.treat id act).2

/-- what is listed after a run was listed before or added since, in that order -/
theorem order_run_sublist (s : SceneStore) (acts : List SceneAct) :
    (s.run acts).order.Sublist (s.order ++ s.given acts) := by
  induction acts generalizing s with
  | nil => simp [run, given, answers]
  | cons act rest ih =>
    cases act with
    | add e =>
      have hrest := ih (s.add e).2
      have horder : (s.add e).2.order = s.order ++ [s.next] := rfl
      rw [horder, List.append_assoc] at hrest
      rw [given_add]
      exact hrest
    | treat id act =>
      have hrest := ih (s.treat id act).2
      rw [order_treat] at hrest
      rw [given_treat]
      exact hrest.trans ((NodeAct.listed_sublist act id s.order).append_right _)

/-! ## What a scene answers -/

/-- what a scene in memory answers after a run that started with an empty one, told from the acts of the run -/
structure ToldFrom (s : SceneStore) (acts : List SceneAct) : Prop where
  /-- the nodes that were added and not removed later are listed -/
  lists (id : NodeId) : id ∈ s.order ↔ ∃ e later, Adds acts id e later ∧ .treat id .remove ∉ later
  /-- each of them once -/
  once : s.order.Nodup
  /-- in the order in which they were added; no two elements were added as the same node -/
  inOrder : s.order.Sublist (SceneStore.empty.given acts) ∧ (SceneStore.empty.given acts).Nodup
  /-- exactly the nodes that are listed have an element -/
  present (id : NodeId) : (s.element? id).isSome ↔ id ∈ s.order
  /-- as long as a node is not removed, its element is what all that was done to it made of what was added, those who asked
  for its events are told, and whoever removes it is given the element -/
  kept (id : NodeId) (e : Element) (later : List SceneAct) (h : Adds acts id e later)
    (hkept : .treat id .remove ∉ later) :
    s.element? id = some ((actsOn id later).foldl Element.treated e) ∧
    (∀ event, (s.treat id (.fire event)).1 = .told ((actsOn id later).filterMap (NodeAct.asks? event))) ∧
    (s.treat id .remove).1 = .removed (some ((actsOn id later).foldl Element.treated e))
  /-- once it is removed, it stays away -/
  removed (id : NodeId) (e : Element) (later : List SceneAct) (h : Adds acts id e later)
    (hremoved : .treat id .remove ∈ later) :
    id ∉ s.order ∧ s.element? id = none ∧ (s.treat id .remove).1 = .removed none
  /-- a node that is removed goes from the list, and nothing else is changed -/
  spares (id : NodeId) : (s.remove id).2.order = s.order.filter (· ≠ id) ∧ (s.remove id).2.updates = s.updates ∧
    ∀ other, other ≠ id → (s.remove id).2.element? other = s.element? other ∧
      ∀ event, (s.remove id).2.subscribers other event = s.subscribers other event
  /-- an act on a node that is not listed is refused, and nothing is changed -/
  refused (id : NodeId) (h : id ∉ s.order) : (∀ act, s.treat id act = (act.refusal, s)) ∧
    s.element? id = none ∧ ∀ event, s.subscriptionCount id event = 0
  /-- as many are told of an event as there are subscriptions -/
  counts (id : NodeId) (event : EventKind) : s.subscriptionCount id event = (s.subscribers id event).length
  exchanges (a b : NodeId) (act act' : NodeAct) (h : a ≠ b) : s.Exchanges a b act act'

/-- a node that was added is in the scene unless it was removed later -/
theorem Adds.isSome_node? (h : Adds acts id e later) :
    ((SceneStore.empty.run acts).node? id).isSome ↔ .treat id .remove ∉ later := by
  rw [h.node?, NodeAct.isSome_meetAll, mem_actsOn]
  exact and_iff_right rfl

theorem Adds.kept (h : Adds acts id e later) (hkept : .treat id .remove ∉ later) :
    (SceneStore.empty.run acts).element? id = some ((actsOn id later).foldl Element.treated e) ∧
      ∀ event, (SceneStore.empty.run acts).subscribers id event =
        (actsOn id later).filterMap (NodeAct.asks? event) := by
  obtain ⟨node, hnode, helement, hsubscribers⟩ :=
    NodeAct.meetAll_of_not_removed (mt mem_actsOn.1 hkept) { element := e : SceneNode }
  have hfound : (SceneStore.empty.run acts).node? id = some node := h.node?.trans hnode
  refine ⟨?_, fun event => ?_⟩
  · rw [element?, hfound, Option.map_some, helement]
  · rw [subscribers, hfound]
    exact (hsubscribers event).trans (List.nil_append _)

/-- the nodes that are listed after a run are those that were added and not removed later -/
theorem mem_order_run : id ∈ (SceneStore.empty.run acts).order ↔
    ∃ e later, Adds acts id e later ∧ .treat id .remove ∉ later := by
  rw [(Agrees.empty.run acts).mem_order]
  constructor
  · intro hsome
    obtain ⟨node, hnode⟩ := Option.isSome_iff_exists.1 hsome
    obtain ⟨e, later, h⟩ := exists_adds (lt_size_of_node? hnode)
    exact ⟨e, later, h, h.isSome_node?.1 hsome⟩
  · rintro ⟨e, later, h, hkept⟩
    exact h.isSome_node?.2 hkept

theorem Adds.gone (h : Adds acts id e later) (hremoved : .treat id .remove ∈ later) :
    id ∉ (SceneStore.empty.run acts).order := by
  rw [(Agrees.empty.run acts).mem_order, h.isSome_node?]
  exact not_not_intro hremoved

theorem answer_remove (s : SceneStore) (id : NodeId) : (s.treat id .remove).1 = .removed (s.element? id) := rfl

theorem answer_fire (s : SceneStore) (id : NodeId) (event : EventKind) :
    (s.treat id (.fire event)).1 = .told (s.subscribers id event) := rfl

/-- **A scene in memory and its history.** After any run, what is listed, what is answered and what is changed by any further
act is told by the acts of the run. -/
theorem told_from_run (acts : List SceneAct) : (SceneStore.empty.run acts).ToldFrom acts := by
  have hagrees : (SceneStore.empty.run acts).Agrees := Agrees.empty.run acts
  have hfresh := (given_ascending SceneStore.empty acts).1
  constructor
  case lists => exact fun id => mem_order_run
  case once => exact hagrees.nodup
  case inOrder =>
    exact ⟨order_run_sublist SceneStore.empty acts, hfresh.imp fun hlt heq => Nat.ne_of_lt hlt (congrArg _ heq)⟩
  case present =>
    intro id
    rw [hagrees.mem_order, element?, Option.isSome_map]
  case kept =>
    intro id e later h hkept
    obtain ⟨helement, hsubscribers⟩ := h.kept hkept
    refine ⟨helement, fun event => ?_, ?_⟩
    · rw [answer_fire, hsubscribers]
    · rw [answer_remove, helement]
  case removed =>
    intro id e later h hremoved
    have helement : (SceneStore.empty.run acts).element? id = none := hagrees.element?_eq_none (h.gone hremoved)
    refine ⟨h.gone hremoved, helement, ?_⟩
    rw [answer_remove, helement]
  case spares =>
    refine fun id => ⟨rfl, rfl, fun other hother => ⟨?_, fun event => ?_⟩⟩
    · rw [element?_remove, if_neg hother]
    · rw [subscribers, subscribers, node?_remove_of_ne hother]
  case refused =>
    refine fun id h => ⟨treat_of_absent (hagrees.node?_eq_none h) h, hagrees.element?_eq_none h, fun event => ?_⟩
    rw [subscriptionCount, hagrees.node?_eq_none h]
  case counts => exact subscriptionCount_eq_length _
  case exchanges => exact fun a b act act' h => SceneStore.exchanges _ h act act'

/-- the first of two nodes is removed twice -/
example (e : Element) : (SceneStore.empty.run [.add e, .add e, .treat ⟨0⟩ .remove]).order = [⟨1⟩] ∧
    SceneStore.empty.answers [.add e, .add e, .treat ⟨0⟩ .remove, .treat ⟨0⟩ .remove] =
      [.added ⟨0⟩, .added ⟨1⟩, .removed (some e), .removed none] := ⟨rfl, rfl⟩

end SceneStore

end ScriptHost
