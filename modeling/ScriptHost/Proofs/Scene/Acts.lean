/-
Acts on a scene in memory. Elements are added; everything else is done to one node (`SceneStore.treat`), and what it does
there is known from that node alone (`NodeAct.meet`, `treat_eq`). No other node is looked at or changed, the node itself goes
from the list if it is removed, and the journal gets one patch at most, under that node.

- `treat_of_absent`: an act on a node that is neither kept nor listed changes nothing.
- `exchanges`: acts on two nodes can change places. Both are answered as before, and so is all that comes later; only the
  order of their two entries in the journal is another one.
-/
import ScriptHost.Proofs.Scene.Store

namespace ScriptHost

/-! ## Acts -/

/-- something that is done to a node of a scene -/
inductive NodeAct where
  | remove
  | patch (p : Patch)
  | animate (clip : Clip) (playState : PlayState) (wrap : AnimationWrap)
  | subscribe (event : EventKind) (subscriber : Subscriber)
  /-- the node raises an event -/
  | fire (event : EventKind)
deriving DecidableEq

/-- something that is done to a scene -/
inductive SceneAct where
  | add (e : Element)
  | treat (id : NodeId) (act : NodeAct)
deriving DecidableEq

/-- what is answered to an act -/
inductive SceneAnswer where
  | added (id : NodeId)
  | removed (e : Option Element)
  | taken (done : Bool)
  | subscribed
  /-- those who are told of an event, in order; the host is answered how many they are -/
  | told (subscribers : List Subscriber)
deriving DecidableEq

namespace SceneStore

/-- does something to a node -/
def treat (s : SceneStore) (id : NodeId) : NodeAct → SceneAnswer × SceneStore
  | .remove => (.removed (s.remove id).1, (s.remove id).2)
  | .patch p =>
    match s.patch? id p with
    | some s' => (.taken true, s')
    | none => (.taken false, s)
  | .animate clip playState wrap =>
    match s.animate? id clip playState wrap with
    | some s' => (.taken true, s')
    | none => (.taken false, s)
  | .subscribe event subscriber => (.subscribed, s.subscribe id event subscriber)
  | .fire event => (.told (s.subscribers id event), s)

def perform (s : SceneStore) : SceneAct → SceneAnswer × SceneStore
  | .add e => (.added (s.add e).1, (s.add e).2)
  | .treat id act => s.treat id act

def run (s : SceneStore) (acts : List SceneAct) : SceneStore := acts.foldl (fun s act => (s.perform act).2) s

/-- the answers to the acts of a run, in order -/
def answers (s : SceneStore) : List SceneAct → List SceneAnswer
  | [] => []
  | act :: rest => (s.perform act).1 :: (s.perform act).2.answers rest

end SceneStore

/-! ## One node -/

/-- what an act does to the node that it meets -/
structure Met where
  answer : SceneAnswer
  /-- the node afterwards, if there is one -/
  node : Option SceneNode
  /-- the patch that is noted -/
  noted : Option Patch := none

namespace NodeAct

/-- what is answered where there is no node -/
def refusal : NodeAct → SceneAnswer
  | remove => .removed none
  | patch _ | animate .. => .taken false
  | subscribe .. => .subscribed
  | fire _ => .told []

/-- what an act does where there is a node -/
def change (node : SceneNode) : NodeAct → Met
  | remove => { answer := .removed (some node.element), node := none }
  | patch p =>
    match p.applyTo? node.element with
    | some element => { answer := .taken true, node := some { node with element }, noted := some p }
    | none => { answer := .taken false, node := some node }
  | animate clip playState wrap =>
    match node.animate? clip playState wrap with
    | some node' => { answer := .taken true, node := some node' }
    | none => { answer := .taken false, node := some node }
  | subscribe event subscriber =>
    { answer := .subscribed, node := some { node with subscriptions := (event, subscriber) :: node.subscriptions } }
  | fire event => { answer := .told (node.subscribers event), node := some node }

/-- what an act does to a node that may be there -/
def meet (act : NodeAct) : Option SceneNode → Met
  | some node => act.change node
  | none => { answer := act.refusal, node := none }

/-- the nodes that are listed after an act on one of them -/
def listed (act : NodeAct) (id : NodeId) (order : List NodeId) : List NodeId :=
  if act = .remove then order.filter (· ≠ id) else order

theorem mem_listed {act : NodeAct} {id other : NodeId} {order : List NodeId} :
    other ∈ act.listed id order ↔ other ∈ order ∧ ¬(act = .remove ∧ other = id) := by
  rw [listed]
  split
  · rename_i hremove
    simp [hremove]
  · rename_i hstays
    simp [hstays]

theorem listed_sublist (act : NodeAct) (id : NodeId) (order : List NodeId) : (act.listed id order).Sublist order := by
  rw [listed]
  split
  · exact List.filter_sublist
  · exact List.Sublist.refl order

theorem listed_of_not_mem {id : NodeId} {order : List NodeId} (h : id ∉ order) (act : NodeAct) :
    act.listed id order = order := by
  rw [listed]
  split
  · exact List.filter_eq_self.2 fun other hother => decide_eq_true fun heq => h (heq ▸ hother)
  · rfl

theorem listed_comm (act act' : NodeAct) (a b : NodeId) (order : List NodeId) :
    act'.listed b (act.listed a order) = act.listed a (act'.listed b order) := by
  simp only [listed]
  split <;> split <;> simp only [List.filter_filter, Bool.and_comm]

/-- a node is removed, or it stays where it is -/
theorem isSome_meet (act : NodeAct) (node : Option SceneNode) :
    (act.meet node).node.isSome ↔ node.isSome ∧ act ≠ .remove := by
  cases node with
  | none => simp [meet]
  | some node =>
    cases act with
    | remove => simp [meet, change]
    | patch p => cases hp : p.applyTo? node.element <;> simp [meet, change, hp]
    | animate clip playState wrap => cases ha : node.animate? clip playState wrap <;> simp [meet, change, ha]
    | subscribe => simp [meet, change]
    | fire => simp [meet, change]

end NodeAct

namespace SceneStore

variable {s t : SceneStore} {id a b : NodeId}

/-- a node that is put where it is already -/
theorem put_own (s : SceneStore) (id : NodeId) : s.put id (s.node? id) = s := by
  have hnodes : s.nodes.setIfInBounds id.index (s.node? id) = s.nodes := by
    refine Array.ext_getElem? fun i => ?_
    rw [Array.getElem?_setIfInBounds]
    split
    · rename_i heq
      subst heq
      split
      · rename_i hlt
        rw [node?, Array.getElem?_eq_getElem hlt]
        rfl
      · rename_i hge
        rw [Array.getElem?_eq_none (Nat.not_lt.1 hge)]
    · rfl
  rw [put, hnodes]

/-- the patch that is noted of an act on a node, under that node -/
def noted? (s : SceneStore) (id : NodeId) (act : NodeAct) : Option (NodeId × Patch) :=
  (act.meet (s.node? id)).noted.map fun p => (id, p)

/-- the scene after an act on a node did what it does there -/
def settled (s : SceneStore) (id : NodeId) (act : NodeAct) : SceneStore where
  nodes := (s.put id (act.meet (s.node? id)).node).nodes
  order := act.listed id s.order
  journal := (s.noted? id act).toList ++ s.journal

/-- **One node at a time.** -/
theorem treat_eq (s : SceneStore) (id : NodeId) (act : NodeAct) :
    s.treat id act = ((act.meet (s.node? id)).answer, s.settled id act) := by
  have hown : s.nodes.setIfInBounds id.index (s.node? id) = s.nodes := congrArg SceneStore.nodes (put_own s id)
  cases hnode : s.node? id with
  | none =>
    rw [hnode] at hown
    cases act with
    | remove => simp [treat, remove, element?, hnode, NodeAct.meet, NodeAct.refusal, settled, noted?, NodeAct.listed, put]
    | patch p => simp [treat, patch?, hnode, NodeAct.meet, NodeAct.refusal, settled, noted?, NodeAct.listed, put, hown]
    | animate => simp [treat, animate?, hnode, NodeAct.meet, NodeAct.refusal, settled, noted?, NodeAct.listed, put, hown]
    | subscribe => simp [treat, subscribe, hnode, NodeAct.meet, NodeAct.refusal, settled, noted?, NodeAct.listed, put, hown]
    | fire => simp [treat, subscribers, hnode, NodeAct.meet, NodeAct.refusal, settled, noted?, NodeAct.listed, put, hown]
  | some node =>
    rw [hnode] at hown
    cases act with
    | remove => simp [treat, remove, element?, hnode, NodeAct.meet, NodeAct.change, settled, noted?, NodeAct.listed, put]
    | patch p =>
      cases hp : p.applyTo? node.element <;>
        simp [treat, patch?, hnode, hp, NodeAct.meet, NodeAct.change, settled, noted?, NodeAct.listed, put, hown]
    | animate clip playState wrap =>
      cases ha : node.animate? clip playState wrap <;>
        simp [treat, animate?, hnode, ha, NodeAct.meet, NodeAct.change, settled, noted?, NodeAct.listed, put, hown]
    | subscribe => simp [treat, subscribe, hnode, NodeAct.meet, NodeAct.change, settled, noted?, NodeAct.listed, put]
    | fire => simp [treat, subscribers, hnode, NodeAct.meet, NodeAct.change, settled, noted?, NodeAct.listed, put, hown]

theorem fst_treat (s : SceneStore) (id : NodeId) (act : NodeAct) :
    (s.treat id act).1 = (act.meet (s.node? id)).answer := congrArg Prod.fst (treat_eq s id act)

theorem snd_treat (s : SceneStore) (id : NodeId) (act : NodeAct) : (s.treat id act).2 = s.settled id act :=
  congrArg Prod.snd (treat_eq s id act)

theorem nodes_treat (s : SceneStore) (id : NodeId) (act : NodeAct) :
    (s.treat id act).2.nodes = s.nodes.setIfInBounds id.index (act.meet (s.node? id)).node := by
  rw [snd_treat, settled, put]

theorem order_treat (s : SceneStore) (id : NodeId) (act : NodeAct) :
    (s.treat id act).2.order = act.listed id s.order := by
  rw [snd_treat, settled]

theorem journal_treat (s : SceneStore) (id : NodeId) (act : NodeAct) :
    (s.treat id act).2.journal = (s.noted? id act).toList ++ s.journal := by
  rw [snd_treat, settled]

theorem treat_of_absent (h : s.node? id = none) (horder : id ∉ s.order) (act : NodeAct) :
    s.treat id act = (act.refusal, s) := by
  have hown : s.put id none = s := h ▸ put_own s id
  have hsettled : s.settled id act = s := by
    calc s.settled id act
        = { s.put id none with order := act.listed id s.order } := by rw [settled, noted?, h]; rfl
      _ = { s with order := act.listed id s.order } := by rw [hown]
      _ = s := by rw [NodeAct.listed_of_not_mem horder]
  rw [treat_eq, h, hsettled, NodeAct.meet]

theorem node?_treat_self (s : SceneStore) (id : NodeId) (act : NodeAct) :
    (s.treat id act).2.node? id = (act.meet (s.node? id)).node := by
  have hput : (s.treat id act).2.node? id = (s.put id (act.meet (s.node? id)).node).node? id := by rw [snd_treat]; rfl
  rw [hput]
  cases hnode : s.node? id with
  | none => exact node?_put_none s id
  | some node => exact node?_put_self hnode _

theorem node?_treat_of_ne (h : a ≠ b) (act : NodeAct) : (s.treat b act).2.node? a = s.node? a := by
  rw [snd_treat]
  exact node?_put_of_ne h _

theorem size_treat (s : SceneStore) (id : NodeId) (act : NodeAct) : (s.treat id act).2.nodes.size = s.nodes.size := by
  rw [nodes_treat, Array.size_setIfInBounds]

/-! ## Scenes that differ in their journals only -/

/-- the scenes have the same nodes, in the same order -/
structure Alike (s t : SceneStore) : Prop where
  nodes : s.nodes = t.nodes
  order : s.order = t.order

theorem Alike.node? (h : s.Alike t) (id : NodeId) : s.node? id = t.node? id := by
  rw [SceneStore.node?, SceneStore.node?, h.nodes]

theorem Alike.noted? (h : s.Alike t) (id : NodeId) (act : NodeAct) : s.noted? id act = t.noted? id act := by
  rw [SceneStore.noted?, SceneStore.noted?, h.node?]

/-- what is answered, and which nodes there are afterwards, does not depend on the journal -/
theorem Alike.perform (h : s.Alike t) (act : SceneAct) :
    (s.perform act).1 = (t.perform act).1 ∧ (s.perform act).2.Alike (t.perform act).2 := by
  cases act with
  | add e =>
    have hnext : s.next = t.next := by rw [next, next, h.nodes]
    simp only [SceneStore.perform, add, hnext, h.nodes, h.order, true_and]
    exact ⟨rfl, rfl⟩
  | treat id act =>
    simp only [SceneStore.perform, treat_eq, h.node?, true_and]
    refine ⟨?_, ?_⟩
    · simp only [settled, put, h.nodes, h.node?]
    · simp only [settled, h.order]

/-- the patches that are noted in a run, the latest first -/
def noted (s : SceneStore) : List SceneAct → List (NodeId × Patch)
  | [] => []
  | .add e :: rest => (s.add e).2.noted rest
  | .treat id act :: rest => (s.treat id act).2.noted rest ++ (s.noted? id act).toList

theorem journal_run (s : SceneStore) (acts : List SceneAct) : (s.run acts).journal = s.noted acts ++ s.journal := by
  induction acts generalizing s with
  | nil => rfl
  | cons act rest ih =>
    cases act with
    | add e => exact ih (s.add e).2
    | treat id act =>
      calc (s.run (.treat id act :: rest)).journal
          = (s.treat id act).2.noted rest ++ (s.treat id act).2.journal := ih (s.treat id act).2
        _ = (s.treat id act).2.noted rest ++ ((s.noted? id act).toList ++ s.journal) := by rw [journal_treat]
        _ = s.noted (.treat id act :: rest) ++ s.journal := by rw [noted, List.append_assoc]

theorem Alike.run (h : s.Alike t) (acts : List SceneAct) :
    s.answers acts = t.answers acts ∧ (s.run acts).Alike (t.run acts) ∧ s.noted acts = t.noted acts := by
  induction acts generalizing s t with
  | nil => exact ⟨rfl, h, rfl⟩
  | cons act rest ih =>
    obtain ⟨hanswer, hnext⟩ := h.perform act
    obtain ⟨hanswers, hrun, hnoted⟩ := ih hnext
    refine ⟨?_, hrun, ?_⟩
    · rw [answers, answers, hanswer, hanswers]
    · cases act with
      | add e => exact hnoted
      | treat id act =>
        rw [noted, noted, h.noted?]
        exact congrArg (· ++ _) hnoted

/-! ## Exchanges -/

/-- acts on two nodes of a scene can change places -/
structure Exchanges (s : SceneStore) (a b : NodeId) (act act' : NodeAct) : Prop where
  /-- both are answered as before -/
  answers : ((s.treat b act').2.treat a act).1 = (s.treat a act).1 ∧
    ((s.treat a act).2.treat b act').1 = (s.treat b act').1
  /-- everything that is done later is answered as before -/
  later (acts : List SceneAct) : ((s.treat a act).2.treat b act').2.answers acts =
    ((s.treat b act').2.treat a act).2.answers acts
  /-- whatever is done later, the same nodes are in the scene, with the same elements and subscriptions -/
  same (acts : List SceneAct) :
    let s₁ := ((s.treat a act).2.treat b act').2.run acts
    let s₂ := ((s.treat b act').2.treat a act).2.run acts
    s₁.order = s₂.order ∧ (∀ id, s₁.element? id = s₂.element? id) ∧
      (∀ id event, s₁.subscribers id event = s₂.subscribers id event) ∧
      ∀ id event, s₁.subscriptionCount id event = s₂.subscriptionCount id event
  /-- and of what was noted, only the entries of the two acts have changed places -/
  journal (acts : List SceneAct) : ∃ first second rest : List (NodeId × Patch),
    (((s.treat a act).2.treat b act').2.run acts).updates = s.updates ++ first ++ second ++ rest ∧
    (((s.treat b act').2.treat a act).2.run acts).updates = s.updates ++ second ++ first ++ rest ∧
    (∀ entry ∈ first, entry.1 = a) ∧ (∀ entry ∈ second, entry.1 = b)

theorem fst_of_mem_noted? {act : NodeAct} {entry : NodeId × Patch} (h : entry ∈ (s.noted? id act).toList) :
    entry.1 = id := by
  obtain ⟨p, -, rfl⟩ := Option.map_eq_some_iff.1 (Option.mem_toList.1 h)
  rfl

theorem answer_treat_of_ne (s : SceneStore) (h : a ≠ b) (act act' : NodeAct) :
    ((s.treat b act').2.treat a act).1 = (s.treat a act).1 := by
  rw [fst_treat, fst_treat, node?_treat_of_ne h]

theorem alike_treat_comm (s : SceneStore) (h : a ≠ b) (act act' : NodeAct) :
    ((s.treat a act).2.treat b act').2.Alike ((s.treat b act').2.treat a act).2 := by
  have ha : (s.treat b act').2.node? a = s.node? a := node?_treat_of_ne h act'
  have hb : (s.treat a act).2.node? b = s.node? b := node?_treat_of_ne (Ne.symm h) act
  refine ⟨?_, ?_⟩
  · have hindex : a.index ≠ b.index := fun heq => h (NodeId.mk.injEq .. ▸ heq)
    simp only [nodes_treat, ha, hb]
    exact Array.setIfInBounds_comm _ _ hindex
  · simp only [order_treat]
    exact NodeAct.listed_comm act act' a b s.order

/-- the journal of a run after acts on two nodes, in the order of noting -/
theorem updates_treat_treat (s : SceneStore) (h : a ≠ b) (act act' : NodeAct) (acts : List SceneAct) :
    (((s.treat a act).2.treat b act').2.run acts).updates =
      s.updates ++ (s.noted? a act).toList.reverse ++ (s.noted? b act').toList.reverse ++
        (((s.treat a act).2.treat b act').2.noted acts).reverse := by
  have hb : (s.treat a act).2.noted? b act' = s.noted? b act' := by rw [noted?, noted?, node?_treat_of_ne (Ne.symm h)]
  rw [updates, journal_run, journal_treat, hb, journal_treat, updates]
  simp only [List.reverse_append, List.append_assoc]

theorem exchanges (s : SceneStore) (h : a ≠ b) (act act' : NodeAct) : s.Exchanges a b act act' := by
  have halike := alike_treat_comm s h act act'
  refine ⟨⟨answer_treat_of_ne s h act act', answer_treat_of_ne s (Ne.symm h) act' act⟩,
    fun acts => (halike.run acts).1, fun acts => ?_, fun acts => ?_⟩
  · have hrun := (halike.run acts).2.1
    refine ⟨hrun.order, fun id => ?_, fun id event => ?_, fun id event => ?_⟩
    · rw [element?, element?, hrun.node?]
    · rw [subscribers, subscribers, hrun.node?]
    · rw [subscriptionCount, subscriptionCount, hrun.node?]
  · refine ⟨(s.noted? a act).toList.reverse, (s.noted? b act').toList.reverse,
      (((s.treat a act).2.treat b act').2.noted acts).reverse, updates_treat_treat s h act act' acts, ?_,
      fun entry hentry => fst_of_mem_noted? (List.mem_reverse.1 hentry),
      fun entry hentry => fst_of_mem_noted? (List.mem_reverse.1 hentry)⟩
    rw [(halike.run acts).2.2]
    exact updates_treat_treat s (Ne.symm h) act' act acts

end SceneStore

end ScriptHost
