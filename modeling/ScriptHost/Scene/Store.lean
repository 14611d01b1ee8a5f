/-
A scene that is kept in memory. It holds the elements and their subscriptions by node, the nodes in the order in which they
were added, and the patches applied so far. Nodes are numbered as they are added. A node that is removed leaves its place
empty, so no number is used twice.
-/
import ScriptHost.Scene.Backend

namespace ScriptHost

/-- an element together with those who are told of its events -/
structure SceneNode where
  element : Element
  /-- who asked to be told of which events, the latest first -/
  subscriptions : List (EventKind × Subscriber) := []

namespace SceneNode

/-- those who are told of one kind of event, in the order in which they asked -/
def subscribers (node : SceneNode) (event : EventKind) : List Subscriber :=
  ((node.subscriptions.filter (·.1 = event)).map Prod.snd).reverse

/-- chooses a clip of a model -/
def animate? (node : SceneNode) (clip : Clip) (playState : PlayState) (wrap : AnimationWrap) : Option SceneNode := do
  let state ← node.element.data.model?
  let i ← match clip with
    | .index i => if i < state.clips.length then some i else none
    | .name name => state.clips.idxOf? name
  return { node with element := { node.element with data := .model { state with current := i, playState, wrap } } }

end SceneNode

/-- a scene in memory -/
structure SceneStore where
  /-- the nodes, by index; the place of one that was removed is empty -/
  nodes : Array (Option SceneNode) := #[]
  /-- the nodes in the order in which they were added -/
  order : List NodeId := []
  /-- the patches applied so far, the latest first -/
  journal : List (NodeId × Patch) := []

namespace SceneStore

def empty : SceneStore := {}

def node? (s : SceneStore) (id : NodeId) : Option SceneNode := s.nodes[id.index]?.join

def element? (s : SceneStore) (id : NodeId) : Option Element := (s.node? id).map (·.element)

/-- the node that is added next -/
def next (s : SceneStore) : NodeId := ⟨s.nodes.size⟩

/-- the scene with something else in the place of a node -/
def put (s : SceneStore) (id : NodeId) (node : Option SceneNode) : SceneStore :=
  { s with nodes := s.nodes.setIfInBounds id.index node }

/-- the patches applied so far, in order -/
def updates (s : SceneStore) : List (NodeId × Patch) := s.journal.reverse

/-- adds an element under a fresh node -/
def add (s : SceneStore) (e : Element) : NodeId × SceneStore :=
  (s.next, { s with nodes := s.nodes.push (some { element := e }), order := s.order ++ [s.next] })

/-- removes a node; answers the element as it was -/
def remove (s : SceneStore) (id : NodeId) : Option Element × SceneStore :=
  (s.element? id, { s.put id none with order := s.order.filter (· ≠ id) })

/-- patches an element and notes the patch -/
def patch? (s : SceneStore) (id : NodeId) (p : Patch) : Option SceneStore := do
  let node ← s.node? id
  let element ← p.applyTo? node.element
  return { s.put id (some { node with element }) with journal := (id, p) :: s.journal }

/-- chooses an animation; this is not noted as a patch -/
def animate? (s : SceneStore) (id : NodeId) (clip : Clip) (playState : PlayState) (wrap : AnimationWrap) :
    Option SceneStore := do
  let node ← (← s.node? id).animate? clip playState wrap
  return s.put id (some node)

/-- adds a subscriber; a node that is not in the scene has none -/
def subscribe (s : SceneStore) (id : NodeId) (event : EventKind) (subscriber : Subscriber) : SceneStore :=
  match s.node? id with
  | some node => s.put id (some { node with subscriptions := (event, subscriber) :: node.subscriptions })
  | none => s

/-- those who are told when a node raises an event, once for each subscription, in order -/
def subscribers (s : SceneStore) (id : NodeId) (event : EventKind) : List Subscriber :=
  match s.node? id with
  | some node => node.subscribers event
  | none => []

/-- how many subscriptions a node has for an event -/
def subscriptionCount (s : SceneStore) (id : NodeId) (event : EventKind) : Nat :=
  match s.node? id with
  | some node => node.subscriptions.countP (·.1 = event)
  | none => 0

instance : SceneBackend SceneStore where
  element? := element?
  patch? := patch?
  animate? := animate?
  subscribe := subscribe

end SceneStore

/-- a scene that is kept in memory, perhaps with something in front of it that stands between it and the scripts -/
class SceneHost (σ : Type) extends SceneBackend σ where
  /-- the scene in memory -/
  store : σ → SceneStore
  /-- the same with another scene in memory -/
  withStore : σ → SceneStore → σ
  /-- closes the scene to changes, or opens it again; a scene that cannot be closed stays as it is -/
  setClosed : σ → Bool → σ := fun s _ => s

instance : SceneHost SceneStore where
  store s := s
  withStore _ s := s

end ScriptHost
