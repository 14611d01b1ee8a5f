/-
One session: a scene and the descriptors by which the scripts of that scene name its nodes.
-/
import ScriptHost.Registry.Indexed
import ScriptHost.Scene.Store

namespace ScriptHost

/-- what all scripts of a scene share -/
@[ext]
structure Session (σ : Type) where
  registry : Registry := {}
  scene : σ
  /-- the registry comes from registrations alone: nothing else can change it -/
  indexed : registry.Indexed := by exact Registry.indexed_empty

namespace Session

/-- registers a node under an id -/
def enrol {σ : Type} (s : Session σ) (node : NodeId) (id : Option String) : Int32 × Session σ :=
  let registered := s.registry.register node id
  (registered.1, { s with registry := registered.2, indexed := Registry.indexed_register s.indexed node id })

@[simp]
theorem scene_enrol {σ : Type} (s : Session σ) (node : NodeId) (id : Option String) :
    (s.enrol node id).2.scene = s.scene := rfl

/-- a node that is known keeps its descriptor, and the session stays as it is -/
theorem enrol_of_some {σ : Type} {s : Session σ} {node : NodeId} {d : Int32} (h : s.registry.descriptor? node = some d)
    (id : Option String) : s.enrol node id = (d, s) := by
  have hregistered := Registry.register_of_some h id
  have hfst : (s.enrol node id).1 = d := congrArg Prod.fst hregistered
  have hsnd : (s.enrol node id).2 = s := Session.ext (congrArg Prod.snd hregistered) rfl
  exact Prod.ext hfst hsnd

variable {σ : Type} [SceneBackend σ]

/-- the node that a descriptor names and its element, as long as it is in the scene -/
def resolve (s : Session σ) (descriptor : Int32) : Option (NodeId × Element) := do
  let node ← s.registry.node? descriptor
  return (node, ← SceneBackend.element? s.scene node)

/-- registers a node of the scene under the id that its element has now -/
def register (s : Session σ) (node : NodeId) : Option Int32 × Session σ :=
  match SceneBackend.element? s.scene node with
  | some e =>
    let (descriptor, s) := s.enrol node e.id
    (some descriptor, s)
  | none => (none, s)

/-- the records of all registered nodes that are still in the scene, in the order of registration -/
def records (s : Session σ) : List ElementRecord :=
  s.registry.all.filterMap fun entry =>
    (SceneBackend.element? s.scene entry.node).map fun e => ⟨entry.descriptor, e.kind.code⟩

/-- adds an element to a scene in memory and registers its node -/
def add {σ : Type} [SceneHost σ] (s : Session σ) (e : Element) : Int32 × Session σ :=
  let (node, store) := (SceneHost.store s.scene).add e
  { s with scene := SceneHost.withStore s.scene store }.enrol node e.id

end Session

/-- the session as many scripts and the host hold it -/
structure SharedSession (σ : Type) where
  session : Session σ
  /-- has one of the holders failed in the middle of a change? Then scripts are turned away; the host may go on -/
  broken : Bool := false

end ScriptHost
