/-
A scene with its scripts. All scripts share one session; each has a guest and a queue of its own. The host changes the
scene and raises events; an event goes to everyone who has asked for it, once for each time that they have asked, and
reaches a script's guest only when the script's events are delivered.
-/
import ScriptHost.Script.Lifecycle

namespace ScriptHost

/-- a session, the scripts that share it, and the host's own subscriptions -/
structure World (σ : Type) where
  shared : SharedSession σ
  /-- the scripts, by their ids; a script that was dropped leaves its place empty -/
  scripts : Array (Option Script) := #[]
  /-- how often the host itself was told of an event -/
  hostEvents : Nat := 0

namespace World

variable {σ : Type} {α : Type}

def session (w : World σ) : Session σ := w.shared.session

/-- the world with another session -/
def withSession (w : World σ) (session : Session σ) : World σ := { w with shared := { w.shared with session } }

/-- the world with another scene -/
def withScene (w : World σ) (scene : σ) : World σ := w.withSession { w.session with scene }

/-- a script that was not dropped -/
def script? (w : World σ) (id : ScriptId) : Option Script := w.scripts[id.index]?.join

/-- the world with another script in a place -/
def withScript (w : World σ) (id : ScriptId) (script : Option Script) : World σ :=
  { w with scripts := w.scripts.setIfInBounds id.index script }

section Scene

variable [SceneHost σ]

/-- the scene in memory -/
def store (w : World σ) : SceneStore := SceneHost.store w.session.scene

/-- the world with another scene in memory -/
def withStore (w : World σ) (store : SceneStore) : World σ := w.withScene (SceneHost.withStore w.session.scene store)

/-! ## What the host does to the scene -/

/-- adds an element without registering it -/
def add (w : World σ) (e : Element) : NodeId × World σ :=
  let (node, store) := w.store.add e
  (node, w.withStore store)

/-- registers a node that is in the scene -/
def register (w : World σ) (node : NodeId) : Option Int32 × World σ :=
  let (descriptor, session) := w.session.register node
  (descriptor, w.withSession session)

/-- adds an element and registers it -/
def addRegistered (w : World σ) (e : Element) : (NodeId × Int32) × World σ :=
  let (descriptor, session) := w.session.add e
  ((w.store.next, descriptor), w.withSession session)

/-- removes a node; answers the element as it was -/
def remove (w : World σ) (node : NodeId) : Option Element × World σ :=
  let (e, store) := w.store.remove node
  (e, w.withStore store)

/-- the host asks to be told of events -/
def subscribe (w : World σ) (node : NodeId) (event : EventKind) : World σ :=
  w.withScene (SceneBackend.subscribe w.session.scene node event .host)

/-- the host patches an element; tells whether the scene took the patch -/
def patch (w : World σ) (node : NodeId) (p : Patch) : Bool × World σ :=
  match SceneBackend.patch? w.session.scene node p with
  | some scene => (true, w.withScene scene)
  | none => (false, w)

/-- the host chooses an animation; tells whether the scene took the choice -/
def animate (w : World σ) (node : NodeId) (clip : Clip) (playState : PlayState) (wrap : AnimationWrap) :
    Bool × World σ :=
  match SceneBackend.animate? w.session.scene node clip playState wrap with
  | some scene => (true, w.withScene scene)
  | none => (false, w)

/-- the host closes the scene to changes, or opens it again -/
def setClosed (w : World σ) (closed : Bool) : World σ := w.withScene (SceneHost.setClosed w.session.scene closed)

/-! ## Events -/

/-- tells one subscriber; an event for a script that was dropped is lost -/
def tell (w : World σ) : Subscriber → World σ
  | .host => { w with hostEvents := w.hostEvents + 1 }
  | .script id event => { w with scripts := w.scripts.modify id.index (Option.map (·.enqueue event)) }

/-- raises an event; answers how many subscriptions it met -/
def fire (w : World σ) (node : NodeId) (event : EventKind) : Nat × World σ :=
  let subscribers := w.store.subscribers node event
  (subscribers.length, subscribers.foldl tell w)

/-- takes all events out of a script's queue -/
def takeEvents (w : World σ) (id : ScriptId) : List Event × World σ :=
  match w.script? id with
  | some script => (script.waiting, w.withScript id (some { script with queue := #[] }))
  | none => ([], w)

/-! ## What scripts do to the scene -/

/-- what a scene call leaves behind in a world -/
structure Called (μ σ : Type) where
  status : CallStatus
  memory : μ
  world : World σ
  notices : List Notice

/-- a scene call of the script `caller` with some memory -/
def call {μ : Type} [LinearMemory μ] (w : World σ) (caller : ScriptId) (m : μ) (call : SceneCall) : Called μ σ :=
  let outcome := call.run caller m w.session
  { status := outcome.status
    memory := outcome.memory
    world := w.withSession outcome.session
    notices := outcome.notices }

/-! ## What the host does to scripts -/

/-- puts a new script into the scene -/
def attach (w : World σ) (config : Config) (source : Source) (readings : Nat → Reading) : World σ :=
  let script : Script := { setting := { script := ⟨w.scripts.size⟩, config, readings }, source }
  { w with scripts := w.scripts.push (some script) }

/-- drops a script; what it has subscribed to goes on being counted -/
def drop (w : World σ) (id : ScriptId) : World σ := w.withScript id none

/-- a holder of the session fails in the middle of a change -/
def breakSession (w : World σ) : World σ := { w with shared := { w.shared with broken := true } }

/-- what an operation leaves behind -/
structure Step (σ α : Type) where
  answer : α
  world : World σ
  trace : List Entry := []

/-- an operation on a script; `none` if it was dropped -/
def onScript (w : World σ) (id : ScriptId) (operation : Script → SharedSession σ → Outcome σ α) :
    Option (Step σ α) := do
  let outcome := operation (← w.script? id) w.shared
  let w := { w with shared := outcome.shared }
  return { answer := outcome.answer, world := w.withScript id (some outcome.script), trace := outcome.trace }

def instantiate (w : World σ) (id : ScriptId) : Option (Step σ (Option (Except ScriptFailure Unit))) :=
  w.onScript id Script.instantiate

def dispatch (w : World σ) (id : ScriptId) (event : ScriptEvent) : Option (Step σ (Except ScriptFailure Unit)) :=
  w.onScript id fun script shared => script.dispatch event shared

def deliver (w : World σ) (id : ScriptId) : Option (Step σ (Except ScriptFailure Nat)) :=
  w.onScript id Script.deliver

/-- the number of registered nodes, as a script's holder can learn it -/
def registered (w : World σ) : Option Nat := if w.shared.broken then none else some w.session.registry.count

end Scene

end World

end ScriptHost
