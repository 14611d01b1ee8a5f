/-
The scene as scripts are connected to it. Scripts name nodes, look at elements, patch them, choose animations and ask
to be told of events; the host may refuse a change, and then nothing has changed.
-/
import ScriptHost.Scene.Patch

namespace ScriptHost

/-- a node of a scene; guests never see these -/
structure NodeId where
  index : Nat
deriving DecidableEq, Repr

/-- a script among those that share a session -/
structure ScriptId where
  index : Nat
deriving DecidableEq, Repr

/-- an event of an element, as it is handed to a guest: four signed words -/
structure Event where
  descriptor : Int32
  elementKind : Int32
  eventKind : Int32
  userData : Int32
deriving DecidableEq, Repr

/-- who is told when a node raises an event -/
inductive Subscriber where
  /-- the event is put into the queue of a script -/
  | script (id : ScriptId) (event : Event)
  /-- the host itself -/
  | host
deriving DecidableEq, Repr

/-- how a clip of a model is chosen -/
inductive Clip where
  | index (i : Nat)
  /-- the first clip of that name -/
  | name (name : String)
deriving DecidableEq, Repr

/-- a scene that scripts can read and change; `none` is a refusal -/
class SceneBackend (σ : Type) where
  element? : σ → NodeId → Option Element
  patch? : σ → NodeId → Patch → Option σ
  animate? : σ → NodeId → Clip → PlayState → AnimationWrap → Option σ
  subscribe : σ → NodeId → EventKind → Subscriber → σ

end ScriptHost
