/-
A scene whose host can close it to changes. While it is closed every patch and every animation is refused and the scene
stays as it is; elements can still be looked at, and scripts can still ask for events.
-/
import ScriptHost.Scene.Store

namespace ScriptHost

/-- a scene and whether it is closed -/
structure GatedScene where
  scene : SceneStore
  closed : Bool := false

namespace GatedScene

instance : SceneBackend GatedScene where
  element? g := g.scene.element?
  patch? g id p := if g.closed then none else (g.scene.patch? id p).map fun scene => { g with scene }
  animate? g id clip playState wrap :=
    if g.closed then none else (g.scene.animate? id clip playState wrap).map fun scene => { g with scene }
  subscribe g id event subscriber := { g with scene := g.scene.subscribe id event subscriber }

instance : SceneHost GatedScene where
  store g := g.scene
  withStore g scene := { g with scene }
  setClosed g closed := { g with closed }

end GatedScene

end ScriptHost
