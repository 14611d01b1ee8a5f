/-
Scenes that are kept in memory, perhaps behind a gate. What stands in front of the scene in memory may refuse a patch or
an animation; otherwise it only hands on.
-/
import ScriptHost.Scene.Gate

namespace ScriptHost

/-- a scene in memory with something in front of it that may refuse changes and does nothing else -/
class StoreHost (σ : Type) extends SceneHost σ where
  element?_eq (s : σ) (id : NodeId) : element? s id = (store s).element? id
  store_patch? {s s' : σ} {id : NodeId} {p : Patch} :
    patch? s id p = some s' → (store s).patch? id p = some (store s')
  store_animate? {s s' : σ} {id : NodeId} {clip : Clip} {playState : PlayState} {wrap : AnimationWrap} :
    animate? s id clip playState wrap = some s' → (store s).animate? id clip playState wrap = some (store s')
  store_subscribe (s : σ) (id : NodeId) (event : EventKind) (subscriber : Subscriber) :
    store (subscribe s id event subscriber) = (store s).subscribe id event subscriber
  store_withStore (s : σ) (scene : SceneStore) : store (withStore s scene) = scene
  store_setClosed (s : σ) (closed : Bool) : store (setClosed s closed) = store s

instance : StoreHost SceneStore where
  element?_eq _ _ := rfl
  store_patch? h := h
  store_animate? h := h
  store_subscribe _ _ _ _ := rfl
  store_withStore _ _ := rfl
  store_setClosed _ _ := rfl

namespace GatedScene

theorem eq_of_refusable {g g' : GatedScene} {change : Option SceneStore}
    (h : (if g.closed then none else change.map fun scene => { g with scene }) = some g') : change = some g'.scene := by
  cases hclosed : g.closed with
  | true => simp [hclosed] at h
  | false =>
    simp only [hclosed, Bool.false_eq_true, if_false, Option.map_eq_some_iff] at h
    obtain ⟨scene, hchange, rfl⟩ := h
    exact hchange

instance : StoreHost GatedScene where
  element?_eq _ _ := rfl
  store_patch? h := eq_of_refusable h
  store_animate? h := eq_of_refusable h
  store_subscribe _ _ _ _ := rfl
  store_withStore _ _ := rfl
  store_setClosed _ _ := rfl

end GatedScene

end ScriptHost
