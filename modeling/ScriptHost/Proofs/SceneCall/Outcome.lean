/-
What the actions of scene calls can do. An action writes regions and leaves the session alone, or it leaves the memory
alone and changes the session only if it succeeds (`SceneAction.perform_cases`). A call makes one change of the scene at
most: a patch, a choice of animation or a subscription that it has decided on (`SceneCall.session_cases`).
-/
import ScriptHost.SceneCall.Run

namespace ScriptHost

variable {μ : Type} [LinearMemory μ] {σ : Type} [SceneBackend σ]

/-- the memory that a scene call leaves, and what it shows besides -/
def SceneOutcome.observed (o : SceneOutcome μ σ) : μ × CallStatus × Session σ × List Notice :=
  (o.memory, o.status, o.session, o.notices)

theorem SceneAction.perform_write (m : μ) (s : Session σ) (regions : List Region) :
    (SceneAction.write regions).perform m s =
      { status := .ofResult (SceneCall.access (writeRegions m regions).2)
        memory := (writeRegions m regions).1
        session := s } := rfl

theorem SceneAction.perform_cases (act : SceneAction) (s : Session σ) :
    (∃ regions, act = .write regions) ∨
      ∃ status s' notices, (status ≠ CallStatus.success → s' = s) ∧
        ∀ m : μ, act.perform m s = { status, memory := m, session := s', notices } := by
  cases act with
  | write regions => exact Or.inl ⟨regions, rfl⟩
  | patch node p =>
    right
    cases hp : SceneBackend.patch? s.scene node p with
    | some scene =>
      exact ⟨_, _, _, fun h => absurd rfl h, fun m => by simp only [SceneAction.perform, hp]; rfl⟩
    | none => exact ⟨_, _, _, fun _ => rfl, fun m => by simp only [SceneAction.perform, hp]; rfl⟩
  | animate node clip playState wrap =>
    right
    cases ha : SceneBackend.animate? s.scene node clip playState wrap with
    | some scene =>
      exact ⟨_, _, _, fun h => absurd rfl h, fun m => by simp only [SceneAction.perform, ha]; rfl⟩
    | none => exact ⟨_, _, _, fun _ => rfl, fun m => by simp only [SceneAction.perform, ha]; rfl⟩
  | subscribe node event subscriber =>
    exact Or.inr ⟨_, _, _, fun h => absurd rfl h, fun m => rfl⟩

/-- what a call leaves of a session: the session as it was, or with the one change that the call has decided on -/
theorem SceneCall.session_cases (caller : ScriptId) (m : μ) (s : Session σ) (call : SceneCall) :
    (call.run caller m s).session = s ∨
      (∃ node p scene, call.plan caller m s = .ok (.patch node p) ∧ SceneBackend.patch? s.scene node p = some scene ∧
        (call.run caller m s).session = { s with scene }) ∨
      (∃ node clip playState wrap scene, call.plan caller m s = .ok (.animate node clip playState wrap) ∧
        SceneBackend.animate? s.scene node clip playState wrap = some scene ∧
        (call.run caller m s).session = { s with scene }) ∨
      ∃ node event subscriber, call.plan caller m s = .ok (.subscribe node event subscriber) ∧
        (call.run caller m s).session = { s with scene := SceneBackend.subscribe s.scene node event subscriber } := by
  rw [run]
  cases hplan : call.plan caller m s with
  | error status => exact .inl rfl
  | ok act =>
    cases act with
    | write regions => exact .inl rfl
    | patch node p =>
      cases hp : SceneBackend.patch? s.scene node p with
      | none => exact .inl (by simp only [SceneAction.perform, hp])
      | some scene => exact .inr (.inl ⟨node, p, scene, rfl, hp, by simp only [SceneAction.perform, hp]⟩)
    | animate node clip playState wrap =>
      cases ha : SceneBackend.animate? s.scene node clip playState wrap with
      | none => exact .inl (by simp only [SceneAction.perform, ha])
      | some scene =>
        exact .inr (.inr (.inl ⟨node, clip, playState, wrap, scene, rfl, ha, by simp only [SceneAction.perform, ha]⟩))
    | subscribe node event subscriber => exact .inr (.inr (.inr ⟨node, event, subscriber, rfl, rfl⟩))

end ScriptHost
