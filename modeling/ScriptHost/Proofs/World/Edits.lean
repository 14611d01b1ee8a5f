/-
What happens to a session, taken apart. An edit is one elementary change of a session in memory: an element is added or
removed, patched or animated, its events are asked for, or it is registered. Every act of a world, whatever calls a guest
makes in it, comes down to the edits that were accepted in it, in order (`World.edits_step`, `World.edits_run`). So what
each edit preserves holds of every run (`Edit.induct_all`), and it may speak of the edits of the past.
-/
import ScriptHost.Proofs.SceneCall.Attributes
import ScriptHost.Proofs.World.History

namespace ScriptHost

/-- an elementary change of a session -/
inductive Edit where
  | add (e : Element)
  | remove (node : NodeId)
  | patch (node : NodeId) (p : Patch)
  | animate (node : NodeId) (clip : Clip) (playState : PlayState) (wrap : AnimationWrap)
  | subscribe (node : NodeId) (event : EventKind) (subscriber : Subscriber)
  | register (node : NodeId) (id : Option String)
deriving DecidableEq, Repr

namespace Edit

/-- makes an edit, unless the scene refuses it -/
def make? (s : Session SceneStore) : Edit → Option (Session SceneStore)
  | add e => some { s with scene := (s.scene.add e).2 }
  | remove node => some { s with scene := (s.scene.remove node).2 }
  | patch node p => (s.scene.patch? node p).map fun scene => { s with scene }
  | animate node clip playState wrap => (s.scene.animate? node clip playState wrap).map fun scene => { s with scene }
  | subscribe node event subscriber => some { s with scene := s.scene.subscribe node event subscriber }
  | register node id => some (s.enrol node id).2

/-- makes some edits, unless one of them is refused -/
def makeAll? (s : Session SceneStore) (edits : List Edit) : Option (Session SceneStore) := edits.foldlM make? s

theorem makeAll?_cons {s s' : Session SceneStore} {e : Edit} {rest : List Edit} :
    makeAll? s (e :: rest) = some s' ↔ ∃ next, e.make? s = some next ∧ makeAll? next rest = some s' := by
  simp only [makeAll?, List.foldlM_cons, bind, Option.bind_eq_some_iff]

theorem makeAll?_append {s next s' : Session SceneStore} {edits later : List Edit}
    (h : makeAll? s edits = some next) (hlater : makeAll? next later = some s') :
    makeAll? s (edits ++ later) = some s' := by
  rw [makeAll?, List.foldlM_append]
  exact Option.bind_eq_some_iff.2 ⟨next, h, hlater⟩

/-- what each edit keeps of a session and the edits of its past, all edits keep -/
theorem induct_all {P : List Edit → Session SceneStore → Prop}
    (step : ∀ past s e s', P past s → e.make? s = some s' → P (past ++ [e]) s') {past : List Edit}
    {s s' : Session SceneStore} (h : P past s) {edits : List Edit} (hedits : makeAll? s edits = some s') :
    P (past ++ edits) s' := by
  induction edits generalizing past s with
  | nil =>
    cases hedits
    rw [List.append_nil]
    exact h
  | cons e rest ih =>
    obtain ⟨next, hnext, hrest⟩ := makeAll?_cons.1 hedits
    rw [List.append_cons]
    exact ih (step past s e next h hnext) hrest

end Edit

/-! ## Calls -/

section Calls

variable {μ : Type} [LinearMemory μ] {σ : Type}

/-- the edit that is made with a call: what the call decided on, if it is answered with success -/
def SceneCall.edit? [SceneBackend σ] (caller : ScriptId) (m : μ) (s : Session σ) (call : SceneCall) : Option Edit :=
  if (call.run caller m s).status = .success then
    match call.plan caller m s with
    | .ok (.patch node p) => some (.patch node p)
    | .ok (.animate node clip playState wrap) => some (.animate node clip playState wrap)
    | .ok (.subscribe node event subscriber) => some (.subscribe node event subscriber)
    | _ => none
  else none

/-- the edits that are made with some calls of one script -/
def Session.edits [SceneBackend σ] (caller : ScriptId) (s : Session σ) : List Made → List Edit
  | [] => []
  | made :: rest => (made.call.edit? caller made.memory s).toList ++ (s.after caller [made]).edits caller rest

/-- the session with its scene taken out of what stands in front of it -/
def Session.inMemory [SceneHost σ] (s : Session σ) : Session SceneStore :=
  { registry := s.registry, scene := SceneHost.store s.scene, indexed := s.indexed }

variable [StoreHost σ]

theorem edit_call (caller : ScriptId) (m : μ) (s : Session σ) (call : SceneCall) :
    Edit.makeAll? s.inMemory (call.edit? caller m s).toList = some (call.run caller m s).session.inMemory := by
  rw [SceneCall.edit?, SceneCall.run]
  cases hplan : call.plan caller m s with
  | error status =>
    dsimp only
    rw [ite_self]
    rfl
  | ok act =>
    dsimp only
    cases act with
    | write regions =>
      dsimp only
      rw [ite_self]
      rfl
    | patch node p =>
      cases hp : SceneBackend.patch? s.scene node p with
      | none => simp only [SceneAction.perform, hp]; rfl
      | some scene =>
        have hstore : s.inMemory.scene.patch? node p = some (SceneHost.store scene) := StoreHost.store_patch? hp
        simp only [SceneAction.perform, hp, if_true]
        rw [Option.toList_some, Edit.makeAll?_cons]
        exact ⟨_, by rw [Edit.make?, hstore]; rfl, rfl⟩
    | animate node clip playState wrap =>
      cases ha : SceneBackend.animate? s.scene node clip playState wrap with
      | none => simp only [SceneAction.perform, ha]; rfl
      | some scene =>
        have hstore : s.inMemory.scene.animate? node clip playState wrap = some (SceneHost.store scene) :=
          StoreHost.store_animate? ha
        simp only [SceneAction.perform, ha, if_true]
        rw [Option.toList_some, Edit.makeAll?_cons]
        exact ⟨_, by rw [Edit.make?, hstore]; rfl, rfl⟩
    | subscribe node event subscriber =>
      have hstore := StoreHost.store_subscribe s.scene node event subscriber
      simp only [SceneAction.perform, if_true]
      rw [Option.toList_some, Edit.makeAll?_cons]
      refine ⟨_, rfl, ?_⟩
      rw [Session.inMemory, Session.inMemory, hstore]
      rfl

theorem edits_after (caller : ScriptId) (s : Session σ) (calls : List Made) :
    Edit.makeAll? s.inMemory (s.edits caller calls) = some (s.after caller calls).inMemory := by
  induction calls generalizing s with
  | nil => rfl
  | cons made rest ih => exact Edit.makeAll?_append (edit_call caller made.memory s made.call) (ih _)

end Calls

/-! ## Acts -/

namespace World

variable {σ : Type}

section Edits

variable [SceneHost σ]

/-- the edits that are made in an act -/
def edits (w : World σ) : Act → List Edit
  | .add e => [.add e]
  | .addRegistered e => [.add e, .register w.store.next e.id]
  | .register node => ((SceneBackend.element? w.session.scene node).map fun e => Edit.register node e.id).toList
  | .remove node => [.remove node]
  | .subscribe node event => [.subscribe node event .host]
  | .patch node p => if (w.patch node p).1 then [.patch node p] else []
  | .animate node clip playState wrap =>
    if (w.animate node clip playState wrap).1 then [.animate node clip playState wrap] else []
  | @Act.call _ _ caller m call => (call.edit? caller m w.session).toList
  | .operate id act =>
    match w.script? id, w.operate id act with
    | some script, some st => w.session.edits script.guestId (script.made w.shared st.trace)
    | _, _ => []
  | _ => []

/-- the edits that are made in a run -/
def editsOf (w : World σ) : List Act → List Edit
  | [] => []
  | act :: rest => w.edits act ++ (w.step act).editsOf rest

end Edits

variable [StoreHost σ]

theorem inMemory_withStore (w : World σ) (store : SceneStore) :
    (w.withStore store).session.inMemory = { w.session.inMemory with scene := store } :=
  Session.ext rfl (store_withStore w store)

theorem inMemory_of_shared {w w' : World σ} (h : w'.shared = w.shared) : w'.session.inMemory = w.session.inMemory := by
  rw [session, h]
  rfl

theorem edits_operate (w : World σ) (id : ScriptId) (act : ScriptAct) :
    Edit.makeAll? w.session.inMemory (w.edits (.operate id act)) =
      some (w.step (.operate id act)).session.inMemory := by
  rw [edits, step]
  cases hoperate : w.operate id act with
  | none => cases w.script? id <;> rfl
  | some st =>
    obtain ⟨script, hscript, new, shared, hworld, -, hsession⟩ := operated_of_operate hoperate
    have hafter := edits_after script.guestId w.session (script.made w.shared st.trace)
    rw [← hsession] at hafter
    rw [hscript]
    dsimp only
    rw [hworld]
    exact hafter

/-- an act changes the session by its edits -/
theorem edits_step (w : World σ) (act : Act) :
    Edit.makeAll? w.session.inMemory (w.edits act) = some (w.step act).session.inMemory := by
  cases act with
  | operate id act => exact edits_operate w id act
  | call caller m call => exact edit_call caller m w.session call
  | add e => exact congrArg some (inMemory_withStore w _).symm
  | remove node => exact congrArg some (inMemory_withStore w _).symm
  | addRegistered e =>
    have hmemory : (w.addRegistered e).2.session.inMemory =
        (({ w.session.inMemory with scene := (w.store.add e).2 } : Session SceneStore).enrol w.store.next e.id).2 :=
      Session.ext rfl (store_addRegistered w e)
    exact congrArg some hmemory.symm
  | register node =>
    rw [edits, step, World.register, Session.register]
    cases SceneBackend.element? w.session.scene node <;> rfl
  | subscribe node event =>
    have hmemory : (w.subscribe node event).session.inMemory =
        { w.session.inMemory with scene := w.store.subscribe node event .host } :=
      Session.ext rfl (StoreHost.store_subscribe w.session.scene node event .host)
    exact congrArg some hmemory.symm
  | patch node p =>
    rw [edits, step, World.patch]
    cases hp : SceneBackend.patch? w.session.scene node p with
    | none => rfl
    | some scene =>
      have hstore : w.session.inMemory.scene.patch? node p = some (SceneHost.store scene) := StoreHost.store_patch? hp
      rw [if_pos rfl, Edit.makeAll?_cons]
      exact ⟨_, by rw [Edit.make?, hstore]; rfl, rfl⟩
  | animate node clip playState wrap =>
    rw [edits, step, World.animate]
    cases ha : SceneBackend.animate? w.session.scene node clip playState wrap with
    | none => rfl
    | some scene =>
      have hstore : w.session.inMemory.scene.animate? node clip playState wrap = some (SceneHost.store scene) :=
        StoreHost.store_animate? ha
      rw [if_pos rfl, Edit.makeAll?_cons]
      exact ⟨_, by rw [Edit.make?, hstore]; rfl, rfl⟩
  | setClosed closed =>
    have hmemory : (w.setClosed closed).session.inMemory = w.session.inMemory :=
      Session.ext rfl (StoreHost.store_setClosed w.session.scene closed)
    exact congrArg some hmemory.symm
  | fire node event => exact congrArg some (inMemory_of_shared (shared_foldl_tell w _)).symm
  | takeEvents id => exact congrArg some (inMemory_of_shared (shared_takeEvents w id)).symm
  | attach | drop | breakSession => rfl

theorem edits_run (w : World σ) (acts : List Act) :
    Edit.makeAll? w.session.inMemory (w.editsOf acts) = some (w.run acts).session.inMemory := by
  induction acts generalizing w with
  | nil => rfl
  | cons act rest ih =>
    rw [run_cons]
    exact Edit.makeAll?_append (edits_step w act) (ih (w.step act))

end World

end ScriptHost
