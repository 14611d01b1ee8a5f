/-
Worlds over time. An act is one thing that the host does, one scene call of a script, or one operation on a script, in
which its guest may make any number of scene calls; acts come in any order (`World.run`). The history of a run is the
requests for events that were granted in it, in order (`World.history`):
- the host's own, of nodes that were in the scene;
- those of scripts, one for each call of `registerEvent` that was answered with success.

The scene keeps of the history what concerns the nodes that are in it: `recalls_step` for one act, `recalls_run` for all.
-/
import ScriptHost.Proofs.Scene.Host
import ScriptHost.Proofs.SceneCall.Footprint
import ScriptHost.Proofs.Script.Control
import ScriptHost.World

namespace ScriptHost

/-! ## Requests that are granted -/

section Granted

variable {μ : Type} [LinearMemory μ] {σ : Type} [SceneBackend σ]

/-- the request that is granted with a call: the one that it makes, if it is answered with success -/
def SceneCall.granted (caller : ScriptId) (m : μ) (s : Session σ) (call : SceneCall) : List Request :=
  if (call.run caller m s).status = .success then (call.request? caller s).toList else []

/-- the requests that are granted with some calls of one script -/
def Session.granted (caller : ScriptId) (s : Session σ) : List Made → List Request
  | [] => []
  | made :: rest => made.call.granted caller made.memory s ++ (s.after caller [made]).granted caller rest

end Granted

namespace World

/-- something that happens to a world; a script brings the memory of its guest to a call -/
inductive Act where
  | add (e : Element)
  | addRegistered (e : Element)
  | register (node : NodeId)
  | remove (node : NodeId)
  | subscribe (node : NodeId) (event : EventKind)
  | patch (node : NodeId) (p : Patch)
  | animate (node : NodeId) (clip : Clip) (playState : PlayState) (wrap : AnimationWrap)
  | setClosed (closed : Bool)
  | fire (node : NodeId) (event : EventKind)
  | call {μ : Type} [LinearMemory μ] (caller : ScriptId) (m : μ) (call : SceneCall)
  | takeEvents (id : ScriptId)
  | attach (config : Config) (source : Source) (readings : Nat → Reading)
  | drop (id : ScriptId)
  | breakSession
  | operate (id : ScriptId) (act : ScriptAct)

section Run

variable {σ : Type} [SceneHost σ]

/-- an operation on a script; `none` if it was dropped -/
def operate (w : World σ) (id : ScriptId) (act : ScriptAct) : Option (Step σ (Option (Except ScriptFailure Unit))) :=
  w.onScript id fun script shared => script.operate act shared

def step (w : World σ) : Act → World σ
  | .add e => (w.add e).2
  | .addRegistered e => (w.addRegistered e).2
  | .register node => (w.register node).2
  | .remove node => (w.remove node).2
  | .subscribe node event => w.subscribe node event
  | .patch node p => (w.patch node p).2
  | .animate node clip playState wrap => (w.animate node clip playState wrap).2
  | .setClosed closed => w.setClosed closed
  | .fire node event => (w.fire node event).2
  | @Act.call _ _ caller m call => (w.call caller m call).world
  | .takeEvents id => (w.takeEvents id).2
  | .attach config source readings => w.attach config source readings
  | .drop id => w.drop id
  | .breakSession => w.breakSession
  | .operate id act =>
    match w.operate id act with
    | some st => st.world
    | none => w

def run (w : World σ) (acts : List Act) : World σ := acts.foldl step w

/-- the requests for events that are granted in an act -/
def granted (w : World σ) : Act → List Request
  | .subscribe node event => if (w.store.node? node).isSome then [⟨node, event, .host⟩] else []
  | @Act.call _ _ caller m call => call.granted caller m w.session
  | .operate id act =>
    match w.script? id, w.operate id act with
    | some script, some st => w.session.granted script.guestId (script.made w.shared st.trace)
    | _, _ => []
  | _ => []

/-- the requests for events that are granted in a run -/
def history (w : World σ) : List Act → List Request
  | [] => []
  | act :: rest => w.granted act ++ (w.step act).history rest

theorem run_cons (w : World σ) (act : Act) (rest : List Act) : w.run (act :: rest) = (w.step act).run rest := rfl

theorem run_append (w : World σ) (acts later : List Act) : w.run (acts ++ later) = (w.run acts).run later :=
  List.foldl_append

end Run

/-! ## The scene of a world after an act -/

section Shared

variable {σ : Type}

theorem shared_tell (w : World σ) (subscriber : Subscriber) : (w.tell subscriber).shared = w.shared := by
  cases subscriber <;> rfl

theorem shared_foldl_tell (w : World σ) (subscribers : List Subscriber) :
    (subscribers.foldl tell w).shared = w.shared := by
  induction subscribers generalizing w with
  | nil => rfl
  | cons subscriber rest ih => rw [List.foldl_cons, ih, shared_tell]

theorem shared_takeEvents (w : World σ) (id : ScriptId) : (w.takeEvents id).2.shared = w.shared := by
  unfold takeEvents
  split <;> rfl

end Shared

variable {σ : Type} [StoreHost σ]

theorem store_withStore (w : World σ) (store : SceneStore) : (w.withStore store).store = store :=
  StoreHost.store_withStore w.session.scene store

theorem store_of_shared {w w' : World σ} (h : w'.shared = w.shared) : w'.store = w.store := by
  rw [store, session, h]
  rfl

theorem store_register (w : World σ) (node : NodeId) : (w.register node).2.store = w.store := by
  unfold World.register Session.register
  cases SceneBackend.element? w.session.scene node <;> rfl

theorem store_addRegistered (w : World σ) (e : Element) : (w.addRegistered e).2.store = (w.store.add e).2 :=
  StoreHost.store_withStore w.session.scene _

theorem recalls_patch {w : World σ} {past : List Request} (h : w.store.Recalls past) (node : NodeId)
    (p : Patch) : (w.patch node p).2.store.Recalls past := by
  unfold World.patch
  cases hp : SceneBackend.patch? w.session.scene node p with
  | none => exact h
  | some scene => exact h.patch? (StoreHost.store_patch? hp)

theorem recalls_animate {w : World σ} {past : List Request} (h : w.store.Recalls past) (node : NodeId)
    (clip : Clip) (playState : PlayState) (wrap : AnimationWrap) :
    (w.animate node clip playState wrap).2.store.Recalls past := by
  unfold World.animate
  cases ha : SceneBackend.animate? w.session.scene node clip playState wrap with
  | none => exact h
  | some scene => exact h.animate? (StoreHost.store_animate? ha)

theorem recalls_subscribe {w : World σ} {past : List Request} (h : w.store.Recalls past) (node : NodeId)
    (event : EventKind) :
    (w.subscribe node event).store.Recalls (past ++ w.granted (.subscribe node event)) := by
  have hstore : (w.subscribe node event).store = w.store.subscribe node event .host :=
    StoreHost.store_subscribe w.session.scene node event .host
  rw [hstore, granted]
  split
  · exact h.subscribe ‹_› event .host
  · rw [List.append_nil]
    exact h.subscribe_absent ‹_› event .host

theorem isSome_node?_of_resolve {s : Session σ} {d : Int32} {node : NodeId} {e : Element}
    (h : s.resolve d = some (node, e)) : ((SceneHost.store s.scene).node? node).isSome := by
  simp only [Session.resolve, bind, pure, Option.bind_eq_some_iff, Option.some.injEq, Prod.mk.injEq] at h
  obtain ⟨_, -, _, helement, rfl, rfl⟩ := h
  rw [StoreHost.element?_eq, SceneStore.element?, Option.map_eq_some_iff] at helement
  obtain ⟨found, hfound, -⟩ := helement
  exact Option.isSome_iff_exists.2 ⟨found, hfound⟩

/-! ## Calls -/

/-- a call changes what the scene keeps just by the request that is granted with it -/
theorem recalls_call {μ : Type} [LinearMemory μ] {s : Session σ} {past : List Request}
    (h : (SceneHost.store s.scene).Recalls past) (caller : ScriptId) (m : μ) (call : SceneCall) :
    (SceneHost.store (call.run caller m s).session.scene).Recalls (past ++ call.granted caller m s) := by
  rw [SceneCall.granted, SceneCall.run]
  cases hplan : call.plan caller m s with
  | error status =>
    have hstatus : status ≠ .success := fun hs => SceneCall.honest_plan caller m s call (hs ▸ hplan)
    simp only [if_neg hstatus, List.append_nil]
    exact h
  | ok act =>
    have hact := SceneCall.plan_decides hplan
    dsimp only
    cases act with
    | write regions =>
      rw [SceneCall.request?_of_isQuery hact.1, Option.toList_none, ite_self, List.append_nil]
      exact h
    | patch node p =>
      rw [hact.2, Option.toList_none, ite_self, List.append_nil, SceneAction.perform]
      cases hp : SceneBackend.patch? s.scene node p with
      | none => exact h
      | some scene => exact h.patch? (StoreHost.store_patch? hp)
    | animate node clip playState wrap =>
      rw [hact.2, Option.toList_none, ite_self, List.append_nil, SceneAction.perform]
      cases ha : SceneBackend.animate? s.scene node clip playState wrap with
      | none => exact h
      | some scene => exact h.animate? (StoreHost.store_animate? ha)
    | subscribe node event subscriber =>
      obtain ⟨⟨-, d, e, -, hfound⟩, hrequest⟩ := hact
      have hgranted := h.subscribe (isSome_node?_of_resolve hfound) event subscriber
      rw [← StoreHost.store_subscribe] at hgranted
      rw [hrequest, Option.toList_some]
      exact hgranted

theorem recalls_after {s : Session σ} {past : List Request} (h : (SceneHost.store s.scene).Recalls past)
    (caller : ScriptId) (calls : List Made) :
    (SceneHost.store (s.after caller calls).scene).Recalls (past ++ s.granted caller calls) := by
  induction calls generalizing s past with
  | nil =>
    rw [Session.granted, List.append_nil]
    exact h
  | cons made rest ih =>
    rw [Session.granted, ← List.append_assoc]
    exact ih (recalls_call h caller made.memory made.call)

/-! ## Operations on scripts -/

/-- what an operation on a script does to a world: it changes the script, whose queue gets nothing new, and the session,
by the calls that the script makes -/
structure Operated (w : World σ) (id : ScriptId) (script : Script) (trace : List Entry) (w' : World σ) : Prop where
  found : w.script? id = some script
  world : ∃ new shared, w' = { w with shared }.withScript id (some new) ∧ new.waiting <:+ script.waiting ∧
    shared.session = w.session.after script.guestId (script.made w.shared trace)

theorem operated_of_operate {w : World σ} {id : ScriptId} {act : ScriptAct}
    {st : Step σ (Option (Except ScriptFailure Unit))} (h : w.operate id act = some st) :
    ∃ script, w.Operated id script st.trace st.world := by
  simp only [operate, onScript, bind, pure, Option.bind_eq_some_iff, Option.some.injEq] at h
  obtain ⟨script, hscript, rfl⟩ := h
  have hobeys := script.obeys_operate act w.shared
  exact ⟨script, hscript, _, _, rfl, hobeys.waiting, hobeys.session⟩

theorem recalls_operate {w : World σ} {past : List Request} (h : w.store.Recalls past) (id : ScriptId)
    (act : ScriptAct) : (w.step (.operate id act)).store.Recalls (past ++ w.granted (.operate id act)) := by
  rw [step, granted]
  cases hoperate : w.operate id act with
  | none =>
    cases w.script? id <;> simpa using h
  | some st =>
    obtain ⟨script, hscript, new, shared, hworld, -, hsession⟩ := operated_of_operate hoperate
    have hafter := recalls_after h script.guestId (script.made w.shared st.trace)
    rw [← hsession] at hafter
    rw [hscript]
    dsimp only
    rw [hworld]
    exact hafter

/-! ## Acts -/

theorem recalls_step {w : World σ} {past : List Request} (h : w.store.Recalls past) (act : Act) :
    (w.step act).store.Recalls (past ++ w.granted act) := by
  cases act with
  | subscribe node event => exact recalls_subscribe h node event
  | call caller m call => exact recalls_call h caller m call
  | operate id act => exact recalls_operate h id act
  | add e =>
    have hstore : (w.add e).2.store = (w.store.add e).2 := store_withStore w _
    simp only [step, hstore, granted, List.append_nil]
    exact h.add e
  | addRegistered e =>
    simp only [step, store_addRegistered, granted, List.append_nil]
    exact h.add e
  | register node =>
    simp only [step, store_register, granted, List.append_nil]
    exact h
  | remove node =>
    have hstore : (w.remove node).2.store = (w.store.remove node).2 := store_withStore w _
    simp only [step, hstore, granted, List.append_nil]
    exact h.remove node
  | patch node p =>
    simp only [granted, List.append_nil]
    exact recalls_patch h node p
  | animate node clip playState wrap =>
    simp only [granted, List.append_nil]
    exact recalls_animate h node clip playState wrap
  | setClosed closed =>
    have hstore : (w.setClosed closed).store = w.store := StoreHost.store_setClosed w.session.scene closed
    simp only [step, hstore, granted, List.append_nil]
    exact h
  | fire node event =>
    have hstore : (w.fire node event).2.store = w.store := store_of_shared (shared_foldl_tell w _)
    simp only [step, hstore, granted, List.append_nil]
    exact h
  | takeEvents id =>
    simp only [step, store_of_shared (shared_takeEvents w id), granted, List.append_nil]
    exact h
  | attach | drop | breakSession =>
    simp only [granted, List.append_nil]
    exact h

theorem recalls_run {w : World σ} {past : List Request} (h : w.store.Recalls past) (acts : List Act) :
    (w.run acts).store.Recalls (past ++ w.history acts) := by
  induction acts generalizing w past with
  | nil =>
    rw [World.history, List.append_nil]
    exact h
  | cons act rest ih =>
    rw [run_cons, World.history, ← List.append_assoc]
    exact ih (recalls_step h act)

end World

end ScriptHost
