/-
The journal over time. Of everything that happens to a world only patches are noted, each of them when it is taken, so
the journal only grows, and each element of the scene can be made again from what was added and what was noted.

- `journal_faithful`: this, after any acts in a scene that was empty at first; a call of a guest that sets an attribute
  with success notes one patch that sets just this attribute, and no other call notes anything.
- `journal_replays_walk`: a model whose animation was chosen by the host, between two patches of a guest.
-/
import ScriptHost.Proofs.Scene.Journal
import ScriptHost.Proofs.World.Edits
import ScriptHost.Proofs.World.FanOut

namespace ScriptHost

/-! ## Edits and the journal -/

namespace Edit

/-- the element that an edit adds -/
def added? : Edit → Option Element
  | add e => some e
  | _ => none

/-- the node of which an edit chooses the animation -/
def animated? : Edit → Option NodeId
  | animate node .. => some node
  | _ => none

/-- what is noted of an edit -/
def noted? : Edit → Option (NodeId × Patch)
  | patch node p => some (node, p)
  | _ => none

variable {s s' : Session SceneStore}

theorem filterMap_concat {β : Type} (f : Edit → Option β) (past : List Edit) (e : Edit) :
    (past ++ [e]).filterMap f = past.filterMap f ++ (f e).toList := by
  rw [List.filterMap_append]
  cases h : f e <;> simp [h]

theorem filterMap_toList {β : Type} (f : Edit → Option β) (e : Option Edit) :
    e.toList.filterMap f = (e.bind f).toList := by
  cases e with
  | none => rfl
  | some e => cases h : f e <;> simp [h]

theorem replays_make {past : List Edit} {e : Edit}
    (h : s.scene.Replays (past.filterMap added?) (past.filterMap animated?)) (he : e.make? s = some s') :
    s'.scene.Replays ((past ++ [e]).filterMap added?) ((past ++ [e]).filterMap animated?) := by
  simp only [filterMap_concat]
  cases e with
  | add e =>
    cases he
    simpa [added?, animated?] using h.add e
  | remove node =>
    cases he
    simpa [added?, animated?] using h.remove node
  | patch node p =>
    obtain ⟨scene, hscene, rfl⟩ := Option.map_eq_some_iff.1 he
    simpa [added?, animated?] using h.patch? hscene
  | animate node clip playState wrap =>
    obtain ⟨scene, hscene, rfl⟩ := Option.map_eq_some_iff.1 he
    simpa [added?, animated?] using h.animate? hscene
  | subscribe node event subscriber =>
    cases he
    simpa [added?, animated?] using h.subscribe node event subscriber
  | register node id =>
    cases he
    simpa [added?, animated?] using h

theorem updates_make {e : Edit} (he : e.make? s = some s') :
    s'.scene.updates = s.scene.updates ++ e.noted?.toList := by
  cases e with
  | add | remove | register =>
    cases he
    exact (List.append_nil _).symm
  | patch node p =>
    obtain ⟨scene, hscene, rfl⟩ := Option.map_eq_some_iff.1 he
    obtain ⟨_, _, -, -, rfl⟩ := SceneStore.patch?_eq_some.1 hscene
    exact List.reverse_cons
  | animate node clip playState wrap =>
    obtain ⟨scene, hscene, rfl⟩ := Option.map_eq_some_iff.1 he
    obtain ⟨_, _, -, -, rfl⟩ := SceneStore.animate?_eq_some.1 hscene
    exact (List.append_nil _).symm
  | subscribe node event subscriber =>
    cases he
    simp only [SceneStore.subscribe, noted?, Option.toList_none, List.append_nil]
    split <;> rfl

/-- the journal grows by the patches among the edits -/
theorem updates_makeAll {edits : List Edit} (h : makeAll? s edits = some s') :
    s'.scene.updates = s.scene.updates ++ edits.filterMap noted? := by
  have hstart : s.scene.updates = s.scene.updates ++ ([] : List Edit).filterMap noted? := (List.append_nil _).symm
  refine induct_all (P := fun past now => now.scene.updates = s.scene.updates ++ past.filterMap noted?) ?_ hstart h
  intro past now e next hpast he
  rw [updates_make he, hpast, List.append_assoc, filterMap_concat]

end Edit

/-! ## Calls -/

namespace SceneCall

variable {μ : Type} [LinearMemory μ] {σ : Type} [SceneBackend σ] {caller : ScriptId} {m : μ} {s : Session σ}
  {call : SceneCall}

/-- a call that sets an attribute with success makes one patch, which sets just this attribute -/
theorem edit?_of_sets {d : Int32} {a : Attribute} (hsets : call.sets? = some (d, a))
    (h : (call.run caller m s).status = .success) : ∃ node e, ∃ v : AttributeValue,
      s.resolve d = some (node, e) ∧ v.which = a ∧ call.edit? caller m s = some (.patch node (v.patch e)) := by
  rw [edit?, if_pos h]
  cases hplan : call.plan caller m s with
  | error status =>
    rw [run, hplan] at h
    exact absurd (hplan.trans (congrArg _ h)) (honest_plan caller m s call)
  | ok act =>
    obtain ⟨node, e, v, hfound, -, hv, rfl⟩ := (plan_eq_ok_of_sets hsets).1 hplan
    exact ⟨node, e, v, hfound, which_of_passed hsets hv, rfl⟩

theorem edit?_of_failure (h : (call.run caller m s).status ≠ .success) : call.edit? caller m s = none := by
  rw [edit?, if_neg h]

/-- a call that sets no attribute makes no patch -/
theorem noted?_of_not_sets (h : call.sets? = none) : (call.edit? caller m s).bind Edit.noted? = none := by
  rw [edit?]
  split
  · split
    · rename_i node p hplan
      obtain ⟨d, e, v, hsets, -⟩ := plan_means hplan
      rw [h] at hsets
      cases hsets
    · rfl
    · rfl
    · rfl
  · rfl

/-- the node of which a call has chosen the animation: the one that it names, if it is made for that and succeeds -/
def chosen? (caller : ScriptId) (m : μ) (s : Session σ) (call : SceneCall) : Option NodeId :=
  if (call.run caller m s).status = .success then (call.chooses?.bind s.resolve).map Prod.fst else none

theorem animated?_edit? : (call.edit? caller m s).bind Edit.animated? = call.chosen? caller m s := by
  by_cases hsuccess : (call.run caller m s).status = .success
  · rw [edit?, chosen?, if_pos hsuccess, if_pos hsuccess]
    cases hplan : call.plan caller m s with
    | error status =>
      rw [run, hplan] at hsuccess
      exact absurd (hplan.trans (congrArg _ hsuccess)) (honest_plan caller m s call)
    | ok act =>
      have hmeans := plan_means hplan
      cases act with
      | write regions =>
        cases call with
        | changeAnimation | changeAnimationByName => cases hmeans
        | _ => rfl
      | patch node p =>
        obtain ⟨d, e, v, hsets, -⟩ := hmeans
        cases call with
        | changeAnimation | changeAnimationByName => cases hsets
        | _ => rfl
      | animate node clip playState wrap =>
        obtain ⟨d, e, hchooses, hfound⟩ := hmeans
        rw [hchooses]
        exact (congrArg (Option.map Prod.fst) hfound).symm
      | subscribe node event subscriber =>
        rw [hmeans.2]
        rfl
  · rw [edit?_of_failure hsuccess, chosen?, if_neg hsuccess]
    rfl

/-- an edit of a call adds no element -/
theorem added?_edit? : (call.edit? caller m s).bind Edit.added? = none := by
  rw [edit?]
  split
  · split <;> rfl
  · rfl

end SceneCall

section Calls

variable {σ : Type} [SceneBackend σ]

/-- the nodes of which some calls of one script have chosen the animation -/
def Session.chosen (caller : ScriptId) (s : Session σ) : List Made → List NodeId
  | [] => []
  | made :: rest => (made.call.chosen? caller made.memory s).toList ++ (s.after caller [made]).chosen caller rest

theorem Session.animated_edits (caller : ScriptId) (s : Session σ) (calls : List Made) :
    (s.edits caller calls).filterMap Edit.animated? = s.chosen caller calls := by
  induction calls generalizing s with
  | nil => rfl
  | cons made rest ih =>
    rw [edits, chosen, List.filterMap_append, ih, Edit.filterMap_toList, SceneCall.animated?_edit?]

theorem Session.added_edits (caller : ScriptId) (s : Session σ) (calls : List Made) :
    (s.edits caller calls).filterMap Edit.added? = [] := by
  induction calls generalizing s with
  | nil => rfl
  | cons made rest ih =>
    rw [edits, List.filterMap_append, ih, Edit.filterMap_toList, SceneCall.added?_edit?]
    rfl

/-- what a call notes in the journal -/
structure SceneCall.Notes {μ : Type} [SceneHost σ] (s : Session σ) (call : SceneCall) (o : SceneOutcome μ σ) :
    Prop where
  /-- one that sets an attribute with success notes one patch: of the element that it names, under the id of that
  element, and with this one attribute set -/
  set : o.status = .success → ∀ d a, call.sets? = some (d, a) → ∃ node e p, s.resolve d = some (node, e) ∧
    (SceneHost.store o.session.scene).updates = (SceneHost.store s.scene).updates ++ [(node, p)] ∧
    p.id = e.id ∧ ∀ b, p.sets b = decide (b = a)
  /-- one that fails, or sets no attribute, notes nothing -/
  silent : o.status ≠ .success ∨ call.sets? = none →
    (SceneHost.store o.session.scene).updates = (SceneHost.store s.scene).updates

end Calls

theorem notes_run {μ : Type} [LinearMemory μ] {σ : Type} [StoreHost σ] (caller : ScriptId) (m : μ) (s : Session σ)
    (call : SceneCall) : call.Notes s (call.run caller m s) := by
  have hupdates := Edit.updates_makeAll (edit_call caller m s call)
  rw [Edit.filterMap_toList] at hupdates
  refine ⟨?_, ?_⟩
  · intro hsuccess d a hsets
    obtain ⟨node, e, v, hfound, rfl, hedit⟩ := SceneCall.edit?_of_sets hsets hsuccess
    rw [hedit] at hupdates
    exact ⟨node, e, v.patch e, hfound, hupdates, v.id_patch e, v.sets_patch e⟩
  · rintro (hfailed | hsets)
    · rw [SceneCall.edit?_of_failure hfailed] at hupdates
      exact hupdates.trans (List.append_nil _)
    · rw [SceneCall.noted?_of_not_sets hsets] at hupdates
      exact hupdates.trans (List.append_nil _)

/-! ## Acts -/

namespace World

/-- the element that an act adds -/
def Act.added? : Act → Option Element
  | .add e | .addRegistered e => some e
  | _ => none

/-- can an act patch an element? -/
def Act.mayPatch : Act → Bool
  | .patch .. | .operate .. => true
  | @Act.call _ _ _ _ _ => true
  | _ => false

variable {σ : Type}

section Animations

variable [SceneHost σ]

/-- the nodes of which an animation is chosen in an act, by the host or by a guest -/
def animates (w : World σ) : Act → List NodeId
  | .animate node clip playState wrap => if (w.animate node clip playState wrap).1 then [node] else []
  | @Act.call _ _ caller m call => (call.chosen? caller m w.session).toList
  | .operate id act =>
    match w.script? id, w.operate id act with
    | some script, some st => w.session.chosen script.guestId (script.made w.shared st.trace)
    | _, _ => []
  | _ => []

/-- the nodes of which an animation is chosen in a run -/
def animated (w : World σ) : List Act → List NodeId
  | [] => []
  | act :: rest => w.animates act ++ (w.step act).animated rest

end Animations

/-! ### The edits of an act -/

section Edits

variable [SceneHost σ] (w : World σ)

theorem added_edits (act : Act) : (w.edits act).filterMap Edit.added? = act.added?.toList := by
  cases act with
  | call caller m call =>
    rw [edits, Edit.filterMap_toList, SceneCall.added?_edit?]
    rfl
  | operate id act =>
    rw [edits]
    cases w.script? id with
    | none => rfl
    | some script =>
      cases w.operate id act with
      | none => rfl
      | some st => exact Session.added_edits ..
  | register node =>
    rw [edits]
    cases SceneBackend.element? w.session.scene node <;> rfl
  | patch | animate =>
    rw [edits]
    split <;> rfl
  | _ => rfl

theorem animated_edits (act : Act) : (w.edits act).filterMap Edit.animated? = w.animates act := by
  cases act with
  | call caller m call => rw [edits, animates, Edit.filterMap_toList, SceneCall.animated?_edit?]
  | operate id act =>
    rw [edits, animates]
    cases w.script? id with
    | none => rfl
    | some script =>
      cases w.operate id act with
      | none => rfl
      | some st => exact Session.animated_edits ..
  | register node =>
    rw [edits]
    cases SceneBackend.element? w.session.scene node <;> rfl
  | patch =>
    rw [edits]
    split <;> rfl
  | animate =>
    rw [edits, animates]
    split <;> rfl
  | _ => rfl

theorem noted_edits {act : Act} (h : act.mayPatch = false) : (w.edits act).filterMap Edit.noted? = [] := by
  cases act with
  | patch | call | operate => cases h
  | register node =>
    rw [edits]
    cases SceneBackend.element? w.session.scene node <;> rfl
  | animate =>
    rw [edits]
    split <;> rfl
  | _ => rfl

theorem added_editsOf (acts : List Act) : (w.editsOf acts).filterMap Edit.added? = acts.filterMap Act.added? := by
  induction acts generalizing w with
  | nil => rfl
  | cons act rest ih =>
    rw [editsOf, List.filterMap_append, ih, added_edits]
    cases h : act.added? <;> simp [h]

theorem animated_editsOf (acts : List Act) : (w.editsOf acts).filterMap Edit.animated? = w.animated acts := by
  induction acts generalizing w with
  | nil => rfl
  | cons act rest ih => rw [editsOf, animated, List.filterMap_append, ih, animated_edits]

end Edits

variable [StoreHost σ]

/-- the journal of a world after a run is faithful -/
structure Journaled (w : World σ) (acts : List Act) : Prop where
  /-- what was noted stays noted, in its place -/
  grows : ∀ later, (w.run acts).store.updates <+: (w.run (acts ++ later)).store.updates
  /-- what calls note, in any session -/
  calls : ∀ {μ : Type} [LinearMemory μ] (s : Session σ) (caller : ScriptId) (m : μ) (call : SceneCall),
    call.Notes s (call.run caller m s)
  /-- an operation on a script changes the session by the calls that its guest makes, and not otherwise -/
  operations : ∀ id act script st, (w.run acts).script? id = some script → (w.run acts).operate id act = some st →
    st.world.session = (w.run acts).session.after script.guestId (script.made (w.run acts).shared st.trace)
  /-- a patch of the host is noted just if the scene takes it -/
  patches : ∀ node p, ((w.run acts).patch node p).2.store.updates =
    (w.run acts).store.updates ++ if ((w.run acts).patch node p).1 then [(node, p)] else []
  /-- nothing else is noted -/
  quiet : ∀ act : Act, act.mayPatch = false → ((w.run acts).step act).store.updates = (w.run acts).store.updates
  /-- the patches noted for an element are accepted one by one from what was added on, and lead to what it is now, but for
  what was chosen of its animations, if anything was -/
  replays : ∀ id e, (w.run acts).store.element? id = some e →
    ∃ original, (acts.filterMap Act.added?)[id.index]? = some original ∧
      original.Follows ((w.run acts).store.patches id) (id ∈ w.animated acts) e

/-- **The journal is faithful.** Whatever happens from an empty scene on, the journal only grows, each patch that is taken
is noted and nothing else is, and every element follows from what was added under its number by what was noted for it. -/
theorem journal_faithful (w : World σ) (h : w.store = .empty) (acts : List Act) : w.Journaled acts where
  grows later := by
    rw [run_append]
    exact ⟨_, (Edit.updates_makeAll (edits_run (w.run acts) later)).symm⟩
  calls s caller m call := notes_run caller m s call
  operations id act script st hscript hst := by
    obtain ⟨found, hfound, new, shared, hworld, -, hsession⟩ := operated_of_operate hst
    obtain rfl : found = script := Option.some.inj (hfound.symm.trans hscript)
    rw [hworld]
    exact hsession
  patches node p := by
    refine (Edit.updates_makeAll (edits_step (w.run acts) (.patch node p))).trans ?_
    rw [edits]
    split <;> rfl
  quiet act hact := by
    refine (Edit.updates_makeAll (edits_step (w.run acts) act)).trans ?_
    rw [noted_edits (w.run acts) hact]
    exact List.append_nil _
  replays := by
    have hstart : w.session.inMemory.scene.Replays ([].filterMap Edit.added?) ([].filterMap Edit.animated?) := by
      have hscene : w.session.inMemory.scene = .empty := h
      rw [hscene]
      exact SceneStore.replays_empty
    have hrun := Edit.induct_all
      (P := fun past now => now.scene.Replays (past.filterMap Edit.added?) (past.filterMap Edit.animated?))
      (fun _ _ _ _ => Edit.replays_make) hstart (edits_run w acts)
    rw [List.nil_append, added_editsOf, animated_editsOf] at hrun
    exact hrun.follows

/-- a model with two clips -/
def walker : Element := { id := some "walker", data := .model { clips := ["idle", "walk"] } }

/-- a guest hides the model, the host lets it walk, and the guest stops it -/
def walk : List Act :=
  let call (call : SceneCall) : Act := .call ⟨0⟩ (⟨.empty⟩ : ByteMemory) call
  [.addRegistered walker, call (.setDisplay firstDescriptor 1), .animate ⟨0⟩ (.name "walk") .play .loop,
    call (.setPlayState firstDescriptor 0)]

/-- both patches of the guest are noted, and the choice of the host is not; replaying what was noted gives the model with
no clip chosen -/
theorem journal_replays_walk :
    blank.store = .empty ∧ blank.animated walk = [⟨0⟩] ∧
      (blank.run walk).store.updates = [(⟨0⟩, { id := some "walker", display := some .none }),
        (⟨0⟩, { id := some "walker", playState := some .stop })] ∧
      ∀ e, (blank.run walk).store.element? ⟨0⟩ = some e →
        walker.Follows ((blank.run walk).store.patches ⟨0⟩) (⟨0⟩ ∈ blank.animated walk) e := by
  refine ⟨rfl, by decide +kernel, by decide +kernel, ?_⟩
  intro e he
  obtain ⟨original, horiginal, hfollows⟩ := (journal_faithful blank rfl walk).replays ⟨0⟩ e he
  cases horiginal
  exact hfollows

end World

end ScriptHost
