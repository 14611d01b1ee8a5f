/-
The animations of models in the course of time. The animations of a model are touched by its own addition, by choices of a
clip and by patches, and a patch leaves the choice alone (`Edit.model?_cases`). So no model ever has a chosen clip that it
does not have, and a choice is never taken back.

- `animations_hold`: this, in every session that a run passes through, and what guests are told of it; and in any session
  whatever, what their calls do to the animations of a model.
- `animations_hold_of_walker`: a guest asks a model for its clip before and after the host has chosen one by name.
-/
import ScriptHost.Proofs.SceneCall.Animations
import ScriptHost.Proofs.World.Journal
import ScriptHost.Proofs.World.Kinds

namespace ScriptHost

open Wire

/-! ## The models of a scene -/

/-- the chosen clip is one that there is -/
def ModelState.InRange (state : ModelState) : Prop := ∀ i, state.current = some i → i < state.clips.length

namespace SceneStore

/-- the animations of a node, if it has a model -/
def model? (s : SceneStore) (node : NodeId) : Option ModelState := (s.element? node).bind (·.data.model?)

/-- no model has a chosen clip that it does not have -/
def InRange (s : SceneStore) : Prop := ∀ node state, s.model? node = some state → state.InRange

/-- the nodes were given out, and a clip is chosen of each of them that still has a model -/
def Chosen (s : SceneStore) (nodes : List NodeId) : Prop :=
  ∀ node ∈ nodes, node.index < s.next.index ∧ ∀ state, s.model? node = some state → state.current ≠ none

theorem model?_congr {s s' : SceneStore} {node : NodeId} (h : s'.element? node = s.element? node) :
    s'.model? node = s.model? node := by
  rw [model?, model?, h]

theorem model?_eq_some {s : SceneStore} {node : NodeId} {state : ModelState} :
    s.model? node = some state ↔ ∃ e, s.element? node = some e ∧ e.data = .model state := by
  rw [model?, Option.bind_eq_some_iff]
  simp only [ElementData.model?_eq_some]

theorem model?_of_node? {s : SceneStore} {node : NodeId} {found : SceneNode} {state : ModelState}
    (h : s.node? node = some found) (hstate : found.element.data.model? = some state) : s.model? node = some state := by
  rw [model?, element?, h]
  exact hstate

end SceneStore

/-- no patch reaches the clips of a model or the choice among them -/
theorem Patch.model?_applyTo? {p : Patch} {e e' : Element} (h : p.applyTo? e = some e') {state' : ModelState}
    (hstate' : e'.data.model? = some state') :
    ∃ state, e.data.model? = some state ∧ state'.clips = state.clips ∧ state'.current = state.current := by
  rw [applyTo?] at h
  split at h
  · cases h
    obtain ⟨id, display, position, rotation, scale, data⟩ := e
    cases data with
    | model state =>
      cases hstate'
      exact ⟨state, rfl, rfl, rfl⟩
    | _ => cases hstate'
  · cases h

/-- a choice that is taken is in range -/
theorem SceneNode.inRange_of_animate? {node node' : SceneNode} {clip : Clip} {playState : PlayState}
    {wrap : AnimationWrap} (h : node.animate? clip playState wrap = some node') :
    ∃ state i, node.element.data = .model state ∧ i < state.clips.length ∧
      node'.element.data = .model { state with current := some i, playState, wrap } := by
  simp only [animate?, bind, pure, Option.bind_eq_some_iff] at h
  obtain ⟨state, hstate, h⟩ := h
  rw [ElementData.model?_eq_some] at hstate
  cases clip with
  | index i =>
    dsimp only at h
    split at h
    · cases h
      exact ⟨state, i, hstate, ‹_›, rfl⟩
    · cases h
  | name name =>
    obtain ⟨i, hi, h⟩ := Option.bind_eq_some_iff.1 h
    cases h
    exact ⟨state, i, hstate, (List.idxOf?_eq_some_iff.1 hi).1, rfl⟩

/-- where the animations of a node come from when an edit has been made: they are those of the element that was added, or
they are what they were, but for the play state and the choice that was just made -/
theorem Edit.model?_cases {s s' : Session SceneStore} {edit : Edit} (h : edit.make? s = some s') {node : NodeId}
    {state' : ModelState} (hstate' : s'.scene.model? node = some state') :
    (node = s.scene.next ∧ ∃ e, edit.added? = some e ∧ e.data.model? = some state') ∨
    ∃ state, s.scene.model? node = some state ∧ state'.clips = state.clips ∧
      ((state'.current = state.current ∧ edit.animated? ≠ some node) ∨
        ∃ i < state.clips.length, state'.current = some i) := by
  have hsame (hanimated : edit.animated? ≠ some node) (hmodel : s'.scene.model? node = s.scene.model? node) :
      ∃ state, s.scene.model? node = some state ∧ state'.clips = state.clips ∧
        ((state'.current = state.current ∧ edit.animated? ≠ some node) ∨
          ∃ i < state.clips.length, state'.current = some i) :=
    ⟨state', hmodel ▸ hstate', rfl, .inl ⟨rfl, hanimated⟩⟩
  cases edit with
  | add e =>
    cases h
    rw [SceneStore.model?, SceneStore.element?_add] at hstate'
    split at hstate'
    · exact .inl ⟨‹_›, e, rfl, hstate'⟩
    · exact .inr ⟨state', hstate', rfl, .inl ⟨rfl, nofun⟩⟩
  | remove removed =>
    cases h
    rw [SceneStore.model?, SceneStore.element?_remove] at hstate'
    split at hstate'
    · cases hstate'
    · exact .inr ⟨state', hstate', rfl, .inl ⟨rfl, nofun⟩⟩
  | patch id p =>
    obtain ⟨scene, hscene, rfl⟩ := Option.map_eq_some_iff.1 h
    right
    by_cases hid : node = id
    · subst hid
      obtain ⟨old, new, hold, hnew, rfl⟩ := SceneStore.patch?_eq_some.1 hscene
      obtain ⟨e, he, hdata⟩ := SceneStore.model?_eq_some.1 hstate'
      obtain rfl : new = e := Option.some.inj ((SceneStore.element?_put_self hold { old with element := new }).symm.trans he)
      obtain ⟨state, hstate, hclips, hcurrent⟩ := Patch.model?_applyTo? hnew (ElementData.model?_eq_some.2 hdata)
      exact ⟨state, SceneStore.model?_of_node? hold hstate, hclips, .inl ⟨hcurrent, nofun⟩⟩
    · exact hsame nofun (SceneStore.model?_congr (SceneStore.element?_of_alters (SceneStore.alters_patch? hscene) hid))
  | animate id clip playState wrap =>
    obtain ⟨scene, hscene, rfl⟩ := Option.map_eq_some_iff.1 h
    right
    by_cases hid : node = id
    · subst hid
      obtain ⟨old, new, hold, hnew, rfl⟩ := SceneStore.animate?_eq_some.1 hscene
      obtain ⟨e, he, hdata⟩ := SceneStore.model?_eq_some.1 hstate'
      obtain rfl : new.element = e := Option.some.inj ((SceneStore.element?_put_self hold new).symm.trans he)
      obtain ⟨state, i, hstate, hi, hchosen⟩ := SceneNode.inRange_of_animate? hnew
      obtain rfl : _ = state' := ElementData.model.inj (hchosen.symm.trans hdata)
      exact ⟨state, SceneStore.model?_of_node? hold (ElementData.model?_eq_some.2 hstate), rfl, .inr ⟨i, hi, rfl⟩⟩
    · refine hsame (fun heq => hid (Option.some.inj heq).symm) ?_
      exact SceneStore.model?_congr (SceneStore.element?_of_alters (SceneStore.alters_animate? hscene) hid)
  | subscribe id event subscriber =>
    cases h
    exact .inr (hsame nofun (SceneStore.model?_congr (SceneStore.element?_subscribe ..)))
  | register id name =>
    cases h
    exact .inr (hsame nofun rfl)

/-! ## Edits -/

namespace Edit

variable {s s' : Session SceneStore} {edit : Edit} {nodes : List NodeId}

theorem inRange_make? (h : edit.make? s = some s') (hs : s.scene.InRange)
    (hadded : ∀ e state, edit.added? = some e → e.data.model? = some state → state.InRange) : s'.scene.InRange := by
  intro node state' hstate'
  rcases model?_cases h hstate' with ⟨-, e, he, hnew⟩ | ⟨state, hstate, hclips, ⟨hcurrent, -⟩ | ⟨i, hi, hcurrent⟩⟩
  · exact hadded e state' he hnew
  · intro i hi
    rw [hclips]
    exact hs node state hstate i (hcurrent ▸ hi)
  · intro j hj
    obtain rfl : i = j := Option.some.inj (hcurrent.symm.trans hj)
    rwa [hclips]

/-- a node of which a clip is chosen was given out -/
theorem index_lt_of_animated? (h : edit.make? s = some s') {node : NodeId} (hnode : edit.animated? = some node) :
    node.index < s.scene.next.index := by
  cases edit with
  | animate id clip playState wrap =>
    cases hnode
    obtain ⟨scene, hscene, -⟩ := Option.map_eq_some_iff.1 h
    obtain ⟨old, new, hold, -⟩ := SceneStore.animate?_eq_some.1 hscene
    exact SceneStore.lt_size_of_node? hold
  | _ => cases hnode

theorem chosen_make? (h : edit.make? s = some s') (hs : s.scene.Chosen nodes) :
    s'.scene.Chosen (nodes ++ edit.animated?.toList) := by
  have hnext := (ages_make? h).next
  intro node hnode
  have hgiven : node.index < s.scene.next.index := by
    rcases List.mem_append.1 hnode with hbefore | hnow
    · exact (hs node hbefore).1
    · exact index_lt_of_animated? h (Option.mem_toList.1 hnow)
  refine ⟨Nat.lt_of_lt_of_le hgiven hnext, fun state' hstate' => ?_⟩
  rcases model?_cases h hstate' with ⟨rfl, -⟩ | ⟨state, hstate, -, ⟨hcurrent, hother⟩ | ⟨i, -, hcurrent⟩⟩
  · exact absurd hgiven (Nat.lt_irrefl _)
  · rcases List.mem_append.1 hnode with hbefore | hnow
    · rw [hcurrent]
      exact (hs node hbefore).2 state hstate
    · exact absurd (Option.mem_toList.1 hnow) hother
  · rw [hcurrent]
    exact nofun

theorem inRange_makeAll? {edits : List Edit} (h : makeAll? s edits = some s') (hs : s.scene.InRange)
    (hadded : ∀ e ∈ edits.filterMap added?, ∀ state, e.data.model? = some state → state.InRange) :
    s'.scene.InRange := by
  have hall := @induct_all (fun past now => (∀ e ∈ past.filterMap added?, ∀ state, e.data.model? = some state →
    state.InRange) → now.scene.InRange) ?_ [] s s' (fun _ => hs) edits h
  · exact hall hadded
  · intro past now edit next hpast hnext hadded
    simp only [filterMap_concat, List.mem_append] at hadded
    exact inRange_make? hnext (hpast fun e he => hadded e (.inl he)) fun e state he => hadded e (.inr (by simp [he])) state

theorem chosen_makeAll? {edits : List Edit} (h : makeAll? s edits = some s') (hs : s.scene.Chosen nodes) :
    s'.scene.Chosen (nodes ++ edits.filterMap animated?) := by
  refine @induct_all (fun past now => now.scene.Chosen (nodes ++ past.filterMap animated?)) ?_ [] s s' ?_ edits h
  · intro past now edit next hpast hnext
    rw [filterMap_concat, ← List.append_assoc]
    exact chosen_make? hnext hpast
  · rw [List.filterMap_nil, List.append_nil]
    exact hs

end Edit

/-! ## Runs -/

namespace World

variable {w : World SceneStore} {acts : List Act} {edits : List Edit} {s : Session SceneStore}

/-- a session that the run passes through, and the edits by which the run has come to it -/
inductive PassesBy (w : World SceneStore) (acts : List Act) : List Edit → Session SceneStore → Prop where
  | between {early : List Act} (h : early <+: acts) : w.PassesBy acts (w.editsOf early) (w.run early).session
  | within {early : List Act} {id : ScriptId} {act : ScriptAct} (h : early ++ [.operate id act] <+: acts)
    {script : Script} (hscript : (w.run early).script? id = some script)
    {st : Step SceneStore (Option (Except ScriptFailure Unit))} (hst : (w.run early).operate id act = some st)
    {calls : List Made} (hcalls : calls <+: script.made (w.run early).shared st.trace) :
    w.PassesBy acts (w.editsOf early ++ (w.run early).session.edits script.guestId calls)
      ((w.run early).session.after script.guestId calls)

theorem exists_passesBy (h : w.Passes acts s) : ∃ edits, w.PassesBy acts edits s := by
  cases h with
  | between h => exact ⟨_, .between h⟩
  | within h hscript hst hcalls => exact ⟨_, .within h hscript hst hcalls⟩

theorem PassesBy.makeAll? (h : w.PassesBy acts edits s) : Edit.makeAll? w.session edits = some s := by
  cases h with
  | between h => exact edits_run w _
  | @within early id act h script hscript st hst calls hcalls =>
    exact Edit.makeAll?_append (edits_run w early) (edits_after script.guestId (w.run early).session calls)

/-- only the host adds elements -/
theorem PassesBy.mem_added (h : w.PassesBy acts edits s) {e : Element} (he : e ∈ edits.filterMap Edit.added?) :
    e ∈ acts.filterMap Act.added? := by
  cases h with
  | between h =>
    rw [added_editsOf] at he
    exact (h.sublist.filterMap _).subset he
  | @within early id act h script hscript st hst calls hcalls =>
    rw [List.filterMap_append, added_editsOf, Session.added_edits, List.append_nil] at he
    exact (((List.prefix_append _ _).trans h).sublist.filterMap _).subset he

/-- no clip was ever chosen of a node: none of the edits did so, and before none of them the node had a model with a chosen
clip -/
def NeverChosen (w : World SceneStore) (edits : List Edit) (node : NodeId) : Prop :=
  node ∉ edits.filterMap Edit.animated? ∧ ∀ past, past <+: edits → ∀ before, Edit.makeAll? w.session past = some before →
    ∀ state, before.scene.model? node = some state → state.current = none

/-- a model of which no clip is chosen now never had one -/
theorem PassesBy.neverChosen (h : w.PassesBy acts edits s) {node : NodeId} {state : ModelState}
    (hstate : s.scene.model? node = some state) (hnone : state.current = none) : w.NeverChosen edits node := by
  refine ⟨fun hanimated => ?_, ?_⟩
  · have hstart : w.session.scene.Chosen [] := nofun
    have hchosen := Edit.chosen_makeAll? h.makeAll? hstart
    exact (hchosen node hanimated).2 state hstate hnone
  · rintro past ⟨later, rfl⟩ before hbefore old hold
    by_contra hsome
    obtain ⟨e, he, -⟩ := SceneStore.model?_eq_some.1 hold
    have hstart : before.scene.Chosen [node] := by
      intro other hother
      obtain rfl := List.mem_singleton.1 hother
      refine ⟨SceneStore.index_lt_of_element? he, fun found hfound => ?_⟩
      rwa [Option.some.inj (hfound.symm.trans hold)]
    have hlater : Edit.makeAll? before later = some s := by
      have hall := h.makeAll?
      rw [Edit.makeAll?, List.foldlM_append] at hall
      obtain ⟨middle, hmiddle, hrest⟩ := Option.bind_eq_some_iff.1 hall
      obtain rfl : middle = before := Option.some.inj (hmiddle.symm.trans hbefore)
      exact hrest
    have hchosen := Edit.chosen_makeAll? hlater hstart
    exact (hchosen node (List.mem_append_left _ (List.mem_singleton_self node))).2 state hstate hnone

theorem PassesBy.inRange (h : w.PassesBy acts edits s) (hstart : w.store.InRange)
    (hadded : ∀ e ∈ acts.filterMap Act.added?, ∀ state, e.data.model? = some state → state.InRange) :
    s.scene.InRange :=
  Edit.inRange_makeAll? h.makeAll? hstart fun e he => hadded e (h.mem_added he)

/-- what holds of the animations of models -/
structure AnimationsHold (w : World SceneStore) (acts : List Act) : Prop where
  /-- calls by name and by index agree, what was chosen is told, and starting and stopping leaves it alone -/
  calls : ∀ (s : Session SceneStore) d node e state, s.resolve d = some (node, e) → e.data = .model state →
    state.clips.length < signedLimit → s.Animates d node e state
  /-- in the run no model has a chosen clip that it does not have -/
  inRange : ∀ s, w.Passes acts s → ∀ node e state, s.scene.element? node = some e → e.data = .model state →
    ∀ i, state.current = some i → i < state.clips.length
  /-- in the run guests are told -1 or the index of a clip that there is, and -1 only if no clip was ever chosen -/
  told : ∀ edits s, w.PassesBy acts edits s → ∀ d node e state, s.resolve d = some (node, e) → e.data = .model state →
    ∃ word : Int32, (∀ out, s.Yields (.getCurrentAnimation d out) out (encode word).toByteArray) ∧
      (word = -1 ∨ ∃ i < state.clips.length, state.current = some i ∧ word.toInt = i) ∧
      (word = -1 → state.clips.length < signedLimit → w.NeverChosen edits node)

/-- **Animations hold.** A clip can be chosen by its name or by its index, and it is the first one of that name that is
chosen. In a run in which no model comes with a chosen clip that it does not have, no model ever gets one, and what guests
are told of a model is the index of a clip of it, unless no clip of it was ever chosen. -/
theorem animations_hold (w : World SceneStore) (acts : List Act) (hstart : w.store.InRange)
    (hadded : ∀ e ∈ acts.filterMap Act.added?, ∀ state, e.data.model? = some state → state.InRange) :
    w.AnimationsHold acts where
  calls _ _ _ _ _ hfound hstate hfew := Session.animates_of_model hfound hstate hfew
  inRange s hpasses node e state he hstate := by
    obtain ⟨edits, hpasses⟩ := exists_passesBy hpasses
    exact hpasses.inRange hstart hadded node state (SceneStore.model?_eq_some.2 ⟨e, he, hstate⟩)
  told edits s hpasses d node e state hfound hstate := by
    have hmodel : s.scene.model? node = some state :=
      SceneStore.model?_eq_some.2 ⟨e, (Session.resolve_eq_some.1 hfound).2, hstate⟩
    refine ⟨SceneCall.currentIndex state, Session.yields_getCurrentAnimation hfound hstate, ?_⟩
    cases hcurrent : state.current with
    | none =>
      have hword : SceneCall.currentIndex state = -1 := by simp only [SceneCall.currentIndex, hcurrent]
      exact ⟨.inl hword, fun _ _ => hpasses.neverChosen hmodel hcurrent⟩
    | some i =>
      have hi : i < state.clips.length := hpasses.inRange hstart hadded node state hmodel i hcurrent
      by_cases hfits : i < signedLimit
      · have hword := SceneCall.currentIndex_of_lt hcurrent hfits
        refine ⟨.inr ⟨i, hi, rfl, hword⟩, fun hminus => ?_⟩
        rw [hminus] at hword
        exact absurd hword (by rw [show (-1 : Int32).toInt = -1 from rfl]; omega)
      · -- the index is too large for a word, so there are more clips than words
        have hword : SceneCall.currentIndex state = -1 := by simp only [SceneCall.currentIndex, hcurrent, if_neg hfits]
        exact ⟨.inl hword, fun _ hfew => absurd (Nat.lt_trans hi hfew) hfits⟩

/-- the model after a guest has hidden it, the host has chosen the second clip and the guest has stopped it -/
def stoppedWalker : Element :=
  { walker with
    display := .none
    data := .model { clips := ["idle", "walk"], current := some 1, playState := .stop, wrap := .loop } }

/-- a guest is told that no clip of the model was chosen; after the host has chosen "walk" it is told the index of that clip,
though a guest has stopped the model meanwhile -/
theorem animations_hold_of_walker :
    let early := (blank.run (walk.take 1)).session
    let late := (blank.run walk).session
    (∀ out, early.Yields (.getCurrentAnimation firstDescriptor out) out (encode (-1 : Int32)).toByteArray) ∧
      ∀ out, late.Yields (.getCurrentAnimation firstDescriptor out) out (encode (1 : Int32)).toByteArray := by
  intro early late
  have hstart : blank.store.InRange := by
    intro node state hstate
    obtain ⟨e, he, -⟩ := SceneStore.model?_eq_some.1 hstate
    exact absurd (SceneStore.index_lt_of_element? he) (Nat.not_lt_zero _)
  have hadded : ∀ e ∈ walk.filterMap Act.added?, ∀ state, e.data.model? = some state → state.InRange := by
    intro e he state hstate
    obtain rfl : e = walker := List.mem_singleton.1 he
    cases hstate
    exact nofun
  have hold := animations_hold blank walk hstart hadded
  have hearly : early.resolve firstDescriptor = some (⟨0⟩, walker) := by decide +kernel
  have hlate : late.resolve firstDescriptor = some (⟨0⟩, stoppedWalker) := by decide +kernel
  constructor
  · obtain ⟨word, hyields, rfl | ⟨i, -, hcurrent, -⟩, -⟩ :=
      hold.told _ early (.between (List.take_prefix ..)) firstDescriptor ⟨0⟩ walker _ hearly rfl
    · exact hyields
    · cases hcurrent
  · obtain ⟨word, hyields, htold, hnever⟩ :=
      hold.told _ late (.between (List.prefix_refl walk)) firstDescriptor ⟨0⟩ stoppedWalker _ hlate rfl
    rcases htold with hminus | ⟨i, -, hcurrent, hword⟩
    · have hanimated : blank.animated walk = [⟨0⟩] := by decide +kernel
      have hunchosen := (hnever hminus (by decide)).1
      rw [animated_editsOf, hanimated] at hunchosen
      exact absurd (List.mem_singleton_self _) hunchosen
    · cases hcurrent
      obtain rfl : word = 1 := Int32.toInt_inj.1 hword
      exact hyields

end World

end ScriptHost
