/-
The journal of a scene in memory. A scene notes each patch that it takes and no other change. So an element can be made
again from what it was when it was added, by the patches that were noted for its node (`SceneStore.Replays`). What was
chosen of the animations of a model is not noted; it does not decide whether a patch is taken, so the patches can be
replayed all the same (`Patch.applyTo?_of_stilled`). Each operation of a scene keeps this up.
-/
import ScriptHost.Proofs.Scene.Store

namespace ScriptHost

/-! ## Elements without their animations -/

/-- the animations of a model as if nothing was ever chosen of them -/
def ElementData.stilled : ElementData → ElementData
  | .model state => .model { clips := state.clips }
  | data => data

/-- the element without the choice of an animation -/
def Element.stilled (e : Element) : Element := { e with data := e.data.stilled }

theorem Patch.applyTo?_stilled (p : Patch) (e : Element) :
    (p.applyTo? e.stilled).map Element.stilled = (p.applyTo? e).map Element.stilled := by
  obtain ⟨id, display, position, rotation, scale, data⟩ := e
  have hfits : p.fits data.stilled = p.fits data := by cases data <;> rfl
  have hdata : (p.applyData data.stilled).stilled = (p.applyData data).stilled := by cases data <;> rfl
  rw [applyTo?, applyTo?, Element.stilled, hfits]
  split
  · simp only [Option.map_some, Element.stilled, hdata]
  · rfl

/-- the choice of an animation does not decide whether a patch is taken -/
theorem Patch.applyTo?_of_stilled {p : Patch} {e e' new : Element} (h : e.stilled = e'.stilled)
    (hp : p.applyTo? e' = some new) : ∃ other, p.applyTo? e = some other ∧ other.stilled = new.stilled := by
  have hmap : (p.applyTo? e).map Element.stilled = some new.stilled := by
    rw [← p.applyTo?_stilled e, h, p.applyTo?_stilled e', hp]
    rfl
  exact Option.map_eq_some_iff.1 hmap

theorem SceneNode.eq_of_animate? {node node' : SceneNode} {clip : Clip} {playState : PlayState}
    {wrap : AnimationWrap} (h : node.animate? clip playState wrap = some node') :
    ∃ state i, node.element.data = .model state ∧ node' =
      { node with element := { node.element with data := .model { state with current := some i, playState, wrap } } } := by
  simp only [SceneNode.animate?, bind, pure, Option.bind_eq_some_iff] at h
  obtain ⟨state, hstate, h⟩ := h
  have hdata : node.element.data = .model state := by
    cases hd : node.element.data <;> rw [hd] at hstate <;> cases hstate
    rfl
  cases clip with
  | index i =>
    dsimp only at h
    split at h
    · cases h
      exact ⟨state, i, hdata, rfl⟩
    · cases h
  | name name =>
    obtain ⟨i, -, h⟩ := Option.bind_eq_some_iff.1 h
    cases h
    exact ⟨state, i, hdata, rfl⟩

theorem SceneNode.stilled_animate? {node node' : SceneNode} {clip : Clip} {playState : PlayState}
    {wrap : AnimationWrap} (h : node.animate? clip playState wrap = some node') :
    node'.element.stilled = node.element.stilled := by
  obtain ⟨state, i, hdata, rfl⟩ := eq_of_animate? h
  simp only [Element.stilled, hdata]
  rfl

/-! ## Replays -/

/-- an element after some patches; `none` if one of them is rejected -/
def Element.replay (e : Element) (patches : List Patch) : Option Element := patches.foldlM (fun e p => p.applyTo? e) e

/-- an element is what some patches make of an original; if animations were chosen, it may differ in them -/
def Element.Follows (original : Element) (patches : List Patch) (animated : Prop) (e : Element) : Prop :=
  ∃ last, original.replay patches = some last ∧ last.stilled = e.stilled ∧ (¬ animated → last = e)

namespace Element.Follows

variable {original e new : Element} {patches : List Patch} {animated : Prop}

theorem refl (e : Element) (animated : Prop) : e.Follows [] animated e := ⟨e, rfl, rfl, fun _ => rfl⟩

theorem patch {p : Patch} (h : original.Follows patches animated e) (hp : p.applyTo? e = some new) :
    original.Follows (patches ++ [p]) animated new := by
  obtain ⟨last, hreplay, hstilled, hexact⟩ := h
  obtain ⟨other, hother, hsame⟩ := Patch.applyTo?_of_stilled hstilled hp
  refine ⟨other, ?_, hsame, ?_⟩
  · rw [replay] at hreplay ⊢
    rw [List.foldlM_append, hreplay]
    refine Option.bind_eq_some_iff.2 ⟨last, rfl, ?_⟩
    rw [List.foldlM_cons]
    exact Option.bind_eq_some_iff.2 ⟨other, hother, rfl⟩
  · intro hanimated
    rw [hexact hanimated, hp] at hother
    exact (Option.some.inj hother).symm

theorem animate (h : original.Follows patches animated e) (hnew : new.stilled = e.stilled) :
    original.Follows patches True new := by
  obtain ⟨last, hreplay, hstilled, -⟩ := h
  exact ⟨last, hreplay, hstilled.trans hnew.symm, fun hnot => absurd trivial hnot⟩

theorem mono (h : original.Follows patches animated e) {more : Prop} (hmore : animated → more) :
    original.Follows patches more e := by
  obtain ⟨last, hreplay, hstilled, hexact⟩ := h
  exact ⟨last, hreplay, hstilled, fun hnot => hexact fun hanimated => hnot (hmore hanimated)⟩

end Element.Follows

namespace SceneStore

/-- the patches that were noted for a node, in order -/
def patches (s : SceneStore) (id : NodeId) : List Patch := (s.updates.filter (·.1 = id)).map (·.2)

/-- every element of the scene follows from what was added under its number, by the patches that were noted for it -/
structure Replays (s : SceneStore) (added : List Element) (animated : List NodeId) : Prop where
  size : s.nodes.size = added.length
  /-- what was noted is about nodes that have a number already -/
  known : ∀ entry ∈ s.journal, entry.1.index < s.nodes.size
  follows : ∀ id e, s.element? id = some e →
    ∃ original, added[id.index]? = some original ∧ original.Follows (s.patches id) (id ∈ animated) e

variable {s s' : SceneStore} {id other : NodeId} {added : List Element} {animated : List NodeId}

theorem patches_of_unknown (h : ∀ entry ∈ s.journal, entry.1 ≠ id) : s.patches id = [] := by
  rw [patches, List.filter_eq_nil_iff.2, List.map_nil]
  intro entry hentry
  simpa using h entry (List.mem_reverse.1 hentry)

theorem patches_cons {p : Patch} (h : s'.journal = (id, p) :: s.journal) (other : NodeId) :
    s'.patches other = s.patches other ++ if id = other then [p] else [] := by
  rw [patches, updates, h, List.reverse_cons, List.filter_append, List.map_append]
  congr 1
  by_cases heq : id = other <;> simp [heq]

theorem replays_empty : Replays .empty [] [] where
  size := rfl
  known _ h := nomatch h
  follows id e h := by
    rw [element?, node?, empty] at h
    simp at h

namespace Replays

/-- the elements and the journal are all that matters -/
theorem congr (h : s.Replays added animated) (hsize : s'.nodes.size = s.nodes.size)
    (hjournal : s'.journal = s.journal) (helements : ∀ id, s'.element? id = s.element? id) :
    s'.Replays added animated where
  size := hsize.trans h.size
  known entry hentry := by
    rw [hsize]
    exact h.known entry (hjournal ▸ hentry)
  follows id e he := by
    have hpatches : s'.patches id = s.patches id := by rw [patches, updates, hjournal, ← updates, ← patches]
    rw [hpatches]
    exact h.follows id e (helements id ▸ he)

theorem add (h : s.Replays added animated) (e : Element) : (s.add e).2.Replays (added ++ [e]) animated := by
  have hsize : (s.add e).2.nodes.size = s.nodes.size + 1 := Array.size_push ..
  refine ⟨?_, ?_, ?_⟩
  · rw [hsize, h.size, List.length_append, List.length_singleton]
  · intro entry hentry
    have hknown := h.known entry hentry
    omega
  · intro id current hcurrent
    have hpatches : (s.add e).2.patches id = s.patches id := rfl
    by_cases hnew : id.index = s.nodes.size
    · -- the number is fresh, so nothing was noted for it yet
      have hunknown : ∀ entry ∈ s.journal, entry.1 ≠ id := by
        intro entry hentry heq
        have hknown := h.known entry hentry
        rw [heq, hnew] at hknown
        exact Nat.lt_irrefl _ hknown
      obtain rfl : e = current := by simpa [element?, node?, SceneStore.add, hnew] using hcurrent
      refine ⟨e, ?_, ?_⟩
      · rw [hnew, h.size, List.getElem?_concat_length]
      · rw [hpatches, patches_of_unknown hunknown]
        exact .refl e _
    · have helement : (s.add e).2.element? id = s.element? id := by
        simp only [element?, node?, SceneStore.add, Array.getElem?_push, if_neg hnew]
      rw [helement] at hcurrent
      obtain ⟨original, horiginal, hfollows⟩ := h.follows id current hcurrent
      refine ⟨original, ?_, hfollows⟩
      rw [List.getElem?_append_left (List.getElem?_eq_some_iff.1 horiginal).1]
      exact horiginal

theorem remove (h : s.Replays added animated) (id : NodeId) : (s.remove id).2.Replays added animated where
  size := Array.size_setIfInBounds.trans h.size
  known entry hentry := Nat.lt_of_lt_of_eq (h.known entry hentry) Array.size_setIfInBounds.symm
  follows other e he := by
    by_cases hother : other = id
    · rw [hother, element?, node?_remove_self] at he
      cases he
    · have hsame : (s.remove id).2.element? other = s.element? other := by rw [element?_remove, if_neg hother]
      exact h.follows other e (hsame ▸ he)

theorem patch? {p : Patch} (h : s.Replays added animated) (hp : s.patch? id p = some s') :
    s'.Replays added animated := by
  obtain ⟨node, new, hnode, happly, rfl⟩ := patch?_eq_some.1 hp
  have hsize : (s.put id (some { node with element := new })).nodes.size = s.nodes.size := Array.size_setIfInBounds
  refine ⟨hsize.trans h.size, ?_, ?_⟩
  · intro entry hentry
    refine Nat.lt_of_lt_of_eq ?_ hsize.symm
    rcases List.mem_cons.1 hentry with rfl | hbefore
    · exact lt_size_of_node? hnode
    · exact h.known entry hbefore
  · intro other e he
    rw [patches_cons rfl]
    by_cases hother : id = other
    · subst hother
      obtain ⟨original, horiginal, hfollows⟩ := h.follows id node.element (congrArg (Option.map _) hnode)
      have hnew : new = e := Option.some.inj ((element?_put_self hnode { node with element := new }).symm.trans he)
      rw [if_pos rfl, ← hnew]
      exact ⟨original, horiginal, hfollows.patch happly⟩
    · have hsame : (s.put id (some { node with element := new })).element? other = s.element? other :=
        element?_put_of_ne (fun heq => hother heq.symm) _
      rw [if_neg hother, List.append_nil]
      exact h.follows other e (hsame ▸ he)

theorem animate? {clip : Clip} {playState : PlayState} {wrap : AnimationWrap} (h : s.Replays added animated)
    (ha : s.animate? id clip playState wrap = some s') : s'.Replays added (animated ++ [id]) := by
  obtain ⟨node, node', hnode, hnode', rfl⟩ := animate?_eq_some.1 ha
  have hsize : (s.put id (some node')).nodes.size = s.nodes.size := Array.size_setIfInBounds
  refine ⟨hsize.trans h.size, fun entry hentry => Nat.lt_of_lt_of_eq (h.known entry hentry) hsize.symm, ?_⟩
  intro other e he
  have hpatches : (s.put id (some node')).patches other = s.patches other := rfl
  rw [hpatches]
  by_cases hother : other = id
  · subst hother
    obtain ⟨original, horiginal, hfollows⟩ := h.follows other node.element (congrArg (Option.map _) hnode)
    have hnew : node'.element = e := Option.some.inj ((element?_put_self hnode node').symm.trans he)
    refine ⟨original, horiginal, (hfollows.animate ?_).mono fun _ => ?_⟩
    · rw [← hnew]
      exact SceneNode.stilled_animate? hnode'
    · exact List.mem_append_right _ (List.mem_singleton_self _)
  · have hsame : (s.put id (some node')).element? other = s.element? other := element?_put_of_ne hother _
    obtain ⟨original, horiginal, hfollows⟩ := h.follows other e (hsame ▸ he)
    exact ⟨original, horiginal, hfollows.mono (List.mem_append_left _)⟩

theorem subscribe (h : s.Replays added animated) (id : NodeId) (event : EventKind) (subscriber : Subscriber) :
    (s.subscribe id event subscriber).Replays added animated := by
  rw [SceneStore.subscribe]
  split
  · rename_i node hnode
    refine h.congr Array.size_setIfInBounds rfl ?_
    intro other
    by_cases hother : other = id
    · rw [hother, element?_put_self hnode, element?, hnode]
      rfl
    · exact element?_put_of_ne hother _
  · exact h

end Replays

end SceneStore

end ScriptHost
