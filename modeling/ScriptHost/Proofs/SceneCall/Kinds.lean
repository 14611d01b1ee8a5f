/-
What elements are: their kinds and, of models, their clips. This is the nature of an element. No operation of a scene
gives an element another one: a patch and a choice of animation keep it (`Patch.nature_applyTo?`,
`SceneNode.nature_animate?`), and scene calls keep descriptors and ids as well (`Session.spares_call`).

- `Session.kind?`: the kind of the element that a descriptor names, as long as its node is in the scene.
- `Session.Reports.kindCode?_eq`: the code that a guest is told with a descriptor, in an enumeration or by a lookup, is the
  code of that kind.
- `SceneCall.status_eq_unsupported_iff`: whether an element that is in the scene supports a function depends on that kind
  alone, and not on what else is passed (`SceneFunction.suits_of_call?`).
-/
import ScriptHost.Proofs.Memory.Stands
import ScriptHost.Proofs.SceneCall.ById

namespace ScriptHost

/-! ## Elements -/

/-- what an element is, whatever happens to it: its kind, and the names of its clips -/
def Element.nature (e : Element) : ElementKind × List String := (e.kind, e.clips)

theorem Patch.nature_applyTo? {p : Patch} {e e' : Element} (h : p.applyTo? e = some e') : e'.nature = e.nature := by
  obtain ⟨id, display, position, rotation, scale, data⟩ := e
  rw [applyTo?] at h
  split at h
  · cases h
    cases data <;> rfl
  · cases h

theorem SceneNode.nature_animate? {node node' : SceneNode} {clip : Clip} {playState : PlayState} {wrap : AnimationWrap}
    (h : node.animate? clip playState wrap = some node') : node'.element.nature = node.element.nature := by
  obtain ⟨state, i, hdata, rfl⟩ := eq_of_animate? h
  simp only [Element.nature, Element.kind, Element.clips, hdata]
  rfl

/-! ## Scenes -/

namespace SceneStore

/-- the nature of a node's element, if the node is in the scene -/
def natureOf? (s : SceneStore) (node : NodeId) : Option (ElementKind × List String) :=
  (s.element? node).map Element.nature

variable {s s' : SceneStore} {node : NodeId}

theorem natureOf?_of_alters (h : s.Alters node s') (hnode : s'.natureOf? node = s.natureOf? node) (other : NodeId) :
    s'.natureOf? other = s.natureOf? other := by
  by_cases hother : other = node
  · rw [hother, hnode]
  · exact congrArg (Option.map Element.nature) (element?_of_alters h hother)

/-- a node is put in the place of one whose element has the same nature -/
theorem natureOf?_put {old new : SceneNode} (hold : s.node? node = some old)
    (hnature : new.element.nature = old.element.nature) :
    (s.put node (some new)).natureOf? node = s.natureOf? node := by
  have helement : s.element? node = some old.element := congrArg (Option.map SceneNode.element) hold
  rw [natureOf?, element?_put_self hold, natureOf?, helement, Option.map_some, Option.map_some, hnature]

theorem natureOf?_patch? {p : Patch} (h : s.patch? node p = some s') (other : NodeId) :
    s'.natureOf? other = s.natureOf? other := by
  refine natureOf?_of_alters (alters_patch? h) ?_ other
  obtain ⟨old, e, hold, he, rfl⟩ := patch?_eq_some.1 h
  exact natureOf?_put hold (Patch.nature_applyTo? he)

theorem natureOf?_animate? {clip : Clip} {playState : PlayState} {wrap : AnimationWrap}
    (h : s.animate? node clip playState wrap = some s') (other : NodeId) : s'.natureOf? other = s.natureOf? other := by
  refine natureOf?_of_alters (alters_animate? h) ?_ other
  obtain ⟨old, new, hold, hnew, rfl⟩ := animate?_eq_some.1 h
  exact natureOf?_put hold (SceneNode.nature_animate? hnew)

theorem natureOf?_subscribe (s : SceneStore) (node : NodeId) (event : EventKind) (subscriber : Subscriber)
    (other : NodeId) : (s.subscribe node event subscriber).natureOf? other = s.natureOf? other := by
  refine natureOf?_of_alters (alters_subscribe s node event subscriber) ?_ other
  rw [subscribe]
  split
  · rename_i old hold
    exact natureOf?_put hold rfl
  · rfl

end SceneStore

/-! ## What scene calls spare -/

namespace Session

/-- the same nodes are registered and in the scene, with the same descriptors, ids, kinds and clips -/
structure Spares (s s' : Session SceneStore) : Prop where
  names : s.SameNames s'
  natureOf? : ∀ node, s'.scene.natureOf? node = s.scene.natureOf? node

namespace Spares

theorem refl (s : Session SceneStore) : s.Spares s := ⟨.refl s, fun _ => rfl⟩

theorem trans {s t u : Session SceneStore} (h : s.Spares t) (h' : t.Spares u) : s.Spares u :=
  ⟨h.names.trans h'.names, fun node => (h'.natureOf? node).trans (h.natureOf? node)⟩

end Spares

variable {μ : Type} [LinearMemory μ]

/-- a scene call adds and removes nothing, and gives nothing another id, kind or list of clips -/
theorem spares_call (caller : ScriptId) (m : μ) (s : Session SceneStore) (call : SceneCall) :
    s.Spares (call.run caller m s).session := by
  refine ⟨sameNames_call caller m s call, ?_⟩
  intro other
  rcases call.session_cases caller m s with h | ⟨node, p, scene, -, hscene, h⟩ |
    ⟨node, clip, playState, wrap, scene, -, hscene, h⟩ | ⟨node, event, subscriber, -, h⟩
  · rw [h]
  · rw [h]
    exact SceneStore.natureOf?_patch? hscene other
  · rw [h]
    exact SceneStore.natureOf?_animate? hscene other
  · rw [h]
    exact SceneStore.natureOf?_subscribe s.scene node event subscriber other

theorem spares_after (caller : ScriptId) (s : Session SceneStore) (calls : List Made) :
    s.Spares (s.after caller calls) := by
  induction calls generalizing s with
  | nil => exact .refl s
  | cons made rest ih => exact (spares_call caller made.memory s made.call).trans (ih _)

/-! ## Kinds by descriptors -/

/-- the kind of the element that a descriptor names, as long as its node is in the scene -/
def kind? (s : Session SceneStore) (d : Int32) : Option ElementKind := (s.resolve d).map (·.2.kind)

/-- its code, as guests are told it -/
def kindCode? (s : Session SceneStore) (d : Int32) : Option Int32 := (s.kind? d).map ElementKind.code

variable {s s' : Session SceneStore} {d : Int32} {k : ElementKind}

theorem kind?_of_resolve {node : NodeId} {e : Element} (h : s.resolve d = some (node, e)) : s.kind? d = some e.kind := by
  rw [kind?, h]
  rfl

theorem kindCode?_of_resolve {node : NodeId} {e : Element} (h : s.resolve d = some (node, e)) :
    s.kindCode? d = some e.kind.code := by
  rw [kindCode?, kind?_of_resolve h]
  rfl

/-- the registry leads from a descriptor to a node, and the scene from the node to its kind -/
theorem kind?_eq_bind (s : Session SceneStore) (d : Int32) :
    s.kind? d = (s.registry.node? d).bind fun node => (s.scene.natureOf? node).map Prod.fst := by
  change ((s.registry.node? d).bind fun node => (s.scene.element? node).bind fun e => some (node, e)).map _ = _
  cases s.registry.node? d with
  | none => rfl
  | some node =>
    simp only [Option.bind_some, SceneStore.natureOf?]
    cases s.scene.element? node <;> rfl

theorem kind?_eq_some : s.kind? d = some k ↔
    ∃ node clips, s.registry.node? d = some node ∧ s.scene.natureOf? node = some (k, clips) := by
  simp [kind?_eq_bind, Option.bind_eq_some_iff, Option.map_eq_some_iff]

theorem Spares.kind?_eq (h : s.Spares s') (d : Int32) : s'.kind? d = s.kind? d := by
  rw [kind?_eq_bind, kind?_eq_bind, h.names.registry]
  exact congrArg _ (funext fun node => congrArg _ (h.natureOf? node))

theorem Spares.kindCode?_eq (h : s.Spares s') (d : Int32) : s'.kindCode? d = s.kindCode? d :=
  congrArg (Option.map ElementKind.code) (h.kind?_eq d)

end Session

/-! ## What guests are told -/

/-- what can be read where an enumeration has copied a record is one of the session's records, unless the slot of the number
reaches into it -/
theorem SceneCall.Enumeration.mem_records_of_read {μ : Type} [LinearMemory μ] [ExactMemory μ] {s : Session SceneStore}
    (e : SceneCall.Enumeration μ s) {i : Nat} (hi : i < e.copied) {p : Pointer}
    (hp : p.toNat = e.array.toNat + 8 * i) (hapart : (⟨p, 8⟩ : Span).Apart e.slot) {r : ElementRecord}
    (hread : readValue e.after p = .ok r) : r ∈ s.records := by
  obtain ⟨all, htook⟩ := e.exists_took
  have hi' : i < (s.records.take e.length.toInt.toNat).length := e.length_take.symm ▸ hi
  have hsome : (s.records.take e.length.toInt.toNat).isEmpty = false := by
    rw [List.isEmpty_eq_false_iff, ← List.length_pos_iff]
    exact Nat.zero_lt_of_lt hi'
  have hregions : e.regions all =
      [.ofValues e.array (s.records.take e.length.toInt.toNat), .ofValue e.count all] := by
    rw [regions, listing, hsome]
    rfl
  have htaken := htook.taken
  rw [hregions] at htaken
  have hspan : (Region.ofValue e.count all).span = e.slot := Region.span_ofValue e.count all
  have hvalue := readValue_of_written htaken hi' hp (hspan ▸ hapart)
  rw [htook.after, hregions, hvalue] at hread
  cases hread
  exact List.mem_of_mem_take (List.getElem_mem hi')

namespace Session

/-- a guest of the session is told a code with a descriptor: it reads both in the array of an enumeration, where the number of
all records was not written over them, or where a lookup has written them -/
inductive Reports (s : Session SceneStore) (d code : Int32) : Prop where
  | enumerated {μ : Type} [LinearMemory μ] [ExactMemory μ] (e : SceneCall.Enumeration μ s) {i : Nat} (hi : i < e.copied)
    {p : Pointer} (hp : p.toNat = e.array.toNat + 8 * i) (hapart : (⟨p, 8⟩ : Span).Apart e.slot)
    (hread : readValue e.after p = .ok (⟨d, code⟩ : ElementRecord))
  | found {μ : Type} [LinearMemory μ] [ExactMemory μ] (caller : ScriptId) (m : μ) (id : Pointer) (length : Int32)
    (out : Pointer) (hsuccess : ((SceneCall.getElementById id length out).run caller m s).status = .success)
    (hread : readValue ((SceneCall.getElementById id length out).run caller m s).memory out =
      .ok (⟨d, code⟩ : ElementRecord))

variable {s : Session SceneStore} {d code : Int32}

section Room

variable (hroom : s.registry.count ≤ Registry.room)

include hroom

theorem kindCode?_of_mem_records (hrecord : ⟨d, code⟩ ∈ s.records) : s.kindCode? d = some code := by
  obtain ⟨entry, hentry, hmap⟩ := List.mem_filterMap.1 hrecord
  obtain ⟨e, helement, heq⟩ := Option.map_eq_some_iff.1 hmap
  cases heq
  exact kindCode?_of_resolve (resolve_of_mem hroom hentry helement)

theorem Reports.kindCode?_eq (hreports : s.Reports d code) : s.kindCode? d = some code := by
  refine kindCode?_of_mem_records hroom ?_
  cases hreports with
  | enumerated e hi hp hapart hread => exact e.mem_records_of_read hi hp hapart hread
  | found caller m id length out hsuccess hread =>
    exact mem_records_of_withId? (SceneCall.withId?_of_read hsuccess hread)

end Room

end Session

/-! ## What is supported -/

namespace SceneFunction

/-- elements of a kind have what the function is about -/
def Suits : SceneFunction → ElementKind → Prop
  | getTextLength, kind | getText, kind | setText, kind | setBackgroundColor, kind => kind = .text
  | getBackgroundColor, kind => kind = .text ∨ kind = .geometry
  | changeAnimation, kind | changeAnimationByName, kind | getPlayState, kind | setPlayState, kind
  | getCurrentAnimation, kind => kind = .model
  | _, _ => True

/-- which kinds suit a call does not depend on what is passed with it -/
theorem suits_of_call? {f : SceneFunction} {args : List UInt32} {call : SceneCall} (h : f.call? args = some call) :
    call.Suits = f.Suits := by
  unfold call? at h
  split at h <;> cases h <;> rfl

end SceneFunction

namespace SceneCall

variable {μ : Type} [LinearMemory μ] [ExactMemory μ] {m : μ} {s : Session SceneStore} {caller : ScriptId}
  {call : SceneCall} {d : Int32} {k : ElementKind}

/-- a call about an element that is in the scene is refused as unsupported just if its kind does not suit -/
theorem status_eq_unsupported_iff (hd : call.descriptor? = some d) (hk : s.kind? d = some k) :
    (call.run caller m s).status = .unsupportedOperation ↔ ¬ call.Suits k := by
  obtain ⟨⟨node, e⟩, hfound, rfl⟩ := Option.map_eq_some_iff.1 hk
  constructor
  · intro hrefused hsuits
    have hchecked : Checked (call.TooLong e) (call.Faulty m s e) (call.run caller m s).status :=
      checked_of_found hd hfound hsuits
    rw [hrefused] at hchecked
    cases hchecked
  · intro hsuits
    exact status_of_error (plan_of_unsuited hd hfound hsuits)

end SceneCall

end ScriptHost
