/-
What can stand against a scene call, told from the call, the session and the bytes of the memory:
- what it names is not there (`SceneCall.Missing`);
- the element does not have what the call is about (`SceneCall.Unable`);
- a text is too long for the guest's buffer, or for a word that tells its length (`SceneCall.Short`);
- an argument is negative, stands for nothing, or leads out of the memory (`SceneCall.Invalid`).

Each check of a call has two outcomes, and the argument tells which (`natural_cases`, `coded_cases`, `readValue_cases`,
`readText_cases`). What the checks let through, a scene in memory takes: a patch always, a clip if there is one, an answer
if there is room for it (`status_of_patch`, `status_of_animate`, `status_of_write`).
-/
import ScriptHost.Proofs.Registry
import ScriptHost.Proofs.Scene.Store
import ScriptHost.Proofs.SceneCall.Attributes
import ScriptHost.Proofs.SceneCall.Outcome

namespace ScriptHost

open Wire

namespace Element

/-- the text of a text element; any other element has none -/
def content (e : Element) : String := (e.data.text?.map (·.text)).getD ""

/-- the names of the clips of a model; any other element has none -/
def clips (e : Element) : List String := (e.data.model?.map (·.clips)).getD []

/-- is there such a clip? -/
def HasClip (e : Element) : Clip → Prop
  | .index i => i < e.clips.length
  | .name name => name ∈ e.clips

end Element

/-- a node is animated just if its element has the clip -/
theorem SceneNode.isSome_animate?_iff (node : SceneNode) (clip : Clip) (playState : PlayState) (wrap : AnimationWrap) :
    (node.animate? clip playState wrap).isSome ↔ node.element.HasClip clip := by
  obtain ⟨⟨id, display, position, rotation, scale, data⟩, subscriptions⟩ := node
  cases data with
  | model state =>
    cases clip with
    | index i =>
      by_cases hi : i < state.clips.length <;>
        simp [animate?, ElementData.model?, Element.HasClip, Element.clips, hi]
    | name name =>
      rw [Element.HasClip, Element.clips, ← List.isSome_idxOf?]
      cases hname : state.clips.idxOf? name <;> simp [animate?, ElementData.model?, hname]
  | _ => cases clip <;> simp [animate?, ElementData.model?, Element.HasClip, Element.clips]

/-- a descriptor was given to a node, and the node has an element in the scene -/
def Session.Finds (s : Session SceneStore) (d : Int32) (e : Element) : Prop :=
  ∃ entry ∈ s.registry.all, entry.descriptor = d ∧ s.scene.element? entry.node = some e

theorem Session.finds_iff {s : Session SceneStore} (hroom : s.registry.count ≤ Registry.room) {d : Int32}
    {e : Element} : s.Finds d e ↔ ∃ node, s.resolve d = some (node, e) := by
  simp only [Finds, Session.resolve_eq_some, s.indexed.node?_eq_some_iff hroom]
  constructor
  · rintro ⟨entry, hentry, hd, helement⟩
    exact ⟨entry.node, ⟨entry, hentry, hd, rfl⟩, helement⟩
  · rintro ⟨_, ⟨entry, hentry, hd, rfl⟩, helement⟩
    exact ⟨entry, hentry, hd, helement⟩

namespace SceneCall

/-! ## What can stand against a call -/

section Reasons

variable {μ : Type} [LinearMemory μ] [LawfulMemory μ] (m : μ) (s : Session SceneStore)

/-- the call is about an element of the scene -/
def About (call : SceneCall) (e : Element) : Prop := ∃ d, call.descriptor? = some d ∧ s.Finds d e

/-- the id that the call asks for can be read, but no element of the scene was registered with it -/
def Unnamed : SceneCall → Prop
  | getElementById id length _ => 0 ≤ length ∧ id.toNat + length.toInt.toNat ≤ LinearMemory.size m ∧
    ∀ entry, s.registry.withId? (textAt m id length.toInt.toNat) = some entry → s.scene.element? entry.node = none
  | _ => False

/-- the call has a descriptor that was never given out, or whose node has left the scene, or an id that leads nowhere -/
def Missing (call : SceneCall) : Prop := (call.descriptor?.isSome ∧ ∀ e, ¬ call.About s e) ∨ call.Unnamed m s

/-- elements of a kind have what the call is about -/
def Suits : SceneCall → ElementKind → Prop
  | getTextLength .., kind | getText .., kind | setText .., kind | setBackgroundColor .., kind => kind = .text
  | getBackgroundColor .., kind => kind = .text ∨ kind = .geometry
  | changeAnimation .., kind | changeAnimationByName .., kind | getPlayState .., kind | setPlayState .., kind
  | getCurrentAnimation .., kind => kind = .model
  | _, _ => True

/-- the element does not have what the call is about -/
def Unable (call : SceneCall) : Prop := ∃ e, call.About s e ∧ ¬ call.Suits e.kind

/-- the text that the call is to tell does not fit into the buffer, or its length into a signed word -/
def TooLong : SceneCall → Element → Prop
  | getIdLength .., e => signedLimit ≤ e.idText.utf8ByteSize
  | getTextLength .., e => signedLimit ≤ e.content.utf8ByteSize
  | getId _ _ capacity, e => 0 ≤ capacity ∧ capacity.toInt < e.idText.utf8ByteSize
  | getText _ _ capacity, e => 0 ≤ capacity ∧ capacity.toInt < e.content.utf8ByteSize
  | _, _ => False

/-- the text that the call is to tell is too long -/
def Short (call : SceneCall) : Prop := ∃ e, call.About s e ∧ call.TooLong e

/-- a length or an index is negative -/
def Negative : SceneCall → Prop
  | getId _ _ n | getText _ _ n | setText _ _ n | changeAnimation _ n _ _ | changeAnimationByName _ _ n _ _
  | getElements _ n _ | getElementById _ n _ => n < 0
  | _ => False

/-- a code stands for nothing -/
def Unknown : SceneCall → Prop
  | setDisplay _ code => ∀ v : DisplayMode, v.code ≠ code
  | setPlayState _ code => ∀ v : PlayState, v.code ≠ code
  | changeAnimation _ _ playState wrap | changeAnimationByName _ _ _ playState wrap =>
    (∀ v : PlayState, v.code ≠ playState) ∨ ∀ v : AnimationWrap, v.code ≠ wrap
  | registerEvent _ code _ => ∀ v : EventKind, v.code ≠ code
  | _ => False

/-- the clip that a call chooses -/
def clip? : SceneCall → Option Clip
  | changeAnimation _ index _ _ => some (.index index.toInt.toNat)
  | changeAnimationByName _ name length _ _ => some (.name (textAt m name length.toInt.toNat))
  | _ => none

/-- the call chooses a clip that the element does not have -/
def NoClip (call : SceneCall) (e : Element) : Prop := ∃ clip, call.clip? m = some clip ∧ ¬ e.HasClip clip

/-- the bytes that a call reads -/
def inputs : SceneCall → List Span
  | setPosition _ input | setScale _ input => [⟨input, 12⟩]
  | setRotation _ input | setBackgroundColor _ input => [⟨input, 16⟩]
  | setText _ input length | changeAnimationByName _ input length _ _ | getElementById input length _ =>
    [⟨input, length.toInt.toNat⟩]
  | _ => []

/-- the bytes that a call looks at. Where no record is to be copied, the array for the records is not looked at -/
def regards : SceneCall → List Span
  | getElements array length count =>
    if min length.toInt.toNat s.records.length = 0 then [⟨count, 4⟩] else (getElements array length count).outputs s
  | call => call.inputs ++ call.outputs s

/-- an argument cannot be taken: it is negative, it stands for nothing, or it leads out of the memory -/
def Invalid (call : SceneCall) : Prop :=
  call.Negative ∨ call.Unknown ∨ (∃ e, call.About s e ∧ call.NoClip m e) ∨
    ∃ p ∈ call.regards s, p.Outside (LinearMemory.size m)

end Reasons

/-! ## The checks, each with its two outcomes -/

theorem natural_cases (word : Int32) :
    (word < 0 ∧ natural word = .error .invalidArgument) ∨ (0 ≤ word ∧ natural word = .ok word.toInt.toNat) := by
  unfold natural
  split
  · rename_i hneg
    exact .inl ⟨hneg, rfl⟩
  · rename_i hneg
    exact .inr ⟨Int32.not_lt.1 hneg, rfl⟩

/-- a word is the code of a value, or of none -/
theorem coded_cases {α : Type} {code : α → Int32} {ofCode? : Int32 → Option α}
    (hcode : ∀ {word v}, ofCode? word = some v ↔ word = code v) (word : Int32) :
    ((∀ v, code v ≠ word) ∧ coded (ofCode? word) = .error .invalidArgument) ∨
      ∃ v, code v = word ∧ coded (ofCode? word) = .ok v := by
  cases hfound : ofCode? word with
  | none =>
    refine .inl ⟨fun v hv => ?_, rfl⟩
    rw [hcode.2 hv.symm] at hfound
    cases hfound
  | some v => exact .inr ⟨v, (hcode.1 hfound).symm, rfl⟩

theorem coded_display (word : Int32) :
    ((∀ v : DisplayMode, v.code ≠ word) ∧ coded (DisplayMode.ofCode? word) = .error .invalidArgument) ∨
      ∃ v : DisplayMode, v.code = word ∧ coded (DisplayMode.ofCode? word) = .ok v :=
  coded_cases DisplayMode.ofCode?_eq_some word

theorem coded_playState (word : Int32) :
    ((∀ v : PlayState, v.code ≠ word) ∧ coded (PlayState.ofCode? word) = .error .invalidArgument) ∨
      ∃ v : PlayState, v.code = word ∧ coded (PlayState.ofCode? word) = .ok v :=
  coded_cases PlayState.ofCode?_eq_some word

theorem coded_wrap (word : Int32) :
    ((∀ v : AnimationWrap, v.code ≠ word) ∧ coded (AnimationWrap.ofCode? word) = .error .invalidArgument) ∨
      ∃ v : AnimationWrap, v.code = word ∧ coded (AnimationWrap.ofCode? word) = .ok v :=
  coded_cases AnimationWrap.ofCode?_eq_some word

theorem coded_event (word : Int32) :
    ((∀ v : EventKind, v.code ≠ word) ∧ coded (EventKind.ofCode? word) = .error .invalidArgument) ∨
      ∃ v : EventKind, v.code = word ∧ coded (EventKind.ofCode? word) = .ok v :=
  coded_cases EventKind.ofCode?_eq_some word

/-- the two codes that come with a clip are values, or one of them is none -/
theorem modes_cases (playState wrap : Int32) (f : PlayState → AnimationWrap → SceneAction) :
    let unknown := (∀ v : PlayState, v.code ≠ playState) ∨ ∀ v : AnimationWrap, v.code ≠ wrap
    let decided : Except CallStatus SceneAction := do
      let playState ← coded (PlayState.ofCode? playState)
      let wrap ← coded (AnimationWrap.ofCode? wrap)
      return f playState wrap
    (unknown ∧ decided = .error .invalidArgument) ∨ (¬ unknown ∧ ∃ v v', decided = .ok (f v v')) := by
  intro unknown decided
  rcases coded_playState playState with ⟨hnone, hcoded⟩ | ⟨v, hv, hcoded⟩
  · exact .inl ⟨.inl hnone, by simp only [decided, hcoded, bind, Except.bind]⟩
  · rcases coded_wrap wrap with ⟨hnone, hcoded'⟩ | ⟨v', hv', hcoded'⟩
    · exact .inl ⟨.inr hnone, by simp only [decided, hcoded, hcoded', bind, Except.bind]⟩
    · refine .inr ⟨?_, v, v', by simp only [decided, hcoded, hcoded', bind, Except.bind]; rfl⟩
      rintro (h | h)
      · exact h v hv
      · exact h v' hv'

theorem textOf_of_kind {e : Element} (h : e.kind = .text) : ∃ state, textOf e = .ok state ∧ e.content = state.text := by
  obtain ⟨id, display, position, rotation, scale, data⟩ := e
  cases data with
  | text state => exact ⟨state, rfl, rfl⟩
  | _ => cases h

theorem modelOf_of_kind {e : Element} (h : e.kind = .model) : ∃ state, modelOf e = .ok state := by
  obtain ⟨id, display, position, rotation, scale, data⟩ := e
  cases data with
  | model state => exact ⟨state, rfl⟩
  | _ => cases h

theorem backgroundOf_of_kind {e : Element} (h : e.kind = .text ∨ e.kind = .geometry) :
    ∃ color, backgroundOf e = .ok color := by
  obtain ⟨id, display, position, rotation, scale, data⟩ := e
  cases data with
  | text state => exact ⟨state.background, rfl⟩
  | geometry color => exact ⟨color, rfl⟩
  | _ => rcases h with h | h <;> cases h

section Checks

variable {μ : Type} [LinearMemory μ] [ExactMemory μ] (m : μ) (input : Pointer)

theorem readValue_cases (α : Type) [WireValue α] [TotalWire α] :
    ((⟨input, wireSize α⟩ : Span).Outside (LinearMemory.size m) ∧
      access (readValue m input : Except AccessError α) = .error .invalidArgument) ∨
    (¬ (⟨input, wireSize α⟩ : Span).Outside (LinearMemory.size m) ∧
      ∃ v : α, access (readValue m input) = .ok v) := by
  by_cases h : (⟨input, wireSize α⟩ : Span).Outside (LinearMemory.size m)
  · exact .inl ⟨h, by rw [readValue_of_outside h]; rfl⟩
  · obtain ⟨v, hv⟩ := readValue_of_inside (α := α) (Nat.not_lt.1 h)
    exact .inr ⟨h, v, by rw [hv]; rfl⟩

theorem readText_cases (len : Nat) :
    ((⟨input, len⟩ : Span).Outside (LinearMemory.size m) ∧
      access (readText m input len) = .error .invalidArgument) ∨
    (¬ (⟨input, len⟩ : Span).Outside (LinearMemory.size m) ∧
      access (readText m input len) = .ok (textAt m input len)) := by
  by_cases h : (⟨input, len⟩ : Span).Outside (LinearMemory.size m)
  · exact .inl ⟨h, by rw [readText_of_outside h]; rfl⟩
  · exact .inr ⟨h, by rw [readText_of_inside (Nat.not_lt.1 h)]; rfl⟩

end Checks

/-! ## Carrying a decision out -/

section Status

variable {μ : Type} [LinearMemory μ] {m : μ} {s : Session SceneStore} {call : SceneCall} {caller : ScriptId}

theorem status_of_error {status : CallStatus} (h : call.plan caller m s = .error status) :
    (call.run caller m s).status = status := by
  rw [run, h]

/-- an answer is taken if nothing that the call looks at sticks out of the memory -/
theorem status_of_write [ExactMemory μ] {regions : List Region} (h : call.plan caller m s = .ok (.write regions))
    (hspans : call.regards s = call.inputs ++ regions.map Region.span)
    (hread : ∀ p ∈ call.inputs, ¬ p.Outside (LinearMemory.size m)) :
    ((∀ p ∈ call.regards s, ¬ p.Outside (LinearMemory.size m)) ∧ (call.run caller m s).status = .success) ∨
      ((∃ p ∈ call.regards s, p.Outside (LinearMemory.size m)) ∧
        (call.run caller m s).status = .invalidArgument) := by
  rw [run, h, hspans]
  cases hresult : (writeRegions m regions).2 with
  | ok =>
    refine .inl ⟨?_, by simp only [SceneAction.perform_write, hresult]; rfl⟩
    intro p hp
    rcases List.mem_append.1 hp with hp | hp
    · exact hread p hp
    · obtain ⟨r, hr, rfl⟩ := List.mem_map.1 hp
      exact Nat.not_lt.2 (writeRegions_eq_ok_iff.1 hresult r hr)
  | error e =>
    refine .inr ⟨?_, by simp only [SceneAction.perform_write, hresult, writeRegions_eq_error hresult]; rfl⟩
    by_contra hinside
    have hok := writeRegions_of_inside m regions fun r hr => Nat.not_lt.1 fun houtside =>
      hinside ⟨r.span, List.mem_append_right _ (List.mem_map_of_mem hr), houtside⟩
    rw [hresult] at hok
    cases hok

/-- a value that guests can set is taken -/
theorem status_of_patch {d : Int32} {node : NodeId} {e : Element} {v : AttributeValue}
    (hfound : s.resolve d = some (node, e)) (hlets : e.kind.lets v.which)
    (h : call.plan caller m s = .ok (.patch node (v.patch e))) : (call.run caller m s).status = .success := by
  obtain ⟨-, helement⟩ := Session.resolve_eq_some.1 hfound
  obtain ⟨old, hold, rfl⟩ := Option.map_eq_some_iff.1 helement
  have hpatch := SceneStore.patch?_eq_some.2
    ⟨old, old.element.assign v, hold, by rw [Element.applyTo?_patch, if_pos hlets], rfl⟩
  rw [run, h]
  simp only [SceneAction.perform, SceneBackend.patch?, hpatch]

/-- a clip is taken just if the element has it -/
theorem status_of_animate {d : Int32} {node : NodeId} {e : Element} {clip : Clip} {playState : PlayState}
    {wrap : AnimationWrap} (hfound : s.resolve d = some (node, e))
    (h : call.plan caller m s = .ok (.animate node clip playState wrap)) :
    (e.HasClip clip ∧ (call.run caller m s).status = .success) ∨
      (¬ e.HasClip clip ∧ (call.run caller m s).status = .invalidArgument) := by
  obtain ⟨-, helement⟩ := Session.resolve_eq_some.1 hfound
  obtain ⟨old, hold, rfl⟩ := Option.map_eq_some_iff.1 helement
  rw [run, h, ← old.isSome_animate?_iff clip playState wrap]
  cases hnew : old.animate? clip playState wrap with
  | some new =>
    have hanimate := SceneStore.animate?_eq_some.2 ⟨old, new, hold, hnew, rfl⟩
    exact .inl ⟨rfl, by simp only [SceneAction.perform, SceneBackend.animate?, hanimate]⟩
  | none =>
    have hanimate : s.scene.animate? node clip playState wrap = none := by
      rw [SceneStore.animate?, hold]
      simp only [bind, Option.bind_some, hnew, Option.bind_none]
    exact .inr ⟨Bool.false_ne_true, by simp only [SceneAction.perform, SceneBackend.animate?, hanimate]⟩

theorem status_of_subscribe {node : NodeId} {event : EventKind} {subscriber : Subscriber}
    (h : call.plan caller m s = .ok (.subscribe node event subscriber)) : (call.run caller m s).status = .success := by
  rw [run, h]
  rfl

end Status

end SceneCall

end ScriptHost
