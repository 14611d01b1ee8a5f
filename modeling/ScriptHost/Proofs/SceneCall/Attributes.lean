/-
Scene calls and attributes. Seven calls set an attribute and eight ask for one.
- A call that sets an attribute patches the element with the value that it passes, if the element lets guests set it
  (`SceneCall.plan_eq_ok_of_sets`); no other call patches anything (`SceneCall.plan_means`).
- A call that asks for an attribute answers with the bytes of its value (`Attribute.plan_getter`).
- What a query answers depends on the descriptors and on what it looks at, and on nothing else of a session
  (`SceneCall.plan_of_alike`).
-/
import ScriptHost.Proofs.Memory.ReadBack
import ScriptHost.Proofs.Scene.Attribute
import ScriptHost.Proofs.SceneCall.Footprint
import ScriptHost.SceneCall.Run

namespace ScriptHost

open Wire

theorem map_eq_ok {ε α β : Type} {x : Except ε α} {f : α → β} {b : β} :
    f <$> x = .ok b ↔ ∃ a, x = .ok a ∧ f a = b := by
  cases x with
  | ok a => simp [Functor.map, Except.map]
  | error e => simp [Functor.map, Except.map]

theorem Session.resolve_eq_some {σ : Type} [SceneBackend σ] {s : Session σ} {d : Int32} {id : NodeId} {e : Element} :
    s.resolve d = some (id, e) ↔ s.registry.node? d = some id ∧ SceneBackend.element? s.scene id = some e := by
  simp only [resolve, bind, pure, Option.bind_eq_some_iff, Option.some.injEq, Prod.mk.injEq]
  constructor
  · rintro ⟨_, hnamed, _, helement, rfl, rfl⟩
    exact ⟨hnamed, helement⟩
  · rintro ⟨hnamed, helement⟩
    exact ⟨id, hnamed, e, helement, rfl, rfl⟩

namespace SceneCall

/-! ## Setting -/

/-- the attribute that a call sets, and the descriptor that it names -/
def sets? : SceneCall → Option (Int32 × Attribute)
  | setDisplay d _ => some (d, .display)
  | setPosition d _ => some (d, .position)
  | setRotation d _ => some (d, .rotation)
  | setScale d _ => some (d, .scale)
  | setText d _ _ => some (d, .text)
  | setBackgroundColor d _ => some (d, .background)
  | setPlayState d _ => some (d, .playState)
  | _ => none

/-- the descriptor of the element of which a call chooses the animation -/
def chooses? : SceneCall → Option Int32
  | changeAnimation d .. | changeAnimationByName d .. => some d
  | _ => none

section Setting

variable {μ : Type} [LinearMemory μ] {σ : Type} [SceneBackend σ]

/-- the value that a call passes for the attribute that it sets -/
def passed (m : μ) : SceneCall → Except CallStatus AttributeValue
  | setDisplay _ code => AttributeValue.display <$> coded (DisplayMode.ofCode? code)
  | setPosition _ input => AttributeValue.position <$> access (readValue m input)
  | setRotation _ input => AttributeValue.rotation <$> access (readValue m input)
  | setScale _ input => AttributeValue.scale <$> access (readValue m input)
  | setText _ input length => do return .text (← access (readText m input (← natural length)))
  | setBackgroundColor _ input => AttributeValue.background <$> access (readValue m input)
  | setPlayState _ code => AttributeValue.playState <$> coded (PlayState.ofCode? code)
  | _ => .error .unsupportedOperation

variable {call : SceneCall} {d : Int32} {a : Attribute} {m : μ}

theorem which_of_passed {v : AttributeValue} (h : call.sets? = some (d, a)) (hv : call.passed m = .ok v) :
    v.which = a := by
  cases call with
  | setText d input length =>
    cases h
    simp only [passed, bind_eq_ok, pure_eq_ok] at hv
    obtain ⟨_, -, _, -, rfl⟩ := hv
    rfl
  | setDisplay | setPosition | setRotation | setScale | setBackgroundColor | setPlayState =>
    cases h
    obtain ⟨_, -, rfl⟩ := map_eq_ok.1 hv
    rfl
  | _ => cases h

theorem lets_text_iff {e : Element} {a : Attribute} (ha : a = .text ∨ a = .background) :
    e.kind.lets a ↔ ∃ state, textOf e = .ok state := by
  obtain ⟨id, display, position, rotation, scale, data⟩ := e
  rcases ha with rfl | rfl <;> cases data <;>
    simp [textOf, ElementData.text?, Element.kind, ElementData.kind, ElementKind.lets]

theorem lets_playState_iff {e : Element} : e.kind.lets .playState ↔ ∃ state, modelOf e = .ok state := by
  obtain ⟨id, display, position, rotation, scale, data⟩ := e
  cases data <;> simp [modelOf, ElementData.model?, Element.kind, ElementData.kind, ElementKind.lets]

/-- a call that sets an attribute patches the element with the value that it passes, if guests can set it -/
theorem plan_eq_ok_of_sets (h : call.sets? = some (d, a)) {caller : ScriptId} {s : Session σ} {act : SceneAction} :
    call.plan caller m s = .ok act ↔ ∃ node e v, s.resolve d = some (node, e) ∧ e.kind.lets a ∧
      call.passed m = .ok v ∧ .patch node (v.patch e) = act := by
  cases call with
  | setDisplay | setPosition | setRotation | setScale =>
    cases h
    simp only [plan, passed, bind_eq_ok, pure_eq_ok, map_eq_ok, Prod.exists, lookUp_eq_ok]
    constructor
    · rintro ⟨node, e, hfound, x, hx, rfl⟩
      exact ⟨node, e, _, hfound, by cases e.kind <;> rfl, ⟨x, hx, rfl⟩, rfl⟩
    · rintro ⟨node, e, _, hfound, -, ⟨x, hx, rfl⟩, rfl⟩
      exact ⟨node, e, hfound, x, hx, rfl⟩
  | setBackgroundColor | setPlayState =>
    cases h
    simp only [plan, passed, bind_eq_ok, pure_eq_ok, map_eq_ok, Prod.exists, lookUp_eq_ok,
      lets_text_iff (Or.inr rfl), lets_playState_iff]
    constructor
    · rintro ⟨node, e, hfound, state, hstate, x, hx, rfl⟩
      exact ⟨node, e, _, hfound, ⟨state, hstate⟩, ⟨x, hx, rfl⟩, rfl⟩
    · rintro ⟨node, e, _, hfound, ⟨state, hstate⟩, ⟨x, hx, rfl⟩, rfl⟩
      exact ⟨node, e, hfound, state, hstate, x, hx, rfl⟩
  | setText =>
    cases h
    simp only [plan, passed, bind_eq_ok, pure_eq_ok, Prod.exists, lookUp_eq_ok, lets_text_iff (Or.inl rfl)]
    constructor
    · rintro ⟨node, e, hfound, state, hstate, n, hn, x, hx, rfl⟩
      exact ⟨node, e, _, hfound, ⟨state, hstate⟩, ⟨n, hn, x, hx, rfl⟩, rfl⟩
    · rintro ⟨node, e, _, hfound, ⟨state, hstate⟩, ⟨n, hn, x, hx, rfl⟩, rfl⟩
      exact ⟨node, e, hfound, state, hstate, n, hn, x, hx, rfl⟩
  | _ => cases h

/-- what a decision on a call says of the call: a patch gives the attribute that it sets a value, an animation is chosen for
the element that it names, and only queries write -/
def Means (s : Session σ) (call : SceneCall) : SceneAction → Prop
  | .write _ => call.isQuery
  | .patch node p => ∃ (d : Int32) (e : Element) (v : AttributeValue), call.sets? = some (d, v.which) ∧
      s.resolve d = some (node, e) ∧ e.kind.lets v.which ∧ p = v.patch e
  | .animate node .. => ∃ d e, call.chooses? = some d ∧ s.resolve d = some (node, e)
  | .subscribe .. => call.sets? = none ∧ call.chooses? = none

theorem plan_means {caller : ScriptId} {s : Session σ} {act : SceneAction} (h : call.plan caller m s = .ok act) :
    Means s call act := by
  cases hsets : call.sets? with
  | some pair =>
    obtain ⟨d, a⟩ := pair
    obtain ⟨node, e, v, hfound, hlets, hv, rfl⟩ := (plan_eq_ok_of_sets hsets).1 h
    obtain rfl := which_of_passed hsets hv
    exact ⟨d, e, v, hsets, hfound, hlets, rfl⟩
  | none =>
    cases call with
    | setDisplay | setPosition | setRotation | setScale | setText | setBackgroundColor | setPlayState => cases hsets
    | changeAnimation d =>
      simp only [plan, bind_eq_ok, pure_eq_ok, Prod.exists, lookUp_eq_ok] at h
      obtain ⟨node, e, hfound, _, -, _, -, _, -, _, -, rfl⟩ := h
      exact ⟨d, e, rfl, hfound⟩
    | changeAnimationByName d =>
      simp only [plan, bind_eq_ok, pure_eq_ok, Prod.exists, lookUp_eq_ok] at h
      obtain ⟨node, e, hfound, _, -, _, -, _, -, _, -, _, -, rfl⟩ := h
      exact ⟨d, e, rfl, hfound⟩
    | registerEvent =>
      simp only [plan, bind_eq_ok, pure_eq_ok, Prod.exists] at h
      obtain ⟨_, _, -, _, -, rfl⟩ := h
      exact ⟨rfl, rfl⟩
    | _ =>
      have hdecides := plan_decides h
      cases act with
      | write regions => exact hdecides.1
      | patch | animate | subscribe => exact absurd rfl hdecides.1.1

end Setting

/-! ## Asking -/

/-- the attribute that a query asks for, and the descriptor that it names -/
def asks? : SceneCall → Option (Int32 × Attribute)
  | getDisplay d _ => some (d, .display)
  | getPosition d _ => some (d, .position)
  | getRotation d _ => some (d, .rotation)
  | getScale d _ => some (d, .scale)
  | getTextLength d _ | getText d _ _ => some (d, .text)
  | getBackgroundColor d _ => some (d, .background)
  | getPlayState d _ => some (d, .playState)
  | _ => none

end SceneCall

/-- the query that answers with the value of an attribute; only for a text it says how much room there is -/
def Attribute.getter (a : Attribute) (d : Int32) (out : Pointer) (capacity : Int32) : SceneCall :=
  match a with
  | .display => .getDisplay d out
  | .position => .getPosition d out
  | .rotation => .getRotation d out
  | .scale => .getScale d out
  | .text => .getText d out capacity
  | .background => .getBackgroundColor d out
  | .playState => .getPlayState d out

namespace AttributeValue

/-- the bytes of a value in the memory of a guest -/
def bytes : AttributeValue → ByteArray
  | display v => (encode v.code).toByteArray
  | position v => (encode v).toByteArray
  | rotation v => (encode v).toByteArray
  | scale v => (encode v).toByteArray
  | text v => v.toUTF8
  | background v => (encode v).toByteArray
  | playState v => (encode v.code).toByteArray

/-- is there room for the value? Only the room for a text can be too small -/
def Fits (capacity : Int32) : AttributeValue → Prop
  | text v => 0 ≤ capacity ∧ v.utf8ByteSize ≤ capacity.toInt.toNat
  | _ => True

end AttributeValue

section Asking

variable {μ : Type} [LinearMemory μ] {σ : Type} [SceneBackend σ]

theorem SceneCall.modelOf_eq_ok {e : Element} {state : ModelState} :
    modelOf e = .ok state ↔ e.data.model? = some state := by
  unfold modelOf
  cases e.data.model? <;> simp

theorem SceneCall.backgroundOf_eq_ok {e : Element} {color : Rgba} :
    backgroundOf e = .ok color ↔ e.data.backgroundColor? = some color := by
  unfold backgroundOf
  cases e.data.backgroundColor? <;> simp

open SceneCall in
theorem Attribute.plan_getter {d : Int32} {node : NodeId} {e : Element} {s : Session σ} {v : AttributeValue}
    (hfound : s.resolve d = some (node, e)) (hv : e.attribute? v.which = some v) (out : Pointer) {capacity : Int32}
    (hfits : v.Fits capacity) (caller : ScriptId) (m : μ) :
    (v.which.getter d out capacity).plan caller m s = .ok (.write [⟨out, v.bytes⟩]) := by
  cases v with
  | display | position | rotation | scale =>
    cases hv
    simp only [getter, plan, AttributeValue.which, bind_eq_ok, pure_eq_ok, Prod.exists, lookUp_eq_ok]
    exact ⟨node, e, hfound, rfl⟩
  | text =>
    obtain ⟨state, hstate, hvalue⟩ := Option.map_eq_some_iff.1 hv
    cases hvalue
    obtain ⟨hcapacity, hsize⟩ := hfits
    simp only [getter, plan, AttributeValue.which, answerText, bind_eq_ok, pure_eq_ok, Prod.exists, lookUp_eq_ok,
      textOf_eq_ok, natural_eq_ok, access_eq_ok, textBytes_eq_ok]
    exact ⟨node, e, hfound, state, hstate, _, ⟨by simpa using hcapacity, rfl⟩, _, ⟨hsize, rfl⟩, rfl⟩
  | background =>
    obtain ⟨color, hcolor, hvalue⟩ := Option.map_eq_some_iff.1 hv
    cases hvalue
    simp only [getter, plan, AttributeValue.which, bind_eq_ok, pure_eq_ok, Prod.exists, lookUp_eq_ok,
      backgroundOf_eq_ok]
    exact ⟨node, e, hfound, _, hcolor, rfl⟩
  | playState =>
    obtain ⟨state, hstate, hvalue⟩ := Option.map_eq_some_iff.1 hv
    cases hvalue
    simp only [getter, plan, AttributeValue.which, bind_eq_ok, pure_eq_ok, Prod.exists, lookUp_eq_ok, modelOf_eq_ok]
    exact ⟨node, e, hfound, state, hstate, rfl⟩

end Asking

/-! ## What queries can see -/

/-- elements that look alike to queries, as far as these look at some attributes -/
structure Element.Alike (sees : Attribute → Prop) (e e' : Element) : Prop where
  id : e'.id = e.id
  kind : e'.kind = e.kind
  current : e'.data.model?.map (·.current) = e.data.model?.map (·.current)
  attribute? : ∀ a, sees a → e'.attribute? a = e.attribute? a

namespace Element.Alike

variable {sees : Attribute → Prop} {e e' : Element}

theorem text (h : e.Alike sees e') (hsees : sees .text) :
    e'.data.text?.map TextState.text = e.data.text?.map TextState.text := by
  have hsame := h.attribute? .text hsees
  apply Option.map_injective (f := AttributeValue.text) fun _ _ => AttributeValue.text.inj
  rw [Option.map_map, Option.map_map]
  exact hsame

theorem backgroundColor (h : e.Alike sees e') (hsees : sees .background) :
    e'.data.backgroundColor? = e.data.backgroundColor? := by
  have hsame := h.attribute? .background hsees
  exact Option.map_injective (f := AttributeValue.background) (fun _ _ => AttributeValue.background.inj) hsame

theorem playState (h : e.Alike sees e') (hsees : sees .playState) :
    e'.data.model?.map ModelState.playState = e.data.model?.map ModelState.playState := by
  have hsame := h.attribute? .playState hsees
  apply Option.map_injective (f := AttributeValue.playState) fun _ _ => AttributeValue.playState.inj
  rw [Option.map_map, Option.map_map]
  exact hsame

end Element.Alike

theorem Element.alike_assign (e : Element) (v : AttributeValue) : e.Alike (· ≠ v.which) (e.assign v) where
  id := e.id_assign v
  kind := e.kind_assign v
  current := e.current_assign v
  attribute? _ := e.attribute?_assign_of_ne

section Sight

variable {μ : Type} [LinearMemory μ] {σ : Type} [SceneBackend σ]

/-- sessions that look alike to queries, as far as these look at some attributes of some nodes -/
structure Session.Alike (sees : NodeId → Attribute → Prop) (s s' : Session σ) : Prop where
  registry : s'.registry = s.registry
  elements : ∀ node, Option.Rel (Element.Alike (sees node)) (SceneBackend.element? s.scene node)
    (SceneBackend.element? s'.scene node)

variable {sees : NodeId → Attribute → Prop} {s s' : Session σ}

/-- a node has no element in either session, or elements that look alike -/
theorem Session.Alike.element?_cases (h : s.Alike sees s') (node : NodeId) :
    (SceneBackend.element? s.scene node = none ∧ SceneBackend.element? s'.scene node = none) ∨
      ∃ e e', SceneBackend.element? s.scene node = some e ∧ SceneBackend.element? s'.scene node = some e' ∧
        e.Alike (sees node) e' := by
  have halike := h.elements node
  revert halike
  generalize SceneBackend.element? s.scene node = found
  generalize SceneBackend.element? s'.scene node = found'
  intro halike
  cases halike with
  | none => exact .inl ⟨rfl, rfl⟩
  | some halike => exact .inr ⟨_, _, rfl, rfl, halike⟩

namespace SceneCall

/-- what follows the look-up of an element is alike if it is for each element that can be found -/
theorem lookUp_bind_of_alike {α : Type} (h : s.Alike sees s') (d : Int32)
    {next : NodeId × Element → Except CallStatus α}
    (hnext : ∀ node e e', s.registry.node? d = some node → e.Alike (sees node) e' → next (node, e') = next (node, e)) :
    lookUp s' d >>= next = lookUp s d >>= next := by
  cases hnode : s.registry.node? d with
  | none =>
    have hresolve : s.resolve d = none := by simp [Session.resolve, hnode]
    have hresolve' : s'.resolve d = none := by simp [Session.resolve, h.registry, hnode]
    simp only [lookUp, hresolve, hresolve']
  | some node =>
    rcases h.element?_cases node with ⟨he, he'⟩ | ⟨e, e', he, he', halike⟩
    · have hresolve : s.resolve d = none := by simp [Session.resolve, hnode, he]
      have hresolve' : s'.resolve d = none := by simp [Session.resolve, h.registry, hnode, he']
      simp only [lookUp, hresolve, hresolve']
    · have hresolve : s.resolve d = some (node, e) := by simp [Session.resolve, hnode, he]
      have hresolve' : s'.resolve d = some (node, e') := by simp [Session.resolve, h.registry, hnode, he']
      simp only [lookUp, hresolve, hresolve']
      exact hnext node e e' hnode halike

theorem records_of_alike (h : s.Alike sees s') : s'.records = s.records := by
  rw [Session.records, Session.records, h.registry]
  congr 1
  funext entry
  rcases h.element?_cases entry.node with ⟨he, he'⟩ | ⟨e, e', he, he', halike⟩
  · rw [he, he']
  · rw [he, he', Option.map_some, Option.map_some, halike.kind]

/-! ### Content that an element may not have -/

section Content

variable {e e' : Element} {α β : Type}

theorem textOf_bind_congr {f : TextState → β} (h : e'.data.text?.map f = e.data.text?.map f)
    (next : β → Except CallStatus α) :
    (textOf e' >>= fun state => next (f state)) = textOf e >>= fun state => next (f state) := by
  unfold textOf
  cases he : e.data.text? <;> cases he' : e'.data.text? <;> simp_all [bind, Except.bind]

theorem modelOf_bind_congr {f : ModelState → β} (h : e'.data.model?.map f = e.data.model?.map f)
    (next : β → Except CallStatus α) :
    (modelOf e' >>= fun state => next (f state)) = modelOf e >>= fun state => next (f state) := by
  unfold modelOf
  cases he : e.data.model? <;> cases he' : e'.data.model? <;> simp_all [bind, Except.bind]

theorem backgroundOf_congr (h : e'.data.backgroundColor? = e.data.backgroundColor?) :
    backgroundOf e' = backgroundOf e := by
  rw [backgroundOf, h]
  rfl

end Content

/-- a query is decided alike in sessions that look alike as far as it looks -/
theorem plan_of_alike (h : s.Alike sees s') {call : SceneCall} (hquery : call.isQuery)
    (hsees : ∀ d a, call.asks? = some (d, a) → ∀ node, s.registry.node? d = some node → sees node a)
    (caller : ScriptId) (m : μ) : call.plan caller m s' = call.plan caller m s := by
  cases call with
  | getIdLength d | getId d =>
    apply lookUp_bind_of_alike h
    intro node e e' _ halike
    simp only [Element.idText, halike.id]
  | getDisplay d =>
    apply lookUp_bind_of_alike h
    intro node e e' hnode halike
    have hsame : e'.display = e.display := by
      simpa [Element.attribute?] using halike.attribute? .display (hsees d _ rfl node hnode)
    simp only [hsame]
  | getPosition d =>
    apply lookUp_bind_of_alike h
    intro node e e' hnode halike
    have hsame : e'.position = e.position := by
      simpa [Element.attribute?] using halike.attribute? .position (hsees d _ rfl node hnode)
    simp only [hsame]
  | getRotation d =>
    apply lookUp_bind_of_alike h
    intro node e e' hnode halike
    have hsame : e'.rotation = e.rotation := by
      simpa [Element.attribute?] using halike.attribute? .rotation (hsees d _ rfl node hnode)
    simp only [hsame]
  | getScale d =>
    apply lookUp_bind_of_alike h
    intro node e e' hnode halike
    have hsame : e'.scale.toVec3 = e.scale.toVec3 := by
      simpa [Element.attribute?] using halike.attribute? .scale (hsees d _ rfl node hnode)
    simp only [hsame]
  | getTextLength d out =>
    apply lookUp_bind_of_alike h
    intro node e e' hnode halike
    exact textOf_bind_congr (halike.text (hsees d _ rfl node hnode)) (answerLength out)
  | getText d out capacity =>
    apply lookUp_bind_of_alike h
    intro node e e' hnode halike
    exact textOf_bind_congr (halike.text (hsees d _ rfl node hnode)) (answerText out capacity)
  | getBackgroundColor d =>
    apply lookUp_bind_of_alike h
    intro node e e' hnode halike
    simp only [backgroundOf_congr (halike.backgroundColor (hsees d _ rfl node hnode))]
  | getPlayState d out =>
    apply lookUp_bind_of_alike h
    intro node e e' hnode halike
    exact modelOf_bind_congr (halike.playState (hsees d _ rfl node hnode)) fun state => .ok (answer out state.code)
  | getCurrentAnimation d out =>
    apply lookUp_bind_of_alike h
    intro node e e' hnode halike
    have hindex : e'.data.model?.map currentIndex = e.data.model?.map currentIndex := by
      have hcurrent := halike.current
      cases he : e.data.model? <;> cases he' : e'.data.model? <;> simp_all [currentIndex]
    exact modelOf_bind_congr hindex fun index => .ok (answer out index)
  | getElementCount out => simp only [plan, records_of_alike h]
  | getElements array length count => simp only [plan, enumerate, records_of_alike h]
  | getElementById id length out =>
    simp only [plan, h.registry]
    refine congrArg (_ >>= ·) (funext fun n => congrArg (_ >>= ·) (funext fun id => ?_))
    cases s.registry.withId? id with
    | none => rfl
    | some entry =>
      rcases h.element?_cases entry.node with ⟨he, he'⟩ | ⟨e, e', he, he', halike⟩
      · simp only [he, he']
      · simp only [he, he', halike.kind]
  | _ => cases hquery

end SceneCall

end Sight

end ScriptHost
