/-
Attributes as lenses. A script gives an attribute a value by a call and a memory that bring it (`Assignment`). Whoever
does it, and whoever looks afterwards:
- what was set is what one gets, bit by bit, and the last of two values stays;
- setting what one has got changes no answer of any query;
- an assignment changes no answer about another attribute or another descriptor;
- two assignments that do not concern the same attribute of the same descriptor can be made in either order.

`setters_lawful` says this of every session. As its descriptors were handed out by registering nodes, no two of them name
one node, on which the last two points rest.
-/
import ScriptHost.Proofs.Registry
import ScriptHost.Proofs.Scene.Store
import ScriptHost.Proofs.SceneCall.Attributes
import ScriptHost.Proofs.SceneCall.Outcome

namespace ScriptHost

open Wire

/-! ## Assignments -/

/-- a call gives an attribute of the element that a descriptor names a value: by the value's code, or by its bytes, which
stand in the memory where the call says -/
inductive Assigns {μ : Type} [LinearMemory μ] (m : μ) (d : Int32) : SceneCall → AttributeValue → Prop where
  | display (v : DisplayMode) : Assigns m d (.setDisplay d v.code) (.display v)
  | position {input : Pointer} {v : Vec3} (h : readBytes m input (wireSize Vec3) = .ok (encode v).toByteArray) :
    Assigns m d (.setPosition d input) (.position v)
  | rotation {input : Pointer} {v : Quaternion} (h : readBytes m input (wireSize Quaternion) = .ok (encode v).toByteArray) :
    Assigns m d (.setRotation d input) (.rotation v)
  | scale {input : Pointer} {v : Vec3} (h : readBytes m input (wireSize Vec3) = .ok (encode v).toByteArray) :
    Assigns m d (.setScale d input) (.scale v)
  | text {input : Pointer} {length : Int32} {v : String} (hlength : length.toInt = v.utf8ByteSize)
    (h : readBytes m input v.utf8ByteSize = .ok v.toUTF8) : Assigns m d (.setText d input length) (.text v)
  | background {input : Pointer} {v : Rgba} (h : readBytes m input (wireSize Rgba) = .ok (encode v).toByteArray) :
    Assigns m d (.setBackgroundColor d input) (.background v)
  | playState (v : PlayState) : Assigns m d (.setPlayState d v.code) (.playState v)

section Assigns

variable {μ : Type} [LinearMemory μ] {m : μ} {d : Int32} {call : SceneCall} {v : AttributeValue}

theorem Assigns.sets? (h : Assigns m d call v) : call.sets? = some (d, v.which) := by
  cases h <;> rfl

/-- the host reads just the value that was meant -/
theorem Assigns.passed (h : Assigns m d call v) : call.passed m = .ok v := by
  cases h with
  | display v | playState v => simp [SceneCall.passed, SceneCall.coded]
  | position h | rotation h | scale h | background h =>
    simp only [SceneCall.passed, readValue_of_readBytes h]
    rfl
  | text hlength h =>
    simp only [SceneCall.passed, bind_eq_ok, pure_eq_ok, SceneCall.access_eq_ok]
    exact ⟨_, SceneCall.natural_of_toInt hlength, _, readText_of_readBytes h, rfl⟩

end Assigns

/-- a script gives an attribute of the element that a descriptor names a value -/
structure Assignment (d : Int32) (v : AttributeValue) where
  {μ : Type}
  [linear : LinearMemory μ]
  caller : ScriptId
  memory : μ
  call : SceneCall
  assigns : Assigns memory d call v

namespace Assignment

attribute [instance] Assignment.linear

variable {d : Int32} {v : AttributeValue} (x : Assignment d v) (s : Session SceneStore)

def status : CallStatus := (x.call.run x.caller x.memory s).status

/-- the session after the assignment -/
def after : Session SceneStore := (x.call.run x.caller x.memory s).session

end Assignment

/-- the session with a value given to the element of a node -/
def Session.given (s : Session SceneStore) (id : NodeId) (node : SceneNode) (v : AttributeValue) :
    Session SceneStore :=
  { s with
    scene :=
      { s.scene.put id (some { node with element := node.element.assign v }) with
        journal := (id, v.patch node.element) :: s.scene.journal } }

/-- a descriptor names a node of the scene, which lets guests set an attribute -/
structure Session.Offers (s : Session SceneStore) (d : Int32) (a : Attribute) (id : NodeId) (node : SceneNode) :
    Prop where
  named : s.registry.node? d = some id
  present : s.scene.node? id = some node
  lets : node.element.kind.lets a

/-- a call that passes a value for an attribute which is offered sets it, and does nothing else -/
theorem SceneCall.run_of_passed {μ : Type} [LinearMemory μ] {m : μ} {call : SceneCall} {d : Int32} {v : AttributeValue}
    {s : Session SceneStore} {id : NodeId} {node : SceneNode} (hsets : call.sets? = some (d, v.which))
    (hpassed : call.passed m = .ok v) (h : s.Offers d v.which id node) (caller : ScriptId) :
    call.run caller m s = { status := .success, memory := m, session := s.given id node v } := by
  have hresolve : s.resolve d = some (id, node.element) :=
    Session.resolve_eq_some.2 ⟨h.named, congrArg (Option.map _) h.present⟩
  have hplan : call.plan caller m s = .ok (.patch id (v.patch node.element)) :=
    (plan_eq_ok_of_sets hsets).2 ⟨id, node.element, v, hresolve, h.lets, hpassed, rfl⟩
  have hpatch : SceneBackend.patch? s.scene id (v.patch node.element) = some (s.given id node v).scene :=
    SceneStore.patch?_eq_some.2
      ⟨node, node.element.assign v, h.present, by rw [Element.applyTo?_patch, if_pos h.lets], rfl⟩
  rw [run, hplan]
  simp only [SceneAction.perform, hpatch]
  rfl

namespace Assignment

variable {d : Int32} {v : AttributeValue} {s : Session SceneStore}

theorem outcome_of_offers (x : Assignment d v) {id : NodeId} {node : SceneNode} (h : s.Offers d v.which id node) :
    x.status s = .success ∧ x.after s = s.given id node v := by
  have hrun := SceneCall.run_of_passed x.assigns.sets? x.assigns.passed h x.caller
  rw [status, after, hrun]
  exact ⟨rfl, rfl⟩

theorem offers_of_success (x : Assignment d v) (h : x.status s = .success) :
    ∃ id node, s.Offers d v.which id node := by
  rw [status, SceneCall.run] at h
  cases hplan : x.call.plan x.caller x.memory s with
  | error status =>
    rw [hplan] at h
    exact absurd (hplan.trans (congrArg _ h)) (SceneCall.honest_plan _ _ _ _)
  | ok act =>
    obtain ⟨id, e, _, hfound, hlets, -⟩ := (SceneCall.plan_eq_ok_of_sets x.assigns.sets?).1 hplan
    obtain ⟨hnamed, helement⟩ := Session.resolve_eq_some.1 hfound
    obtain ⟨node, hnode, rfl⟩ := Option.map_eq_some_iff.1 helement
    exact ⟨_, node, hnamed, hnode, hlets⟩

theorem after_of_failure (x : Assignment d v) (h : x.status s ≠ .success) : x.after s = s := by
  rw [status, SceneCall.run] at h
  rw [after, SceneCall.run]
  cases hplan : x.call.plan x.caller x.memory s with
  | error status => rfl
  | ok act =>
    rw [hplan] at h
    rcases SceneAction.perform_cases (μ := x.μ) act s with ⟨regions, rfl⟩ | ⟨status, s', notices, hkept, hperform⟩
    · rfl
    · simp only [hperform] at h ⊢
      exact hkept h

end Assignment

/-! ## Sessions after assignments -/

namespace Session

variable {s s' : Session SceneStore} {d d' : Int32} {id other : NodeId} {node node' : SceneNode}
  {v v' : AttributeValue}

/-- all queries answer alike in two sessions, except perhaps those that ask for one attribute -/
def AnswersAlike (s s' : Session SceneStore) (except : Option (Int32 × Attribute)) : Prop :=
  ∀ call : SceneCall, call.isQuery → (∀ asked, call.asks? = some asked → except ≠ some asked) →
    ∀ {μ : Type} [LinearMemory μ] (caller : ScriptId) (m : μ),
      (call.run caller m s').status = (call.run caller m s).status ∧
        (call.run caller m s').memory = (call.run caller m s).memory

theorem node?_given (h : s.scene.node? id = some node) (other : NodeId) :
    (s.given id node v).scene.node? other =
      if other = id then some { node with element := node.element.assign v } else s.scene.node? other := by
  have hput : (s.given id node v).scene.node? other =
      (s.scene.put id (some { node with element := node.element.assign v })).node? other := rfl
  split
  · rename_i heq
    rw [hput, heq, SceneStore.node?_put_self h]
  · rename_i hne
    rw [hput, SceneStore.node?_put_of_ne hne]

theorem alike_given (h : s.scene.node? id = some node) :
    s.Alike (fun other a => other = id → a ≠ v.which) (s.given id node v) where
  registry := rfl
  elements other := by
    change Option.Rel _ ((s.scene.node? other).map _) (((s.given id node v).scene.node? other).map _)
    rw [node?_given h]
    split
    · rename_i heq
      rw [heq, h]
      have halike := node.element.alike_assign v
      exact .some ⟨halike.id, halike.kind, halike.current, fun a ha => halike.attribute? a (ha rfl)⟩
    · cases s.scene.node? other with
      | none => exact .none
      | some old => exact .some ⟨rfl, rfl, rfl, fun _ _ => rfl⟩

/-- queries that are decided alike answer alike -/
theorem answersAlike_of_alike {sees : NodeId → Attribute → Prop} {except : Option (Int32 × Attribute)}
    (h : s.Alike sees s')
    (hsees : ∀ d a, except ≠ some (d, a) → ∀ id, s.registry.node? d = some id → sees id a) :
    s.AnswersAlike s' except := by
  intro call hquery hasks μ _ caller m
  have hplan := SceneCall.plan_of_alike h hquery (fun d a ha => hsees d a (hasks _ ha)) caller m
  rw [SceneCall.run, SceneCall.run, hplan]
  cases hact : call.plan caller m s with
  | error status => exact ⟨rfl, rfl⟩
  | ok act =>
    have hdecides := SceneCall.plan_decides hact
    cases act with
    | write regions => exact ⟨rfl, rfl⟩
    | patch | animate | subscribe => exact absurd hquery hdecides.1.1

/-- two sessions with the same descriptors and the same scene; their journals may differ -/
structure SameScene (s s' : Session SceneStore) : Prop where
  registry : s'.registry = s.registry
  nodes : s'.scene.nodes = s.scene.nodes
  answers : s.AnswersAlike s' none

theorem sameScene_of_nodes (hregistry : s'.registry = s.registry) (hnodes : s'.scene.nodes = s.scene.nodes) :
    s.SameScene s' where
  registry := hregistry
  nodes := hnodes
  answers := by
    have halike : s.Alike (fun _ _ => True) s' := by
      refine ⟨hregistry, ?_⟩
      intro id
      change Option.Rel _ ((s.scene.node? id).map _) ((s'.scene.node? id).map _)
      rw [SceneStore.node?, SceneStore.node?, hnodes]
      cases s.scene.nodes[id.index]?.join with
      | none => exact .none
      | some node => exact .some ⟨rfl, rfl, rfl, fun _ _ => rfl⟩
    exact answersAlike_of_alike halike fun _ _ _ _ _ => trivial

/-- a query writes some bytes to an address and does nothing else; in an exact memory that has room for them it succeeds,
and they can be read there afterwards -/
structure Yields (s : Session SceneStore) (call : SceneCall) (out : Pointer) (bytes : ByteArray) : Prop where
  writes : ∀ {μ : Type} [LinearMemory μ] (caller : ScriptId) (m : μ),
    call.run caller m s = (SceneAction.write [⟨out, bytes⟩]).perform m s
  read : ∀ {μ : Type} [LinearMemory μ] [ExactMemory μ] (caller : ScriptId) (m : μ),
    out.toNat + bytes.size ≤ LinearMemory.size m →
      (call.run caller m s).status = .success ∧ readBytes (call.run caller m s).memory out bytes.size = .ok bytes

theorem yields_of_plan {call : SceneCall} {out : Pointer} {bytes : ByteArray}
    (h : ∀ {μ : Type} [LinearMemory μ] (caller : ScriptId) (m : μ),
      call.plan caller m s = .ok (.write [⟨out, bytes⟩])) : s.Yields call out bytes where
  writes caller m := by rw [SceneCall.run, h]
  read caller m hroom := by
    obtain ⟨m', hm⟩ := writeBytes_of_inside hroom
    have hwritten : writeRegions m [⟨out, bytes⟩] = (m', .ok ()) := by
      simp only [writeRegions, hm]
    rw [SceneCall.run, h]
    simp only [SceneAction.perform, hwritten]
    exact ⟨rfl, readBytes_writeBytes hm⟩

/-- setters and getters are lenses onto the attributes of elements, independent of each other -/
structure HasLenses (s : Session SceneStore) : Prop where
  /-- an assignment succeeds just if the descriptor names an element that lets guests set the attribute -/
  accepts : ∀ {d v} (x : Assignment d v),
    x.status s = .success ↔ ∃ id e, s.resolve d = some (id, e) ∧ e.kind.lets v.which
  /-- what was set is what one gets -/
  putGet : ∀ {d v} (x : Assignment d v), x.status s = .success → ∀ out capacity, v.Fits capacity →
    (x.after s).Yields (v.which.getter d out capacity) out v.bytes
  /-- and of a text also the length -/
  putGetLength : ∀ {d t} (x : Assignment d (.text t)), x.status s = .success → ∀ out,
    (x.after s).Yields (.getTextLength d out) out (encode (Int32.ofNat t.utf8ByteSize)).toByteArray
  /-- the last of two values stays -/
  putPut : ∀ {d v v'} (x : Assignment d v) (y : Assignment d v'), v.which = v'.which → x.status s = .success →
    y.status s = .success ∧ y.status (x.after s) = .success ∧ (y.after s).SameScene (y.after (x.after s))
  /-- one gets a value, and setting it changes no answer -/
  getPut : ∀ {d a id e}, s.resolve d = some (id, e) → e.kind.lets a → ∃ v : AttributeValue, v.which = a ∧
    (∀ out capacity, v.Fits capacity → s.Yields (a.getter d out capacity) out v.bytes) ∧
    ∀ x : Assignment d v, x.status s = .success ∧ s.AnswersAlike (x.after s) none
  /-- no other attribute and no other descriptor is concerned -/
  frame : ∀ {d v} (x : Assignment d v), s.AnswersAlike (x.after s) (some (d, v.which))
  /-- the order does not matter -/
  commute : ∀ {d v d' v'} (x : Assignment d v) (y : Assignment d' v'), (d, v.which) ≠ (d', v'.which) →
    x.status s = .success → y.status (x.after s) = .success →
      y.status s = .success ∧ x.status (y.after s) = .success ∧
        (y.after (x.after s)).SameScene (x.after (y.after s)) ∧
        (y.after (x.after s)).scene.journal.Perm (x.after (y.after s)).scene.journal

/-! ## The laws -/

theorem offers_of_resolve {a : Attribute} {e : Element} (hfound : s.resolve d = some (id, e)) (hlets : e.kind.lets a) :
    ∃ node : SceneNode, node.element = e ∧ s.Offers d a id node := by
  obtain ⟨hnamed, helement⟩ := resolve_eq_some.1 hfound
  obtain ⟨node, hnode, rfl⟩ := Option.map_eq_some_iff.1 helement
  exact ⟨node, rfl, hnamed, hnode, hlets⟩

/-- what is offered is offered still, with the value in its place -/
theorem Offers.given {a : Attribute} (h : s.Offers d' a other node') (hnode : s.scene.node? id = some node)
    (v : AttributeValue) : (s.given id node v).Offers d' a other
      (if other = id then { node with element := node.element.assign v } else node') where
  named := h.named
  present := by
    rw [node?_given hnode]
    split
    · rfl
    · exact h.present
  lets := by
    split
    · rename_i heq
      have hsame : node' = node := Option.some.inj (h.present.symm.trans (heq ▸ hnode))
      rw [← hsame]
      exact (node'.element.kind_assign v).symm ▸ h.lets
    · exact h.lets

/-- what is offered with a value in some place was offered before -/
theorem Offers.of_given {a : Attribute} (h : (s.given id node v).Offers d' a other node')
    (hnode : s.scene.node? id = some node) : ∃ old, s.Offers d' a other old := by
  have hpresent := h.present
  rw [node?_given hnode] at hpresent
  split at hpresent
  · rename_i heq
    cases hpresent
    exact ⟨node, h.named, heq ▸ hnode, (node.element.kind_assign v) ▸ h.lets⟩
  · exact ⟨node', h.named, hpresent, h.lets⟩

theorem yields_of_value {e : Element} (hfound : s.resolve d = some (id, e)) (hv : e.attribute? v.which = some v)
    (out : Pointer) {capacity : Int32} (hfits : v.Fits capacity) :
    s.Yields (v.which.getter d out capacity) out v.bytes :=
  yields_of_plan fun caller m => Attribute.plan_getter hfound hv out hfits caller m

/-- a text that a guest has set has a length that can be told -/
theorem textLength_of_assigns {μ : Type} [LinearMemory μ] {m : μ} {call : SceneCall} {t : String}
    (h : Assigns m d call (.text t)) : textLength t = .ok (Int32.ofNat t.utf8ByteSize) := by
  cases h with
  | @text input length _ hlength _ =>
    have hlt : length.toInt < 2 ^ 31 := length.toInt_lt
    have hlimit : signedLimit = 2 ^ 31 := rfl
    rw [textLength, if_pos]
    omega

section Accepted

variable (h : s.Offers d v.which id node)

include h

theorem after_eq (x : Assignment d v) : x.after s = s.given id node v := (x.outcome_of_offers h).2

/-- the descriptor names the same node afterwards, and its element has the value -/
theorem resolve_after (x : Assignment d v) : (x.after s).resolve d = some (id, node.element.assign v) := by
  have hafter := h.given h.present v
  rw [if_pos rfl] at hafter
  rw [after_eq h x]
  exact resolve_eq_some.2 ⟨hafter.named, congrArg (Option.map _) hafter.present⟩

theorem attribute?_after : (node.element.assign v).attribute? v.which = some v :=
  node.element.attribute?_assign h.lets

theorem yieldsLength_after {t : String} (ht : v = .text t) (x : Assignment d v) (out : Pointer) :
    (x.after s).Yields (.getTextLength d out) out (encode (Int32.ofNat t.utf8ByteSize)).toByteArray := by
  subst ht
  obtain ⟨state, hstate, hvalue⟩ := Option.map_eq_some_iff.1 (attribute?_after h)
  cases hvalue
  have hlength := textLength_of_assigns x.assigns
  apply yields_of_plan
  intro μ _ caller m
  simp only [SceneCall.plan, SceneCall.answerLength, bind_eq_ok, pure_eq_ok, Prod.exists, SceneCall.lookUp_eq_ok,
    SceneCall.textOf_eq_ok, SceneCall.access_eq_ok]
  exact ⟨id, _, resolve_after h x, state, hstate, _, hlength, rfl⟩

/-- another value for the same attribute can be set before and after, and replaces the first one -/
theorem putPut (x : Assignment d v) {v' : AttributeValue} (y : Assignment d v') (hwhich : v.which = v'.which) :
    y.status s = .success ∧ y.status (x.after s) = .success ∧ (y.after s).SameScene (y.after (x.after s)) := by
  have hbefore : s.Offers d v'.which id node := hwhich ▸ h
  have hafter := hbefore.given h.present v
  rw [if_pos rfl, ← after_eq h x] at hafter
  refine ⟨(y.outcome_of_offers hbefore).1, (y.outcome_of_offers hafter).1, ?_⟩
  rw [after_eq hbefore y, after_eq hafter y, after_eq h x]
  refine sameScene_of_nodes rfl ?_
  simp only [given, SceneStore.put, Array.setIfInBounds_setIfInBounds, node.element.assign_assign hwhich]

/-- a value that is there already can be set, and no query tells the difference -/
theorem getPut (x : Assignment d v) (hv : node.element.attribute? v.which = some v) :
    x.status s = .success ∧ s.AnswersAlike (x.after s) none := by
  refine ⟨(x.outcome_of_offers h).1, ?_⟩
  have halike : s.Alike (fun _ _ => True) (x.after s) := by
    rw [after_eq h x]
    refine ⟨rfl, ?_⟩
    intro other
    change Option.Rel _ ((s.scene.node? other).map _) (((s.given id node v).scene.node? other).map _)
    rw [node?_given h.present]
    split
    · rename_i heq
      rw [heq, h.present]
      exact .some ⟨node.element.id_assign v, node.element.kind_assign v, node.element.current_assign v,
        fun a _ => node.element.attribute?_assign_self hv a⟩
    · cases s.scene.node? other with
      | none => exact .none
      | some old => exact .some ⟨rfl, rfl, rfl, fun _ _ => rfl⟩
  exact answersAlike_of_alike halike fun _ _ _ _ _ => trivial

end Accepted

/-- an assignment is seen only by those who ask for the same attribute under the same descriptor -/
theorem frame (x : Assignment d v) : s.AnswersAlike (x.after s) (some (d, v.which)) := by
  by_cases hsuccess : x.status s = .success
  · obtain ⟨id, node, h⟩ := x.offers_of_success hsuccess
    rw [after_eq h x]
    refine answersAlike_of_alike (alike_given h.present) ?_
    intro d' a hexcept id' hid' heq ha
    -- only this descriptor names the node
    have hsame : d' = d := s.indexed.node?_injective hid' (heq ▸ h.named)
    exact hexcept (by rw [hsame, ha])
  · rw [x.after_of_failure hsuccess]
    intro call _ _ μ _ caller m
    exact ⟨rfl, rfl⟩

/-- two assignments that do not concern the same attribute of the same descriptor can be made in either order -/
theorem commute (x : Assignment d v) (y : Assignment d' v') (hne : (d, v.which) ≠ (d', v'.which))
    (hx : x.status s = .success) (hy : y.status (x.after s) = .success) :
    y.status s = .success ∧ x.status (y.after s) = .success ∧
      (y.after (x.after s)).SameScene (x.after (y.after s)) ∧
      (y.after (x.after s)).scene.journal.Perm (x.after (y.after s)).scene.journal := by
  obtain ⟨id, node, h⟩ := x.offers_of_success hx
  obtain ⟨id', _, hlater⟩ := y.offers_of_success hy
  rw [after_eq h x] at hlater
  obtain ⟨node', h'⟩ := hlater.of_given h.present
  have hxy := h'.given h.present v
  have hyx := h.given h'.present v'
  rw [after_eq h x, after_eq h' y, after_eq hxy y, after_eq hyx x]
  refine ⟨(y.outcome_of_offers h').1, (x.outcome_of_offers hyx).1, ?_⟩
  by_cases heq : id' = id
  · -- one node has one descriptor, so the attributes differ
    subst heq
    obtain rfl : node' = node := Option.some.inj (h'.present.symm.trans h.present)
    obtain rfl : d' = d := s.indexed.node?_injective h'.named h.named
    have hwhich : v.which ≠ v'.which := fun hwhich => hne (by rw [hwhich])
    rw [if_pos rfl, if_pos rfl]
    refine ⟨sameScene_of_nodes rfl ?_, ?_⟩
    · simp only [given, SceneStore.put, Array.setIfInBounds_setIfInBounds, node'.element.assign_comm hwhich]
    · simp only [given, Element.patch_assign]
      exact .swap ..
  · rw [if_neg heq, if_neg fun h => heq h.symm]
    refine ⟨sameScene_of_nodes rfl ?_, .swap ..⟩
    have hindex : id'.index ≠ id.index := fun hindex => heq (congrArg NodeId.mk hindex)
    simp only [given, SceneStore.put]
    exact Array.setIfInBounds_comm _ _ hindex

end Session

/-- **Setters and getters are lenses.** In every session, whatever nodes were registered and whatever is in the scene: a
setter succeeds where guests can set the attribute, a getter answers with the bits that were set last,
setting what one has got is not seen, and assignments to different attributes or descriptors neither see each other nor
depend on their order. -/
theorem setters_lawful (s : Session SceneStore) : s.HasLenses where
  accepts {d v} x := by
    constructor
    · intro h
      obtain ⟨id, node, hoffers⟩ := x.offers_of_success h
      exact ⟨id, node.element, Session.resolve_eq_some.2 ⟨hoffers.named, congrArg (Option.map _) hoffers.present⟩,
        hoffers.lets⟩
    · rintro ⟨id, e, hfound, hlets⟩
      obtain ⟨node, rfl, hoffers⟩ := Session.offers_of_resolve hfound hlets
      exact (x.outcome_of_offers hoffers).1
  putGet {d v} x h out capacity hfits := by
    obtain ⟨id, node, hoffers⟩ := x.offers_of_success h
    exact Session.yields_of_value (Session.resolve_after hoffers x) (Session.attribute?_after hoffers) out hfits
  putGetLength {d t} x h out := by
    obtain ⟨id, node, hoffers⟩ := x.offers_of_success h
    exact Session.yieldsLength_after hoffers rfl x out
  putPut {d v v'} x y hwhich h := by
    obtain ⟨id, node, hoffers⟩ := x.offers_of_success h
    exact Session.putPut hoffers x y hwhich
  getPut {d a id e} hfound hlets := by
    obtain ⟨node, rfl, hoffers⟩ := Session.offers_of_resolve hfound hlets
    obtain ⟨v, hv⟩ := Option.isSome_iff_exists.1 (node.element.isSome_attribute? hlets)
    obtain rfl := node.element.which_of_attribute? hv
    exact ⟨v, rfl, fun out capacity hfits => Session.yields_of_value hfound hv out hfits,
      fun x => Session.getPut hoffers x hv⟩
  frame x := Session.frame x
  commute x y hne hx hy := Session.commute x y hne hx hy

end ScriptHost
