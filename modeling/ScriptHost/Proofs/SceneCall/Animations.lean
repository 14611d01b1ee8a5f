/-
Scene calls and the animations of models. A guest chooses a clip by its index or by its name. A name stands for the first
clip that has it, so a choice by name is a choice by index (`SceneStore.animate?_of_first`), and the call by name does what
the call with that index does. What was chosen can be asked for, and starting or stopping the animation leaves the choice
alone (`Session.animates_of_model`).
-/
import ScriptHost.Proofs.SceneCall.Lenses
import ScriptHost.Proofs.SceneCall.Reasons

namespace ScriptHost

open Wire

/-! ## The first clip of a name -/

/-- the clip at an index is the first one with a name -/
def FirstClip (clips : List String) (name : String) (i : Nat) : Prop :=
  clips[i]? = some name ∧ ∀ j < i, clips[j]? ≠ some name

theorem firstClip_iff {clips : List String} {name : String} {i : Nat} :
    FirstClip clips name i ↔ clips.idxOf? name = some i := by
  rw [List.idxOf?_eq_some_iff, FirstClip]
  constructor
  · rintro ⟨hi, hbefore⟩
    obtain ⟨hlt, hname⟩ := List.getElem?_eq_some_iff.1 hi
    exact ⟨hlt, hname, fun j hj heq => hbefore j hj (List.getElem?_eq_some_iff.2 ⟨by omega, heq⟩)⟩
  · rintro ⟨hlt, hname, hbefore⟩
    refine ⟨List.getElem?_eq_some_iff.2 ⟨hlt, hname⟩, fun j hj heq => ?_⟩
    obtain ⟨hj', heq⟩ := List.getElem?_eq_some_iff.1 heq
    exact hbefore j hj heq

/-! ## Choices in a scene -/

theorem ElementData.model?_eq_some {data : ElementData} {state : ModelState} :
    data.model? = some state ↔ data = .model state := by
  cases data <;> simp [model?]

/-- an element with other animations -/
def Element.withModel (e : Element) (state : ModelState) : Element := { e with data := .model state }

namespace SceneStore

variable {s : SceneStore} {id : NodeId} {node : SceneNode} {state : ModelState} {playState : PlayState}
  {wrap : AnimationWrap} (hnode : s.node? id = some node) (hstate : node.element.data = .model state)

include hnode hstate

/-- a clip that there is can be chosen, and this is all that changes -/
theorem animate?_of_index {i : Nat} (hi : i < state.clips.length) : s.animate? id (.index i) playState wrap =
    some (s.put id (some { node with
      element := node.element.withModel { state with current := some i, playState, wrap } })) := by
  refine animate?_eq_some.2 ⟨node, _, hnode, ?_, rfl⟩
  simp only [SceneNode.animate?, ElementData.model?_eq_some.2 hstate, bind, Option.bind_some, if_pos hi]
  rfl

theorem animate?_of_no_index {i : Nat} (hi : ¬ i < state.clips.length) :
    s.animate? id (.index i) playState wrap = none := by
  simp only [animate?, hnode, SceneNode.animate?, ElementData.model?_eq_some.2 hstate, bind, Option.bind_some, if_neg hi,
    Option.bind_none]

/-- a name chooses the first clip that has it -/
theorem animate?_of_first {name : String} {i : Nat} (h : FirstClip state.clips name i) :
    s.animate? id (.name name) playState wrap = s.animate? id (.index i) playState wrap := by
  have hi : i < state.clips.length := (List.getElem?_eq_some_iff.1 h.1).1
  simp only [animate?, hnode, SceneNode.animate?, ElementData.model?_eq_some.2 hstate, bind, Option.bind_some,
    firstClip_iff.1 h, if_pos hi]

theorem animate?_of_no_name {name : String} (h : name ∉ state.clips) :
    s.animate? id (.name name) playState wrap = none := by
  simp only [animate?, hnode, SceneNode.animate?, ElementData.model?_eq_some.2 hstate, bind, Option.bind_some,
    List.idxOf?_eq_none_iff.2 h, Option.bind_none]

end SceneStore

/-! ## The calls -/

/-- two calls, perhaps with different memories, have the same status and leave the same session and the same notices -/
structure SceneOutcome.Agrees {μ μ' σ : Type} (o : SceneOutcome μ σ) (o' : SceneOutcome μ' σ) : Prop where
  status : o.status = o'.status
  session : o.session = o'.session
  notices : o.notices = o'.notices

namespace SceneCall

section Decisions

variable {μ : Type} [LinearMemory μ] {σ : Type} [SceneBackend σ] {s : Session σ} {d : Int32} {id : NodeId} {e : Element}
  {state : ModelState}

/-- the decision on a clip, with the codes of the play state and the wrap -/
def choose (node : NodeId) (clip : Clip) (playState wrap : Int32) : Except CallStatus SceneAction := do
  let playState ← coded (PlayState.ofCode? playState)
  let wrap ← coded (AnimationWrap.ofCode? wrap)
  return .animate node clip playState wrap

variable (hfound : s.resolve d = some (id, e)) (hstate : e.data = .model state) (caller : ScriptId) (m : μ)

include hfound hstate

theorem plan_changeAnimation {index : Int32} (hindex : 0 ≤ index) (playState wrap : Int32) :
    (changeAnimation d index playState wrap).plan caller m s =
      choose id (.index index.toInt.toNat) playState wrap := by
  have hlookUp := lookUp_eq_ok.2 hfound
  have hmodel := modelOf_eq_ok.2 (ElementData.model?_eq_some.2 hstate)
  have hnatural := natural_eq_ok.2 ⟨Int32.not_lt.2 hindex, rfl⟩
  simp only [plan, hlookUp, hmodel, hnatural, bind, Except.bind]
  rfl

theorem plan_changeAnimationByName {name : Pointer} {length : Int32} {text : String} (hlength : 0 ≤ length)
    (htext : readText m name length.toInt.toNat = .ok text) (playState wrap : Int32) :
    (changeAnimationByName d name length playState wrap).plan caller m s = choose id (.name text) playState wrap := by
  have hlookUp := lookUp_eq_ok.2 hfound
  have hmodel := modelOf_eq_ok.2 (ElementData.model?_eq_some.2 hstate)
  have hnatural := natural_eq_ok.2 ⟨Int32.not_lt.2 hlength, rfl⟩
  simp only [plan, hlookUp, hmodel, hnatural, htext, access, bind, Except.bind]
  rfl

end Decisions

/-- both codes stand for something, or nothing can be chosen -/
theorem choose_cases (playState wrap : Int32) :
    (∃ (p : PlayState) (w : AnimationWrap), p.code = playState ∧ w.code = wrap ∧
      ∀ node clip, choose node clip playState wrap = .ok (.animate node clip p w)) ∨
    (((∀ p : PlayState, p.code ≠ playState) ∨ ∀ w : AnimationWrap, w.code ≠ wrap) ∧
      ∀ node clip, choose node clip playState wrap = .error .invalidArgument) := by
  rcases coded_playState playState with ⟨hnone, hcoded⟩ | ⟨p, hp, hcoded⟩
  · exact .inr ⟨.inl hnone, fun node clip => by simp only [choose, hcoded, bind, Except.bind]⟩
  · rcases coded_wrap wrap with ⟨hnone, hcoded'⟩ | ⟨w, hw, hcoded'⟩
    · exact .inr ⟨.inr hnone, fun node clip => by simp only [choose, hcoded, hcoded', bind, Except.bind]⟩
    · exact .inl ⟨p, w, hp, hw, fun node clip => by simp only [choose, hcoded, hcoded', bind, Except.bind]; rfl⟩

end SceneCall

/-! ## What a choice leaves -/

namespace Session

variable {s s' : Session SceneStore} {d : Int32} {id : NodeId} {e e' : Element} {node : SceneNode} {state : ModelState}

/-- all that differs between two sessions is the element of a node, and perhaps what was noted -/
structure Changes (s s' : Session SceneStore) (id : NodeId) (e' : Element) : Prop where
  registry : s'.registry = s.registry
  nodes : ∀ other, s'.scene.node? other =
    if other = id then (s.scene.node? id).map fun node => { node with element := e' } else s.scene.node? other

theorem changes_put (hnode : s.scene.node? id = some node) (e' : Element) :
    s.Changes { s with scene := s.scene.put id (some { node with element := e' }) } id e' := by
  refine ⟨rfl, fun other => ?_⟩
  split
  · rename_i heq
    rw [heq, SceneStore.node?_put_self hnode, hnode]
    rfl
  · rename_i hne
    exact SceneStore.node?_put_of_ne hne _

theorem changes_given (hnode : s.scene.node? id = some node) (v : AttributeValue) :
    s.Changes (s.given id node v) id (node.element.assign v) := by
  refine ⟨rfl, fun other => ?_⟩
  rw [node?_given hnode, hnode]
  rfl

theorem Changes.resolve (h : s.Changes s' id e') (hfound : s.resolve d = some (id, e)) :
    s'.resolve d = some (id, e') := by
  obtain ⟨hnamed, helement⟩ := resolve_eq_some.1 hfound
  obtain ⟨node, hnode, -⟩ := Option.map_eq_some_iff.1 helement
  refine resolve_eq_some.2 ⟨h.registry ▸ hnamed, ?_⟩
  have hnew := h.nodes id
  rw [if_pos rfl, hnode] at hnew
  exact congrArg (Option.map SceneNode.element) hnew

/-- the chosen clip is told by its index -/
theorem yields_getCurrentAnimation (hfound : s.resolve d = some (id, e)) (hstate : e.data = .model state)
    (out : Pointer) :
    s.Yields (.getCurrentAnimation d out) out (encode (SceneCall.currentIndex state)).toByteArray :=
  yields_of_plan fun caller m => by
    have hlookUp := SceneCall.lookUp_eq_ok.2 hfound
    have hmodel := SceneCall.modelOf_eq_ok.2 (ElementData.model?_eq_some.2 hstate)
    simp only [SceneCall.plan, hlookUp, hmodel, bind, Except.bind]
    rfl

theorem yields_getPlayState (hfound : s.resolve d = some (id, e)) (hstate : e.data = .model state) (out : Pointer) :
    s.Yields (.getPlayState d out) out (encode state.playState.code).toByteArray :=
  yields_of_plan fun caller m => by
    have hlookUp := SceneCall.lookUp_eq_ok.2 hfound
    have hmodel := SceneCall.modelOf_eq_ok.2 (ElementData.model?_eq_some.2 hstate)
    simp only [SceneCall.plan, hlookUp, hmodel, bind, Except.bind]
    rfl

end Session

namespace SceneCall

section Choices

variable {s : Session SceneStore} {d : Int32} {id : NodeId} {e : Element} {state : ModelState}
  (hfound : s.resolve d = some (id, e)) (hstate : e.data = .model state) {μ : Type} [LinearMemory μ]
  (caller : ScriptId) (m : μ)

include hfound hstate

/-- a choice by name agrees with the choice of the first clip of that name -/
theorem agrees_byName {name : Pointer} {length : Int32} {text : String} (hlength : 0 ≤ length)
    (htext : readText m name length.toInt.toNat = .ok text) {index : Int32} (hindex : 0 ≤ index)
    (hfirst : FirstClip state.clips text index.toInt.toNat) (playState wrap : Int32) {μ' : Type} [LinearMemory μ']
    (caller' : ScriptId) (m' : μ') :
    ((changeAnimationByName d name length playState wrap).run caller m s).Agrees
      ((changeAnimation d index playState wrap).run caller' m' s) := by
  obtain ⟨-, helement⟩ := Session.resolve_eq_some.1 hfound
  obtain ⟨node, hnode, rfl⟩ := Option.map_eq_some_iff.1 helement
  rw [run, run, plan_changeAnimationByName hfound hstate caller m hlength htext,
    plan_changeAnimation hfound hstate caller' m' hindex]
  rcases choose_cases playState wrap with ⟨p, w, -, -, hchoose⟩ | ⟨-, hchoose⟩
  · rw [hchoose, hchoose]
    simp only [SceneAction.perform, SceneBackend.animate?, SceneStore.animate?_of_first hnode hstate hfirst]
    split <;> exact ⟨rfl, rfl, rfl⟩
  · rw [hchoose, hchoose]
    exact ⟨rfl, rfl, rfl⟩

theorem run_byName_of_no_clip {name : Pointer} {length : Int32} {text : String} (hlength : 0 ≤ length)
    (htext : readText m name length.toInt.toNat = .ok text) (hnone : text ∉ state.clips) (playState wrap : Int32) :
    (changeAnimationByName d name length playState wrap).run caller m s =
      { status := .invalidArgument, memory := m, session := s } := by
  obtain ⟨-, helement⟩ := Session.resolve_eq_some.1 hfound
  obtain ⟨node, hnode, rfl⟩ := Option.map_eq_some_iff.1 helement
  rw [run, plan_changeAnimationByName hfound hstate caller m hlength htext]
  rcases choose_cases playState wrap with ⟨p, w, -, -, hchoose⟩ | ⟨-, hchoose⟩
  · rw [hchoose]
    simp only [SceneAction.perform, SceneBackend.animate?, SceneStore.animate?_of_no_name hnode hstate hnone]
  · rw [hchoose]

/-- a choice by index is taken just if there is such a clip and both codes stand for something -/
theorem changeAnimation_cases (index playState wrap : Int32) :
    (∃ (i : Nat) (p : PlayState) (w : AnimationWrap), index.toInt = i ∧ i < state.clips.length ∧ p.code = playState ∧
      w.code = wrap ∧ ((changeAnimation d index playState wrap).run caller m s).status = .success ∧
      s.Changes ((changeAnimation d index playState wrap).run caller m s).session id
        (e.withModel { state with current := some i, playState := p, wrap := w })) ∨
    (changeAnimation d index playState wrap).run caller m s =
      { status := .invalidArgument, memory := m, session := s } := by
  obtain ⟨-, helement⟩ := Session.resolve_eq_some.1 hfound
  obtain ⟨node, hnode, rfl⟩ := Option.map_eq_some_iff.1 helement
  rcases natural_cases index with ⟨hneg, hnatural⟩ | ⟨hnat, -⟩
  · right
    have hlookUp := lookUp_eq_ok.2 hfound
    have hmodel := modelOf_eq_ok.2 (ElementData.model?_eq_some.2 hstate)
    have hplan : (changeAnimation d index playState wrap).plan caller m s = .error .invalidArgument := by
      simp only [plan, hlookUp, hmodel, hnatural, bind, Except.bind]
    rw [run, hplan]
  · have hindex : index.toInt = (index.toInt.toNat : Nat) := by
      rw [Int32.le_iff_toInt_le, Int32.toInt_zero] at hnat
      omega
    rw [run, plan_changeAnimation hfound hstate caller m hnat]
    rcases choose_cases playState wrap with ⟨p, w, hp, hw, hchoose⟩ | ⟨-, hchoose⟩
    · rw [hchoose]
      by_cases hi : index.toInt.toNat < state.clips.length
      · left
        simp only [SceneAction.perform, SceneBackend.animate?, SceneStore.animate?_of_index hnode hstate hi]
        exact ⟨_, p, w, hindex, hi, hp, hw, trivial, Session.changes_put hnode _⟩
      · right
        simp only [SceneAction.perform, SceneBackend.animate?, SceneStore.animate?_of_no_index hnode hstate hi]
    · rw [hchoose]
      exact .inr rfl

/-- a model is started or stopped, and its choice stays -/
theorem setPlayState_changes (p : PlayState) :
    ((setPlayState d p.code).run caller m s).status = .success ∧
      s.Changes ((setPlayState d p.code).run caller m s).session id (e.withModel { state with playState := p }) := by
  obtain ⟨hnamed, helement⟩ := Session.resolve_eq_some.1 hfound
  obtain ⟨node, hnode, rfl⟩ := Option.map_eq_some_iff.1 helement
  let x : Assignment d (.playState p) := ⟨caller, m, setPlayState d p.code, .playState p⟩
  have hlets : node.element.kind.lets .playState := by
    rw [Element.kind, hstate]
    rfl
  have hassign : node.element.assign (.playState p) = node.element.withModel { state with playState := p } := by
    rw [Element.assign, Element.withModel, hstate]
    rfl
  obtain ⟨hsuccess, hafter⟩ := x.outcome_of_offers ⟨hnamed, hnode, hlets⟩
  have hsession : ((setPlayState d p.code).run caller m s).session = s.given id node (.playState p) := hafter
  rw [hsession, ← hassign]
  exact ⟨hsuccess, Session.changes_given hnode _⟩

theorem setPlayState_of_unknown {code : Int32} (h : ∀ p : PlayState, p.code ≠ code) :
    (setPlayState d code).run caller m s = { status := .invalidArgument, memory := m, session := s } := by
  have hlookUp := lookUp_eq_ok.2 hfound
  have hmodel := modelOf_eq_ok.2 (ElementData.model?_eq_some.2 hstate)
  have hplan : (setPlayState d code).plan caller m s = .error .invalidArgument := by
    rcases coded_playState code with ⟨-, hcoded⟩ | ⟨p, hp, -⟩
    · simp only [plan, hlookUp, hmodel, hcoded, bind, Except.bind]
    · exact absurd hp (h p)
  rw [run, hplan]

end Choices

/-- the word for a chosen clip is its index, as long as the index is below the limit of signed words -/
theorem currentIndex_of_lt {state : ModelState} {i : Nat} (h : state.current = some i) (hi : i < signedLimit) :
    (currentIndex state).toInt = i := by
  simp only [currentIndex, h, if_pos hi]
  exact Int32.toInt_ofNat_of_lt hi

end SceneCall

/-! ## All of it -/

open SceneCall

/-- what guests can do to the animations of a model that a descriptor names -/
structure Session.Animates (s : Session SceneStore) (d : Int32) (id : NodeId) (e : Element) (state : ModelState) : Prop where
  /-- a name that some clip has does what the index of the first such clip does, whatever the codes are -/
  byName : ∀ {μ : Type} [LinearMemory μ] caller (m : μ) (name : Pointer) (length : Int32) (bytes : ByteArray), 0 ≤ length →
    readBytes m name length.toInt.toNat = .ok bytes → Text.decodeLossy bytes ∈ state.clips →
      ∃ (i : Nat) (index : Int32), index.toInt = i ∧ FirstClip state.clips (Text.decodeLossy bytes) i ∧
        ∀ (playState wrap : Int32) {μ' : Type} [LinearMemory μ'] caller' (m' : μ'),
          ((changeAnimationByName d name length playState wrap).run caller m s).Agrees
            ((changeAnimation d index playState wrap).run caller' m' s)
  /-- any other name is refused, and nothing changes -/
  noClip : ∀ {μ : Type} [LinearMemory μ] caller (m : μ) (name : Pointer) (length : Int32) (bytes : ByteArray), 0 ≤ length →
    readBytes m name length.toInt.toNat = .ok bytes → Text.decodeLossy bytes ∉ state.clips → ∀ playState wrap,
      (changeAnimationByName d name length playState wrap).run caller m s =
        { status := .invalidArgument, memory := m, session := s }
  /-- a choice that succeeds is told afterwards, and it changes the animations of the model and nothing else -/
  chosen : ∀ {μ : Type} [LinearMemory μ] caller (m : μ) (index playState wrap : Int32),
    ((changeAnimation d index playState wrap).run caller m s).status = .success →
      ∃ (i : Nat) (p : PlayState) (w : AnimationWrap), index.toInt = i ∧ i < state.clips.length ∧ p.code = playState ∧
        w.code = wrap ∧
        s.Changes ((changeAnimation d index playState wrap).run caller m s).session id
          (e.withModel { state with current := some i, playState := p, wrap := w }) ∧
        ∀ out, ((changeAnimation d index playState wrap).run caller m s).session.Yields (.getCurrentAnimation d out) out
            (encode index).toByteArray ∧
          ((changeAnimation d index playState wrap).run caller m s).session.Yields (.getPlayState d out) out
            (encode playState).toByteArray
  /-- starting and stopping changes the play state and nothing else -/
  played : ∀ {μ : Type} [LinearMemory μ] caller (m : μ) (p : PlayState),
    ((setPlayState d p.code).run caller m s).status = .success ∧
      s.Changes ((setPlayState d p.code).run caller m s).session id (e.withModel { state with playState := p })
  /-- and a code that stands for no play state changes nothing -/
  notPlayed : ∀ {μ : Type} [LinearMemory μ] caller (m : μ) (code : Int32), (∀ p : PlayState, p.code ≠ code) →
    (setPlayState d code).run caller m s = { status := .invalidArgument, memory := m, session := s }

theorem Session.animates_of_model {s : Session SceneStore} {d : Int32} {id : NodeId} {e : Element} {state : ModelState}
    (hfound : s.resolve d = some (id, e)) (hstate : e.data = .model state) (hfew : state.clips.length < signedLimit) :
    s.Animates d id e state where
  byName caller m name length bytes hlength hbytes hsome := by
    have htext := readText_of_bytes hbytes
    obtain ⟨i, hi⟩ := Option.isSome_iff_exists.1 (List.isSome_idxOf?.2 hsome)
    have hfirst := firstClip_iff.2 hi
    have hlt : i < signedLimit := Nat.lt_trans (List.getElem?_eq_some_iff.1 hfirst.1).1 hfew
    have hindex : (Int32.ofNat i).toInt = i := Int32.toInt_ofNat_of_lt hlt
    refine ⟨i, Int32.ofNat i, hindex, hfirst, fun playState wrap _ _ caller' m' => ?_⟩
    refine agrees_byName hfound hstate caller m hlength htext (nonneg_of_toInt hindex) ?_ playState wrap caller' m'
    rw [hindex, Int.toNat_natCast]
    exact hfirst
  noClip caller m name length bytes hlength hbytes hnone := by
    have htext := readText_of_bytes hbytes
    exact run_byName_of_no_clip hfound hstate caller m hlength htext hnone
  chosen caller m index playState wrap hsuccess := by
    rcases changeAnimation_cases hfound hstate caller m index playState wrap with
      ⟨i, p, w, hindex, hi, hp, hw, -, hchanges⟩ | hrefused
    · refine ⟨i, p, w, hindex, hi, hp, hw, hchanges, fun out => ?_⟩
      have hafter := hchanges.resolve hfound
      have hcurrent : currentIndex { state with current := some i, playState := p, wrap := w } = index := by
        rw [← Int32.toInt_inj, hindex]
        exact currentIndex_of_lt rfl (Nat.lt_trans hi hfew)
      exact ⟨hcurrent ▸ Session.yields_getCurrentAnimation hafter rfl out,
        hp ▸ Session.yields_getPlayState hafter rfl out⟩
    · rw [hrefused] at hsuccess
      cases hsuccess
  played caller m p := setPlayState_changes hfound hstate caller m p
  notPlayed caller m _ h := setPlayState_of_unknown hfound hstate caller m h

end ScriptHost
