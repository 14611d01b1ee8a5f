/-
What scene calls decide on. A query decides on regions to write, and they lie inside of a footprint that is known from
the call and the session alone (`SceneCall.outputs`); any other call decides on one change of the node that it names, or on
one request for its events (`SceneCall.request?`).

- `SceneCall.plan_decides`: this holds of every call, whatever its words.
- `SceneCall.honest_plan`: a call that is turned down is never told that it succeeded.
-/
import ScriptHost.Proofs.Memory.Access
import ScriptHost.Proofs.Scene.Subscriptions
import ScriptHost.SceneCall.Plan

namespace ScriptHost

open Wire

/-! ## The footprint of a call -/

namespace SceneCall

/-- does the call only ask? -/
def isQuery : SceneCall → Bool
  | setDisplay .. | setPosition .. | setRotation .. | setScale .. | setText .. | setBackgroundColor ..
  | changeAnimation .. | changeAnimationByName .. | setPlayState .. | registerEvent .. => false
  | _ => true

/-- the descriptor of the element that the call is about, if it is about one -/
def descriptor? : SceneCall → Option Int32
  | getElementCount .. | getElements .. | getElementById .. => none
  | getIdLength d .. | getId d .. | getDisplay d .. | setDisplay d .. | getPosition d .. | setPosition d ..
  | getRotation d .. | setRotation d .. | getScale d .. | setScale d .. | getTextLength d .. | getText d ..
  | setText d .. | getBackgroundColor d .. | setBackgroundColor d .. | changeAnimation d ..
  | changeAnimationByName d .. | getPlayState d .. | setPlayState d .. | getCurrentAnimation d ..
  | registerEvent d .. => some d

variable {σ : Type} [SceneBackend σ]

/-- the size of a text of an element, if the descriptor names one -/
def textSize (s : Session σ) (descriptor : Int32) (text : Element → String) : Nat :=
  match s.resolve descriptor with
  | some (_, e) => (text e).utf8ByteSize
  | none => 0

/-- the bytes that a call may change: those of its answer -/
def outputs (s : Session σ) : SceneCall → List Span
  | getIdLength _ out | getDisplay _ out | getTextLength _ out | getPlayState _ out | getCurrentAnimation _ out
  | getElementCount out => [⟨out, 4⟩]
  | getElementById _ _ out => [⟨out, 8⟩]
  | getPosition _ out | getScale _ out => [⟨out, 12⟩]
  | getRotation _ out | getBackgroundColor _ out => [⟨out, 16⟩]
  | getId d out _ => [⟨out, textSize s d Element.idText⟩]
  | getText d out _ => [⟨out, textSize s d fun e => (e.data.text?.map (·.text)).getD ""⟩]
  | getElements array length count => [⟨array, 8 * min length.toInt.toNat s.records.length⟩, ⟨count, 4⟩]
  | _ => []

/-- what a call of the script `caller` asks to be told of, if it asks for events and what it names can be found -/
def request? (caller : ScriptId) (s : Session σ) : SceneCall → Option Request
  | registerEvent d code userData => do
    let (node, e) ← s.resolve d
    let event ← EventKind.ofCode? code
    return ⟨node, event, .script caller ⟨d, e.kind.code, code, userData⟩⟩
  | _ => none

theorem request?_of_isQuery {call : SceneCall} (h : call.isQuery) (caller : ScriptId) (s : Session σ) :
    call.request? caller s = none := by
  cases call with
  | registerEvent => cases h
  | _ => rfl

/-! ## Decisions -/

variable {μ : Type} [LinearMemory μ]

/-- the call names the node, and it does so to change it -/
def Names (s : Session σ) (call : SceneCall) (node : NodeId) : Prop :=
  ¬ call.isQuery ∧ ∃ d e, call.descriptor? = some d ∧ s.resolve d = some (node, e)

/-- what a call may decide on: a query on writing inside of its footprint, where all regions but the first were found to
lie inside the memory; any other call on a change of the node that it names, or on its request -/
def Decides (caller : ScriptId) (m : μ) (s : Session σ) (call : SceneCall) : SceneAction → Prop
  | .write regions =>
    call.isQuery ∧ (∀ r ∈ regions, r.span ∈ call.outputs s) ∧ ∀ r ∈ regions.tail, r.Inside (LinearMemory.size m)
  | .patch node _ | .animate node .. => call.Names s node ∧ call.request? caller s = none
  | .subscribe node event subscriber =>
    call.Names s node ∧ call.request? caller s = some ⟨node, event, subscriber⟩

theorem lookUp_eq_ok {s : Session σ} {d : Int32} {found : NodeId × Element} :
    lookUp s d = .ok found ↔ s.resolve d = some found := by
  unfold lookUp
  cases s.resolve d <;> simp

theorem textOf_eq_ok {e : Element} {state : TextState} : textOf e = .ok state ↔ e.data.text? = some state := by
  unfold textOf
  cases e.data.text? <;> simp

theorem natural_eq_ok {word : Int32} {n : Nat} : natural word = .ok n ↔ ¬ word < 0 ∧ word.toInt.toNat = n := by
  unfold natural
  split <;> simp [*]

/-- a word that tells a number is not negative -/
theorem nonneg_of_toInt {word : Int32} {n : Nat} (h : word.toInt = n) : 0 ≤ word := by
  rw [Int32.le_iff_toInt_le, h]
  exact Int.natCast_nonneg n

theorem natural_of_toInt {word : Int32} {n : Nat} (h : word.toInt = n) : natural word = .ok n :=
  natural_eq_ok.2 ⟨Int32.not_lt.2 (nonneg_of_toInt h), by rw [h, Int.toNat_natCast]⟩

theorem coded_eq_ok {α : Type} {o : Option α} {a : α} : coded o = .ok a ↔ o = some a := by
  cases o <;> simp [coded]

theorem access_eq_ok {α : Type} {x : Except AccessError α} {a : α} : access x = .ok a ↔ x = .ok a := by
  cases x <;> simp [access]

theorem textBytes_eq_ok {capacity : Nat} {text : String} {bytes : ByteArray} :
    textBytes capacity text = .ok bytes ↔ text.utf8ByteSize ≤ capacity ∧ text.toUTF8 = bytes := by
  unfold textBytes
  split <;> simp [*]

variable {caller : ScriptId} {m : μ} {s : Session σ} {call : SceneCall}

theorem decides_answer {α : Type} [WireValue α] {out : Pointer} {value : α} (hquery : call.isQuery)
    (houtputs : call.outputs s = [⟨out, wireSize α⟩]) : Decides caller m s call (answer out value) := by
  refine ⟨hquery, ?_, nofun⟩
  intro r hr
  rw [List.mem_singleton.1 hr, houtputs, Region.span_ofValue]
  exact List.mem_singleton_self _

theorem decides_answerText {out : Pointer} {capacity : Int32} {text : String} {act : SceneAction}
    (hquery : call.isQuery) (houtputs : call.outputs s = [⟨out, text.utf8ByteSize⟩])
    (h : answerText out capacity text = .ok act) : Decides caller m s call act := by
  simp only [answerText, bind_eq_ok, pure_eq_ok, access_eq_ok, textBytes_eq_ok] at h
  obtain ⟨_, -, bytes, ⟨-, rfl⟩, rfl⟩ := h
  refine ⟨hquery, ?_, nofun⟩
  intro r hr
  rw [List.mem_singleton.1 hr, houtputs]
  exact List.mem_singleton_self _

theorem enumerate_eq_ok {array count : Pointer} {length : Int32} {copied : List ElementRecord}
    {regions : List Region} (h : enumerate m s array length count = .ok (copied, regions)) :
    copied = s.records.take length.toInt.toNat ∧ count.toNat + 4 ≤ LinearMemory.size m ∧
      ∃ total, regions = if copied.isEmpty then [.ofValue count (total : Int32)]
        else [.ofValues array copied, .ofValue count total] := by
  simp only [enumerate, bind_eq_ok, pure_eq_ok, Prod.mk.injEq, access_eq_ok, natural_eq_ok] at h
  obtain ⟨_, ⟨-, rfl⟩, total, -, ⟨⟩, hslot, rfl, hregions⟩ := h
  exact ⟨rfl, (checkBounds_eq_ok_iff _ _ _).1 hslot, total, hregions.symm⟩

theorem decides_enumerate {array count : Pointer} {length : Int32} {copied : List ElementRecord}
    {regions : List Region} (h : enumerate m s array length count = .ok (copied, regions)) :
    Decides caller m s (.getElements array length count) (.write regions) := by
  obtain ⟨hcopied, hslot, total, hregions⟩ := enumerate_eq_ok h
  have hsize : copied.length = min length.toInt.toNat s.records.length := by rw [hcopied, List.length_take]
  refine ⟨rfl, ?_, ?_⟩
  · intro r hr
    rw [outputs, ← hsize]
    split at hregions
    · rw [hregions, List.mem_singleton] at hr
      rw [hr, Region.span_ofValue]
      exact List.mem_cons_of_mem _ (List.mem_singleton_self _)
    · rw [hregions, List.mem_cons, List.mem_singleton] at hr
      rcases hr with rfl | rfl
      · rw [Region.span_ofValues]
        exact List.mem_cons_self
      · rw [Region.span_ofValue]
        exact List.mem_cons_of_mem _ (List.mem_singleton_self _)
  · intro r hr
    split at hregions
    · rw [hregions] at hr
      exact nomatch hr
    · -- the slot of the total is behind the records, and it was checked before anything was decided
      rw [hregions, List.tail_cons, List.mem_singleton] at hr
      rw [hr, Region.Inside, Region.ofValue, List.size_toByteArray, length_encode]
      exact hslot

theorem plan_decides {act : SceneAction} (h : call.plan caller m s = .ok act) :
    Decides caller m s call act := by
  cases call with
  | getDisplay d out | getPosition d out | getRotation d out | getScale d out =>
    simp only [plan, bind_eq_ok, pure_eq_ok, Prod.exists] at h
    obtain ⟨_, e, -, rfl⟩ := h
    exact decides_answer rfl rfl
  | getBackgroundColor d out | getPlayState d out | getCurrentAnimation d out =>
    simp only [plan, bind_eq_ok, pure_eq_ok, Prod.exists] at h
    obtain ⟨_, e, -, _, -, rfl⟩ := h
    exact decides_answer rfl rfl
  | getElementCount out =>
    simp only [plan, bind_eq_ok, pure_eq_ok] at h
    obtain ⟨_, -, rfl⟩ := h
    exact decides_answer rfl rfl
  | getIdLength d out =>
    simp only [plan, answerLength, bind_eq_ok, pure_eq_ok, Prod.exists] at h
    obtain ⟨_, e, -, _, -, rfl⟩ := h
    exact decides_answer rfl rfl
  | getTextLength d out =>
    simp only [plan, answerLength, bind_eq_ok, pure_eq_ok, Prod.exists] at h
    obtain ⟨_, e, -, _, -, _, -, rfl⟩ := h
    exact decides_answer rfl rfl
  | getId d out capacity =>
    simp only [plan, bind_eq_ok, Prod.exists, lookUp_eq_ok] at h
    obtain ⟨node, e, hfound, htext⟩ := h
    exact decides_answerText rfl (by rw [outputs, textSize, hfound]) htext
  | getText d out capacity =>
    simp only [plan, bind_eq_ok, Prod.exists, lookUp_eq_ok, textOf_eq_ok] at h
    obtain ⟨node, e, hfound, state, hstate, htext⟩ := h
    exact decides_answerText rfl (by simp only [outputs, textSize, hfound, hstate]; rfl) htext
  | getElements array length count =>
    simp only [plan, bind_eq_ok, pure_eq_ok, Prod.exists] at h
    obtain ⟨copied, regions, henum, rfl⟩ := h
    exact decides_enumerate henum
  | getElementById id length out =>
    simp only [plan, bind_eq_ok] at h
    obtain ⟨_, -, _, -, h⟩ := h
    split at h
    · cases h
    · split at h
      · cases h
      · rw [pure_eq_ok] at h
        rw [← h]
        exact decides_answer rfl rfl
  | setDisplay | setPosition | setRotation | setScale =>
    simp only [plan, bind_eq_ok, pure_eq_ok, Prod.exists, lookUp_eq_ok] at h
    obtain ⟨node, e, hfound, _, -, rfl⟩ := h
    exact ⟨⟨nofun, _, e, rfl, hfound⟩, rfl⟩
  | setBackgroundColor | setPlayState =>
    simp only [plan, bind_eq_ok, pure_eq_ok, Prod.exists, lookUp_eq_ok] at h
    obtain ⟨node, e, hfound, _, -, _, -, rfl⟩ := h
    exact ⟨⟨nofun, _, e, rfl, hfound⟩, rfl⟩
  | setText =>
    simp only [plan, bind_eq_ok, pure_eq_ok, Prod.exists, lookUp_eq_ok] at h
    obtain ⟨node, e, hfound, _, -, _, -, _, -, rfl⟩ := h
    exact ⟨⟨nofun, _, e, rfl, hfound⟩, rfl⟩
  | changeAnimation =>
    simp only [plan, bind_eq_ok, pure_eq_ok, Prod.exists, lookUp_eq_ok] at h
    obtain ⟨node, e, hfound, _, -, _, -, _, -, _, -, rfl⟩ := h
    exact ⟨⟨nofun, _, e, rfl, hfound⟩, rfl⟩
  | changeAnimationByName =>
    simp only [plan, bind_eq_ok, pure_eq_ok, Prod.exists, lookUp_eq_ok] at h
    obtain ⟨node, e, hfound, _, -, _, -, _, -, _, -, _, -, rfl⟩ := h
    exact ⟨⟨nofun, _, e, rfl, hfound⟩, rfl⟩
  | registerEvent d code userData =>
    simp only [plan, bind_eq_ok, pure_eq_ok, Prod.exists, lookUp_eq_ok, coded_eq_ok] at h
    obtain ⟨node, e, hfound, event, hevent, rfl⟩ := h
    refine ⟨⟨nofun, _, e, rfl, hfound⟩, ?_⟩
    rw [request?, hfound, ← EventKind.ofCode?_eq_some.1 hevent]
    simp only [hevent, bind, pure, Option.bind_some]

/-! ## Refusals -/

/-- a refusal that says so: its status is not the one of success -/
def Honest {α : Type} (x : Except CallStatus α) : Prop := x ≠ .error .success

theorem Honest.pure {α : Type} (a : α) : Honest (pure a) := nofun

theorem Honest.bind {α β : Type} {x : Except CallStatus α} {f : α → Except CallStatus β} (hx : Honest x)
    (hf : ∀ a, Honest (f a)) : Honest (x >>= f) := by
  cases x with
  | ok a => exact hf a
  | error status =>
    intro h
    cases h
    exact hx rfl

theorem honest_access {α : Type} (x : Except AccessError α) : Honest (access x) := by
  cases x with
  | ok a => exact nofun
  | error e => cases e <;> exact nofun

theorem honest_lookUp (s : Session σ) (d : Int32) : Honest (lookUp s d) := by
  unfold lookUp
  split <;> exact nofun

theorem honest_modelOf (e : Element) : Honest (modelOf e) := by
  unfold modelOf
  split <;> exact nofun

theorem honest_textOf (e : Element) : Honest (textOf e) := by
  unfold textOf
  split <;> exact nofun

theorem honest_backgroundOf (e : Element) : Honest (backgroundOf e) := by
  unfold backgroundOf
  split <;> exact nofun

theorem honest_natural (word : Int32) : Honest (natural word) := by
  unfold natural
  split <;> exact nofun

theorem honest_coded {α : Type} (value : Option α) : Honest (coded value) := by
  cases value <;> exact nofun

theorem honest_total (records : List ElementRecord) : Honest (total records) := by
  unfold total
  split <;> exact nofun

theorem honest_answerLength (out : Pointer) (text : String) : Honest (answerLength out text) :=
  (honest_access _).bind fun _ => .pure _

theorem honest_answerText (out : Pointer) (capacity : Int32) (text : String) : Honest (answerText out capacity text) :=
  (honest_natural _).bind fun _ => (honest_access _).bind fun _ => .pure _

theorem honest_enumerate (array : Pointer) (length : Int32) (count : Pointer) :
    Honest (enumerate m s array length count) :=
  (honest_natural _).bind fun _ => (honest_total _).bind fun _ => (honest_access _).bind fun _ => .pure _

theorem honest_plan (caller : ScriptId) (m : μ) (s : Session σ) (call : SceneCall) :
    Honest (call.plan caller m s) := by
  cases call with
  | getDisplay d | getPosition d | getRotation d | getScale d =>
    exact (honest_lookUp s d).bind fun _ => .pure _
  | getIdLength d => exact (honest_lookUp s d).bind fun _ => honest_answerLength _ _
  | getId d => exact (honest_lookUp s d).bind fun _ => honest_answerText _ _ _
  | getTextLength d =>
    exact (honest_lookUp s d).bind fun _ => (honest_textOf _).bind fun _ => honest_answerLength _ _
  | getText d =>
    exact (honest_lookUp s d).bind fun _ => (honest_textOf _).bind fun _ => honest_answerText _ _ _
  | getBackgroundColor d =>
    exact (honest_lookUp s d).bind fun _ => (honest_backgroundOf _).bind fun _ => .pure _
  | getPlayState d | getCurrentAnimation d =>
    exact (honest_lookUp s d).bind fun _ => (honest_modelOf _).bind fun _ => .pure _
  | getElementCount => exact (honest_total _).bind fun _ => .pure _
  | getElements => exact (honest_enumerate _ _ _).bind fun _ => .pure _
  | getElementById =>
    refine (honest_natural _).bind fun _ => (honest_access _).bind fun _ => ?_
    split
    · exact nofun
    · split <;> exact nofun
  | setDisplay d | registerEvent d =>
    exact (honest_lookUp s d).bind fun _ => (honest_coded _).bind fun _ => .pure _
  | setPosition d | setRotation d | setScale d =>
    exact (honest_lookUp s d).bind fun _ => (honest_access _).bind fun _ => .pure _
  | setBackgroundColor d =>
    exact (honest_lookUp s d).bind fun _ => (honest_textOf _).bind fun _ => (honest_access _).bind fun _ => .pure _
  | setPlayState d =>
    exact (honest_lookUp s d).bind fun _ => (honest_modelOf _).bind fun _ => (honest_coded _).bind fun _ => .pure _
  | setText d =>
    exact (honest_lookUp s d).bind fun _ => (honest_textOf _).bind fun _ => (honest_natural _).bind fun _ =>
      (honest_access _).bind fun _ => .pure _
  | changeAnimation d =>
    exact (honest_lookUp s d).bind fun _ => (honest_modelOf _).bind fun _ => (honest_natural _).bind fun _ =>
      (honest_coded _).bind fun _ => (honest_coded _).bind fun _ => .pure _
  | changeAnimationByName d =>
    exact (honest_lookUp s d).bind fun _ => (honest_modelOf _).bind fun _ => (honest_natural _).bind fun _ =>
      (honest_access _).bind fun _ => (honest_coded _).bind fun _ => (honest_coded _).bind fun _ => .pure _

end SceneCall

end ScriptHost
