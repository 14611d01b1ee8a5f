/-
What a scene call will do. A call is first decided against what it can see, the guest's memory and the session, and
changes neither: the decision is a status that ends the call, or one action.

The checks of a call come in a fixed order, and the first that fails gives the status: the descriptor, what the element
can do, the words of the call, and last the regions that it reads.
-/
import ScriptHost.Memory.Region
import ScriptHost.SceneCall.Basic
import ScriptHost.Session
import ScriptHost.Status

namespace ScriptHost

open Wire

/-- what a call does when nothing stands against it -/
inductive SceneAction where
  /-- writes results into the guest's memory -/
  | write (regions : List Region)
  | patch (node : NodeId) (p : Patch)
  | animate (node : NodeId) (clip : Clip) (playState : PlayState) (wrap : AnimationWrap)
  | subscribe (node : NodeId) (event : EventKind) (subscriber : Subscriber)

namespace SceneCall

variable {μ : Type} [LinearMemory μ] {σ : Type} [SceneBackend σ] {α : Type}

/-! ## The checks -/

/-- a result of guest memory, as a scene call reports it -/
def access : Except AccessError α → Except CallStatus α
  | .ok value => .ok value
  | .error e => .error (.ofAccessError e)

/-- the node and the element that a descriptor names -/
def lookUp (s : Session σ) (descriptor : Int32) : Except CallStatus (NodeId × Element) :=
  match s.resolve descriptor with
  | some found => .ok found
  | none => .error .elementNotFound

/-- the animations of an element -/
def modelOf (e : Element) : Except CallStatus ModelState :=
  match e.data.model? with
  | some state => .ok state
  | none => .error .unsupportedOperation

/-- the content of a text element -/
def textOf (e : Element) : Except CallStatus TextState :=
  match e.data.text? with
  | some state => .ok state
  | none => .error .unsupportedOperation

/-- the colour that an element shows as its background -/
def backgroundOf (e : Element) : Except CallStatus Rgba :=
  match e.data.backgroundColor? with
  | some color => .ok color
  | none => .error .unsupportedOperation

/-- a length or an index, which must not be negative -/
def natural (word : Int32) : Except CallStatus Nat :=
  if word < 0 then .error .invalidArgument else .ok word.toInt.toNat

/-- a code that stands for a value -/
def coded : Option α → Except CallStatus α
  | some value => .ok value
  | none => .error .invalidArgument

/-! ## The answers -/

/-- answers with one value -/
def answer [WireValue α] (out : Pointer) (value : α) : SceneAction := .write [.ofValue out value]

/-- answers with the length of a text -/
def answerLength (out : Pointer) (text : String) : Except CallStatus SceneAction := do
  return answer out (← access (textLength text))

/-- answers with a text, in a buffer of the guest -/
def answerText (out : Pointer) (capacity : Int32) (text : String) : Except CallStatus SceneAction := do
  let capacity ← natural capacity
  return .write [⟨out, ← access (textBytes capacity text)⟩]

/-- the index of the clip that was last chosen, or -1 -/
def currentIndex (state : ModelState) : Int32 :=
  match state.current with
  | some i => if i < signedLimit then Int32.ofNat i else -1
  | none => -1

/-- the number of registered elements that are still in the scene -/
def total (records : List ElementRecord) : Except CallStatus Int32 :=
  if records.length < signedLimit then .ok (Int32.ofNat records.length) else .error .unknownError

/-- the records that fit into a guest's array, and the regions to write for them and for the total.
The slot of the total is checked before anything is written; with no record to copy the array is not looked at. -/
def enumerate (m : μ) (s : Session σ) (array : Pointer) (length : Int32) (count : Pointer) :
    Except CallStatus (List ElementRecord × List Region) := do
  let length ← natural length
  let records := s.records
  let all ← total records
  let copied := records.take length
  access (checkBounds (LinearMemory.size m) count 4)
  let slot := Region.ofValue count all
  return (copied, if copied.isEmpty then [slot] else [.ofValues array copied, slot])

/-! ## The decision -/

/-- decides a call of the script `caller` -/
def plan (caller : ScriptId) (m : μ) (s : Session σ) : SceneCall → Except CallStatus SceneAction
  | getIdLength d out => do
    let (_, e) ← lookUp s d
    answerLength out e.idText
  | getId d out capacity => do
    let (_, e) ← lookUp s d
    answerText out capacity e.idText
  | getDisplay d out => do
    let (_, e) ← lookUp s d
    return answer out e.display.code
  | setDisplay d display => do
    let (node, e) ← lookUp s d
    let display ← coded (DisplayMode.ofCode? display)
    return .patch node { Patch.forElement e with display := some display }
  | getPosition d out => do
    let (_, e) ← lookUp s d
    return answer out e.position
  | setPosition d input => do
    let (node, e) ← lookUp s d
    let position ← access (readValue m input)
    return .patch node { Patch.forElement e with position := some position }
  | getRotation d out => do
    let (_, e) ← lookUp s d
    return answer out e.rotation
  | setRotation d input => do
    let (node, e) ← lookUp s d
    let rotation ← access (readValue m input)
    return .patch node { Patch.forElement e with rotation := some rotation }
  | getScale d out => do
    let (_, e) ← lookUp s d
    return answer out e.scale.toVec3
  | setScale d input => do
    let (node, e) ← lookUp s d
    let factors ← access (readValue m input)
    return .patch node { Patch.forElement e with scale := some (.axes factors) }
  | getTextLength d out => do
    let (_, e) ← lookUp s d
    answerLength out (← textOf e).text
  | getText d out capacity => do
    let (_, e) ← lookUp s d
    answerText out capacity (← textOf e).text
  | setText d input length => do
    let (node, e) ← lookUp s d
    let _ ← textOf e
    let text ← access (readText m input (← natural length))
    return .patch node { Patch.forElement e with text := some text }
  | getBackgroundColor d out => do
    let (_, e) ← lookUp s d
    return answer out (← backgroundOf e)
  | setBackgroundColor d input => do
    let (node, e) ← lookUp s d
    let _ ← textOf e
    let color ← access (readValue m input)
    return .patch node { Patch.forElement e with background := some color }
  | changeAnimation d index playState wrap => do
    let (node, e) ← lookUp s d
    let _ ← modelOf e
    let index ← natural index
    let playState ← coded (PlayState.ofCode? playState)
    let wrap ← coded (AnimationWrap.ofCode? wrap)
    return .animate node (.index index) playState wrap
  | changeAnimationByName d name length playState wrap => do
    let (node, e) ← lookUp s d
    let _ ← modelOf e
    let name ← access (readText m name (← natural length))
    let playState ← coded (PlayState.ofCode? playState)
    let wrap ← coded (AnimationWrap.ofCode? wrap)
    return .animate node (.name name) playState wrap
  | getPlayState d out => do
    let (_, e) ← lookUp s d
    return answer out (← modelOf e).playState.code
  | setPlayState d playState => do
    let (node, e) ← lookUp s d
    let _ ← modelOf e
    let playState ← coded (PlayState.ofCode? playState)
    return .patch node { Patch.forElement e with playState := some playState }
  | getCurrentAnimation d out => do
    let (_, e) ← lookUp s d
    return answer out (currentIndex (← modelOf e))
  | getElementCount out => do
    return answer out (← total s.records)
  | getElements array length count => do
    let (_, regions) ← enumerate m s array length count
    return .write regions
  | getElementById id length out => do
    let id ← access (readText m id (← natural length))
    match s.registry.withId? id with
    | none => throw .elementNotFound
    | some entry =>
      match SceneBackend.element? s.scene entry.node with
      | none => throw .elementNotFound
      | some e => return answer out (⟨entry.descriptor, e.kind.code⟩ : ElementRecord)
  | registerEvent d event userData => do
    let (node, e) ← lookUp s d
    let event ← coded (EventKind.ofCode? event)
    return .subscribe node event (.script caller ⟨d, e.kind.code, event.code, userData⟩)

end SceneCall

end ScriptHost
