/-
The attributes of elements that guests can set. A value of an attribute goes into an element by a patch that sets one
field (`Element.applyTo?_patch`), and the attributes are independent of each other:
- what was set is what is there, and every other attribute is what it was (`attribute?_assign`, `attribute?_assign_of_ne`);
- of two values for one attribute the last one stays, and values for two attributes can be set in either order
  (`assign_assign`, `assign_comm`);
- the value that is there already changes no attribute (`attribute?_assign_self`).
-/
import ScriptHost.Scene.Patch

namespace ScriptHost

open Wire

/-- an attribute of elements that guests can set -/
inductive Attribute where
  | display
  | position
  | rotation
  | scale
  | text
  | background
  | playState
deriving DecidableEq, Repr

/-- a value of an attribute, as guests know it -/
inductive AttributeValue where
  | display (v : DisplayMode)
  | position (v : Vec3)
  | rotation (v : Quaternion)
  /-- guests scale along each axis -/
  | scale (v : Vec3)
  | text (v : String)
  | background (v : Rgba)
  | playState (v : PlayState)
deriving DecidableEq, Repr

namespace AttributeValue

/-- the attribute that the value is for -/
def which : AttributeValue → Attribute
  | display _ => .display
  | position _ => .position
  | rotation _ => .rotation
  | scale _ => .scale
  | text _ => .text
  | background _ => .background
  | playState _ => .playState

/-- the patch of an element that sets a value and nothing else -/
def patch (v : AttributeValue) (e : Element) : Patch :=
  match v with
  | display v => { Patch.forElement e with display := some v }
  | position v => { Patch.forElement e with position := some v }
  | rotation v => { Patch.forElement e with rotation := some v }
  | scale v => { Patch.forElement e with scale := some (.axes v) }
  | text v => { Patch.forElement e with text := some v }
  | background v => { Patch.forElement e with background := some v }
  | playState v => { Patch.forElement e with playState := some v }

end AttributeValue

/-- does a patch set an attribute? -/
def Patch.sets (p : Patch) : Attribute → Bool
  | .display => p.display.isSome
  | .position => p.position.isSome
  | .rotation => p.rotation.isSome
  | .scale => p.scale.isSome
  | .text => p.text.isSome
  | .background => p.background.isSome
  | .playState => p.playState.isSome

theorem AttributeValue.sets_patch (v : AttributeValue) (e : Element) (a : Attribute) :
    (v.patch e).sets a = decide (a = v.which) := by
  cases v <;> cases a <;> rfl

theorem AttributeValue.id_patch (v : AttributeValue) (e : Element) : (v.patch e).id = e.id := by
  cases v <;> rfl

/-- can guests set an attribute of such an element? -/
def ElementKind.lets : ElementKind → Attribute → Bool
  | .text, .text | .text, .background | .model, .playState => true
  | _, .text | _, .background | _, .playState => false
  | _, _ => true

namespace Element

/-- the value of an attribute, if the element has it -/
def attribute? (e : Element) : Attribute → Option AttributeValue
  | .display => some (.display e.display)
  | .position => some (.position e.position)
  | .rotation => some (.rotation e.rotation)
  | .scale => some (.scale e.scale.toVec3)
  | .text => e.data.text?.map fun state => .text state.text
  | .background => e.data.backgroundColor?.map .background
  | .playState => e.data.model?.map fun state => .playState state.playState

/-- the element with another value of an attribute; one that guests cannot set stays as it is -/
def assign (e : Element) : AttributeValue → Element
  | .display v => { e with display := v }
  | .position v => { e with position := v }
  | .rotation v => { e with rotation := v }
  | .scale v => { e with scale := .axes v }
  | .text v => { e with data := Patch.applyData { text := some v } e.data }
  | .background v => { e with data := Patch.applyData { background := some v } e.data }
  | .playState v => { e with data := Patch.applyData { playState := some v } e.data }

variable (e : Element)

theorem applyTo?_patch (v : AttributeValue) :
    (v.patch e).applyTo? e = if e.kind.lets v.which then some (e.assign v) else none := by
  obtain ⟨id, display, position, rotation, scale, data⟩ := e
  cases v <;> cases data <;> cases id <;> rfl

/-! ### What a value leaves alone -/

@[simp] theorem id_assign (v : AttributeValue) : (e.assign v).id = e.id := by
  cases v <;> rfl

@[simp] theorem kind_assign (v : AttributeValue) : (e.assign v).kind = e.kind := by
  obtain ⟨id, display, position, rotation, scale, data⟩ := e
  cases v <;> cases data <;> rfl

theorem patch_assign (v v' : AttributeValue) : v'.patch (e.assign v) = v'.patch e := by
  have hid : Patch.forElement (e.assign v) = Patch.forElement e := congrArg (fun id => ({ id } : Patch)) (e.id_assign v)
  cases v' <;> simp only [AttributeValue.patch, hid]

/-- the chosen clip is no attribute -/
theorem current_assign (v : AttributeValue) :
    (e.assign v).data.model?.map (·.current) = e.data.model?.map (·.current) := by
  obtain ⟨id, display, position, rotation, scale, data⟩ := e
  cases v <;> cases data <;> rfl

/-! ### What it changes -/

theorem attribute?_assign_eq (v : AttributeValue) (a : Attribute) :
    (e.assign v).attribute? a = if a = v.which ∧ e.kind.lets a then some v else e.attribute? a := by
  obtain ⟨id, display, position, rotation, scale, data⟩ := e
  cases a <;> cases v <;> cases data <;> rfl

theorem attribute?_assign {v : AttributeValue} (h : e.kind.lets v.which) :
    (e.assign v).attribute? v.which = some v := by
  rw [attribute?_assign_eq, if_pos ⟨rfl, h⟩]

theorem attribute?_assign_of_ne {v : AttributeValue} {a : Attribute} (h : a ≠ v.which) :
    (e.assign v).attribute? a = e.attribute? a := by
  rw [attribute?_assign_eq, if_neg fun hboth => h hboth.1]

/-- a value that is there already changes no attribute, though a scale by one number becomes one along each axis -/
theorem attribute?_assign_self {v : AttributeValue} (h : e.attribute? v.which = some v) (a : Attribute) :
    (e.assign v).attribute? a = e.attribute? a := by
  rw [attribute?_assign_eq]
  split
  · rename_i hboth
    rw [hboth.1, h]
  · rfl

/-! ### Two values -/

theorem assign_assign {v v' : AttributeValue} (h : v.which = v'.which) : (e.assign v).assign v' = e.assign v' := by
  obtain ⟨id, display, position, rotation, scale, data⟩ := e
  cases v <;> cases v' <;> cases h <;> cases data <;> rfl

theorem assign_comm {v v' : AttributeValue} (h : v.which ≠ v'.which) :
    (e.assign v).assign v' = (e.assign v').assign v := by
  obtain ⟨id, display, position, rotation, scale, data⟩ := e
  cases v <;> cases v' <;> first | exact absurd rfl h | (cases data <;> rfl)

/-! ### Values that are there -/

theorem which_of_attribute? {a : Attribute} {v : AttributeValue} (h : e.attribute? a = some v) : v.which = a := by
  cases a with
  | display | position | rotation | scale =>
    cases h
    rfl
  | text | background | playState =>
    obtain ⟨state, -, rfl⟩ := Option.map_eq_some_iff.1 h
    rfl

/-- what guests can set they can also get -/
theorem isSome_attribute? {a : Attribute} (h : e.kind.lets a) : (e.attribute? a).isSome := by
  obtain ⟨id, display, position, rotation, scale, data⟩ := e
  cases a with
  | display | position | rotation | scale => rfl
  | text | background =>
    cases data with
    | text state => rfl
    | _ => cases h
  | playState =>
    cases data with
    | model state => rfl
    | _ => cases h

end Element

end ScriptHost
