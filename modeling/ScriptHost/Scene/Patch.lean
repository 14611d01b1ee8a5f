/-
Merged updates of elements. A patch sets some of the fields that a host may change; an element takes all of it or none:
a patch that sets a field which the element does not have is rejected whole.
-/
import ScriptHost.Scene.Element

namespace ScriptHost

/-- the fields of an element to set -/
structure Patch where
  id : Option String := none
  display : Option DisplayMode := none
  position : Option Vec3 := none
  rotation : Option Quaternion := none
  scale : Option Scale := none
  text : Option String := none
  background : Option Rgba := none
  playState : Option PlayState := none
deriving DecidableEq, Repr

namespace Patch

/-- changes nothing, and carries the id by which a host can route it -/
def forElement (e : Element) : Patch := { id := e.id }

/-- does the patch set only fields that such an element has? -/
def fits (p : Patch) : ElementData → Bool
  | .text _ => p.playState.isNone
  | .model _ => p.text.isNone && p.background.isNone
  | _ => p.text.isNone && p.background.isNone && p.playState.isNone

/-- sets the fields that depend on the kind of the element -/
def applyData (p : Patch) : ElementData → ElementData
  | .text state => .text { text := p.text.getD state.text, background := p.background.getD state.background }
  | .model state => .model { state with playState := p.playState.getD state.playState }
  | data => data

/-- sets all fields of the patch, or rejects it -/
def applyTo? (p : Patch) (e : Element) : Option Element :=
  if p.fits e.data then
    some {
      id := p.id.orElse fun _ => e.id
      display := p.display.getD e.display
      position := p.position.getD e.position
      rotation := p.rotation.getD e.rotation
      scale := p.scale.getD e.scale
      data := p.applyData e.data }
  else none

end Patch

end ScriptHost
