/-
Elements of a scene. Every element has a transform; what it has beyond that depends on its kind, and each kind carries
only the state that it supports.
-/
import ScriptHost.Scene.Code
import ScriptHost.Scene.Value

namespace ScriptHost

/-- the kind of an element, as it is reported to guests -/
inductive ElementKind where
  | generic
  | model
  | text
  | image
  | video
  | geometry
  | tiledAsset
  | screenSpace
deriving DecidableEq, Repr

/-- the code of a kind; 6 and 9 to 11 are not in use -/
def ElementKind.code : ElementKind → Int32
  | generic => 1
  | model => 2
  | text => 3
  | image => 4
  | video => 5
  | geometry => 7
  | tiledAsset => 8
  | screenSpace => 12

/-- the animations of a model -/
structure ModelState where
  /-- the names of its clips; a name may occur more than once -/
  clips : List String := []
  /-- the index of the clip that was last chosen -/
  current : Option Nat := none
  playState : PlayState := .stop
  wrap : AnimationWrap := .once
deriving DecidableEq, Repr

/-- the content of a text element -/
structure TextState where
  text : String := ""
  background : Rgba := .transparent
deriving DecidableEq, Repr

/-- what an element has beyond its transform -/
inductive ElementData where
  | generic
  | model (state : ModelState)
  | text (state : TextState)
  | image
  | video
  | geometry (color : Rgba)
  | tiledAsset
  | screenSpace
deriving DecidableEq, Repr

namespace ElementData

def kind : ElementData → ElementKind
  | generic => .generic
  | model _ => .model
  | text _ => .text
  | image => .image
  | video => .video
  | geometry _ => .geometry
  | tiledAsset => .tiledAsset
  | screenSpace => .screenSpace

/-- the animations, of a model -/
def model? : ElementData → Option ModelState
  | model state => some state
  | _ => none

/-- the content, of a text element -/
def text? : ElementData → Option TextState
  | text state => some state
  | _ => none

/-- the colour that an element shows as its background, if it has one -/
def backgroundColor? : ElementData → Option Rgba
  | text state => some state.background
  | geometry color => some color
  | _ => none

end ElementData

/-- an element of a scene -/
structure Element where
  id : Option String := none
  display : DisplayMode := .visible
  position : Vec3 := .zero
  rotation : Quaternion := .identity
  scale : Scale := .uniform .one
  data : ElementData
deriving DecidableEq, Repr

namespace Element

def kind (e : Element) : ElementKind := e.data.kind

/-- the id as text: an element without an id has the empty one -/
def idText (e : Element) : String := e.id.getD ""

end Element

end ScriptHost
