/-
The scene interface: the 24 functions that a guest can import to look at the scene and to change it.

A `SceneFunction` is what a guest imports by name; a `SceneCall` is one call of it with its arguments. Arguments arrive
as 32-bit words: descriptors, codes, counts and indices are signed, addresses are not.
-/
import ScriptHost.Memory.Basic

namespace ScriptHost

/-- the functions of the scene interface -/
inductive SceneFunction where
  | getIdLength
  | getId
  | getDisplay
  | setDisplay
  | getPosition
  | setPosition
  | getRotation
  | setRotation
  | getScale
  | setScale
  | getTextLength
  | getText
  | setText
  | getBackgroundColor
  | setBackgroundColor
  | changeAnimation
  | changeAnimationByName
  | getPlayState
  | setPlayState
  | getCurrentAnimation
  | getElementCount
  | getElements
  | getElementById
  | registerEvent
deriving DecidableEq, Repr

/-- a call of the scene interface -/
inductive SceneCall where
  | getIdLength (descriptor : Int32) (out : Pointer)
  | getId (descriptor : Int32) (out : Pointer) (capacity : Int32)
  | getDisplay (descriptor : Int32) (out : Pointer)
  | setDisplay (descriptor : Int32) (display : Int32)
  | getPosition (descriptor : Int32) (out : Pointer)
  | setPosition (descriptor : Int32) (input : Pointer)
  | getRotation (descriptor : Int32) (out : Pointer)
  | setRotation (descriptor : Int32) (input : Pointer)
  | getScale (descriptor : Int32) (out : Pointer)
  | setScale (descriptor : Int32) (input : Pointer)
  | getTextLength (descriptor : Int32) (out : Pointer)
  | getText (descriptor : Int32) (out : Pointer) (capacity : Int32)
  | setText (descriptor : Int32) (input : Pointer) (length : Int32)
  | getBackgroundColor (descriptor : Int32) (out : Pointer)
  | setBackgroundColor (descriptor : Int32) (input : Pointer)
  | changeAnimation (descriptor : Int32) (index playState wrap : Int32)
  | changeAnimationByName (descriptor : Int32) (name : Pointer) (length : Int32) (playState wrap : Int32)
  | getPlayState (descriptor : Int32) (out : Pointer)
  | setPlayState (descriptor : Int32) (playState : Int32)
  | getCurrentAnimation (descriptor : Int32) (out : Pointer)
  | getElementCount (out : Pointer)
  | getElements (array : Pointer) (length : Int32) (count : Pointer)
  | getElementById (id : Pointer) (length : Int32) (out : Pointer)
  | registerEvent (descriptor : Int32) (event : Int32) (userData : Int32)
deriving DecidableEq, Repr

namespace SceneFunction

/-- every function of the interface -/
def all : List SceneFunction :=
  [getIdLength, getId, getDisplay, setDisplay, getPosition, setPosition, getRotation, setRotation, getScale, setScale,
    getTextLength, getText, setText, getBackgroundColor, setBackgroundColor, changeAnimation, changeAnimationByName,
    getPlayState, setPlayState, getCurrentAnimation, getElementCount, getElements, getElementById, registerEvent]

/-- the name under which a guest imports a function -/
def name : SceneFunction → String
  | getIdLength => "get_id_len"
  | getId => "get_id"
  | getDisplay => "get_display"
  | setDisplay => "set_display"
  | getPosition => "get_position"
  | setPosition => "set_position"
  | getRotation => "get_rotation"
  | setRotation => "set_rotation"
  | getScale => "get_scale"
  | setScale => "set_scale"
  | getTextLength => "get_text_len"
  | getText => "get_text"
  | setText => "set_text"
  | getBackgroundColor => "get_background_color"
  | setBackgroundColor => "set_background_color"
  | changeAnimation => "change_anim"
  | changeAnimationByName => "change_anim_by_name"
  | getPlayState => "get_anim_play_state"
  | setPlayState => "set_anim_play_state"
  | getCurrentAnimation => "get_current_anim"
  | getElementCount => "get_element_count"
  | getElements => "get_elements"
  | getElementById => "get_element_by_id"
  | registerEvent => "register_event"

def ofName? (name : String) : Option SceneFunction := all.find? (·.name == name)

/-- the number of words that a function takes -/
def arity : SceneFunction → Nat
  | getElementCount => 1
  | getIdLength | getDisplay | setDisplay | getPosition | setPosition | getRotation | setRotation | getScale
  | setScale | getTextLength | getBackgroundColor | setBackgroundColor | getPlayState | setPlayState
  | getCurrentAnimation => 2
  | getId | getText | setText | getElements | getElementById | registerEvent => 3
  | changeAnimation => 4
  | changeAnimationByName => 5

/-- a call of a function with some words; `none` if their number is not the function's arity -/
def call? : SceneFunction → List UInt32 → Option SceneCall
  | getIdLength, [d, p] => some (.getIdLength d.toInt32 p)
  | getId, [d, p, n] => some (.getId d.toInt32 p n.toInt32)
  | getDisplay, [d, p] => some (.getDisplay d.toInt32 p)
  | setDisplay, [d, c] => some (.setDisplay d.toInt32 c.toInt32)
  | getPosition, [d, p] => some (.getPosition d.toInt32 p)
  | setPosition, [d, p] => some (.setPosition d.toInt32 p)
  | getRotation, [d, p] => some (.getRotation d.toInt32 p)
  | setRotation, [d, p] => some (.setRotation d.toInt32 p)
  | getScale, [d, p] => some (.getScale d.toInt32 p)
  | setScale, [d, p] => some (.setScale d.toInt32 p)
  | getTextLength, [d, p] => some (.getTextLength d.toInt32 p)
  | getText, [d, p, n] => some (.getText d.toInt32 p n.toInt32)
  | setText, [d, p, n] => some (.setText d.toInt32 p n.toInt32)
  | getBackgroundColor, [d, p] => some (.getBackgroundColor d.toInt32 p)
  | setBackgroundColor, [d, p] => some (.setBackgroundColor d.toInt32 p)
  | changeAnimation, [d, i, s, w] => some (.changeAnimation d.toInt32 i.toInt32 s.toInt32 w.toInt32)
  | changeAnimationByName, [d, p, n, s, w] =>
    some (.changeAnimationByName d.toInt32 p n.toInt32 s.toInt32 w.toInt32)
  | getPlayState, [d, p] => some (.getPlayState d.toInt32 p)
  | setPlayState, [d, c] => some (.setPlayState d.toInt32 c.toInt32)
  | getCurrentAnimation, [d, p] => some (.getCurrentAnimation d.toInt32 p)
  | getElementCount, [p] => some (.getElementCount p)
  | getElements, [p, n, q] => some (.getElements p n.toInt32 q)
  | getElementById, [p, n, q] => some (.getElementById p n.toInt32 q)
  | registerEvent, [d, e, u] => some (.registerEvent d.toInt32 e.toInt32 u.toInt32)
  | _, _ => none

end SceneFunction

end ScriptHost
