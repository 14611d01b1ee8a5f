/-
Small enumerations that cross the border between host and guest as signed codes. `ofCode?` reads exactly the codes that
`code` writes.
-/
namespace ScriptHost

/-- how an element is displayed -/
inductive DisplayMode where
  | visible
  | none
  /-- not drawn, but hides what is behind it -/
  | occlusion
deriving DecidableEq, Repr

namespace DisplayMode

def code : DisplayMode → Int32
  | visible => 0
  | none => 1
  | occlusion => 2

def ofCode? (code : Int32) : Option DisplayMode :=
  match code with
  | 0 => some .visible
  | 1 => some .none
  | 2 => some .occlusion
  | _ => .none

@[simp] theorem ofCode?_code (m : DisplayMode) : ofCode? m.code = some m := by cases m <;> rfl

theorem ofCode?_eq_some {code : Int32} {m : DisplayMode} : ofCode? code = some m ↔ code = m.code := by
  constructor
  · intro h
    unfold ofCode? at h
    split at h <;> cases h <;> rfl
  · rintro rfl
    exact ofCode?_code m

end DisplayMode

/-- does a model's current animation run? -/
inductive PlayState where
  | stop
  | play
deriving DecidableEq, Repr

namespace PlayState

def code : PlayState → Int32
  | stop => 0
  | play => 1

def ofCode? (code : Int32) : Option PlayState :=
  match code with
  | 0 => some .stop
  | 1 => some .play
  | _ => none

@[simp] theorem ofCode?_code (m : PlayState) : ofCode? m.code = some m := by cases m <;> rfl

theorem ofCode?_eq_some {code : Int32} {m : PlayState} : ofCode? code = some m ↔ code = m.code := by
  constructor
  · intro h
    unfold ofCode? at h
    split at h <;> cases h <;> rfl
  · rintro rfl
    exact ofCode?_code m

end PlayState

/-- what happens when an animation reaches its last frame -/
inductive AnimationWrap where
  | once
  | loop
  | pingPong
deriving DecidableEq, Repr

namespace AnimationWrap

def code : AnimationWrap → Int32
  | once => 0
  | loop => 1
  | pingPong => 2

def ofCode? (code : Int32) : Option AnimationWrap :=
  match code with
  | 0 => some .once
  | 1 => some .loop
  | 2 => some .pingPong
  | _ => none

@[simp] theorem ofCode?_code (m : AnimationWrap) : ofCode? m.code = some m := by cases m <;> rfl

theorem ofCode?_eq_some {code : Int32} {m : AnimationWrap} : ofCode? code = some m ↔ code = m.code := by
  constructor
  · intro h
    unfold ofCode? at h
    split at h <;> cases h <;> rfl
  · rintro rfl
    exact ofCode?_code m

end AnimationWrap

/-- what can happen to an element -/
inductive EventKind where
  | start
  | update
  | select
deriving DecidableEq, Repr

namespace EventKind

def code : EventKind → Int32
  | start => 0
  | update => 1
  | select => 2

def ofCode? (code : Int32) : Option EventKind :=
  match code with
  | 0 => some .start
  | 1 => some .update
  | 2 => some .select
  | _ => none

@[simp] theorem ofCode?_code (m : EventKind) : ofCode? m.code = some m := by cases m <;> rfl

theorem ofCode?_eq_some {code : Int32} {m : EventKind} : ofCode? code = some m ↔ code = m.code := by
  constructor
  · intro h
    unfold ofCode? at h
    split at h <;> cases h <;> rfl
  · rintro rfl
    exact ofCode?_code m

end EventKind

end ScriptHost
