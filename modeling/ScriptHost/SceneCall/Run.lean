/-
Carrying a scene call out. The decision of `SceneCall.plan` is all that a call knows; what is left can fail only where
the guest's memory refuses a write or the host refuses a change of its scene.
-/
import ScriptHost.Notice
import ScriptHost.SceneCall.Plan

namespace ScriptHost

variable {μ : Type} [LinearMemory μ] {σ : Type} [SceneBackend σ]

/-- what a scene call leaves behind -/
structure SceneOutcome (μ σ : Type) where
  status : CallStatus
  memory : μ
  session : Session σ
  notices : List Notice := []

/-- carries one action out -/
def SceneAction.perform (m : μ) (s : Session σ) : SceneAction → SceneOutcome μ σ
  | .write regions =>
    let (memory, result) := writeRegions m regions
    { status := .ofResult (SceneCall.access result), memory, session := s }
  | .patch node p =>
    match SceneBackend.patch? s.scene node p with
    | some scene => { status := .success, memory := m, session := { s with scene } }
    | none => { status := .unknownError, memory := m, session := s, notices := [.patchRefused p.id] }
  | .animate node clip playState wrap =>
    match SceneBackend.animate? s.scene node clip playState wrap with
    | some scene => { status := .success, memory := m, session := { s with scene } }
    | none => { status := .invalidArgument, memory := m, session := s }
  | .subscribe node event subscriber =>
    let scene := SceneBackend.subscribe s.scene node event subscriber
    { status := .success, memory := m, session := { s with scene } }

namespace SceneCall

/-- a call of the script `caller`, decided and carried out -/
def run (caller : ScriptId) (m : μ) (s : Session σ) (call : SceneCall) : SceneOutcome μ σ :=
  match call.plan caller m s with
  | .ok action => action.perform m s
  | .error status => { status, memory := m, session := s }

/-- copies the records of the scene's elements into a guest's array; answers how many were copied -/
def copyRecords (m : μ) (s : Session σ) (array : Pointer) (length : Int32) (count : Pointer) :
    μ × Except CallStatus Nat :=
  match enumerate m s array length count with
  | .ok (copied, regions) =>
    let (m, result) := writeRegions m regions
    (m, (access result).map fun _ => copied.length)
  | .error status => (m, .error status)

end SceneCall

end ScriptHost
