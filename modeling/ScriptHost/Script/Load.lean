/-
Loading a module. The imports are linked, the data is written, and the guest's start section runs while the host cannot
reach its memory yet. Then the memory is looked up among the exports and bound, and last the exports by which the script
is driven. The first step that fails ends the loading.
-/
import ScriptHost.Guest.Turn
import ScriptHost.Script.Exports

namespace ScriptHost

/-- a guest that is loaded -/
structure Runtime where
  guest : Guest
  exports : Exports

/-- what a script brings to its guest, besides the module -/
structure Setting where
  script : ScriptId
  config : Config := {}
  /-- what clocks and randomness answer to each system call of the guest -/
  readings : Nat → Reading

/-- what loading leaves behind -/
structure LoadOutcome (σ : Type) where
  result : Except ScriptFailure Runtime
  shared : SharedSession σ
  /-- the events that wait for the script, oldest first -/
  queue : List Event
  notices : List Notice := []

/-- the name under which a guest exports its memory -/
def memoryExportName : String := "memory"

namespace Module

variable {σ : Type} [SceneBackend σ]

/-- does a module export a memory where the host looks for it? -/
def exportsMemory (m : Module) : Bool :=
  match m.export? memoryExportName with
  | some .memory => true
  | _ => false

/-- the guest of a module as it is linked, before its start section has run; or why it cannot be linked -/
def guest (m : Module) (setting : Setting) : Except ScriptFailure Guest :=
  match m.link? setting.config.sceneNamespace, m.memory? with
  | none, _ => .error (.instantiationFailed "an import is unknown or has another type")
  | some _, none => .error (.instantiationFailed Trap.outOfBounds.reason)
  | some imports, some memory =>
    .ok {
      script := setting.script
      process := setting.config.process
      imports := imports.toArray
      readings := setting.readings
      state := { memory } }

/-- loads a module -/
def load (m : Module) (setting : Setting) (shared : SharedSession σ) (queue : List Event) : LoadOutcome σ :=
  match m.guest setting with
  | .error failure => { result := .error failure, shared, queue }
  | .ok guest =>
    match m.start.run { guest, shared, queue } with
    | (t, .error trap) =>
      { result := .error (.instantiationFailed trap.reason)
        shared := t.shared
        queue := t.queue
        notices := t.notices }
    | (t, .ok ()) =>
      if m.exportsMemory then
        { result := .ok { guest := { t.guest with bound := true }, exports := .ofModule m setting.config.exports }
          shared := t.shared
          queue := t.queue
          notices := t.notices ++ Exports.notices m setting.config.exports }
      else { result := .error .missingMemory, shared := t.shared, queue := t.queue, notices := t.notices }

end Module

end ScriptHost
