/-
The exports by which a script is driven. Each of them may be missing. One that has the right name but is no function of
the right type is passed over, with a notice, as if it were missing.
-/
import ScriptHost.Guest.Module
import ScriptHost.Script.Trace

namespace ScriptHost

/-- the exports of a script, as far as its guest has them -/
structure Exports where
  entryPoint : Option Program := none
  onStart : Option Program := none
  onUpdate : Option Program := none
  onSelect : Option Program := none
  onEvent : Option (Event → Program) := none

/-- an event as the words of a call -/
def Event.words (e : Event) : List Word :=
  [.i32 e.descriptor.toUInt32, .i32 e.elementKind.toUInt32, .i32 e.eventKind.toUInt32, .i32 e.userData.toUInt32]

namespace Exports

/-- the export that is called in some role -/
def program? (e : Exports) : LifecycleExport → Option Program
  | .entryPoint => e.entryPoint
  | .onStart => e.onStart
  | .onUpdate => e.onUpdate
  | .onSelect => e.onSelect

/-- the body of an export that must be a function with the given parameters and without a result -/
def function? (m : Module) (name : String) (params : List WordType) : Option (List Word → Program) :=
  match m.export? name with
  | some (.function written [] body) => if written = params then some body else none
  | _ => none

/-- the notice about an export that has the right name and the wrong type -/
def ignored (m : Module) (name : String) (params : List WordType) : List Notice :=
  match m.export? name, function? m name params with
  | some _, none => [.exportIgnored name]
  | _, _ => []

/-- the parameters of the export that takes events -/
def eventParams : List WordType := [.i32, .i32, .i32, .i32]

/-- the exports of a module under the configured names -/
def ofModule (m : Module) (names : ExportNames) : Exports where
  entryPoint := (function? m names.entryPoint []).map (· [])
  onStart := (function? m names.onStart []).map (· [])
  onUpdate := (function? m names.onUpdate []).map (· [])
  onSelect := (function? m names.onSelect []).map (· [])
  onEvent := (function? m names.onEvent eventParams).map fun body event => body event.words

/-- the notices about the exports that are passed over -/
def notices (m : Module) (names : ExportNames) : List Notice :=
  ignored m names.entryPoint [] ++ ignored m names.onStart [] ++ ignored m names.onUpdate [] ++
    ignored m names.onSelect [] ++ ignored m names.onEvent eventParams

end Exports

end ScriptHost
