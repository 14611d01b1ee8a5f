/-
How a script is linked and what it sees of its surroundings. Everything has a default, and a configuration written as
RON text overrides exactly the fields that it writes. How such text is read is up to a library.
-/
import ScriptHost.Failure
import ScriptHost.Ron.Value
import ScriptHost.System.ProcessInfo
import Std.Data.ExtTreeMap.Basic

namespace ScriptHost

/-- the names of the exports that drive a script -/
structure ExportNames where
  /-- called once, before `onStart`, on the first update -/
  entryPoint : String := "_start"
  /-- called once, on the first update -/
  onStart : String := "on_start"
  /-- called on every update -/
  onUpdate : String := "on_update"
  /-- called when the script's element is selected -/
  onSelect : String := "on_select"
  /-- called with each event that the script asked for -/
  onEvent : String := "on_element_event"
deriving DecidableEq, Repr

/-- the names under which the fields are written -/
def ExportNames.known : List String := ["entry_point", "on_start", "on_update", "on_select", "on_event"]

/-- the configuration of a script -/
structure Config where
  args : List String := []
  /-- the environment, one value for each key -/
  env : Std.ExtTreeMap String String := ∅
  /-- the namespace from which guests import scene functions -/
  sceneNamespace : String := "flo_scene"
  exports : ExportNames := {}

namespace Config

open Ron (Value Deserializer)

/-- the process that a guest sees -/
def process (c : Config) : ProcessInfo := .ofPairs c.args c.env.toList

/-- has a configuration the default in every field? -/
def isDefault (c : Config) : Bool :=
  c.args.isEmpty && c.env.isEmpty && c.sceneNamespace = ({} : Config).sceneNamespace && c.exports = {}

/-! ## Reading -/

/-- the names under which the fields are written -/
def known : List String := ["args", "env", "abi_namespace", "exports"]

/-- a field of a struct: its default if the struct does not write it -/
def field {α : Type} (fields : List (String × Value)) (name : String) (read : Value → Except String α) (default : α) :
    Except String α :=
  match fields.lookup name with
  | none => .ok default
  | some value => read value

/-- a map with the entries put into it one after the other -/
def ofEntries (entries : List (String × String)) : Std.ExtTreeMap String String :=
  entries.foldl (fun map entry => map.insert entry.1 entry.2) ∅

variable (r : Deserializer)

def environment (value : Value) : Except String (Std.ExtTreeMap String String) := do
  return ofEntries (← r.entries value)

def exportNames (value : Value) : Except String ExportNames := do
  let fields ← r.fields "ScriptExportNames" ExportNames.known value
  let default : ExportNames := {}
  return {
    entryPoint := ← field fields "entry_point" r.text default.entryPoint
    onStart := ← field fields "on_start" r.text default.onStart
    onUpdate := ← field fields "on_update" r.text default.onUpdate
    onSelect := ← field fields "on_select" r.text default.onSelect
    onEvent := ← field fields "on_event" r.text default.onEvent }

def ofValue (value : Value) : Except String Config := do
  let fields ← r.fields "ScriptConfig" known value
  let default : Config := {}
  return {
    args := ← field fields "args" r.texts default.args
    env := ← field fields "env" (environment r) default.env
    sceneNamespace := ← field fields "abi_namespace" r.text default.sceneNamespace
    exports := ← field fields "exports" (exportNames r) default.exports }

/-- the configuration that a text writes, with the library's error if there is none -/
def parse (text : String) : Except ScriptFailure Config :=
  (do ofValue r (← r.value text)).mapError .badConfig

end Config

end ScriptHost
