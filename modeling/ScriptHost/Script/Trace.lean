/-
What happens to a script, in order: its module is fetched, its exports are called, events are handed to it, and notices
are written to the log.
-/
import ScriptHost.Config
import ScriptHost.Notice

namespace ScriptHost

/-- the exports that drive a script, besides the one that takes events -/
inductive LifecycleExport where
  | entryPoint
  | onStart
  | onUpdate
  | onSelect
deriving DecidableEq, Repr

/-- the name that is configured for an export -/
def ExportNames.name (names : ExportNames) : LifecycleExport → String
  | .entryPoint => names.entryPoint
  | .onStart => names.onStart
  | .onUpdate => names.onUpdate
  | .onSelect => names.onSelect

/-- something that happens to a script -/
inductive Entry where
  | fetched
  | called (e : LifecycleExport)
  | handed (event : Event)
  | noted (notice : Notice)
deriving DecidableEq, Repr

namespace Entry

/-- the notice that an entry puts into the log -/
def notice? : Entry → Option Notice
  | noted notice => some notice
  | _ => none

end Entry

/-- notices as entries of a trace -/
def noted (notices : List Notice) : List Entry := notices.map .noted

/-- the notices of a trace, in order -/
def notices (trace : List Entry) : List Notice := trace.filterMap Entry.notice?

end ScriptHost
