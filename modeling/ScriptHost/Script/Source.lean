/-
Where the module of a script comes from. Fetching a module may fail, and it may never come to an end; what is fetched
may turn out to be no module.
-/
import ScriptHost.Failure
import ScriptHost.Guest.Module

namespace ScriptHost

/-- where a module comes from -/
inductive Source where
  /-- the fetch yields bytes; they compile to a module, or there is a reason why not -/
  | fetched (compiled : Except String Module)
  /-- the fetch fails -/
  | unavailable (failure : ScriptFailure)
  /-- the fetch never comes to an end -/
  | pending

/-- a module that is read from a file: its bytes, or the reason why they cannot be read -/
def Source.ofFile (path : String) (content : Except String (List UInt8)) : Source :=
  match content with
  | .ok bytes => .fetched (Module.ofBytes bytes)
  | .error reason => .unavailable (.fetchFailed (path ++ ": " ++ reason))

/-- what a fetch yields; `none` as long as it has not come to an end -/
def Source.module? : Source → Option (Except ScriptFailure Module)
  | fetched compiled => some (compiled.mapError ScriptFailure.compileFailed)
  | unavailable failure => some (.error failure)
  | pending => none

end ScriptHost
