/-
What guests import. The host offers three groups of functions: the scene interface, in a namespace that the
configuration names, and in the namespace of the system the calls that do something and the calls that are only
declared. A guest can be linked if each of its imports names one of these and declares exactly its signature.
-/
import ScriptHost.SceneCall.Basic
import ScriptHost.System.Function

namespace ScriptHost

/-- a function that a guest declares to import -/
structure Import where
  space : String
  name : String
  params : List WordType
  results : List WordType
deriving DecidableEq, Repr

/-- a function that the host offers -/
inductive HostFunction where
  | scene (f : SceneFunction)
  | system (f : SystemFunction)
  | unsupported (f : UnsupportedFunction)
deriving DecidableEq, Repr

namespace HostFunction

def params : HostFunction → List WordType
  | scene f => List.replicate f.arity .i32
  | system f => f.params
  | unsupported f => f.params

/-- every function answers with one word, but for a call that does not return -/
def results : HostFunction → List WordType
  | unsupported f => if UnsupportedFunction.hasNoResult f.name then [] else [.i32]
  | _ => [.i32]

/-- the function of the scene interface with a name -/
def sceneFunction? (sceneNamespace space name : String) : Option HostFunction :=
  if space = sceneNamespace then (SceneFunction.ofName? name).map scene else none

/-- the system call with a name -/
def systemFunction? (space name : String) : Option HostFunction :=
  if space = systemNamespace then
    ((SystemFunction.ofName? name).map system).orElse fun _ => (UnsupportedFunction.ofName? name).map unsupported
  else none

/-- the function that an import is linked to -/
def ofImport? (sceneNamespace : String) (i : Import) : Option HostFunction := do
  let f ← (sceneFunction? sceneNamespace i.space i.name).orElse fun _ => systemFunction? i.space i.name
  if f.params = i.params ∧ f.results = i.results then return f else none

end HostFunction

end ScriptHost
