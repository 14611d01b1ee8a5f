/-
What the host tells its log: each notice as a value, with the level, the channel and the wording of its record. Text
that a guest prints goes to a channel of its own; everything else is said by the host.
-/
import ScriptHost.Failure
import ScriptHost.Scene.Backend
import ScriptHost.Text.Quoted

namespace ScriptHost

/-- how urgent a record is -/
inductive Level where
  | error
  | warn
  | info
  | debug
  | trace
deriving DecidableEq, Repr

/-- whose record it is -/
inductive Channel where
  | host
  | stdout
  | stderr
deriving DecidableEq, Repr

/-- the two streams a guest can print to -/
inductive Stream where
  | stdout
  | stderr
deriving DecidableEq, Repr

/-- something that is worth a record -/
inductive Notice where
  | instantiated
  | loadFailed (failure : ScriptFailure)
  /-- the call of an export ended in a trap -/
  | trapped (exportName : String) (failure : ScriptFailure)
  /-- an export has the name of a lifecycle export but another type -/
  | exportIgnored (exportName : String)
  /-- an event found no export to be delivered to -/
  | eventDropped (event : Event) (exportName : String)
  /-- the first call of a system call that is declared and not supported -/
  | unsupportedCall (name : String)
  /-- the first request to end the program -/
  | exitRequested (name : String) (code : Int32)
  /-- the scene refused a patch of the element with this id -/
  | patchRefused (id : Option String)
  | entropyFailed (reason : String)
  /-- text printed by the guest -/
  | printed (stream : Stream) (text : String)
deriving DecidableEq, Repr

namespace Notice

def level : Notice → Level
  | instantiated => .debug
  | loadFailed _ => .error
  | trapped _ _ => .error
  | exportIgnored _ => .warn
  | eventDropped _ _ => .trace
  | unsupportedCall _ => .warn
  | exitRequested _ _ => .warn
  | patchRefused _ => .warn
  | entropyFailed _ => .error
  | printed .stdout _ => .info
  | printed .stderr _ => .warn

def channel : Notice → Channel
  | printed .stdout _ => .stdout
  | printed .stderr _ => .stderr
  | _ => .host

/-- an event as it stands in a record -/
def eventText (e : Event) : String :=
  "ElementEvent \x7b descriptor: " ++ toString e.descriptor.toInt ++ ", element_kind: " ++
    toString e.elementKind.toInt ++ ", event_kind: " ++ toString e.eventKind.toInt ++ ", user_data: " ++
    toString e.userData.toInt ++ " \x7d"

def message : Notice → String
  | instantiated => "Script instantiated"
  | loadFailed failure => "Script failed to load: " ++ failure.message
  | trapped exportName failure => "Script trapped in '" ++ exportName ++ "': " ++ failure.message
  | exportIgnored exportName => "Ignoring script export '" ++ exportName ++ "': Incompatible Export Type"
  | eventDropped event exportName =>
    "Dropping " ++ eventText event ++ ": script has no '" ++ exportName ++ "' export"
  | unsupportedCall name => "Guest called unsupported system call '" ++ name ++ "'"
  | exitRequested name code =>
    "Guest called " ++ name ++ "(" ++ toString code.toInt ++ "): stopping the current call"
  | patchRefused id => "Scene refused an update from a script to element " ++ Text.quotedId id
  | entropyFailed reason => "Could not generate random bytes for guest: " ++ reason
  | printed _ text => text

end Notice

end ScriptHost
