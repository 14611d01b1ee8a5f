/-
Why a script cannot be loaded or stops running, and the sentence that tells the host so.
-/
namespace ScriptHost

/-- a failure of a script -/
inductive ScriptFailure where
  /-- the module's bytes could not be fetched -/
  | fetchFailed (reason : String)
  /-- the bytes are no valid module -/
  | compileFailed (reason : String)
  /-- the module could not be linked, or its start section trapped -/
  | instantiationFailed (reason : String)
  /-- the module exports no memory under the name `memory` -/
  | missingMemory
  | alreadyInstantiated
  | notInitialized
  /-- the guest trapped in one of its exports -/
  | guestTrap (reason : String)
  /-- the configuration cannot be read -/
  | badConfig (reason : String)
deriving DecidableEq, Repr

namespace ScriptFailure

def message : ScriptFailure → String
  | fetchFailed reason => "could not fetch module: " ++ reason
  | compileFailed reason => "could not compile module: " ++ reason
  | instantiationFailed reason => "could not instantiate module: " ++ reason
  | missingMemory => "module does not export 'memory'"
  | alreadyInstantiated => "script has already been instantiated"
  | notInitialized => "script is not initialized"
  | guestTrap reason => "guest trapped: " ++ reason
  | badConfig reason => "invalid script configuration: " ++ reason

/-- the failure of a script that has failed before -/
def failedBefore : ScriptFailure := instantiationFailed "the script has already failed to load"

end ScriptFailure

/-- an error of the system underneath, as far as a script can meet it -/
inductive SystemFault where
  /-- a file could not be read -/
  | input (reason : String)
  /-- the guest trapped -/
  | trap (reason : String)
  /-- an export is missing or of another kind -/
  | exportKind (reason : String)
deriving DecidableEq, Repr

/-- what an error of the system underneath means for the script -/
def ScriptFailure.ofSystemFault : SystemFault → ScriptFailure
  | .input reason => fetchFailed reason
  | .trap reason => guestTrap reason
  | .exportKind _ => missingMemory

end ScriptHost
