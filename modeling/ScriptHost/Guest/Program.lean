/-
What guests do. While a guest has control it does one thing after another: it looks at its state, changes it, calls a
function that it imports, or traps. A `Program` is any such behaviour: what comes next may depend on everything that the
guest has seen.
-/
import ScriptHost.Memory.Paged
import ScriptHost.System.Word

namespace ScriptHost

/-- why a guest stops in the middle of a call -/
inductive Trap where
  /-- an access outside of the guest's memory -/
  | outOfBounds
  /-- the guest gives up by itself -/
  | unreachable
  /-- the guest asks by a system call to end the program -/
  | exit (name : String) (code : Int32)
deriving DecidableEq, Repr

def Trap.reason : Trap → String
  | outOfBounds => "out of bounds memory access"
  | unreachable => "unreachable"
  | exit name code => "guest called " ++ name ++ "(" ++ toString code.toInt ++ ")"

/-- what a guest itself can look at and change -/
structure GuestState where
  memory : PagedMemory
  /-- the guest's only global variable -/
  cursor : UInt32 := 1024

/-- a behaviour of a guest -/
inductive Program where
  | done
  | trap (t : Trap)
  /-- looks at the guest's state -/
  | look (next : GuestState → Program)
  /-- changes the guest's state -/
  | change (f : GuestState → GuestState) (next : Program)
  /-- calls the import at a position -/
  | call (position : Nat) (args : List Word) (next : UInt32 → Program)

end ScriptHost
