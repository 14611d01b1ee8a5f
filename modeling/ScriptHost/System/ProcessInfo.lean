/-
What a guest sees of the process it runs in: its arguments, and its environment as `key=value` strings. The environment
is sorted by the bytes of the key and then of the value, not by the joined string, so the order in which a host lists
the pairs does not show.
-/
import ScriptHost.Text.Utf8

namespace ScriptHost

/-- arguments and environment of a guest -/
structure ProcessInfo where
  args : List String
  environ : List String
deriving DecidableEq, Repr

namespace ProcessInfo

/-- the order of environment entries: by the bytes of the key, then by the bytes of the value -/
def entryLe (a b : String × String) : Bool :=
  let (key, key') := (Text.utf8 a.1, Text.utf8 b.1)
  if key = key' then decide (Text.utf8 a.2 ≤ Text.utf8 b.2) else decide (key < key')

/-- an environment entry as a guest sees it -/
def entryText (entry : String × String) : String := entry.1 ++ "=" ++ entry.2

/-- a process with the given arguments and environment -/
def ofPairs (args : List String) (environ : List (String × String)) : ProcessInfo :=
  { args, environ := (environ.mergeSort entryLe).map entryText }

end ProcessInfo

end ScriptHost
