/-
Words: what guests and the host pass to each other in calls.
-/
namespace ScriptHost

/-- the types of words in signatures -/
inductive WordType where
  | i32
  | i64
deriving DecidableEq, Repr

/-- a word that a guest passes to the host -/
inductive Word where
  | i32 (v : UInt32)
  | i64 (v : UInt64)
deriving DecidableEq, Repr

namespace Word

def type : Word → WordType
  | i32 _ => .i32
  | i64 _ => .i64

/-- the value of a 32-bit word -/
def i32? : Word → Option UInt32
  | i32 v => some v
  | i64 _ => none

end Word

end ScriptHost
