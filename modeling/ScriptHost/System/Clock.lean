/-
Clocks and randomness. Neither is computed here: what the host's clocks and its random source answer is handed to each
system call as a `Reading`, one for every call that an instance makes.
-/
namespace ScriptHost

/-- the clocks that a guest can read -/
inductive ClockId where
  /-- the time since 1970 -/
  | realtime
  /-- the time since the script's system calls were set up -/
  | monotonic
deriving DecidableEq, Repr

/-- the clock with a number; clocks for processor time are not offered -/
def ClockId.ofCode? (code : Int32) : Option ClockId :=
  if code = 0 then some .realtime else if code = 1 then some .monotonic else none

/-- the resolution of every clock: a millisecond, in nanoseconds -/
def clockResolution : UInt64 := 1000000

/-- what the host's clocks and its random source answer to one call -/
structure Reading where
  /-- nanoseconds since 1970 -/
  realtime : Nat
  /-- nanoseconds since the script's system calls were set up -/
  monotonic : Nat
  /-- the bytes that the random source yields, or why it fails -/
  entropy : Except String (Nat → UInt8)

namespace Reading

/-- the largest number of nanoseconds that a guest can be told -/
def latest : Nat := 0xFFFFFFFFFFFFFFFF

/-- the time on a clock; a time that is too late for a word is told as the latest -/
def time (r : Reading) : ClockId → UInt64
  | .realtime => UInt64.ofNat (min r.realtime latest)
  | .monotonic => UInt64.ofNat (min r.monotonic latest)

/-- the first `n` random bytes -/
def randomBytes (r : Reading) (n : Nat) : Except String ByteArray :=
  r.entropy.map fun byte => n.fold (fun i _ bytes => bytes.push (byte i)) .empty

end Reading

end ScriptHost
