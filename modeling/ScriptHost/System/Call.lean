/-
System calls that do something. Like a scene call, a system call is first decided against what it can see and then
carried out: the decision is an error number, or the text to log and the regions to write.
-/
import ScriptHost.Memory.Segment
import ScriptHost.Notice
import ScriptHost.Status
import ScriptHost.System.Clock
import ScriptHost.System.Function
import ScriptHost.System.ProcessInfo
import ScriptHost.System.StringList

namespace ScriptHost

open Wire

/-- a system call with its arguments -/
inductive SystemCall where
  | args (array buffer : Pointer)
  | argsSizes (count size : Pointer)
  | environ (array buffer : Pointer)
  | environSizes (count size : Pointer)
  | clockResolution (clock : Int32) (out : Pointer)
  /-- the precision that the guest asks for is not used -/
  | clockTime (clock : Int32) (precision : Int64) (out : Pointer)
  | write (stream : Int32) (segments : Pointer) (count : UInt32) (written : Pointer)
  | random (buffer : Pointer) (length : UInt32)
deriving DecidableEq, Repr

/-- a call of a system call with some words; `none` if they do not fit its signature -/
def SystemFunction.call? : SystemFunction → List Word → Option SystemCall
  | args, [.i32 p, .i32 q] => some (.args p q)
  | argsSizes, [.i32 p, .i32 q] => some (.argsSizes p q)
  | environ, [.i32 p, .i32 q] => some (.environ p q)
  | environSizes, [.i32 p, .i32 q] => some (.environSizes p q)
  | clockResolution, [.i32 c, .i32 p] => some (.clockResolution c.toInt32 p)
  | clockTime, [.i32 c, .i64 n, .i32 p] => some (.clockTime c.toInt32 n.toInt64 p)
  | write, [.i32 f, .i32 p, .i32 n, .i32 q] => some (.write f.toInt32 p n q)
  | random, [.i32 p, .i32 n] => some (.random p n)
  | _, _ => none

/-- what a system call does when nothing stands against it: it logs and then writes -/
structure SystemAction where
  notices : List Notice := []
  regions : List Region

/-- why a system call does nothing -/
structure SystemRefusal where
  errno : Errno
  notices : List Notice := []
deriving Repr

/-- what a system call leaves behind -/
structure SystemOutcome (μ : Type) where
  errno : Errno
  memory : μ
  notices : List Notice := []

namespace SystemCall

variable {μ : Type} [LinearMemory μ] {α : Type}

/-- a result of guest memory, as a system call reports it -/
def access : Except AccessError α → Except SystemRefusal α
  | .ok value => .ok value
  | .error e => .error { errno := .ofAccessError e }

/-- the stream with a file descriptor -/
def streamOf? (descriptor : Int32) : Option Stream :=
  if descriptor = 1 then some .stdout else if descriptor = 2 then some .stderr else none

/-- decides a call -/
def plan (process : ProcessInfo) (reading : Reading) (m : μ) : SystemCall → Except SystemRefusal SystemAction
  | args array buffer => do
    return { regions := ← access (StringList.regions m process.args array buffer) }
  | argsSizes count size => do
    return { regions := ← access (StringList.sizeRegions m process.args count size) }
  | environ array buffer => do
    return { regions := ← access (StringList.regions m process.environ array buffer) }
  | environSizes count size => do
    return { regions := ← access (StringList.sizeRegions m process.environ count size) }
  | clockResolution clock out =>
    match ClockId.ofCode? clock with
    | some _ => .ok { regions := [.ofValue out ScriptHost.clockResolution] }
    | none => .error { errno := .inval }
  | clockTime clock _ out =>
    match ClockId.ofCode? clock with
    | some clock => .ok { regions := [.ofValue out (reading.time clock)] }
    | none => .error { errno := .inval }
  | write descriptor segments count written =>
    match streamOf? descriptor with
    | none => .error { errno := .badf }
    | some stream => do
      access (checkBounds (LinearMemory.size m) written 4)
      let bytes ← access (readGathered m segments count)
      return {
        notices := [.printed stream (Text.trimNewlines (Text.decodeLossy bytes))]
        regions := [.ofValue written (UInt32.ofNat bytes.size)] }
  | random buffer length => do
    access (checkBounds (LinearMemory.size m) buffer length.toNat)
    match reading.randomBytes length.toNat with
    | .ok bytes => return { regions := [⟨buffer, bytes⟩] }
    | .error reason => throw { errno := .io, notices := [.entropyFailed reason] }

/-- a call, decided and carried out -/
def run (process : ProcessInfo) (reading : Reading) (m : μ) (call : SystemCall) : SystemOutcome μ :=
  match call.plan process reading m with
  | .ok action =>
    let (memory, result) := writeRegions m action.regions
    { errno := .ofResult (result.mapError Errno.ofAccessError), memory, notices := action.notices }
  | .error refusal => { errno := refusal.errno, memory := m, notices := refusal.notices }

end SystemCall

end ScriptHost
