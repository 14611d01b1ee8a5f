/-
The two vocabularies in which the host answers a guest: the status of a scene call and the error number of a system
call. Both are sent as signed words, so the codes are part of the binary interface.
-/
import ScriptHost.Memory.Basic

namespace ScriptHost

/-- the outcome of a scene call -/
inductive CallStatus where
  | success
  /-- the host cannot serve the call now -/
  | unknownError
  /-- an argument cannot be decoded -/
  | invalidArgument
  | notImplemented
  /-- the descriptor or id names no element of the scene -/
  | elementNotFound
  /-- the guest's buffer is too small for the result -/
  | insufficientBufferSize
  /-- the element does not have the attribute -/
  | unsupportedOperation
deriving DecidableEq, Repr

namespace CallStatus

def code : CallStatus → Int32
  | success => 0
  | unknownError => 1
  | invalidArgument => 2
  | notImplemented => 3
  | elementNotFound => 4
  | insufficientBufferSize => 5
  | unsupportedOperation => 6

def ofCode? (code : Int32) : Option CallStatus :=
  match code with
  | 0 => some .success
  | 1 => some .unknownError
  | 2 => some .invalidArgument
  | 3 => some .notImplemented
  | 4 => some .elementNotFound
  | 5 => some .insufficientBufferSize
  | 6 => some .unsupportedOperation
  | _ => none

@[simp] theorem ofCode?_code (s : CallStatus) : ofCode? s.code = some s := by cases s <;> rfl

theorem ofCode?_eq_some {code : Int32} {s : CallStatus} : ofCode? code = some s ↔ code = s.code := by
  constructor
  · intro h
    unfold ofCode? at h
    split at h <;> cases h <;> rfl
  · rintro rfl
    exact ofCode?_code s

/-- what a guest is told when its memory cannot be reached -/
def ofAccessError : AccessError → CallStatus
  | .outOfBounds => invalidArgument
  | .bufferTooSmall => insufficientBufferSize
  | .unavailable => unknownError

/-- the status that sums up a result -/
def ofResult {α : Type} : Except CallStatus α → CallStatus
  | .ok _ => success
  | .error status => status

end CallStatus

/-- the error numbers that a system call can answer -/
inductive Errno where
  | success
  /-- no such file descriptor -/
  | badf
  /-- bad address -/
  | fault
  /-- invalid argument -/
  | inval
  /-- input or output failed -/
  | io
  /-- no such system call -/
  | nosys
deriving DecidableEq, Repr

namespace Errno

def code : Errno → Int32
  | success => 0
  | badf => 8
  | fault => 21
  | inval => 28
  | io => 29
  | nosys => 52

/-- a system call has one number for every way in which its memory cannot be reached -/
def ofAccessError : AccessError → Errno
  | .outOfBounds => fault
  | .bufferTooSmall => fault
  | .unavailable => fault

/-- the number that sums up a result -/
def ofResult {α : Type} : Except Errno α → Errno
  | .ok _ => success
  | .error errno => errno

end Errno

end ScriptHost
