/-
Guests at work. While a guest has control it acts on its own state, and through the functions that it imports on the
session that it shares with others; what it does for the log to see is noted in order. The host holds the queue of the
guest's script at its disposal all the while, but no function that can be imported makes use of it (`Program.run_withQueue`).

1. Scene calls need the guest's memory and the session. While the memory is not yet bound, as in a start section, or the
   session is broken, they answer `unknownError` and do nothing.
2. System calls need the memory. Without it they answer `fault` and do nothing.
3. Unsupported calls need neither. Each is noted when it is called for the first time and answers `nosys`; the call that
   asks to end the program traps instead, every time.
-/
import ScriptHost.Guest.Import
import ScriptHost.Guest.Program
import ScriptHost.SceneCall.Run
import ScriptHost.System.Call

namespace ScriptHost

/-- a guest that is linked to the host -/
structure Guest where
  /-- the script that the guest belongs to -/
  script : ScriptId
  process : ProcessInfo
  /-- the functions that its imports are linked to -/
  imports : Array HostFunction
  /-- what clocks and randomness answer to each of its system calls -/
  readings : Nat → Reading
  state : GuestState
  /-- can the host reach the guest's memory? -/
  bound : Bool := false
  /-- the unsupported calls that it has tried -/
  reported : List String := []
  /-- the number of system calls that it has made -/
  systemCalls : Nat := 0

/-- what a guest acts on while it has control -/
structure Turn (σ : Type) where
  guest : Guest
  shared : SharedSession σ
  /-- the events that wait for the guest's script, oldest first -/
  queue : List Event := []
  /-- what was noted, the latest first -/
  log : List Notice := []

namespace Turn

/-- what was noted, in order -/
def notices {σ : Type} (t : Turn σ) : List Notice := t.log.reverse

/-- notes some more -/
def note {σ : Type} (t : Turn σ) (notices : List Notice) : Turn σ := { t with log := notices.reverse ++ t.log }

end Turn

variable {σ : Type} [SceneBackend σ]

/-! ## The imported functions -/

/-- a call of the scene interface -/
def Turn.sceneCall (t : Turn σ) (call : SceneCall) : Turn σ × CallStatus :=
  if t.guest.bound && !t.shared.broken then
    let outcome := call.run t.guest.script t.guest.state.memory t.shared.session
    let guest := { t.guest with state := { t.guest.state with memory := outcome.memory } }
    let shared := { t.shared with session := outcome.session }
    ({ t with guest, shared }.note outcome.notices, outcome.status)
  else (t, .unknownError)

/-- a system call that does something -/
def Turn.systemCall (t : Turn σ) (call : SystemCall) : Turn σ × Errno :=
  if t.guest.bound then
    let outcome := call.run t.guest.process (t.guest.readings t.guest.systemCalls) t.guest.state.memory
    let state := { t.guest.state with memory := outcome.memory }
    let guest := { t.guest with state, systemCalls := t.guest.systemCalls + 1 }
    ({ t with guest }.note outcome.notices, outcome.errno)
  else (t, .fault)

/-- the code that a guest gives with its request to end the program -/
def exitCode : List Word → Int32
  | .i32 code :: _ => code.toInt32
  | _ => 0

/-- the notice of an unsupported call -/
def unsupportedNotice (name : String) (args : List Word) : Notice :=
  if UnsupportedFunction.hasNoResult name then .exitRequested name (exitCode args) else .unsupportedCall name

/-- notes the first call of an unsupported function -/
def Turn.report (t : Turn σ) (name : String) (args : List Word) : Turn σ :=
  if name ∈ t.guest.reported then t
  else
    { t with guest := { t.guest with reported := t.guest.reported ++ [name] } }.note [unsupportedNotice name args]

/-- a call of an unsupported function -/
def Turn.unsupportedCall (t : Turn σ) (name : String) (args : List Word) : Turn σ × Except Trap Errno :=
  (t.report name args,
    if UnsupportedFunction.hasNoResult name then .error (.exit name (exitCode args)) else .ok .nosys)

/-- a call of an imported function; words that do not fit its signature end in a trap -/
def HostFunction.call (f : HostFunction) (args : List Word) (t : Turn σ) : Turn σ × Except Trap UInt32 :=
  match f with
  | scene f =>
    match (args.mapM Word.i32?).bind f.call? with
    | some call =>
      let (t, status) := t.sceneCall call
      (t, .ok status.code.toUInt32)
    | none => (t, .error .unreachable)
  | system f =>
    match f.call? args with
    | some call =>
      let (t, errno) := t.systemCall call
      (t, .ok errno.code.toUInt32)
    | none => (t, .error .unreachable)
  | unsupported f =>
    let (t, result) := t.unsupportedCall f.name args
    (t, result.map fun errno => errno.code.toUInt32)

/-! ## Programs -/

/-- runs a program; what it did before a trap stays done -/
def Program.run : Program → Turn σ → Turn σ × Except Trap Unit
  | done, t => (t, .ok ())
  | trap reason, t => (t, .error reason)
  | look next, t => (next t.guest.state).run t
  | change f next, t => next.run { t with guest := { t.guest with state := f t.guest.state } }
  | call position args next, t =>
    match t.guest.imports[position]? with
    | none => (t, .error .unreachable)
    | some f =>
      match f.call args t with
      | (t, .ok answer) => (next answer).run t
      | (t, .error reason) => (t, .error reason)

/-! ## The queue -/

/-- the turn with other events that wait -/
def Turn.withQueue {σ : Type} (t : Turn σ) (queue : List Event) : Turn σ := { t with queue }

section WithQueue

variable (t : Turn σ) (queue : List Event)

theorem Turn.sceneCall_withQueue (call : SceneCall) :
    (t.withQueue queue).sceneCall call = ((t.sceneCall call).1.withQueue queue, (t.sceneCall call).2) := by
  cases h : t.guest.bound && !t.shared.broken <;> simp [sceneCall, withQueue, note, h]

omit [SceneBackend σ] in
theorem Turn.systemCall_withQueue (call : SystemCall) :
    (t.withQueue queue).systemCall call = ((t.systemCall call).1.withQueue queue, (t.systemCall call).2) := by
  cases h : t.guest.bound <;> simp [systemCall, withQueue, note, h]

omit [SceneBackend σ] in
theorem Turn.report_withQueue (name : String) (args : List Word) :
    (t.withQueue queue).report name args = (t.report name args).withQueue queue := by
  by_cases h : name ∈ t.guest.reported <;> simp [report, withQueue, note, h]

theorem HostFunction.call_withQueue (f : HostFunction) (args : List Word) :
    f.call args (t.withQueue queue) = ((f.call args t).1.withQueue queue, (f.call args t).2) := by
  cases f with
  | scene f =>
    rw [call, call]
    split
    · simp only [t.sceneCall_withQueue]
    · rfl
  | system f =>
    rw [call, call]
    split
    · simp only [t.systemCall_withQueue]
    · rfl
  | unsupported f => simp only [call, Turn.unsupportedCall, t.report_withQueue]

end WithQueue

/-- whatever a program does, it neither looks at the queue nor changes it -/
theorem Program.run_withQueue (program : Program) (t : Turn σ) (queue : List Event) :
    program.run (t.withQueue queue) = ((program.run t).1.withQueue queue, (program.run t).2) := by
  induction program generalizing t with
  | done | trap => rfl
  | look next ih => exact ih t.guest.state t
  | change f next ih => exact ih { t with guest := { t.guest with state := f t.guest.state } }
  | call position args next ih =>
    have himports : (t.withQueue queue).guest.imports = t.guest.imports := rfl
    rw [run, run, himports]
    cases t.guest.imports[position]? with
    | none => rfl
    | some f =>
      dsimp only
      rw [f.call_withQueue t queue]
      rcases f.call args t with ⟨t', reason | answer⟩
      · rfl
      · exact ih answer t'

theorem Program.queue_run (program : Program) (t : Turn σ) : (program.run t).1.queue = t.queue :=
  congrArg (·.1.queue) (program.run_withQueue t t.queue)

end ScriptHost
