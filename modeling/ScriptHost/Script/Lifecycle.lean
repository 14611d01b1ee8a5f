/-
The life of a script: it is instantiated once, started by its first update, and then driven by updates, selections and
the events that it has asked for.

1. A script moves from `unloaded` over `instantiating` to `initialized` or to `failed`, and never back. The runtime of its
   guest is kept beside this state: an instantiation that succeeds puts it there, and nothing takes it away.
2. The first update calls the entry point and then `onStart`, each of them even if the other traps, and from then on the
   script counts as started. `onUpdate` follows if neither has trapped. Later updates call `onUpdate` only.
3. Selections are passed over until the script is started.
4. Events wait in the script's queue in the order in which they were raised. A delivery takes them out one by one, as long
   as there are any; a trap ends it, and the events behind the one that trapped go on waiting. If the guest takes no events
   they are thrown away.
-/
import ScriptHost.Script.Load
import ScriptHost.Script.Source

namespace ScriptHost

/-- where a script is in its life -/
inductive ScriptState where
  | unloaded
  /-- the module is being fetched -/
  | instantiating
  /-- `started` is set by the first update -/
  | initialized (started : Bool)
  | failed
deriving DecidableEq, Repr

namespace ScriptState

/-- can the script be given anything to do? -/
def isInitialized : ScriptState → Bool
  | initialized _ => true
  | _ => false

/-- have the entry point and `onStart` been called? -/
def hasStarted : ScriptState → Bool
  | initialized started => started
  | _ => false

end ScriptState

/-- what the host tells a script to do -/
inductive ScriptEvent where
  /-- sent once for each frame -/
  | update
  /-- sent when the script's element is selected -/
  | select
deriving DecidableEq, Repr

/-- a script of a scene -/
structure Script where
  setting : Setting
  source : Source
  state : ScriptState := .unloaded
  /-- the guest, once it is loaded -/
  runtime : Option Runtime := none
  /-- the events that wait, oldest first -/
  queue : Array Event := #[]

/-- what an operation on a script leaves behind -/
structure Outcome (σ α : Type) where
  answer : α
  script : Script
  shared : SharedSession σ
  trace : List Entry := []

/-- a loaded guest at work, the events that wait for it, and what has happened so far -/
structure Activity (σ : Type) where
  runtime : Runtime
  shared : SharedSession σ
  /-- oldest first -/
  queue : List Event := []
  /-- what has happened, the latest first -/
  log : List Entry := []

/-! ## Calls of exports -/

namespace Activity

/-- what has happened, in order -/
def trace {σ : Type} (a : Activity σ) : List Entry := a.log.reverse

/-- something happens -/
def record {σ : Type} (a : Activity σ) (entries : List Entry) : Activity σ :=
  { a with log := entries.reverse ++ a.log }

@[simp] theorem trace_record {σ : Type} (a : Activity σ) (entries : List Entry) :
    (a.record entries).trace = a.trace ++ entries := by
  simp [trace, record]

variable {σ : Type} [SceneBackend σ]

/-- the activity once the guest has had its turn -/
def leftBy {σ : Type} (a : Activity σ) (t : Turn σ) : Activity σ :=
  { a with runtime := { a.runtime with guest := t.guest }, shared := t.shared, queue := t.queue }

/-- gives the guest control; a trap is noted and ends the call -/
def enter (a : Activity σ) (entry : Entry) (exportName : String) (program : Program) :
    Activity σ × Except ScriptFailure Unit :=
  match program.run { guest := a.runtime.guest, shared := a.shared, queue := a.queue } with
  | (t, .ok ()) => ((a.leftBy t).record (entry :: noted t.notices), .ok ())
  | (t, .error trap) =>
    let failure := ScriptFailure.guestTrap trap.reason
    ((a.leftBy t).record (entry :: noted (t.notices ++ [.trapped exportName failure])), .error failure)

/-- calls an export, if the guest has it -/
def call (a : Activity σ) (names : ExportNames) (e : LifecycleExport) : Activity σ × Except ScriptFailure Unit :=
  match a.runtime.exports.program? e with
  | some program => a.enter (.called e) (names.name e) program
  | none => (a, .ok ())

/-- starts the guest; the first trap is the one that is reported -/
def start (a : Activity σ) (names : ExportNames) : Activity σ × Except ScriptFailure Unit :=
  let (a, entered) := a.call names .entryPoint
  let (a, started) := a.call names .onStart
  (a, entered.bind fun _ => started)

/-- the first update of a guest -/
def firstUpdate (a : Activity σ) (names : ExportNames) : Activity σ × Except ScriptFailure Unit :=
  match a.start names with
  | (a, .ok ()) => a.call names .onUpdate
  | (a, .error failure) => (a, .error failure)

theorem queue_enter (a : Activity σ) (entry : Entry) (exportName : String) (program : Program) :
    (a.enter entry exportName program).1.queue = a.queue := by
  have hqueue := program.queue_run { guest := a.runtime.guest, shared := a.shared, queue := a.queue }
  unfold enter
  split <;> rename_i hrun <;> rw [hrun] at hqueue <;> exact hqueue

/-- hands the events that wait to the guest, one by one; answers how many it took. This comes to an end, as the guest puts
no event behind those that wait (`queue_enter`) -/
def deliver (names : ExportNames) (a : Activity σ) : Activity σ × Except ScriptFailure Nat :=
  match hqueue : a.queue with
  | [] => (a, .ok 0)
  | event :: rest =>
    have hshorter : rest.length < a.queue.length := by simp [hqueue]
    match a.runtime.exports.onEvent with
    | none =>
      deliver names ({ a with queue := rest }.record [.noted (.eventDropped event names.onEvent)])
    | some body =>
      match hentered : { a with queue := rest }.enter (.handed event) names.onEvent (body event) with
      | (b, .error failure) => (b, .error failure)
      | (b, .ok ()) =>
        have hrest : b.queue = rest := by
          simpa only [hentered] using queue_enter { a with queue := rest } (.handed event) names.onEvent (body event)
        let (c, taken) := deliver names b
        (c, taken.map (· + 1))
termination_by a.queue.length
decreasing_by
  · exact hshorter
  · exact hrest ▸ hshorter

end Activity

/-! ## Operations on scripts -/

variable {σ : Type} [SceneBackend σ]

namespace Script

/-- the names of the script's exports -/
def names (s : Script) : ExportNames := s.setting.config.exports

/-- puts an event behind those that wait -/
def enqueue (s : Script) (event : Event) : Script := { s with queue := s.queue.push event }

/-- the events that wait, oldest first -/
def waiting (s : Script) : List Event := s.queue.toList

/-- the memory of the guest -/
def memory? (s : Script) : Option PagedMemory := s.runtime.map (·.guest.state.memory)

/-- some bytes of the guest's memory -/
def readMemory? (s : Script) (addr : Pointer) (len : Nat) : Option ByteArray := do
  match readBytes (← s.memory?) addr len with
  | .ok bytes => return bytes
  | .error _ => none

/-- fetches the module and loads it; no answer is given as long as the fetch has not come to an end -/
def instantiate (s : Script) (shared : SharedSession σ) : Outcome σ (Option (Except ScriptFailure Unit)) :=
  match s.state with
  | .failed => { answer := some (.error .failedBefore), script := s, shared }
  | .instantiating | .initialized _ => { answer := some (.error .alreadyInstantiated), script := s, shared }
  | .unloaded =>
    match s.source.module? with
    | none => { answer := none, script := { s with state := .instantiating }, shared, trace := [.fetched] }
    | some (.error failure) =>
      { answer := some (.error failure)
        script := { s with state := .failed }
        shared
        trace := [.fetched, .noted (.loadFailed failure)] }
    | some (.ok m) =>
      let outcome := m.load s.setting shared s.waiting
      match outcome.result with
      | .ok runtime =>
        { answer := some (.ok ())
          script := { s with state := .initialized false, runtime := some runtime, queue := outcome.queue.toArray }
          shared := outcome.shared
          trace := .fetched :: noted (outcome.notices ++ [.instantiated]) }
      | .error failure =>
        { answer := some (.error failure)
          script := { s with state := .failed, queue := outcome.queue.toArray }
          shared := outcome.shared
          trace := .fetched :: noted (outcome.notices ++ [.loadFailed failure]) }

/-- the guest of the script at work -/
def atWork (s : Script) (runtime : Runtime) (shared : SharedSession σ) : Activity σ :=
  { runtime, shared, queue := s.waiting }

/-- the script once its guest has done its work -/
def resume (s : Script) (a : Activity σ) : Script := { s with runtime := some a.runtime, queue := a.queue.toArray }

/-- what a loaded script does with an event of the host -/
def react (names : ExportNames) (event : ScriptEvent) (started : Bool) (a : Activity σ) :
    Activity σ × Except ScriptFailure Unit :=
  match event, started with
  | .update, false => a.firstUpdate names
  | .update, true => a.call names .onUpdate
  | .select, false => (a, .ok ())
  | .select, true => a.call names .onSelect

/-- sends an event of the host to the script -/
def dispatch (s : Script) (event : ScriptEvent) (shared : SharedSession σ) : Outcome σ (Except ScriptFailure Unit) :=
  match s.state, s.runtime with
  | .initialized started, some runtime =>
    let (a, answer) := react s.names event started (s.atWork runtime shared)
    { answer
      script := resume { s with state := .initialized (started || event = .update) } a
      shared := a.shared
      trace := a.trace }
  | _, _ => { answer := .ok (), script := s, shared }

/-- hands the waiting events to the guest; answers how many it took -/
def deliver (s : Script) (shared : SharedSession σ) : Outcome σ (Except ScriptFailure Nat) :=
  match s.runtime with
  | some runtime =>
    let (a, answer) := Activity.deliver s.names (s.atWork runtime shared)
    { answer, script := s.resume a, shared := a.shared, trace := a.trace }
  | none => { answer := .ok 0, script := s, shared }

end Script

end ScriptHost
