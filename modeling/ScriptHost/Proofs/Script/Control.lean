/-
What a guest does to the session while it has control: it makes scene calls in the name of its script, one after another,
and nothing else (`Program.follows_run`). Whatever the host does with a loaded guest, it does by entering exports one after
another (`Activity.Course`), so that what holds of one export holds of every operation by one induction. Which calls an
operation on a script makes can therefore be told from its trace, for it does no more than to run the exports that the trace
names, in order (`Activity.Plays`). The start section of a module makes none, as the host cannot reach the guest's memory yet
(`Module.shared_load`). So much for what an operation does to the session: `Script.obeys_operate`.

A script has a guest just while it is initialized (`Script.Consistent`); every operation keeps it so, also a load that fails
(`Script.consistent_operate`).
-/
import ScriptHost.Script.Lifecycle

namespace ScriptHost

/-- a scene call that a guest makes, with the memory that it has then -/
structure Made where
  memory : PagedMemory
  call : SceneCall

variable {σ : Type} [SceneBackend σ]

/-- the session after some calls of one script -/
def Session.after (caller : ScriptId) (s : Session σ) (calls : List Made) : Session σ :=
  calls.foldl (fun s made => (made.call.run caller made.memory s).session) s

theorem Session.after_append (caller : ScriptId) (s : Session σ) (calls more : List Made) :
    s.after caller (calls ++ more) = (s.after caller calls).after caller more :=
  List.foldl_append

/-! ## Programs -/

/-- the scene call that a call of an import comes to, if it reaches the session -/
def HostFunction.calls (f : HostFunction) (args : List Word) (t : Turn σ) : List Made :=
  match f with
  | scene f =>
    if t.guest.bound && !t.shared.broken then
      (((args.mapM Word.i32?).bind f.call?).map fun call => ⟨t.guest.state.memory, call⟩).toList
    else []
  | system _ | unsupported _ => []

/-- the scene calls that a program makes -/
def Program.calls : Program → Turn σ → List Made
  | done, _ | trap _, _ => []
  | look next, t => (next t.guest.state).calls t
  | change f next, t => next.calls { t with guest := { t.guest with state := f t.guest.state } }
  | call position args next, t =>
    match t.guest.imports[position]? with
    | none => []
    | some f => f.calls args t ++
      match f.call args t with
      | (t, .ok answer) => (next answer).calls t
      | (_, .error _) => []

/-- from one turn to another the session goes through some calls of the guest's script -/
structure Turn.Follows (calls : List Made) (t t' : Turn σ) : Prop where
  script : t'.guest.script = t.guest.script
  bound : t'.guest.bound = t.guest.bound
  broken : t'.shared.broken = t.shared.broken
  session : t'.shared.session = t.shared.session.after t.guest.script calls

theorem Turn.Follows.trans {calls more : List Made} {t t' t'' : Turn σ} (h : t.Follows calls t')
    (h' : t'.Follows more t'') : t.Follows (calls ++ more) t'' where
  script := h'.script.trans h.script
  bound := h'.bound.trans h.bound
  broken := h'.broken.trans h.broken
  session := calc
    t''.shared.session = t'.shared.session.after t'.guest.script more := h'.session
    _ = t'.shared.session.after t.guest.script more := by rw [h.script]
    _ = (t.shared.session.after t.guest.script calls).after t.guest.script more := by rw [h.session]
    _ = t.shared.session.after t.guest.script (calls ++ more) := (Session.after_append ..).symm

theorem Turn.Follows.shared_eq {t t' : Turn σ} (h : t.Follows [] t') : t'.shared = t.shared := by
  have hsession : t'.shared.session = t.shared.session := h.session
  have hbroken := h.broken
  rcases hold : t.shared with ⟨session, broken⟩
  rcases hnew : t'.shared with ⟨session', broken'⟩
  rw [hold, hnew] at hsession hbroken
  exact SharedSession.mk.injEq .. ▸ ⟨hsession, hbroken⟩

theorem Turn.follows_systemCall (t : Turn σ) (call : SystemCall) : t.Follows [] (t.systemCall call).1 := by
  unfold Turn.systemCall
  split <;> exact ⟨rfl, rfl, rfl, rfl⟩

theorem Turn.follows_report (t : Turn σ) (name : String) (args : List Word) : t.Follows [] (t.report name args) := by
  unfold Turn.report
  split <;> exact ⟨rfl, rfl, rfl, rfl⟩

theorem HostFunction.follows_call (f : HostFunction) (args : List Word) (t : Turn σ) :
    t.Follows (f.calls args t) (f.call args t).1 := by
  cases f with
  | scene f =>
    rw [HostFunction.call, HostFunction.calls]
    cases (args.mapM Word.i32?).bind f.call? with
    | none =>
      rw [Option.map_none, Option.toList_none, ite_self]
      exact ⟨rfl, rfl, rfl, rfl⟩
    | some call =>
      simp only [Turn.sceneCall]
      split <;> exact ⟨rfl, rfl, rfl, rfl⟩
  | system f =>
    rw [HostFunction.call]
    split
    · exact t.follows_systemCall _
    · exact ⟨rfl, rfl, rfl, rfl⟩
  | unsupported f => exact t.follows_report _ _

theorem Program.follows_run (program : Program) (t : Turn σ) : t.Follows (program.calls t) (program.run t).1 := by
  induction program generalizing t with
  | done | trap => exact ⟨rfl, rfl, rfl, rfl⟩
  | look next ih => exact ih t.guest.state t
  | change f next ih =>
    have hnext := ih { t with guest := { t.guest with state := f t.guest.state } }
    exact ⟨hnext.script, hnext.bound, hnext.broken, hnext.session⟩
  | call position args next ih =>
    rw [Program.run, Program.calls]
    cases t.guest.imports[position]? with
    | none => exact ⟨rfl, rfl, rfl, rfl⟩
    | some f =>
      have hcall := f.follows_call args t
      dsimp only
      rcases hresult : f.call args t with ⟨t', reason | answer⟩
      · rw [hresult] at hcall
        dsimp only
        rw [List.append_nil]
        exact hcall
      · rw [hresult] at hcall
        exact hcall.trans (ih answer t')

/-- without its memory a guest reaches the session never -/
theorem Program.calls_of_not_bound (program : Program) (t : Turn σ) (h : t.guest.bound = false) :
    program.calls t = [] := by
  induction program generalizing t with
  | done | trap => rfl
  | look next ih => exact ih t.guest.state t h
  | change f next ih => exact ih _ h
  | call position args next ih =>
    rw [Program.calls]
    split
    · rfl
    · rename_i f hf
      have hcalls : f.calls args t = [] := by
        cases f <;> simp [HostFunction.calls, h]
      have hbound := (f.follows_call args t).bound
      rw [hcalls, List.nil_append]
      split
      · rename_i t' answer hanswer
        rw [hanswer] at hbound
        exact ih answer t' (hbound.trans h)
      · rfl

/-! ## Exports that are run one after another -/

/-- what a guest and the session are after some programs -/
def runAll (programs : List Program) (held : Guest × SharedSession σ) : Guest × SharedSession σ :=
  programs.foldl (fun held program =>
    let t := (program.run { guest := held.1, shared := held.2 }).1
    (t.guest, t.shared)) held

/-- the scene calls that some programs make -/
def callsOfAll : List Program → Guest × SharedSession σ → List Made
  | [], _ => []
  | program :: rest, held =>
    program.calls { guest := held.1, shared := held.2 } ++ callsOfAll rest (runAll [program] held)

theorem session_runAll (programs : List Program) (held : Guest × SharedSession σ) :
    (runAll programs held).2.session = held.2.session.after held.1.script (callsOfAll programs held) := by
  induction programs generalizing held with
  | nil => rfl
  | cons program rest ih =>
    have hrun := program.follows_run { guest := held.1, shared := held.2 }
    rw [callsOfAll, Session.after_append, ← hrun.session, ← hrun.script]
    exact ih (runAll [program] held)

/-- the program that an entry of a trace says was run -/
def Exports.entered (x : Exports) : Entry → Option Program
  | .called e => x.program? e
  | .handed event => x.onEvent.map (· event)
  | .fetched | .noted _ => none

/-- an export of the life cycle was called -/
def Entry.IsCall (entry : Entry) : Prop := ∃ role, entry = .called role

/-- an event was handed over -/
def Entry.IsHanding (entry : Entry) : Prop := ∃ event, entry = .handed event

theorem Exports.entered_noted (x : Exports) (notices : List Notice) : (noted notices).filterMap x.entered = [] := by
  simp [noted, List.filterMap_map, Function.comp_def, Exports.entered]

namespace Activity

/-- the guest and the session of an activity -/
def held (a : Activity σ) : Guest × SharedSession σ := (a.runtime.guest, a.shared)

section Enter

variable (a : Activity σ) (entry : Entry) (exportName : String) {program : Program} {t : Turn σ}

/-- a program that runs to its end; what waits is of no consequence for it -/
theorem enter_of_ok (h : program.run { guest := a.runtime.guest, shared := a.shared } = (t, .ok ())) :
    a.enter entry exportName program =
      ((a.leftBy (t.withQueue a.queue)).record (entry :: noted t.notices), .ok ()) := by
  have hrun := program.run_withQueue { guest := a.runtime.guest, shared := a.shared } a.queue
  rw [h, Turn.withQueue] at hrun
  rw [enter, hrun]
  rfl

/-- a program that traps -/
theorem enter_of_trap {trap : Trap} (h : program.run { guest := a.runtime.guest, shared := a.shared } = (t, .error trap)) :
    a.enter entry exportName program =
      ((a.leftBy (t.withQueue a.queue)).record
        (entry :: noted (t.notices ++ [.trapped exportName (.guestTrap trap.reason)])),
        .error (.guestTrap trap.reason)) := by
  have hrun := program.run_withQueue { guest := a.runtime.guest, shared := a.shared } a.queue
  rw [h, Turn.withQueue] at hrun
  rw [enter, hrun]
  rfl

/-- what giving control to a program comes to -/
theorem enter_eq (program : Program) :
    (∃ notices, (a.enter entry exportName program).1.trace = a.trace ++ entry :: noted notices) ∧
      (a.enter entry exportName program).1.held = runAll [program] a.held ∧
      (a.enter entry exportName program).1.runtime.exports = a.runtime.exports ∧
      (a.enter entry exportName program).2 =
        (program.run { guest := a.runtime.guest, shared := a.shared }).2.mapError fun t => .guestTrap t.reason := by
  rcases hrun : program.run { guest := a.runtime.guest, shared := a.shared } with ⟨t, trap | done⟩
  · rw [a.enter_of_trap entry exportName hrun]
    refine ⟨⟨_, trace_record _ _⟩, ?_, rfl, rfl⟩
    simp [runAll, held, hrun, record, leftBy, Turn.withQueue]
  · rw [a.enter_of_ok entry exportName hrun]
    refine ⟨⟨_, trace_record _ _⟩, ?_, rfl, rfl⟩
    simp [runAll, held, hrun, record, leftBy, Turn.withQueue]

end Enter

/-! ### The course of an operation -/

/-- how a guest at work gets from one activity to another, and what the host is answered: exports are entered under entries
of some kind, events to be handed over are taken from the queue, and those that no export takes are noted -/
inductive Course (kind : Entry → Prop) : Activity σ → Activity σ → Except ScriptFailure Unit → Prop where
  | nothing (a : Activity σ) : Course kind a a (.ok ())
  | enter (a : Activity σ) {entry : Entry} {program : Program} (exportName : String) (hkind : kind entry)
      (hentered : a.runtime.exports.entered entry = some program) :
      Course kind a (a.enter entry exportName program).1 (a.enter entry exportName program).2
  | take (a : Activity σ) {event : Event} {rest : List Event} (hqueue : a.queue = event :: rest)
      (hkind : kind (.handed event)) : Course kind a { a with queue := rest } (.ok ())
  | drop (a : Activity σ) (event : Event) (exportName : String) :
      Course kind a (a.record [.noted (.eventDropped event exportName)]) (.ok ())
  | trans {a a' a'' : Activity σ} {answer answer' : Except ScriptFailure Unit} (h : Course kind a a' answer)
      (h' : Course kind a' a'' answer') : Course kind a a'' (answer.bind fun _ => answer')

/-- nothing is put into the queue -/
theorem Course.queue_suffix {kind : Entry → Prop} {a a' : Activity σ} {answer : Except ScriptFailure Unit}
    (h : Course kind a a' answer) : a'.queue <:+ a.queue := by
  induction h with
  | nothing | drop => exact List.suffix_rfl
  | enter a exportName hkind hentered => exact (a.queue_enter _ exportName _).symm ▸ List.suffix_rfl
  | take a hqueue hkind => exact hqueue ▸ List.suffix_cons _ _
  | trans h h' ih ih' => exact ih'.trans ih

/-- where no event is handed over, none is taken out of it either -/
theorem Course.queue_eq {kind : Entry → Prop} {a a' : Activity σ} {answer : Except ScriptFailure Unit}
    (h : Course kind a a' answer) (hkind : ∀ event, ¬ kind (.handed event)) : a'.queue = a.queue := by
  induction h with
  | nothing | drop => rfl
  | enter a exportName => exact a.queue_enter _ exportName _
  | take a hqueue hhanded => exact absurd hhanded (hkind _)
  | trans h h' ih ih' => exact ih'.trans ih

variable (a : Activity σ) (names : ExportNames)

theorem course_call (e : LifecycleExport) : Course Entry.IsCall a (a.call names e).1 (a.call names e).2 := by
  unfold call
  split
  · rename_i program hprogram
    exact .enter a _ ⟨e, rfl⟩ hprogram
  · exact .nothing a

theorem course_start : Course Entry.IsCall a (a.start names).1 (a.start names).2 :=
  (a.course_call names .entryPoint).trans ((a.call names .entryPoint).1.course_call names .onStart)

theorem course_firstUpdate : Course Entry.IsCall a (a.firstUpdate names).1 (a.firstUpdate names).2 := by
  have hstart := a.course_start names
  unfold firstUpdate
  rcases hresult : a.start names with ⟨a', failure | done⟩
  · rw [hresult] at hstart
    exact hstart
  · rw [hresult] at hstart
    exact hstart.trans (a'.course_call names .onUpdate)

theorem course_react (event : ScriptEvent) (started : Bool) :
    Course Entry.IsCall a (Script.react names event started a).1 (Script.react names event started a).2 := by
  unfold Script.react
  split
  · exact a.course_firstUpdate names
  · exact a.course_call names .onUpdate
  · exact .nothing a
  · exact a.course_call names .onSelect

section Deliver

variable {a names} {event : Event} {rest : List Event} {body : Event → Program} {b : Activity σ}

theorem deliver_of_nil (hqueue : a.queue = []) : deliver names a = (a, .ok 0) := by
  cases a
  cases hqueue
  rw [deliver]

variable (hqueue : a.queue = event :: rest)

include hqueue

/-- the first event is dropped -/
theorem deliver_of_unheard (hnone : a.runtime.exports.onEvent = none) : deliver names a =
    deliver names (({ a with queue := rest } : Activity σ).record [.noted (.eventDropped event names.onEvent)]) := by
  cases a
  cases hqueue
  rw [deliver]
  dsimp only at hnone
  simp only [hnone]

variable (hbody : a.runtime.exports.onEvent = some body)

include hbody

/-- the call that hands the first event over traps -/
theorem deliver_of_trap {failure : ScriptFailure}
    (h : ({ a with queue := rest } : Activity σ).enter (.handed event) names.onEvent (body event) = (b, .error failure)) :
    deliver names a = (b, .error failure) := by
  cases a
  cases hqueue
  rw [deliver]
  dsimp only at hbody
  simp only [hbody]
  split <;> rename_i hentered <;> rw [h] at hentered <;> cases hentered
  rfl

/-- the call that hands the first event over runs to its end -/
theorem deliver_of_done
    (h : ({ a with queue := rest } : Activity σ).enter (.handed event) names.onEvent (body event) = (b, .ok ())) :
    deliver names a = ((deliver names b).1, (deliver names b).2.map (· + 1)) := by
  cases a
  cases hqueue
  rw [deliver]
  dsimp only at hbody
  simp only [hbody]
  split <;> rename_i hentered <;> rw [h] at hentered <;> cases hentered
  rfl

end Deliver

theorem course_deliver :
    Course Entry.IsHanding a (deliver names a).1 ((deliver names a).2.map fun _ => ()) := by
  generalize hevents : a.queue = events
  induction events generalizing a with
  | nil =>
    rw [deliver_of_nil hevents]
    exact .nothing a
  | cons event rest ih =>
    have htake : Course Entry.IsHanding a { a with queue := rest } (.ok ()) := .take a hevents ⟨event, rfl⟩
    cases hbody : a.runtime.exports.onEvent with
    | none =>
      rw [deliver_of_unheard hevents hbody]
      exact htake.trans (.trans (.drop _ event names.onEvent) (ih _ rfl))
    | some body =>
      have hentered : a.runtime.exports.entered (.handed event) = some (body event) := by
        rw [Exports.entered, hbody, Option.map_some]
      have henter : Course Entry.IsHanding a _ _ :=
        htake.trans (.enter { a with queue := rest } names.onEvent ⟨event, rfl⟩ hentered)
      have hrest := queue_enter { a with queue := rest } (.handed event) names.onEvent (body event)
      rcases hresult : ({ a with queue := rest } : Activity σ).enter (.handed event) names.onEvent (body event) with
        ⟨b, failure | done⟩
      · rw [hresult] at henter
        rw [deliver_of_trap hevents hbody hresult]
        exact henter
      · rw [hresult] at henter hrest
        have hcourse := henter.trans (ih b hrest)
        rw [deliver_of_done hevents hbody hresult]
        cases hanswer : (deliver names b).2 with
        | error failure =>
          rw [hanswer] at hcourse
          exact hcourse
        | ok n =>
          rw [hanswer] at hcourse
          exact hcourse

/-! ### What is run -/

/-- from one activity to another just the programs were run that the trace has been given in between -/
structure Plays (a a' : Activity σ) : Prop where
  exports : a'.runtime.exports = a.runtime.exports
  block : ∃ block, a'.trace = a.trace ++ block ∧
    a'.held = runAll (block.filterMap a.runtime.exports.entered) a.held

variable {a} in
theorem Plays.trans {a' a'' : Activity σ} (h : a.Plays a') (h' : a'.Plays a'') : a.Plays a'' := by
  obtain ⟨block, htrace, hheld⟩ := h.block
  obtain ⟨more, htrace', hheld'⟩ := h'.block
  refine ⟨h'.exports.trans h.exports, block ++ more, ?_, ?_⟩
  · rw [htrace', htrace, List.append_assoc]
  · rw [hheld', hheld, h.exports, List.filterMap_append, runAll, runAll, runAll, List.foldl_append]

theorem plays_enter {entry : Entry} (exportName : String) {program : Program}
    (h : a.runtime.exports.entered entry = some program) : a.Plays (a.enter entry exportName program).1 := by
  obtain ⟨⟨notices, htrace⟩, hheld, hexports, -⟩ := a.enter_eq entry exportName program
  refine ⟨hexports, entry :: noted notices, htrace, ?_⟩
  rw [List.filterMap_cons_some h, Exports.entered_noted, hheld]

variable {a} in
theorem Course.plays {kind : Entry → Prop} {a' : Activity σ} {answer : Except ScriptFailure Unit}
    (h : Course kind a a' answer) : a.Plays a' := by
  induction h with
  | nothing a => exact ⟨rfl, [], (List.append_nil _).symm, rfl⟩
  | enter a exportName hkind hentered => exact a.plays_enter exportName hentered
  | take a hqueue hkind => exact ⟨rfl, [], (List.append_nil _).symm, rfl⟩
  | drop a event exportName => exact ⟨rfl, _, a.trace_record _, rfl⟩
  | trans h h' ih ih' => exact ih.trans ih'

end Activity

/-! ## Operations on scripts -/

section Load

variable {m : Module} {setting : Setting} {shared : SharedSession σ} {queue : List Event}

/-- the host cannot reach the memory of a guest that is being loaded, so the guest cannot reach the session -/
theorem Module.shared_load (m : Module) (setting : Setting) (shared : SharedSession σ) (queue : List Event) :
    (m.load setting shared queue).shared = shared := by
  unfold Module.load
  split
  · rfl
  · rename_i guest hguest
    have hbound : guest.bound = false := by
      unfold Module.guest at hguest
      split at hguest <;> cases hguest
      rfl
    have hrun := m.start.follows_run { guest, shared, queue }
    rw [m.start.calls_of_not_bound _ hbound] at hrun
    have hshared := hrun.shared_eq
    split <;> rename_i ht <;> rw [ht] at hshared
    · exact hshared
    · split <;> exact hshared

/-- nor can it reach the queue -/
theorem Module.queue_load (m : Module) (setting : Setting) (shared : SharedSession σ) (queue : List Event) :
    (m.load setting shared queue).queue = queue := by
  unfold Module.load
  split
  · rfl
  · rename_i guest hguest
    have hqueue := m.start.queue_run { guest, shared, queue }
    split <;> rename_i ht <;> rw [ht] at hqueue
    · exact hqueue
    · split <;> exact hqueue

theorem Module.exports_of_load {runtime : Runtime} (h : (m.load setting shared queue).result = .ok runtime) :
    runtime.exports = .ofModule m setting.config.exports := by
  unfold Module.load at h
  split at h
  · cases h
  · split at h
    · cases h
    · split at h
      · cases h
        rfl
      · cases h

end Load

/-- something that the host makes a script do -/
inductive ScriptAct where
  | instantiate
  | dispatch (event : ScriptEvent)
  | deliver
deriving DecidableEq, Repr

namespace Script

/-- an operation, with what its answer says of success or failure; no answer is given while the module is fetched -/
def operate (s : Script) (act : ScriptAct) (shared : SharedSession σ) :
    Outcome σ (Option (Except ScriptFailure Unit)) :=
  match act with
  | .instantiate => s.instantiate shared
  | .dispatch event =>
    let o := s.dispatch event shared
    { o with answer := some o.answer }
  | .deliver =>
    let o := s.deliver shared
    { o with answer := some (o.answer.map fun _ => ()) }

/-- without a guest there is nothing that an event of the host could reach -/
theorem dispatch_of_none {s : Script} (h : s.runtime = none) (event : ScriptEvent) (shared : SharedSession σ) :
    s.dispatch event shared = { answer := .ok (), script := s, shared } := by
  unfold dispatch
  split
  · rename_i hruntime
    rw [h] at hruntime
    cases hruntime
  · rfl

theorem deliver_of_none {s : Script} (h : s.runtime = none) (shared : SharedSession σ) :
    s.deliver shared = { answer := .ok 0, script := s, shared } := by
  simp only [deliver, h]

/-- a script has a guest just while it is initialized -/
def Consistent (s : Script) : Prop := s.runtime.isSome = s.state.isInitialized

/-- what a consistent script can be: it is loaded, or it has no guest and waits for none or for one -/
theorem Consistent.cases {s : Script} (h : s.Consistent) :
    (∃ started runtime, s.state = .initialized started ∧ s.runtime = some runtime) ∨
      s.state.isInitialized = false ∧ s.runtime = none := by
  unfold Consistent at h
  rcases hstate : s.state with _ | _ | started | _
  case initialized =>
    rw [hstate] at h
    obtain ⟨runtime, hruntime⟩ := Option.isSome_iff_exists.1 h
    exact .inl ⟨started, runtime, rfl, hruntime⟩
  all_goals
    rw [hstate] at h
    exact .inr ⟨rfl, Option.isNone_iff_eq_none.1 (Option.isSome_eq_false_iff.1 h)⟩

theorem Consistent.state_of_runtime {s : Script} (h : s.Consistent) {runtime : Runtime} (hruntime : s.runtime = some runtime) :
    ∃ started, s.state = .initialized started := by
  rcases h.cases with ⟨started, -, hstate, -⟩ | ⟨-, hnone⟩
  · exact ⟨started, hstate⟩
  · rw [hruntime] at hnone
    cases hnone

section Consistent

variable {s : Script} (h : s.Consistent) (shared : SharedSession σ)

include h

theorem consistent_instantiate : (s.instantiate shared).script.Consistent := by
  unfold instantiate
  split
  · exact h
  · exact h
  · exact h
  · -- an unloaded script has no guest, and so a load that fails leaves none behind
    rename_i hstate
    have hnone : s.runtime.isSome = false := by
      rw [h, hstate]
      rfl
    split
    · exact hnone
    · exact hnone
    · dsimp only
      split
      · rfl
      · exact hnone

theorem consistent_dispatch (event : ScriptEvent) : (s.dispatch event shared).script.Consistent := by
  unfold dispatch
  split
  · rfl
  · exact h

theorem consistent_deliver : (s.deliver shared).script.Consistent := by
  unfold deliver
  split
  · rename_i runtime hruntime
    obtain ⟨started, hstate⟩ := h.state_of_runtime hruntime
    exact (congrArg ScriptState.isInitialized hstate).symm
  · exact h

theorem consistent_operate (act : ScriptAct) : (s.operate act shared).script.Consistent := by
  cases act with
  | instantiate => exact consistent_instantiate h shared
  | dispatch event => exact consistent_dispatch h shared event
  | deliver => exact consistent_deliver h shared

end Consistent

/-- what an operation does with a loaded guest is a course of the guest; the host is answered what comes of it -/
theorem course_operate {s : Script} {started : Bool} {runtime : Runtime} (hstate : s.state = .initialized started)
    (hruntime : s.runtime = some runtime) (act : ScriptAct) (shared : SharedSession σ) :
    ∃ kind a answer, Activity.Course kind (s.atWork runtime shared) a answer ∧
      (s.operate act shared).script.runtime = some a.runtime ∧ (s.operate act shared).script.waiting = a.queue ∧
      (s.operate act shared).shared = a.shared ∧ (s.operate act shared).trace = a.trace ∧
      (act ≠ .instantiate → (s.operate act shared).answer = some answer) := by
  cases act with
  | instantiate =>
    have hoperate : s.operate .instantiate shared =
        { answer := some (.error .alreadyInstantiated), script := s, shared } := by
      simp only [operate, instantiate, hstate]
    rw [hoperate]
    exact ⟨Entry.IsCall, _, _, .nothing _, hruntime, rfl, rfl, rfl, fun hact => absurd rfl hact⟩
  | dispatch event =>
    have hcourse := Activity.course_react (s.atWork runtime shared) s.names event started
    simp only [operate, dispatch, hstate, hruntime]
    exact ⟨_, _, _, hcourse, rfl, rfl, rfl, rfl, fun _ => rfl⟩
  | deliver =>
    have hcourse := Activity.course_deliver (s.atWork runtime shared) s.names
    simp only [operate, deliver, hruntime]
    exact ⟨_, _, _, hcourse, rfl, rfl, rfl, rfl, fun _ => rfl⟩

/-- the id under which the guest of a script makes its calls -/
def guestId (s : Script) : ScriptId :=
  match s.runtime with
  | some runtime => runtime.guest.script
  | none => s.setting.script

/-- the scene calls that a script made in an operation, by the trace of the operation -/
def made (s : Script) (shared : SharedSession σ) (trace : List Entry) : List Made :=
  match s.runtime with
  | some runtime => callsOfAll (trace.filterMap runtime.exports.entered) (runtime.guest, shared)
  | none => []

/-- an operation puts no event behind those that wait, and the session goes through the calls of the script -/
structure Obeys {α : Type} (s : Script) (shared : SharedSession σ) (o : Outcome σ α) : Prop where
  waiting : o.script.waiting <:+ s.waiting
  session : o.shared.session = shared.session.after s.guestId (s.made shared o.trace)

theorem Obeys.of_course {α : Type} {s : Script} {shared : SharedSession σ} {o : Outcome σ α} {runtime : Runtime}
    {kind : Entry → Prop} {a : Activity σ} {answer : Except ScriptFailure Unit} (hruntime : s.runtime = some runtime)
    (hcourse : Activity.Course kind (s.atWork runtime shared) a answer) (hshared : o.shared = a.shared)
    (htrace : o.trace = a.trace) (hwaiting : o.script.waiting = a.queue) : s.Obeys shared o := by
  obtain ⟨-, block, hblock, hheld⟩ := hcourse.plays
  have hsession := session_runAll (block.filterMap runtime.exports.entered) (runtime.guest, shared)
  refine ⟨hwaiting ▸ hcourse.queue_suffix, ?_⟩
  rw [guestId, made, hruntime, htrace, hblock, hshared]
  exact (congrArg (fun held => held.2.session) hheld).trans hsession

theorem made_nil (s : Script) (shared : SharedSession σ) : s.made shared [] = [] := by
  unfold made
  split <;> rfl

/-- loading makes no scene call -/
theorem made_fetched (s : Script) (shared : SharedSession σ) (notices : List Notice) :
    s.made shared (.fetched :: noted notices) = [] := by
  unfold made
  split
  · rename_i runtime hruntime
    have hentered : (.fetched :: noted notices).filterMap runtime.exports.entered = [] :=
      runtime.exports.entered_noted notices
    rw [hentered]
    rfl
  · rfl

theorem Obeys.of_idle {α : Type} {s : Script} {shared : SharedSession σ} {o : Outcome σ α}
    (hmade : s.made shared o.trace = []) (hshared : o.shared = shared) (hwaiting : o.script.waiting = s.waiting) :
    s.Obeys shared o :=
  ⟨hwaiting ▸ List.suffix_rfl, by rw [hmade, hshared]; rfl⟩

theorem obeys_instantiate (s : Script) (shared : SharedSession σ) : s.Obeys shared (s.instantiate shared) := by
  unfold instantiate
  split
  · exact .of_idle (s.made_nil shared) rfl rfl
  · exact .of_idle (s.made_nil shared) rfl rfl
  · exact .of_idle (s.made_nil shared) rfl rfl
  · split
    · exact .of_idle (s.made_fetched shared []) rfl rfl
    · exact .of_idle (s.made_fetched shared [_]) rfl rfl
    · rename_i m hm
      have hshared := m.shared_load s.setting shared s.waiting
      have hqueue := m.queue_load s.setting shared s.waiting
      dsimp only
      split <;> exact .of_idle (s.made_fetched shared _) hshared hqueue

theorem obeys_dispatch (s : Script) (event : ScriptEvent) (shared : SharedSession σ) :
    s.Obeys shared (s.dispatch event shared) := by
  unfold dispatch
  split
  · rename_i started runtime hstate hruntime
    exact .of_course hruntime (Activity.course_react (s.atWork runtime shared) s.names event started) rfl rfl rfl
  · exact .of_idle (s.made_nil shared) rfl rfl

theorem obeys_deliver (s : Script) (shared : SharedSession σ) : s.Obeys shared (s.deliver shared) := by
  unfold deliver
  split
  · rename_i runtime hruntime
    exact .of_course hruntime (Activity.course_deliver (s.atWork runtime shared) s.names) rfl rfl rfl
  · exact .of_idle (s.made_nil shared) rfl rfl

theorem obeys_operate (s : Script) (act : ScriptAct) (shared : SharedSession σ) :
    s.Obeys shared (s.operate act shared) := by
  cases act with
  | instantiate => exact s.obeys_instantiate shared
  | dispatch event => exact ⟨(s.obeys_dispatch event shared).waiting, (s.obeys_dispatch event shared).session⟩
  | deliver => exact ⟨(s.obeys_deliver shared).waiting, (s.obeys_deliver shared).session⟩

end Script

end ScriptHost
