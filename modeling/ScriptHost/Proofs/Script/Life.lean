/-
The calls that the host makes in the life of a script.

A life is any sequence of operations on a fresh script. Between two of them the session and the script's queue are left
to others, so each operation meets them as it finds them (`Move`). What can be seen of an operation is its answer and its
trace (`Deed`). The trace tells of every export that runs in the guest (`Tells`), and the deeds of the past alone determine
which exports the next operation calls (`Exact`).

- `lifecycle_calls`: every operation of every life is exact. So the entry point and `onStart` are called once at most,
  nothing else is called before them, and a script counts as started from its first update on.
- `lifecycle_traps`: a life in which both start exports trap.
-/
import ScriptHost.Proofs.Script.Deeds

namespace ScriptHost

variable {σ : Type} [SceneBackend σ]

/-- an operation on a script, with the session and the events that it finds -/
structure Move (σ : Type) where
  act : ScriptAct
  shared : SharedSession σ
  queue : List Event

/-! ## One operation -/

namespace Script

/-- an operation of a script on what it finds -/
def meet (s : Script) (move : Move σ) : Outcome σ (Option (Except ScriptFailure Unit)) :=
  { s with queue := move.queue.toArray }.operate move.act move.shared

/-- what can be seen of an operation -/
def deed (s : Script) (move : Move σ) : Deed := ⟨move.act, (s.meet move).answer, (s.meet move).trace⟩

/-- does the script's module have an export of the right name and type? -/
def bound (s : Script) (role : LifecycleExport) : Bool :=
  match s.source.module? with
  | some (.ok m) => ((Exports.ofModule m s.names).program? role).isSome
  | _ => false

/-- the state of a script says of the past what is to be known of it -/
structure Tracks (s : Script) (past : List Deed) : Prop where
  consistent : s.Consistent
  loaded : s.state.isInitialized ↔ Deed.Loaded past
  begun : s.state.hasStarted ↔ Deed.Begun past
  exports : ∀ runtime, s.runtime = some runtime → ∀ role, (runtime.exports.program? role).isSome = s.bound role

theorem uncalled_instantiate (s : Script) (shared : SharedSession σ) : Uncalled (s.instantiate shared).trace := by
  unfold instantiate
  split
  · exact uncalled_nil
  · exact uncalled_nil
  · exact uncalled_nil
  · split
    · exact .cons (by simp) uncalled_nil
    · exact .cons (by simp) (.cons (by simp) uncalled_nil)
    · dsimp only
      split <;> exact .cons (by simp) (uncalled_noted _)

/-- an instantiation either fails, and then the script has the guest that it had, if any, or it gives a guest to a script
that was not started -/
theorem instantiate_cases (s : Script) (shared : SharedSession σ) :
    ((s.instantiate shared).answer ≠ some (.ok ()) ∧ (s.instantiate shared).script.runtime = s.runtime ∧
        (s.instantiate shared).script.state.isInitialized = s.state.isInitialized ∧
        (s.instantiate shared).script.state.hasStarted = s.state.hasStarted) ∨
      ((s.instantiate shared).answer = some (.ok ()) ∧ s.state.hasStarted = false ∧
        (s.instantiate shared).script.state = .initialized false ∧
        ∃ runtime, (s.instantiate shared).script.runtime = some runtime ∧
          ∀ role, (runtime.exports.program? role).isSome = s.bound role) := by
  unfold instantiate
  split
  · exact Or.inl ⟨nofun, rfl, rfl, rfl⟩
  · exact Or.inl ⟨nofun, rfl, rfl, rfl⟩
  · exact Or.inl ⟨nofun, rfl, rfl, rfl⟩
  · rename_i hstate
    have hstarted : s.state.hasStarted = false := by rw [hstate]; rfl
    have hinitialized : s.state.isInitialized = false := by rw [hstate]; rfl
    split
    · exact Or.inl ⟨nofun, rfl, hinitialized.symm, hstarted.symm⟩
    · exact Or.inl ⟨nofun, rfl, hinitialized.symm, hstarted.symm⟩
    · rename_i m hm
      dsimp only
      split
      · rename_i runtime hruntime
        refine Or.inr ⟨rfl, hstarted, rfl, runtime, rfl, ?_⟩
        intro role
        rw [bound, hm, Module.exports_of_load hruntime]
        rfl
      · exact Or.inl ⟨nofun, rfl, hinitialized.symm, hstarted.symm⟩

theorem bound_instantiate (s : Script) (shared : SharedSession σ) : (s.instantiate shared).script.bound = s.bound := by
  unfold instantiate
  split
  · rfl
  · rfl
  · rfl
  · split
    · rfl
    · rfl
    · dsimp only
      split <;> rfl

theorem tracks_instantiate {s : Script} {past : List Deed} (h : s.Tracks past) (shared : SharedSession σ)
    (trace : List Entry) :
    (s.instantiate shared).script.Tracks (past ++ [⟨.instantiate, (s.instantiate shared).answer, trace⟩]) := by
  have hbegun : Deed.Begun (past ++ [⟨.instantiate, (s.instantiate shared).answer, trace⟩]) ↔ Deed.Begun past := by
    rw [Deed.begun_concat]
    exact ⟨fun hd => hd.resolve_right fun hr => (nomatch hr.2), Or.inl⟩
  have hconsistent := consistent_instantiate h.consistent shared
  rcases s.instantiate_cases shared with
    ⟨hanswer, hruntime, hinitialized, hstarted⟩ | ⟨hanswer, hstarted, hstate, runtime, hruntime, hexports⟩
  · refine ⟨hconsistent, ?_, ?_, ?_⟩
    · rw [hinitialized, Deed.loaded_concat]
      exact h.loaded.trans ⟨Or.inl, fun hd => hd.resolve_right fun hr => hanswer hr.2⟩
    · rw [hstarted, hbegun]
      exact h.begun
    · rw [hruntime, s.bound_instantiate]
      exact h.exports
  · refine ⟨hconsistent, ?_, ?_, ?_⟩
    · rw [hstate, Deed.loaded_concat]
      exact ⟨fun _ => Or.inr ⟨rfl, hanswer⟩, fun _ => rfl⟩
    · rw [hstate, hbegun, ← h.begun, hstarted]
      rfl
    · rw [hruntime, s.bound_instantiate]
      intro other hother
      cases hother
      exact hexports

/-- a loaded guest makes the calls that are due after its past -/
theorem due_react {past : List Deed} {started : Bool} (hloaded : Deed.Loaded past)
    (hbegun : started = true ↔ Deed.Begun past) (event : ScriptEvent) (a : Activity σ) (names : ExportNames) :
    ∃ made, a.Performs made (react names event started a) ∧ Deed.Due a.bound past (.dispatch event) made := by
  cases event with
  | update =>
    cases started with
    | false =>
      have hnot : ¬ Deed.Begun past := fun hb => Bool.false_ne_true (hbegun.2 hb)
      obtain ⟨start, later, hperforms, hstart, hlater⟩ := a.performs_firstUpdate names
      refine ⟨start ++ later, hperforms, ?_, ?_, ?_⟩
      · intro hn
        exact absurd hloaded hn
      · intro _ _
        exact ⟨start, later, rfl, hstart, hlater⟩
      · intro hb
        exact absurd hb hnot
    | true =>
      have hb : Deed.Begun past := hbegun.1 rfl
      obtain ⟨made, hperforms, hroles⟩ := a.performs_call names .onUpdate
      refine ⟨made, hperforms, ?_, ?_, ?_⟩
      · intro hn
        exact absurd hloaded hn
      · intro _ hn
        exact absurd hb hn
      · intro _
        exact hroles
  | select =>
    cases started with
    | false =>
      have hnot : ¬ Deed.Begun past := fun hb => Bool.false_ne_true (hbegun.2 hb)
      refine ⟨[], .nothing a, ?_, ?_⟩
      · intro _
        rfl
      · intro hb
        exact absurd hb hnot
    | true =>
      have hb : Deed.Begun past := hbegun.1 rfl
      obtain ⟨made, hperforms, hroles⟩ := a.performs_call names .onSelect
      refine ⟨made, hperforms, ?_, ?_⟩
      · intro hn
        exact absurd hb hn
      · intro _
        exact hroles

theorem exact_dispatch {s : Script} {past : List Deed} {started : Bool} {runtime : Runtime} (h : s.Tracks past)
    (hstate : s.state = .initialized started) (hruntime : s.runtime = some runtime) (event : ScriptEvent)
    (shared : SharedSession σ) :
    Deed.Exact s.bound past
      ⟨.dispatch event, some (s.dispatch event shared).answer, (s.dispatch event shared).trace⟩ := by
  have hloaded : Deed.Loaded past := h.loaded.1 (by rw [hstate]; rfl)
  have hbegun : started = true ↔ Deed.Begun past := by
    rw [← h.begun, hstate]
    rfl
  have hbound : (s.atWork runtime shared).bound = s.bound := funext (h.exports runtime hruntime)
  have hdispatch : (s.dispatch event shared).answer = (react s.names event started (s.atWork runtime shared)).2 ∧
      (s.dispatch event shared).trace = (react s.names event started (s.atWork runtime shared)).1.trace := by
    simp only [dispatch, hstate, hruntime, and_self]
  obtain ⟨made, hperforms, hdue⟩ := due_react hloaded hbegun event (s.atWork runtime shared) s.names
  have hcalls := hperforms.calls_trace rfl
  rw [hdispatch.1, hdispatch.2, hperforms.answer]
  constructor
  · rw [hcalls, ← hbound]
    exact hdue
  · intro _ _
    rw [hcalls]

/-- the programs that a trace names make of a guest and a session what an operation leaves of them -/
def Runs {α : Type} (runtime runtime' : Runtime) (shared : SharedSession σ) (o : Outcome σ α) : Prop :=
  (runtime'.guest, o.shared) = runAll (o.trace.filterMap runtime.exports.entered) (runtime.guest, shared)

theorem runs_operate {s : Script} (h : s.Consistent) {runtime : Runtime} (hruntime : s.runtime = some runtime)
    (act : ScriptAct) (shared : SharedSession σ) : ∃ runtime', (s.operate act shared).script.runtime = some runtime' ∧
      Runs runtime runtime' shared (s.operate act shared) := by
  obtain ⟨started, hstate⟩ := h.state_of_runtime hruntime
  obtain ⟨kind, a, answer, hcourse, hruntime', -, hshared, htrace, -⟩ := course_operate hstate hruntime act shared
  obtain ⟨-, block, hblock, hheld⟩ := hcourse.plays
  refine ⟨a.runtime, hruntime', ?_⟩
  rw [Runs, hshared, htrace, hblock]
  exact hheld

theorem runtime_dispatch {s : Script} {started : Bool} {runtime : Runtime} (hstate : s.state = .initialized started)
    (hruntime : s.runtime = some runtime) (event : ScriptEvent) (shared : SharedSession σ) :
    ∃ runtime', runtime'.exports = runtime.exports ∧ (s.dispatch event shared).script.runtime = some runtime' ∧
      (s.dispatch event shared).script.state = .initialized (started || event = .update) := by
  refine ⟨_, (Activity.course_react (s.atWork runtime shared) s.names event started).plays.exports, ?_⟩
  simp only [dispatch, hstate, hruntime]
  exact ⟨rfl, rfl⟩

theorem runtime_deliver {s : Script} {runtime : Runtime} (hruntime : s.runtime = some runtime)
    (shared : SharedSession σ) : ∃ runtime', runtime'.exports = runtime.exports ∧
      (s.deliver shared).script.runtime = some runtime' ∧ (s.deliver shared).script.state = s.state := by
  refine ⟨_, (Activity.course_deliver (s.atWork runtime shared) s.names).plays.exports, ?_⟩
  simp only [deliver, hruntime]
  exact ⟨rfl, rfl⟩

/-- in a loaded guest nothing runs but the exports that the trace of an operation names -/
def Tells (s : Script) (move : Move σ) : Prop :=
  ∀ runtime, s.runtime = some runtime → ∃ runtime', (s.meet move).script.runtime = some runtime' ∧
    Runs runtime runtime' move.shared (s.meet move)

theorem Consistent.tells_meet {s : Script} (h : s.Consistent) (move : Move σ) : s.Tells move := by
  intro runtime hruntime
  exact runs_operate (s := { s with queue := move.queue.toArray }) h hruntime move.act move.shared

/-- an operation that keeps the guest and starts it at most -/
theorem tracks_of_loaded {s s' : Script} {past : List Deed} {d : Deed} {started started' : Bool}
    {runtime runtime' : Runtime} (h : s.Tracks past) (hstate : s.state = .initialized started)
    (hruntime : s.runtime = some runtime) (hstate' : s'.state = .initialized started')
    (hruntime' : s'.runtime = some runtime') (hexports : runtime'.exports = runtime.exports)
    (hbound : s'.bound = s.bound)
    (hstarted : started' = true ↔ started = true ∨ d.act = .dispatch .update) : s'.Tracks (past ++ [d]) := by
  have hloaded : Deed.Loaded past := h.loaded.1 (by rw [hstate]; rfl)
  have hbegun : started = true ↔ Deed.Begun past := by
    rw [← h.begun, hstate]
    rfl
  refine ⟨?_, ?_, ?_, ?_⟩
  · rw [Consistent, hstate', hruntime']
    rfl
  · rw [hstate', Deed.loaded_concat]
    exact ⟨fun _ => Or.inl hloaded, fun _ => rfl⟩
  · have hstep : s'.state.hasStarted = started' := by rw [hstate']; rfl
    rw [hstep, hstarted, hbegun, Deed.begun_concat]
    exact or_congr_right ⟨fun hd => ⟨hloaded, hd⟩, And.right⟩
  · rw [hruntime', hbound]
    intro other hother role
    cases hother
    rw [hexports]
    exact h.exports runtime hruntime role

/-- an operation that finds no guest and does nothing -/
theorem tracks_of_idle {s : Script} {past : List Deed} {d : Deed} (h : s.Tracks past)
    (hidle : s.state.isInitialized = false) (hact : d.act ≠ .instantiate) : s.Tracks (past ++ [d]) := by
  have hnot : ¬ Deed.Loaded past := by
    rw [← h.loaded, hidle]
    exact Bool.false_ne_true
  refine ⟨h.consistent, ?_, ?_, h.exports⟩
  · rw [Deed.loaded_concat, h.loaded]
    exact ⟨Or.inl, fun hd => hd.resolve_right fun hr => hact hr.1⟩
  · rw [Deed.begun_concat, h.begun]
    exact ⟨Or.inl, fun hd => hd.resolve_right fun hr => hnot hr.1⟩

/-- an operation makes the calls that are due, and the state of the script goes on to tell of the past -/
structure Steps (s : Script) (past : List Deed) (d : Deed) (s' : Script) : Prop where
  due : Deed.Exact s.bound past d
  tracks : s'.Tracks (past ++ [d])
  bound : s'.bound = s.bound

theorem Steps.of_idle {s : Script} {past : List Deed} {d : Deed} (h : s.Tracks past)
    (hidle : s.state.isInitialized = false) (hact : d.act ≠ .instantiate) (htrace : d.trace = [])
    (hanswer : ∀ event, d.act = .dispatch event → d.answer = some (.ok ())) : s.Steps past d s := by
  have hnot : ¬ Deed.Loaded past := by
    rw [← h.loaded, hidle]
    exact Bool.false_ne_true
  have hbegun : ¬ Deed.Begun past := fun hb => hnot hb.loaded
  refine ⟨⟨?_, ?_⟩, tracks_of_idle h hidle hact, rfl⟩
  · rw [htrace]
    rcases d with ⟨act, answer, trace⟩
    cases act with
    | instantiate | deliver => rfl
    | dispatch event =>
      cases event with
      | update => exact ⟨fun _ => rfl, fun hl => absurd hl hnot, fun hb => absurd hb hbegun⟩
      | select => exact ⟨fun _ => rfl, fun hb => absurd hb hbegun⟩
  · rw [htrace]
    exact hanswer

variable {s : Script} {past : List Deed} (h : s.Tracks past) (shared : SharedSession σ)
include h

theorem steps_instantiate :
    s.Steps past ⟨.instantiate, (s.instantiate shared).answer, (s.instantiate shared).trace⟩
      (s.instantiate shared).script where
  due := ⟨calls_of_uncalled (s.uncalled_instantiate shared), nofun⟩
  tracks := tracks_instantiate h shared _
  bound := s.bound_instantiate shared

theorem steps_dispatch (event : ScriptEvent) :
    s.Steps past ⟨.dispatch event, some (s.dispatch event shared).answer, (s.dispatch event shared).trace⟩
      (s.dispatch event shared).script := by
  rcases h.consistent.cases with ⟨started, runtime, hstate, hruntime⟩ | ⟨hidle, hnone⟩
  · obtain ⟨runtime', hexports, hruntime', hstate'⟩ := runtime_dispatch hstate hruntime event shared
    have hbound : (s.dispatch event shared).script.bound = s.bound := by
      unfold dispatch
      split <;> rfl
    refine ⟨exact_dispatch h hstate hruntime event shared,
      tracks_of_loaded h hstate hruntime hstate' hruntime' hexports hbound ?_, hbound⟩
    cases event <;> simp
  · rw [dispatch_of_none hnone]
    exact .of_idle h hidle (by rintro ⟨⟩) rfl fun _ _ => rfl

theorem steps_deliver (answer : Option (Except ScriptFailure Unit)) :
    s.Steps past ⟨.deliver, answer, (s.deliver shared).trace⟩ (s.deliver shared).script := by
  rcases h.consistent.cases with ⟨started, runtime, hstate, hruntime⟩ | ⟨hidle, hnone⟩
  · obtain ⟨runtime', hexports, hruntime', hstate'⟩ := runtime_deliver hruntime shared
    have hbound : (s.deliver shared).script.bound = s.bound := by
      unfold deliver
      split <;> rfl
    have huncalled : Uncalled (s.deliver shared).trace := by
      simp only [deliver, hruntime]
      exact Activity.uncalled_deliver _ _ uncalled_nil
    have htracks := tracks_of_loaded (d := ⟨.deliver, answer, (s.deliver shared).trace⟩) h hstate hruntime
      (hstate'.trans hstate) hruntime' hexports hbound (by simp)
    exact ⟨⟨calls_of_uncalled huncalled, by rintro _ ⟨⟩⟩, htracks, hbound⟩
  · rw [deliver_of_none hnone]
    exact .of_idle h hidle (by rintro ⟨⟩) rfl (by rintro _ ⟨⟩)

omit shared in
theorem steps_meet (move : Move σ) : s.Steps past (s.deed move) (s.meet move).script := by
  have hmet : ({ s with queue := move.queue.toArray } : Script).Tracks past :=
    ⟨h.consistent, h.loaded, h.begun, h.exports⟩
  have hsteps : ({ s with queue := move.queue.toArray } : Script).Steps past (s.deed move) (s.meet move).script := by
    rcases move with ⟨act, shared, queue⟩
    cases act with
    | instantiate => exact steps_instantiate hmet shared
    | dispatch event => exact steps_dispatch hmet shared event
    | deliver => exact steps_deliver hmet shared _
  exact ⟨hsteps.due, hsteps.tracks, hsteps.bound⟩

end Script

/-! ## A whole life -/

namespace Script

/-- what can be seen of some operations, one after another -/
def deeds (s : Script) : List (Move σ) → List Deed
  | [] => []
  | move :: rest => s.deed move :: (s.meet move).script.deeds rest

/-- a script after some operations -/
def after (s : Script) (moves : List (Move σ)) : Script := moves.foldl (fun s move => (s.meet move).script) s

theorem consistent_after {s : Script} (h : s.Consistent) (moves : List (Move σ)) : (s.after moves).Consistent := by
  induction moves generalizing s with
  | nil => exact h
  | cons move rest ih => exact ih (consistent_operate (s := { s with queue := move.queue.toArray }) h move.shared move.act)

/-- the operations of a life are exact, and afterwards the state still tells of the past -/
theorem tracks_deeds {s : Script} {past : List Deed} (h : s.Tracks past) (moves : List (Move σ)) :
    (∀ before d later, s.deeds moves = before ++ d :: later → Deed.Exact s.bound (past ++ before) d) ∧
      (s.after moves).Tracks (past ++ s.deeds moves) := by
  induction moves generalizing s past with
  | nil =>
    refine ⟨?_, ?_⟩
    · intro before d later heq
      exact absurd heq.symm (List.append_ne_nil_of_right_ne_nil before (List.cons_ne_nil d later))
    · rw [deeds, List.append_nil]
      exact h
  | cons move rest ih =>
    obtain ⟨hdue, htracks, hbound⟩ := steps_meet h move
    obtain ⟨hexact, hafter⟩ := ih htracks
    rw [hbound] at hexact
    refine ⟨?_, ?_⟩
    · intro before d later heq
      rw [deeds] at heq
      rcases before with _ | ⟨first, before⟩
      · obtain ⟨rfl, -⟩ := List.cons.inj heq
        rw [List.append_nil]
        exact hdue
      · obtain ⟨rfl, hrest⟩ := List.cons.inj heq
        rw [List.append_cons]
        exact hexact before d later hrest
    · rw [deeds, List.append_cons]
      exact hafter

end Script

/-- what is to be known of a life of a script -/
structure Script.Regular (s : Script) (moves : List (Move σ)) : Prop where
  /-- an operation makes the calls that are due after the operations before it -/
  exact : Deed.AllExact s.bound (s.deeds moves)
  /-- the traces tell of all that runs in the guest -/
  told : ∀ before move later, moves = before ++ move :: later → (s.after before).Tells move
  /-- an export that starts the guest is called once at most -/
  once : ∀ role, ¬ Deed.Onward role → (roles (Deed.allCalls (s.deeds moves))).count role ≤ 1
  /-- what starts the guest is called before anything else -/
  startedFirst : ∀ before role later, roles (Deed.allCalls (s.deeds moves)) = before ++ role :: later →
    Deed.Onward role → ∀ start, ¬ Deed.Onward start → s.bound start = true → start ∈ before
  loaded : (s.after moves).state.isInitialized ↔ Deed.Loaded (s.deeds moves)
  started : (s.after moves).state.hasStarted ↔ Deed.Begun (s.deeds moves)

/-- **The calls in the life of a script.** Whatever is done to a fresh script, in any order and any session, and whatever
its guest does: every operation makes just the calls that are due after the operations before it. -/
theorem lifecycle_calls (setting : Setting) (source : Source) (moves : List (Move σ)) :
    ({ setting, source } : Script).Regular moves := by
  have hfresh : ({ setting, source } : Script).Tracks [] := by
    have hnot : ¬ Deed.Loaded [] := by
      rintro ⟨d, hd, -⟩
      cases hd
    refine ⟨rfl, ⟨?_, ?_⟩, ⟨?_, ?_⟩, ?_⟩
    · intro h
      cases h
    · intro h
      exact absurd h hnot
    · intro h
      cases h
    · intro h
      exact absurd h.loaded hnot
    · intro runtime h
      cases h
  obtain ⟨hexact, htracks⟩ := Script.tracks_deeds hfresh moves
  exact {
    exact := hexact
    told := fun before move _ _ => (Script.consistent_after hfresh.consistent before).tells_meet move
    once := fun role hrole => Deed.count_roles_le_one hexact hrole
    startedFirst := fun before role later hsplit hrole start hstart hbound =>
      Deed.started_before hexact hsplit hrole hstart hbound
    loaded := htracks.loaded
    started := htracks.begun }

/-- what surrounds a script that asks for nothing -/
def bareSetting : Setting := { script := ⟨0⟩, readings := fun _ => ⟨0, 0, .error ""⟩ }

/-- a module whose start exports both trap -/
def faulty : Module where
  pages := some 1
  exports := [("memory", .memory), ("_start", .function [] [] fun _ => .trap .unreachable),
    ("on_start", .function [] [] fun _ => .trap .outOfBounds), ("on_update", .function [] [] fun _ => .done)]

/-- two updates and two selections, with an instantiation too late for the first update and another that is refused -/
def faultyLife : List (Move SceneStore) :=
  [.dispatch .update, .instantiate, .dispatch .select, .dispatch .update, .instantiate, .dispatch .update,
    .dispatch .select].map fun act => ⟨act, { session := { scene := .empty } }, []⟩

/-- a fresh script with that module -/
def faultyScript : Script := { setting := bareSetting, source := .fetched (.ok faulty) }

/-- `onStart` is called although the entry point traps; the guest then counts as started, and is updated -/
theorem lifecycle_traps :
    Deed.allCalls (faultyScript.deeds faultyLife) =
        [⟨.entryPoint, some (.guestTrap "unreachable")⟩,
          ⟨.onStart, some (.guestTrap "out of bounds memory access")⟩, ⟨.onUpdate, none⟩] ∧
      Deed.Begun (faultyScript.deeds faultyLife) := by
  have hregular := lifecycle_calls bareSetting (.fetched (.ok faulty)) faultyLife
  exact ⟨by decide +kernel, hregular.started.1 (by decide +kernel)⟩

end ScriptHost
