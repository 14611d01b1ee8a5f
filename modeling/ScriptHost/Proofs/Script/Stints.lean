/-
When a guest has control. An operation gives control to the guest of a loaded script once for every export that its trace
names, one after another, and each time the guest goes on from what it left the time before (`Relay`), trap or no trap. An
instantiation gives it control once, for the start section. What the operation answers, and which attempts it notes, can be
told from these stints alone.

- `Activity.Course.spends`: whatever is done with a loaded guest is spent in stints.
- `Module.starts_load`: so is what loading does, up to the end of the start section.
- `Script.works_meet`: what an operation leaves and answers, whatever the script.
-/
import ScriptHost.Proofs.Script.Attempts
import ScriptHost.Proofs.Script.Loading

namespace ScriptHost

variable {σ : Type} [SceneBackend σ]

/-! ## Stints -/

/-- a stretch in which a guest has control -/
structure Stint (σ : Type) where
  program : Program
  start : Turn σ

namespace Stint

/-- a program is given control over a guest and a session -/
def of (program : Program) (held : Guest × SharedSession σ) : Stint σ :=
  ⟨program, { guest := held.1, shared := held.2 }⟩

variable (st : Stint σ)

def finish : Turn σ × Except Trap Unit := st.program.run st.start

/-- the guest and the session that are left -/
def left : Guest × SharedSession σ := (st.finish.1.guest, st.finish.1.shared)

/-- the failure that the host makes of a trap, if the stint ends in one -/
def failure? : Option ScriptFailure :=
  match st.finish.2 with
  | .ok () => none
  | .error trap => some (.guestTrap trap.reason)

/-- the calls of unsupported functions -/
def attempts : List (Attempt σ) := st.program.attempts st.start

theorem reported_of (program : Program) (held : Guest × SharedSession σ) :
    Reported held.1.reported (of program held).attempts (of program held).left.1.reported
      (of program held).finish.1.notices := by
  obtain ⟨log, hlog, hreported⟩ := program.reported_run { guest := held.1, shared := held.2 }
  have hnotices : (of program held).finish.1.notices = log := by
    rw [Turn.notices, finish, of, hlog, List.append_nil, List.reverse_reverse]
  rw [hnotices]
  exact hreported

end Stint

/-- the stints of some programs, each of which finds what the one before it has left -/
def stintsOf : List Program → Guest × SharedSession σ → List (Stint σ)
  | [], _ => []
  | program :: rest, held => .of program held :: stintsOf rest (Stint.of program held).left

/-- what the host answers after some stints: the first failure decides -/
def answerOfStints (stints : List (Stint σ)) : Except ScriptFailure Unit :=
  match stints.findSome? Stint.failure? with
  | some failure => .error failure
  | none => .ok ()

/-- from one guest and session to another there are just these stints, and each finds what the one before it has left -/
def Relay (held : Guest × SharedSession σ) : List (Stint σ) → Guest × SharedSession σ → Prop
  | [], held' => held' = held
  | st :: rest, held' => st.start = { guest := held.1, shared := held.2 } ∧ Relay st.left rest held'

theorem stintsOf_append (programs more : List Program) (held : Guest × SharedSession σ) :
    stintsOf (programs ++ more) held = stintsOf programs held ++ stintsOf more (runAll programs held) := by
  induction programs generalizing held with
  | nil => rfl
  | cons program rest ih =>
    rw [List.cons_append, stintsOf, ih]
    rfl

theorem relay_stintsOf (programs : List Program) (held : Guest × SharedSession σ) :
    Relay held (stintsOf programs held) (runAll programs held) := by
  induction programs generalizing held with
  | nil => exact rfl
  | cons program rest ih => exact ⟨rfl, ih (Stint.of program held).left⟩

theorem answerOfStints_append (stints more : List (Stint σ)) :
    answerOfStints (stints ++ more) = (answerOfStints stints).bind fun _ => answerOfStints more := by
  unfold answerOfStints
  rw [List.findSome?_append]
  cases stints.findSome? Stint.failure? <;> rfl

/-! ## Guests at work -/

/-- while a block of the trace was written, the guest had control just in the stints that the block tells of; this is what
came of them -/
structure Spent (x : Exports) (held : Guest × SharedSession σ) (block : List Entry) (held' : Guest × SharedSession σ)
    (answer : Except ScriptFailure Unit) : Prop where
  left : held' = runAll (block.filterMap x.entered) held
  reported : Reported held.1.reported ((stintsOf (block.filterMap x.entered) held).flatMap Stint.attempts)
    held'.1.reported (notices block)
  answer : answer = answerOfStints (stintsOf (block.filterMap x.entered) held)

section Spent

variable {x : Exports} {held held' held'' : Guest × SharedSession σ} {block later : List Entry}
  {answer answer' : Except ScriptFailure Unit}

/-- notices of the host's own -/
theorem Spent.of_notices {l : List Notice} (h : attempted l = []) : Spent x held (noted l) held (.ok ()) := by
  have hentered : (noted l).filterMap x.entered = [] := x.entered_noted l
  refine ⟨?_, ?_, ?_⟩
  · rw [hentered]
    rfl
  · rw [hentered, notices_noted]
    exact .none h
  · rw [hentered]
    rfl

theorem Spent.append (h : Spent x held block held' answer) (h' : Spent x held' later held'' answer') :
    Spent x held (block ++ later) held'' (answer.bind fun _ => answer') := by
  have hstints : stintsOf ((block ++ later).filterMap x.entered) held =
      stintsOf (block.filterMap x.entered) held ++ stintsOf (later.filterMap x.entered) held' := by
    rw [List.filterMap_append, stintsOf_append, ← h.left]
  refine ⟨?_, ?_, ?_⟩
  · rw [h'.left, h.left, List.filterMap_append, runAll, runAll, runAll, List.foldl_append]
  · rw [hstints, List.flatMap_append, notices, List.filterMap_append]
    exact h.reported.append h'.reported
  · rw [hstints, answerOfStints_append, h.answer, h'.answer]

/-- one export is entered -/
theorem Spent.enter {entry : Entry} {program : Program} (h : x.entered entry = some program)
    (held : Guest × SharedSession σ) {l : List Notice} (hl : attempted l = []) :
    Spent x held (entry :: noted ((Stint.of program held).finish.1.notices ++ l)) (Stint.of program held).left
      (answerOfStints [Stint.of program held]) := by
  have hentered : (entry :: noted ((Stint.of program held).finish.1.notices ++ l)).filterMap x.entered = [program] := by
    rw [List.filterMap_cons_some h, x.entered_noted]
  have hnotices : notices (entry :: noted ((Stint.of program held).finish.1.notices ++ l)) =
      (Stint.of program held).finish.1.notices ++ l := by
    rw [notices, List.filterMap_cons_none, ← notices, notices_noted]
    cases entry with
    | fetched | called | handed => rfl
    | noted => cases h
  refine ⟨?_, ?_, ?_⟩
  · rw [hentered]
    rfl
  · rw [hentered, hnotices, stintsOf, stintsOf, List.flatMap_cons, List.flatMap_nil]
    exact (Stint.reported_of program held).append (.none hl)
  · rw [hentered]
    rfl

end Spent

namespace Activity

/-- from one activity to another the guest had control just in the stints that the trace tells of -/
structure Spends (a a' : Activity σ) (answer : Except ScriptFailure Unit) : Prop where
  exports : a'.runtime.exports = a.runtime.exports
  block : ∃ block, a'.trace = a.trace ++ block ∧ Spent a.runtime.exports a.held block a'.held answer

variable {a a' a'' : Activity σ} {answer answer' : Except ScriptFailure Unit}

theorem Spends.nothing (a : Activity σ) : a.Spends a (.ok ()) :=
  ⟨rfl, [], (List.append_nil _).symm, .of_notices (l := []) rfl⟩

theorem Spends.trans (h : a.Spends a' answer) (h' : a'.Spends a'' answer') :
    a.Spends a'' (answer.bind fun _ => answer') := by
  obtain ⟨block, htrace, hspent⟩ := h.block
  obtain ⟨later, htrace', hspent'⟩ := h'.block
  rw [h.exports] at hspent'
  exact ⟨h'.exports.trans h.exports, block ++ later, by rw [htrace', htrace, List.append_assoc], hspent.append hspent'⟩

theorem spends_enter (a : Activity σ) {entry : Entry} (exportName : String) {program : Program}
    (h : a.runtime.exports.entered entry = some program) :
    a.Spends (a.enter entry exportName program).1 (a.enter entry exportName program).2 := by
  have hfinish : (Stint.of program a.held).finish = program.run { guest := a.runtime.guest, shared := a.shared } := rfl
  rcases hrun : program.run { guest := a.runtime.guest, shared := a.shared } with ⟨t, trap | done⟩
  · rw [hrun] at hfinish
    rw [a.enter_of_trap entry exportName hrun]
    have hspent := Spent.enter h a.held (l := [.trapped exportName (.guestTrap trap.reason)]) rfl
    simp only [Stint.left, answerOfStints, Stint.failure?, List.findSome?_singleton, hfinish] at hspent
    exact ⟨rfl, _, trace_record _ _, hspent⟩
  · rw [hrun] at hfinish
    rw [a.enter_of_ok entry exportName hrun]
    have hspent := Spent.enter h a.held (l := []) rfl
    simp only [Stint.left, answerOfStints, Stint.failure?, List.findSome?_singleton, hfinish, List.append_nil] at hspent
    exact ⟨rfl, _, trace_record _ _, hspent⟩

theorem Course.spends {kind : Entry → Prop} (h : Course kind a a' answer) : a.Spends a' answer := by
  induction h with
  | nothing a => exact .nothing a
  | enter a exportName hentry hentered => exact a.spends_enter exportName hentered
  | take a hqueue hkind => exact ⟨rfl, [], (List.append_nil _).symm, .of_notices (l := []) rfl⟩
  | drop a event exportName => exact ⟨rfl, _, a.trace_record _, .of_notices (l := [_]) rfl⟩
  | trans h h' ih ih' => exact ih.trans ih'

end Activity

/-! ## Start sections -/

namespace Module

variable (m : Module) (setting : Setting) (shared : SharedSession σ) (queue : List Event)

/-- the stint in which the start section is run, if the module can be linked -/
def stints : List (Stint σ) :=
  match m.guest setting with
  | .ok guest => [.of m.start (guest, shared)]
  | .error _ => []

theorem reported_of_guest {m : Module} {setting : Setting} {guest : Guest} (h : m.guest setting = .ok guest) :
    guest.reported = [] := by
  unfold Module.guest at h
  split at h <;> cases h
  rfl

theorem attempted_notices (names : ExportNames) : attempted (Exports.notices m names) = [] := by
  have hignored : ∀ name params, attempted (Exports.ignored m name params) = [] := by
    intro name params
    unfold Exports.ignored
    split <;> rfl
  simp only [Exports.notices, attempted_append, hignored, List.append_nil]

/-- what becomes of a module once its start section was run -/
structure Starts (st : Stint σ) (o : LoadOutcome σ) : Prop where
  traps : ∀ trap, st.finish.2 = .error trap → o.result = .error (.instantiationFailed trap.reason)
  loads : ∀ runtime, o.result = .ok runtime → runtime.guest = { st.finish.1.guest with bound := true }
  noted : ∃ l, attempted l = [] ∧ o.notices = st.finish.1.notices ++ l

variable {m setting} in
theorem starts_load {guest : Guest} (h : m.guest setting = .ok guest) :
    Starts (.of m.start (guest, shared)) (m.load setting shared queue) := by
  have hfinish : (Stint.of m.start (guest, shared)).finish = m.start.run { guest, shared } := rfl
  have hqueue := m.start.run_withQueue { guest, shared } queue
  simp only [Turn.withQueue] at hqueue
  rw [load, h]
  dsimp only
  rw [hqueue]
  rcases hrun : m.start.run { guest, shared } with ⟨t, trap | done⟩
  · rw [hrun] at hfinish
    refine ⟨?_, ?_, [], rfl, ?_⟩
    · intro other hother
      rw [hfinish] at hother
      cases hother
      rfl
    · intro runtime hruntime
      cases hruntime
    · rw [hfinish, List.append_nil]
      rfl
  · rw [hrun] at hfinish
    have hdone : ∀ trap, (Stint.of m.start (guest, shared)).finish.2 ≠ .error trap := by
      intro trap htrap
      rw [hfinish] at htrap
      cases htrap
    dsimp only
    split
    · refine ⟨fun trap htrap => absurd htrap (hdone trap), ?_, _, m.attempted_notices setting.config.exports, ?_⟩
      · intro runtime hruntime
        cases hruntime
        rw [hfinish]
      · rw [hfinish]
        rfl
    · refine ⟨fun trap htrap => absurd htrap (hdone trap), ?_, [], rfl, ?_⟩
      · intro runtime hruntime
        cases hruntime
      · rw [hfinish, List.append_nil]
        rfl

omit [SceneBackend σ] in
theorem mem_stints {st : Stint σ} (h : st ∈ m.stints setting shared) :
    ∃ guest, m.guest setting = .ok guest ∧ st = .of m.start (guest, shared) := by
  unfold stints at h
  split at h
  · rename_i guest hguest
    exact ⟨guest, hguest, List.mem_singleton.1 h⟩
  · exact absurd h List.not_mem_nil

/-- loading notes the attempts of the start section -/
theorem reported_load : ∃ known, Reported [] ((m.stints setting shared).flatMap Stint.attempts) known
    (m.load setting shared queue).notices ∧ ∀ runtime, (m.load setting shared queue).result = .ok runtime →
      runtime.guest.reported = known := by
  cases hguest : m.guest setting with
  | error failure =>
    have hload : m.load setting shared queue = { result := .error failure, shared, queue } := by rw [load, hguest]
    rw [stints, hguest, hload]
    refine ⟨[], .none rfl, ?_⟩
    intro runtime hruntime
    cases hruntime
  | ok guest =>
    obtain ⟨-, hloads, l, hl, hnotices⟩ := starts_load shared queue hguest
    have hreported := (Stint.reported_of m.start (guest, shared)).append (.none hl)
    rw [reported_of_guest hguest, List.append_nil] at hreported
    rw [stints, hguest, hnotices]
    dsimp only
    rw [List.flatMap_singleton]
    refine ⟨_, hreported, ?_⟩
    intro runtime hruntime
    rw [hloads runtime hruntime]
    rfl

end Module

/-! ## Operations on scripts -/

namespace Script

/-- the stints of an operation, by its trace; an instantiation runs the start section -/
def stints (s : Script) (move : Move σ) : List (Stint σ) :=
  match s.runtime with
  | some runtime => stintsOf ((s.meet move).trace.filterMap runtime.exports.entered) (runtime.guest, move.shared)
  | none =>
    match s.state, move.act, s.source.module? with
    | .unloaded, .instantiate, some (.ok m) => m.stints s.setting move.shared
    | _, _, _ => []

/-- what an operation leaves and answers, by its stints -/
structure Works (s : Script) (move : Move σ) : Prop where
  /-- a loaded guest goes on from what it has left, whatever came of that -/
  goesOn : ∀ runtime, s.runtime = some runtime → ∃ runtime',
    (s.meet move).script.runtime = some runtime' ∧
      Relay (runtime.guest, move.shared) (s.stints move) (runtime'.guest, (s.meet move).shared)
  /-- a trap is what the operation answers, if it is the first one -/
  answers : s.state.isInitialized → move.act ≠ .instantiate →
    (s.meet move).answer = some (answerOfStints (s.stints move))
  /-- a trap of the start section is the end of the instantiation -/
  traps : s.state = .unloaded → ∀ st ∈ s.stints move, ∀ trap, st.finish.2 = .error trap →
    (s.meet move).answer = some (.error (.instantiationFailed trap.reason)) ∧ (s.meet move).script.state = .failed
  /-- otherwise the guest goes on from what the start section has left, and the host can reach its memory -/
  begins : s.state = .unloaded → ∀ st ∈ s.stints move, ∀ runtime,
    (s.meet move).script.runtime = some runtime → runtime.guest = { st.finish.1.guest with bound := true }
  /-- nothing is put into the queue, and only a delivery takes something out of it -/
  waiting : (s.meet move).script.waiting <:+ move.queue ∧
    (move.act ≠ .deliver → (s.meet move).script.waiting = move.queue)

/-- where the start section of an operation comes from, if it runs one -/
theorem start_of_stints {s : Script} {move : Move σ} (hnone : s.runtime = none) {st : Stint σ}
    (h : st ∈ s.stints move) : ∃ m guest, s.state = .unloaded ∧ move.act = .instantiate ∧
      s.source.module? = some (.ok m) ∧ m.guest s.setting = .ok guest ∧ st = .of m.start (guest, move.shared) := by
  unfold stints at h
  rw [hnone] at h
  dsimp only at h
  split at h
  · rename_i m hstate hact hm
    obtain ⟨guest, hguest, hst⟩ := m.mem_stints s.setting move.shared h
    exact ⟨m, guest, hstate, hact, hm, hguest, hst⟩
  · exact absurd h List.not_mem_nil

/-- what an instantiation makes of what loading the module comes to -/
structure Settles (s : Script) (o : LoadOutcome σ) (o' : Outcome σ (Option (Except ScriptFailure Unit))) : Prop where
  ok : ∀ runtime, o.result = .ok runtime →
    o'.answer = some (.ok ()) ∧ o'.script.state = .initialized false ∧ o'.script.runtime = some runtime
  error : ∀ failure, o.result = .error failure →
    o'.answer = some (.error failure) ∧ o'.script.state = .failed ∧ o'.script.runtime = s.runtime
  noted : ∃ n, attempted [n] = [] ∧ o'.trace = .fetched :: ScriptHost.noted (o.notices ++ [n])

/-- a script with a module is instantiated by loading the module -/
theorem settles_instantiate {s : Script} (hstate : s.state = .unloaded) {m : Module}
    (hm : s.source.module? = some (.ok m)) (shared : SharedSession σ) :
    s.Settles (m.load s.setting shared s.waiting) (s.instantiate shared) := by
  simp only [instantiate, hstate, hm]
  rcases hresult : (m.load s.setting shared s.waiting).result with failure | runtime
  · refine ⟨?_, ?_, _, rfl, rfl⟩
    · intro runtime hruntime
      rw [hresult] at hruntime
      cases hruntime
    · intro other hother
      rw [hresult] at hother
      cases hother
      exact ⟨rfl, rfl, rfl⟩
  · refine ⟨?_, ?_, _, rfl, rfl⟩
    · intro other hother
      rw [hresult] at hother
      cases hother
      exact ⟨rfl, rfl, rfl⟩
    · intro failure hfailure
      rw [hresult] at hfailure
      cases hfailure

theorem settles_meet {s : Script} {move : Move σ} (hstate : s.state = .unloaded) (hact : move.act = .instantiate)
    {m : Module} (hm : s.source.module? = some (.ok m)) :
    s.Settles (m.load s.setting move.shared move.queue) (s.meet move) := by
  have hsettles := settles_instantiate (s := { s with queue := move.queue.toArray }) hstate hm move.shared
  rw [meet, hact]
  exact ⟨hsettles.ok, hsettles.error, hsettles.noted⟩

/-- what an operation on a loaded script does is spent in its stints -/
theorem spent_meet {s : Script} (h : s.Consistent) {runtime : Runtime} (hruntime : s.runtime = some runtime)
    (move : Move σ) :
    s.stints move = stintsOf ((s.meet move).trace.filterMap runtime.exports.entered) (runtime.guest, move.shared) ∧
      ∃ runtime' answer, (s.meet move).script.runtime = some runtime' ∧
        Spent runtime.exports (runtime.guest, move.shared) (s.meet move).trace
          (runtime'.guest, (s.meet move).shared) answer ∧
        (move.act ≠ .instantiate → (s.meet move).answer = some answer) := by
  obtain ⟨started, hstate⟩ := h.state_of_runtime hruntime
  obtain ⟨kind, a, answer, hcourse, hruntime', -, hshared, htrace, hanswer⟩ :=
    course_operate (s := { s with queue := move.queue.toArray }) hstate hruntime move.act move.shared
  obtain ⟨-, block, hblock, hspent⟩ := hcourse.spends
  have hmeet : (s.meet move).shared = a.shared ∧ (s.meet move).trace = block := ⟨hshared, htrace.trans hblock⟩
  refine ⟨by rw [stints, hruntime], a.runtime, answer, hruntime', ?_, hanswer⟩
  rw [hmeet.1, hmeet.2]
  exact hspent

theorem none_of_unloaded {s : Script} (h : s.Consistent) (hstate : s.state = .unloaded) : s.runtime = none := by
  rcases h.cases with ⟨started, runtime, hinitialized, -⟩ | ⟨-, hnone⟩
  · rw [hstate] at hinitialized
    cases hinitialized
  · exact hnone

theorem works_meet {s : Script} (h : s.Consistent) (move : Move σ) : s.Works move where
  goesOn runtime hruntime := by
    obtain ⟨hstints, runtime', answer, hruntime', hspent, -⟩ := spent_meet h hruntime move
    refine ⟨runtime', hruntime', ?_⟩
    rw [hstints, hspent.left]
    exact relay_stintsOf _ _
  answers hinitialized hact := by
    obtain ⟨runtime, hruntime⟩ := Option.isSome_iff_exists.1 (h.trans hinitialized)
    obtain ⟨hstints, runtime', answer, -, hspent, hanswer⟩ := spent_meet h hruntime move
    rw [hstints, hanswer hact, hspent.answer]
  traps hstate st hst trap htrap := by
    obtain ⟨m, guest, -, hact, hm, hguest, rfl⟩ := start_of_stints (none_of_unloaded h hstate) hst
    obtain ⟨hanswer, hstate', -⟩ := (settles_meet hstate hact hm).error _
      ((Module.starts_load move.shared move.queue hguest).traps trap htrap)
    exact ⟨hanswer, hstate'⟩
  begins hstate st hst runtime hruntime := by
    have hnone := none_of_unloaded h hstate
    obtain ⟨m, guest, -, hact, hm, hguest, rfl⟩ := start_of_stints hnone hst
    have hsettles := settles_meet hstate hact hm
    refine (Module.starts_load move.shared move.queue hguest).loads runtime ?_
    cases hresult : (m.load s.setting move.shared move.queue).result with
    | ok other =>
      rw [(hsettles.ok other hresult).2.2] at hruntime
      cases hruntime
      rfl
    | error failure =>
      rw [(hsettles.error failure hresult).2.2, hnone] at hruntime
      cases hruntime
  waiting := by
    refine ⟨(obeys_operate { s with queue := move.queue.toArray } move.act move.shared).waiting, ?_⟩
    intro hact
    rcases move with ⟨act, shared, queue⟩
    cases act with
    | instantiate => exact (silent_instantiate { s with queue := queue.toArray } shared).waiting
    | dispatch event => exact waiting_dispatch { s with queue := queue.toArray } event shared
    | deliver => exact absurd rfl hact

/-- without a guest nothing is done, but for the instantiation -/
theorem meet_idle {s : Script} {move : Move σ} (hnone : s.runtime = none)
    (h : ¬ (s.state = .unloaded ∧ move.act = .instantiate)) :
    (s.meet move).script = { s with queue := move.queue.toArray } ∧ (s.meet move).trace = [] := by
  rcases move with ⟨act, shared, queue⟩
  cases act with
  | instantiate =>
    rcases hstate : s.state with _ | _ | started | _
    case unloaded => exact absurd ⟨hstate, rfl⟩ h
    all_goals
      simp only [meet, operate, instantiate, hstate, and_self]
  | dispatch event =>
    have hdispatch := dispatch_of_none (s := { s with queue := queue.toArray }) hnone event shared
    rw [meet, operate, hdispatch]
    exact ⟨rfl, rfl⟩
  | deliver =>
    have hdeliver := deliver_of_none (s := { s with queue := queue.toArray }) hnone shared
    rw [meet, operate, hdeliver]
    exact ⟨rfl, rfl⟩

/-- a script is instantiated: without a module it gets no guest, and no start section is run -/
theorem meet_moduleless {s : Script} {move : Move σ} (hstate : s.state = .unloaded) (hact : move.act = .instantiate)
    (h : ∀ m, s.source.module? ≠ some (.ok m)) :
    (s.meet move).script.state ≠ .unloaded ∧ (s.meet move).script.runtime = s.runtime ∧
      attempted (notices (s.meet move).trace) = [] := by
  simp only [meet, hact, operate, instantiate, hstate]
  rcases hm : s.source.module? with _ | failure | m
  · refine ⟨?_, rfl, rfl⟩
    simp
  · refine ⟨?_, rfl, rfl⟩
    simp
  · exact absurd hm (h m)

/-- a guest has reported these names; a script without a guest will have another one, which has not, or never one -/
def Knows (s : Script) (known : List String) : Prop :=
  match s.runtime with
  | some runtime => runtime.guest.reported = known
  | none => s.state = .unloaded → known = []

theorem reported_meet {s : Script} (h : s.Consistent) {known : List String} (hknows : s.Knows known) (move : Move σ) :
    ∃ known', (s.meet move).script.Knows known' ∧
      Reported known ((s.stints move).flatMap Stint.attempts) known' (notices (s.meet move).trace) := by
  cases hruntime : s.runtime with
  | some runtime =>
    have hknown : runtime.guest.reported = known := by rwa [Knows, hruntime] at hknows
    obtain ⟨hstints, runtime', answer, hruntime', hspent, -⟩ := spent_meet h hruntime move
    refine ⟨runtime'.guest.reported, ?_, ?_⟩
    · rw [Knows, hruntime']
    · rw [hstints, ← hknown]
      exact hspent.reported
  | none =>
    have hfresh : s.state = .unloaded → known = [] := by rwa [Knows, hruntime] at hknows
    by_cases hloads : ∃ m, s.state = .unloaded ∧ move.act = .instantiate ∧ s.source.module? = some (.ok m)
    · obtain ⟨m, hstate, hact, hm⟩ := hloads
      obtain rfl := hfresh hstate
      obtain ⟨hok, herror, n, hn, htrace⟩ := settles_meet hstate hact hm
      obtain ⟨known, hreported, hloaded⟩ := m.reported_load s.setting move.shared move.queue
      have hstints : s.stints move = m.stints s.setting move.shared := by simp only [stints, hruntime, hstate, hact, hm]
      refine ⟨known, ?_, ?_⟩
      · cases hresult : (m.load s.setting move.shared move.queue).result with
        | ok runtime =>
          rw [Knows, (hok runtime hresult).2.2]
          exact hloaded runtime hresult
        | error failure =>
          obtain ⟨-, hfailed, hnone⟩ := herror failure hresult
          rw [Knows, hnone, hruntime]
          intro hunloaded
          rw [hfailed] at hunloaded
          cases hunloaded
      · have hnotices : notices (s.meet move).trace = (m.load s.setting move.shared move.queue).notices ++ [n] := by
          rw [htrace]
          exact notices_noted _
        rw [hstints, hnotices, ← List.append_nil ((m.stints s.setting move.shared).flatMap Stint.attempts)]
        exact hreported.append (.none hn)
    · have hstints : s.stints move = [] := by
        refine List.eq_nil_iff_forall_not_mem.2 fun st hst => ?_
        obtain ⟨m, -, hstate, hact, hm, -⟩ := start_of_stints hruntime hst
        exact hloads ⟨m, hstate, hact, hm⟩
      rw [hstints]
      by_cases hact : s.state = .unloaded ∧ move.act = .instantiate
      · obtain ⟨hstate', hnone, hnotices⟩ := meet_moduleless hact.1 hact.2 fun m hm => hloads ⟨m, hact.1, hact.2, hm⟩
        obtain rfl := hfresh hact.1
        refine ⟨[], ?_, .none hnotices⟩
        rw [Knows, hnone, hruntime]
        exact fun hunloaded => absurd hunloaded hstate'
      · obtain ⟨hscript, htrace⟩ := meet_idle hruntime hact
        refine ⟨known, ?_, .none (by rw [htrace]; rfl)⟩
        rw [hscript]
        exact hknows

end Script

end ScriptHost
