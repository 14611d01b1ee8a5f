/-
The calls of exports that a trace tells of, each with the trap in which it ended, if it did (`calls`). A trap is noted
when the call ends, so it stands behind the call and in front of the next one; and as guests cannot make the host note a
trap by themselves (`Program.untrapped_run`), it is that call's own.

What each part of an operation adds to the trace is told by `Activity.Performs`: `performs_call` for one export,
`performs_start` and `performs_firstUpdate` for the first update.
-/
import ScriptHost.Proofs.Script.Control

namespace ScriptHost

/-- a call of an export, and the failure in which it ended, if it ended in a trap -/
structure LifecycleCall where
  role : LifecycleExport
  failure : Option ScriptFailure
deriving DecidableEq, Repr

/-- the failure of a call that a notice tells of -/
def Notice.trap? : Notice → Option ScriptFailure
  | trapped _ failure => some failure
  | _ => none

/-- the first trap that a trace tells of before anything else happens -/
def trapIn : List Entry → Option ScriptFailure
  | .noted notice :: rest => notice.trap?.orElse fun _ => trapIn rest
  | _ => none

/-- the calls that a trace tells of, in order -/
def calls : List Entry → List LifecycleCall
  | [] => []
  | .called role :: rest => ⟨role, trapIn rest⟩ :: calls rest
  | .fetched :: rest | .handed _ :: rest | .noted _ :: rest => calls rest

/-- the exports that were called, in order -/
def roles (made : List LifecycleCall) : List LifecycleExport := made.map (·.role)

/-- the first trap of some calls -/
def firstTrap (made : List LifecycleCall) : Option ScriptFailure := made.findSome? (·.failure)

/-- what the host answers after some calls: the first trap decides -/
def answerOf (made : List LifecycleCall) : Except ScriptFailure Unit :=
  match firstTrap made with
  | some failure => .error failure
  | none => .ok ()

theorem answerOf_append (made more : List LifecycleCall) :
    answerOf (made ++ more) = (answerOf made).bind fun _ => answerOf more := by
  unfold answerOf firstTrap
  rw [List.findSome?_append]
  cases made.findSome? (·.failure) <;> rfl

theorem answerOf_eq_ok_iff {made : List LifecycleCall} : answerOf made = .ok () ↔ firstTrap made = none := by
  unfold answerOf
  cases firstTrap made <;> simp

/-! ## Traces -/

theorem trapIn_append (trace : List Entry) {later : List Entry} (h : trapIn later = none) :
    trapIn (trace ++ later) = trapIn trace := by
  induction trace with
  | nil => exact h
  | cons entry rest ih =>
    cases entry with
    | noted notice => rw [List.cons_append, trapIn, ih, trapIn]
    | fetched | called | handed => rfl

theorem calls_append (trace : List Entry) {later : List Entry} (h : trapIn later = none) :
    calls (trace ++ later) = calls trace ++ calls later := by
  induction trace with
  | nil => rfl
  | cons entry rest ih =>
    cases entry with
    | called role => rw [List.cons_append, calls, calls, trapIn_append rest h, ih, List.cons_append]
    | fetched | handed | noted => rw [List.cons_append, calls, calls, ih]

/-- no call of an export is in the trace -/
def Uncalled (trace : List Entry) : Prop := ∀ role, .called role ∉ trace

theorem uncalled_nil : Uncalled [] := fun _ => List.not_mem_nil

theorem uncalled_noted (notices : List Notice) : Uncalled (noted notices) := by
  intro role
  simp [noted]

theorem Uncalled.append {trace later : List Entry} (h : Uncalled trace) (h' : Uncalled later) :
    Uncalled (trace ++ later) :=
  fun role hrole => (List.mem_append.1 hrole).elim (h role) (h' role)

theorem Uncalled.cons {entry : Entry} {trace : List Entry} (hentry : ∀ role, entry ≠ .called role)
    (h : Uncalled trace) : Uncalled (entry :: trace) :=
  fun role hrole => (List.mem_cons.1 hrole).elim (fun heq => hentry role heq.symm) (h role)

theorem calls_of_uncalled {trace : List Entry} (h : Uncalled trace) : calls trace = [] := by
  induction trace with
  | nil => rfl
  | cons entry rest ih =>
    have hrest := ih fun role hrole => h role (List.mem_cons_of_mem _ hrole)
    cases entry with
    | called role => exact absurd List.mem_cons_self (h role)
    | fetched | handed | noted => rw [calls, hrest]

theorem calls_called_noted (role : LifecycleExport) (notices : List Notice) :
    calls (.called role :: noted notices) = [⟨role, trapIn (noted notices)⟩] := by
  rw [calls, calls_of_uncalled (uncalled_noted notices)]

/-- none of the notices tells of a trap -/
def Untrapped (notices : List Notice) : Prop := ∀ n ∈ notices, n.trap? = none

theorem untrapped_nil : Untrapped [] := fun _ hn => absurd hn List.not_mem_nil

theorem untrapped_singleton {notice : Notice} (h : notice.trap? = none) : Untrapped [notice] := by
  intro n hn
  rw [List.mem_singleton.1 hn]
  exact h

theorem trapIn_noted {notices : List Notice} (h : Untrapped notices) (rest : List Notice) :
    trapIn (noted (notices ++ rest)) = trapIn (noted rest) := by
  induction notices with
  | nil => rfl
  | cons notice others ih =>
    have hothers := ih fun n hn => h n (List.mem_cons_of_mem _ hn)
    rw [← hothers, List.cons_append, noted, List.map_cons, trapIn, h notice List.mem_cons_self]
    rfl

theorem trapIn_untrapped {notices : List Notice} (h : Untrapped notices) : trapIn (noted notices) = none := by
  rw [← List.append_nil notices, trapIn_noted h []]
  rfl

theorem trapIn_trapped {notices : List Notice} (h : Untrapped notices) (exportName : String) (failure : ScriptFailure) :
    trapIn (noted (notices ++ [.trapped exportName failure])) = some failure := by
  rw [trapIn_noted h]
  rfl

/-! ## Guests note no traps -/

section Untrapped

/-- something that can come of a scene call or of a system call -/
def Notice.ofCall : Notice → Bool
  | patchRefused _ | entropyFailed _ | printed _ _ => true
  | _ => false

/-- all notices are of the kinds that come of scene calls and system calls -/
def OfCalls (notices : List Notice) : Prop := ∀ n ∈ notices, n.ofCall = true

theorem ofCalls_nil : OfCalls [] := fun _ hn => absurd hn List.not_mem_nil

theorem ofCalls_singleton {notice : Notice} (h : notice.ofCall = true) : OfCalls [notice] := by
  intro n hn
  rw [List.mem_singleton.1 hn]
  exact h

theorem OfCalls.untrapped {notices : List Notice} (h : OfCalls notices) : Untrapped notices := by
  intro n hn
  have hcall := h n hn
  cases n with
  | patchRefused | entropyFailed | printed => rfl
  | _ => cases hcall

variable {σ : Type} {μ : Type} [LinearMemory μ]

theorem Turn.untrapped_note {t : Turn σ} (h : Untrapped t.log) {notices : List Notice} (hnotices : Untrapped notices) :
    Untrapped (t.note notices).log := by
  intro n hn
  rcases List.mem_append.1 hn with hn | hn
  · exact hnotices n (List.mem_reverse.1 hn)
  · exact h n hn

theorem SceneCall.ofCalls_run [SceneBackend σ] (caller : ScriptId) (m : μ) (s : Session σ) (call : SceneCall) :
    OfCalls (call.run caller m s).notices := by
  unfold SceneCall.run
  split
  · rename_i act hact
    cases act with
    | write | subscribe => exact ofCalls_nil
    | patch node p =>
      dsimp only [SceneAction.perform]
      split
      · exact ofCalls_nil
      · exact ofCalls_singleton rfl
    | animate node clip playState wrap =>
      dsimp only [SceneAction.perform]
      split <;> exact ofCalls_nil
  · exact ofCalls_nil

/-- the notices of a decision, whichever it is -/
def SystemCall.announced : Except SystemRefusal SystemAction → List Notice
  | .ok action => action.notices
  | .error refusal => refusal.notices

theorem SystemCall.announced_access_bind {α : Type} {x : Except AccessError α}
    {next : α → Except SystemRefusal SystemAction} (h : ∀ a, OfCalls (announced (next a))) :
    OfCalls (announced (access x >>= next)) := by
  cases x with
  | ok a => exact h a
  | error e => exact ofCalls_nil

theorem SystemCall.ofCalls_plan (process : ProcessInfo) (reading : Reading) (m : μ) (call : SystemCall) :
    OfCalls (announced (call.plan process reading m)) := by
  cases call with
  | args | argsSizes | environ | environSizes => exact announced_access_bind fun _ => ofCalls_nil
  | clockResolution | clockTime =>
    dsimp only [plan]
    split <;> exact ofCalls_nil
  | write =>
    dsimp only [plan]
    split
    · exact ofCalls_nil
    · refine announced_access_bind fun _ => announced_access_bind fun bytes => ?_
      exact ofCalls_singleton rfl
  | random =>
    refine announced_access_bind fun _ => ?_
    split
    · exact ofCalls_nil
    · exact ofCalls_singleton rfl

theorem SystemCall.ofCalls_run (process : ProcessInfo) (reading : Reading) (m : μ) (call : SystemCall) :
    OfCalls (call.run process reading m).notices := by
  have hplan := call.ofCalls_plan process reading m
  unfold run
  split <;> rename_i hresult <;> rw [hresult] at hplan <;> exact hplan

theorem HostFunction.untrapped_call [SceneBackend σ] (f : HostFunction) (args : List Word) {t : Turn σ}
    (h : Untrapped t.log) : Untrapped (f.call args t).1.log := by
  cases f with
  | scene f =>
    rw [HostFunction.call]
    split
    · dsimp only [Turn.sceneCall]
      split
      · exact Turn.untrapped_note h (SceneCall.ofCalls_run _ _ _ _).untrapped
      · exact h
    · exact h
  | system f =>
    rw [HostFunction.call]
    split
    · dsimp only [Turn.systemCall]
      split
      · exact Turn.untrapped_note h (SystemCall.ofCalls_run _ _ _ _).untrapped
      · exact h
    · exact h
  | unsupported f =>
    dsimp only [HostFunction.call, Turn.unsupportedCall, Turn.report]
    split
    · exact h
    · refine Turn.untrapped_note h (untrapped_singleton ?_)
      unfold unsupportedNotice
      split <;> rfl

theorem Program.untrapped_run [SceneBackend σ] (program : Program) {t : Turn σ} (h : Untrapped t.log) :
    Untrapped (program.run t).1.log := by
  induction program generalizing t with
  | done | trap => exact h
  | look next ih => exact ih t.guest.state h
  | change f next ih => exact ih h
  | call position args next ih =>
    rw [Program.run]
    cases t.guest.imports[position]? with
    | none => exact h
    | some f =>
      have hcall := f.untrapped_call args h
      dsimp only
      rcases hresult : f.call args t with ⟨t', reason | answer⟩
      · rw [hresult] at hcall
        exact hcall
      · rw [hresult] at hcall
        exact ih answer hcall

end Untrapped

/-! ## What the host's calls leave in the trace -/

namespace Activity

variable {σ : Type}

/-- does the guest have an export? -/
def bound (a : Activity σ) (role : LifecycleExport) : Bool := (a.runtime.exports.program? role).isSome

/-- from an activity some calls were made, and this is where they led and what was answered -/
structure Performs (a : Activity σ) (made : List LifecycleCall) (result : Activity σ × Except ScriptFailure Unit) :
    Prop where
  exports : result.1.runtime.exports = a.runtime.exports
  answer : result.2 = answerOf made
  block : ∃ block, result.1.trace = a.trace ++ block ∧ calls block = made ∧ trapIn block = none

theorem Performs.nothing (a : Activity σ) : a.Performs [] (a, .ok ()) :=
  ⟨rfl, rfl, [], (List.append_nil _).symm, rfl, rfl⟩

theorem Performs.calls_trace {a : Activity σ} {made : List LifecycleCall}
    {result : Activity σ × Except ScriptFailure Unit} (h : a.Performs made result) (ha : a.trace = []) :
    calls result.1.trace = made := by
  obtain ⟨block, htrace, hcalls, -⟩ := h.block
  rw [htrace, ha]
  exact hcalls

theorem Performs.bound_eq {a : Activity σ} {made : List LifecycleCall} {result : Activity σ × Except ScriptFailure Unit}
    (h : a.Performs made result) : result.1.bound = a.bound := by
  funext role
  rw [bound, bound, h.exports]

theorem Performs.trans {a a' : Activity σ} {made more : List LifecycleCall} {answer : Except ScriptFailure Unit}
    {result : Activity σ × Except ScriptFailure Unit} (h : a.Performs made (a', answer)) (h' : a'.Performs more result) :
    a.Performs (made ++ more) (result.1, answer.bind fun _ => result.2) := by
  obtain ⟨block, htrace, hcalls, htrap⟩ := h.block
  obtain ⟨later, htrace', hcalls', htrap'⟩ := h'.block
  refine ⟨h'.exports.trans h.exports, ?_, block ++ later, ?_, ?_, ?_⟩
  · rw [answerOf_append, ← h.answer, ← h'.answer]
  · rw [htrace', htrace, List.append_assoc]
  · rw [calls_append block htrap', hcalls, hcalls']
  · rw [trapIn_append block htrap', htrap]

variable [SceneBackend σ] (a : Activity σ) (names : ExportNames)

theorem performs_enter (role : LifecycleExport) (exportName : String) (program : Program) :
    ∃ failure, a.Performs [⟨role, failure⟩] (a.enter (.called role) exportName program) := by
  have hlog := program.untrapped_run (t := { guest := a.runtime.guest, shared := a.shared }) untrapped_nil
  rcases hrun : program.run { guest := a.runtime.guest, shared := a.shared } with ⟨t, trap | done⟩
  all_goals
    rw [hrun] at hlog
    have hnotices : Untrapped t.notices := fun n hn => hlog n (List.mem_reverse.1 hn)
  · rw [a.enter_of_trap (.called role) exportName hrun]
    refine ⟨some (.guestTrap trap.reason), rfl, rfl, _, trace_record _ _, ?_, rfl⟩
    rw [calls_called_noted, trapIn_trapped hnotices]
  · rw [a.enter_of_ok (.called role) exportName hrun]
    refine ⟨none, rfl, rfl, _, trace_record _ _, ?_, rfl⟩
    rw [calls_called_noted, trapIn_untrapped hnotices]

theorem performs_call (role : LifecycleExport) :
    ∃ made, a.Performs made (a.call names role) ∧ roles made = [role].filter a.bound := by
  unfold call
  split
  · rename_i program hprogram
    have hbound : a.bound role = true := by rw [bound, hprogram]; rfl
    obtain ⟨failure, hperforms⟩ := a.performs_enter role (names.name role) program
    exact ⟨_, hperforms, by rw [List.filter_cons_of_pos hbound]; rfl⟩
  · rename_i hprogram
    have hbound : ¬ a.bound role = true := by rw [bound, hprogram]; exact Bool.false_ne_true
    exact ⟨[], .nothing a, by rw [List.filter_cons_of_neg hbound]; rfl⟩

theorem performs_start :
    ∃ made, a.Performs made (a.start names) ∧ roles made = [.entryPoint, .onStart].filter a.bound := by
  obtain ⟨made, hentered, hmade⟩ := a.performs_call names .entryPoint
  obtain ⟨more, hstarted, hmore⟩ := (a.call names .entryPoint).1.performs_call names .onStart
  refine ⟨made ++ more, hentered.trans hstarted, ?_⟩
  have hroles : roles (made ++ more) = roles made ++ roles more := List.map_append
  rw [hroles, hmade, hmore, hentered.bound_eq, ← List.filter_append]
  rfl

/-- the first update: it starts the guest, and goes on only if nothing trapped -/
theorem performs_firstUpdate :
    ∃ start later, a.Performs (start ++ later) (a.firstUpdate names) ∧
      roles start = [.entryPoint, .onStart].filter a.bound ∧
      roles later = if firstTrap start = none then [.onUpdate].filter a.bound else [] := by
  obtain ⟨start, hstart, hroles⟩ := a.performs_start names
  have hanswer := hstart.answer
  have hbound := hstart.bound_eq
  unfold firstUpdate
  rcases hresult : a.start names with ⟨a', failure | done⟩
  · rw [hresult] at hstart hanswer
    have hfailed : firstTrap start ≠ none := fun h => nomatch hanswer.trans (answerOf_eq_ok_iff.2 h)
    refine ⟨start, [], ?_, hroles, (if_neg hfailed).symm⟩
    rw [List.append_nil]
    exact hstart
  · rw [hresult] at hstart hanswer hbound
    obtain ⟨later, hlater, hupdate⟩ := a'.performs_call names .onUpdate
    refine ⟨start, later, hstart.trans hlater, hroles, ?_⟩
    have hsame : a'.bound = a.bound := hbound
    rw [if_pos (answerOf_eq_ok_iff.1 hanswer.symm), hupdate, hsame]

/-- an operation that calls none of the exports that drive the script -/
theorem Course.uncalled {kind : Entry → Prop} {a a' : Activity σ} {answer : Except ScriptFailure Unit}
    (h : Course kind a a' answer) (hkind : ∀ role, ¬ kind (.called role)) (ha : Uncalled a.trace) :
    Uncalled a'.trace := by
  induction h with
  | nothing a => exact ha
  | @enter a entry program exportName hentry hentered =>
    obtain ⟨⟨notices, htrace⟩, -⟩ := a.enter_eq entry exportName program
    have hother : ∀ role, entry ≠ .called role := by
      rintro role rfl
      exact hkind role hentry
    rw [htrace]
    exact ha.append (.cons hother (uncalled_noted notices))
  | take => exact ha
  | drop a event exportName =>
    rw [trace_record]
    exact ha.append (uncalled_noted [_])
  | trans h h' ih ih' => exact ih' (ih ha)

/-- handing events over calls none of the exports that drive the script -/
theorem uncalled_deliver (h : Uncalled a.trace) : Uncalled (deliver names a).1.trace :=
  (a.course_deliver names).uncalled nofun h

end Activity

end ScriptHost
