/-
The stages of a script's life.

A script is handled in any order, in any session and with any events in its queue, and an instantiation may be given up
while the module is fetched. Every handling takes the script along `ScriptState.Next`; its reply tells how far, and the
module is fetched with the step out of `unloaded` and with no other (`Script.moves_handle`). No state that was left is come
to again (`ScriptState.Leads.antisymm`), so the module is fetched once at most. All this rests on the script having a guest
just while it is initialized, which every handling preserves (`Script.consistent_handle`): state and guest are looked up
apart from each other, and a guest left behind by a load that fails would be at work in a script that has failed.

- `lifecycle_stages`: where the handlings of a fresh script have brought it, and what the next one meets there.
-/
import Mathlib.Logic.Relation
import ScriptHost.Proofs.Script.Loading

namespace ScriptHost

variable {σ : Type} [SceneBackend σ]

/-! ## The order of the states -/

namespace ScriptState

/-- what comes after a state -/
inductive Next : ScriptState → ScriptState → Prop where
  | fetch : Next .unloaded .instantiating
  | load : Next .instantiating (.initialized false)
  | start : Next (.initialized false) (.initialized true)
  | fail : Next .instantiating .failed

/-- a state lies on the way to another one -/
abbrev Leads : ScriptState → ScriptState → Prop := Relation.ReflTransGen Next

/-- how many steps it takes to a state -/
def depth : ScriptState → Nat
  | unloaded => 0
  | instantiating => 1
  | initialized false | failed => 2
  | initialized true => 3

variable {a b : ScriptState}

theorem Next.depth_eq (h : Next a b) : b.depth = a.depth + 1 := by cases h <;> rfl

theorem Leads.eq_or_depth_lt (h : Leads a b) : a = b ∨ a.depth < b.depth := by
  induction h with
  | refl => exact Or.inl rfl
  | tail hleads hnext ih =>
    refine Or.inr ?_
    rw [hnext.depth_eq]
    rcases ih with rfl | hlt
    · exact Nat.lt_succ_self _
    · exact Nat.lt_succ_of_lt hlt

/-- there is no way back -/
theorem Leads.antisymm (h : Leads a b) (h' : Leads b a) : a = b := by
  rcases h.eq_or_depth_lt with heq | hlt
  · exact heq
  · rcases h'.eq_or_depth_lt with heq | hlt'
    · exact heq.symm
    · exact absurd hlt (Nat.lt_asymm hlt')

end ScriptState

/-! ## Handlings -/

/-- what can be done with a script -/
inductive Handling where
  | instantiate
  /-- an instantiation that is given up before the fetch has come to an end -/
  | abandon
  | dispatch (event : ScriptEvent)
  | deliver
  | read (addr : Pointer) (len : Nat)

/-- what a handling answers -/
inductive Reply where
  | instantiated (answer : Option (Except ScriptFailure Unit))
  | dispatched (answer : Except ScriptFailure Unit)
  | delivered (answer : Except ScriptFailure Nat)
  | read (bytes : Option ByteArray)

/-- the same outcome with another answer -/
def Outcome.map {α β : Type} (f : α → β) (o : Outcome σ α) : Outcome σ β :=
  { answer := f o.answer, script := o.script, shared := o.shared, trace := o.trace }

namespace Handling

/-- is it an instantiation, or the beginning of one? -/
def Instantiates : Handling → Prop
  | instantiate | abandon => True
  | _ => False

/-- the source as a handling meets it: a fetch that is given up does not come to an end -/
def source : Handling → Source → Source
  | abandon, _ => .pending
  | _, source => source

/-- the reply of a script that has no guest to a handling that needs one -/
def idleReply? : Handling → Option Reply
  | instantiate | abandon => none
  | dispatch _ => some (.dispatched (.ok ()))
  | deliver => some (.delivered (.ok 0))
  | read _ _ => some (.read none)

theorem idleReply?_of_not {h : Handling} (hnot : ¬ h.Instantiates) : ∃ reply, h.idleReply? = some reply := by
  cases h with
  | instantiate | abandon => exact absurd trivial hnot
  | dispatch | deliver | read => exact ⟨_, rfl⟩

end Handling

namespace ScriptState

/-- why a script that has come so far cannot be instantiated -/
def refusal? : ScriptState → Option ScriptFailure
  | unloaded => none
  | instantiating | initialized _ => some .alreadyInstantiated
  | failed => some .failedBefore

/-- the state to which an instantiation leads that has given an answer -/
def answered : Option (Except ScriptFailure Unit) → ScriptState
  | none => instantiating
  | some (.ok ()) => initialized false
  | some (.error _) => failed

/-- the state after a handling, as the reply tells it -/
def after : ScriptState → Handling → Reply → ScriptState
  | unloaded, _, .instantiated answer => answered answer
  | initialized _, .dispatch .update, _ => initialized true
  | state, _, _ => state

/-- how often the module was fetched until then -/
def fetches : ScriptState → Nat
  | unloaded => 0
  | _ => 1

theorem refusal?_eq_none {state : ScriptState} : state.refusal? = none ↔ state = unloaded := by
  cases state <;> simp [refusal?]

theorem leads_answered (answer : Option (Except ScriptFailure Unit)) : unloaded.Leads (answered answer) := by
  rcases answer with _ | _ | _
  · exact .single .fetch
  · exact .tail (.single .fetch) .fail
  · exact .tail (.single .fetch) .load

/-- the reply to an instantiation that is refused tells of no other state -/
theorem after_of_refusal {state : ScriptState} {failure : ScriptFailure} (h : state.refusal? = some failure)
    {handling : Handling} (hinst : handling.Instantiates) (reply : Reply) : state.after handling reply = state := by
  cases handling with
  | instantiate | abandon => cases state <;> cases h <;> rfl
  | dispatch | deliver | read => exact hinst.elim

/-- the reply of a script that has no guest tells of no other state -/
theorem after_of_idle {state : ScriptState} (h : state.isInitialized = false) {handling : Handling} {reply : Reply}
    (hreply : handling.idleReply? = some reply) : state.after handling reply = state := by
  cases state with
  | initialized started => exact Bool.noConfusion h
  | unloaded | instantiating | failed => cases handling <;> cases hreply <;> rfl

theorem leads_after (state : ScriptState) (h : Handling) (reply : Reply) : state.Leads (state.after h reply) := by
  unfold after
  split
  · exact leads_answered _
  · rename_i started
    cases started with
    | false => exact .single .start
    | true => exact .refl
  · exact .refl

end ScriptState

/-! ## One handling -/

/-- how often a module is fetched -/
def fetches (trace : List Entry) : Nat := trace.count .fetched

@[simp] theorem fetches_append (trace later : List Entry) : fetches (trace ++ later) = fetches trace + fetches later :=
  List.count_append

@[simp] theorem fetches_noted (l : List Notice) : fetches (noted l) = 0 := by
  simp [fetches, noted, List.count_eq_zero]

theorem fetches_cons_of_ne {entry : Entry} (h : entry ≠ .fetched) (trace : List Entry) :
    fetches (entry :: trace) = fetches trace :=
  List.count_cons_of_ne h

/-- only an instantiation fetches the module -/
theorem Activity.Course.fetches_eq {kind : Entry → Prop} {a a' : Activity σ} {answer : Except ScriptFailure Unit}
    (h : Course kind a a' answer) : ScriptHost.fetches a'.trace = ScriptHost.fetches a.trace := by
  induction h with
  | nothing a => rfl
  | @enter a entry program exportName hentry hentered =>
    obtain ⟨⟨l, htrace⟩, -⟩ := a.enter_eq entry exportName program
    have hother : entry ≠ .fetched := by
      rintro rfl
      cases hentered
    rw [htrace, fetches_append, fetches_cons_of_ne hother, fetches_noted, Nat.add_zero]
  | take => rfl
  | drop a event exportName =>
    rw [trace_record, fetches_append]
    exact congrArg (ScriptHost.fetches a.trace + ·) (fetches_noted [_])
  | trans h h' ih ih' => exact ih'.trans ih

namespace Script

/-- a handling of a script -/
def handle (s : Script) (h : Handling) (shared : SharedSession σ) : Outcome σ Reply :=
  match h with
  | .instantiate => (s.instantiate shared).map .instantiated
  | .abandon => (s.abandon shared).map .instantiated
  | .dispatch event => (s.dispatch event shared).map .dispatched
  | .deliver => (s.deliver shared).map .delivered
  | .read addr len => { answer := .read (s.readMemory? addr len), script := s, shared }

/-- what comes of the first instantiation of a script -/
structure Loads (source : Source) (o : Outcome σ (Option (Except ScriptFailure Unit))) : Prop where
  state : o.script.state = .answered o.answer
  /-- it answers if the fetch comes to an end -/
  answers : o.answer = none ↔ source.module? = none
  /-- the failure that it answers is noted -/
  failure : ∀ f, o.answer = some (.error f) → .noted (.loadFailed f) ∈ o.trace
  fetches : fetches o.trace = 1

theorem loads_instantiate {s : Script} (h : s.state = .unloaded) (shared : SharedSession σ) :
    Loads s.source (s.instantiate shared) := by
  have hfetched : ∀ l, ScriptHost.fetches (.fetched :: noted l) = 1 := by
    intro l
    rw [ScriptHost.fetches, List.count_cons_self]
    exact congrArg (· + 1) (fetches_noted l)
  simp only [instantiate, h]
  split
  · rename_i hpending
    refine ⟨rfl, ?_, ?_, rfl⟩
    · rw [hpending]
      simp
    · intro f hf
      cases hf
  · rename_i failure hfailed
    refine ⟨rfl, ?_, ?_, rfl⟩
    · rw [hfailed]
      simp
    · intro f hf
      cases hf
      simp
  · rename_i m hm
    split
    · refine ⟨rfl, ?_, ?_, hfetched _⟩
      · rw [hm]
        simp
      · intro f hf
        cases hf
    · refine ⟨rfl, ?_, ?_, hfetched _⟩
      · rw [hm]
        simp
      · intro f hf
        cases hf
        simp [noted]

theorem loads_abandon {s : Script} (h : s.state = .unloaded) (shared : SharedSession σ) :
    Loads .pending (s.abandon shared) :=
  have hloads := loads_instantiate (s := { s with source := .pending }) h shared
  ⟨hloads.state, hloads.answers, hloads.failure, hloads.fetches⟩

theorem loads_handle {s : Script} (h : s.state = .unloaded) {handling : Handling} (hinst : handling.Instantiates)
    (shared : SharedSession σ) :
    ∃ o, s.handle handling shared = o.map .instantiated ∧ Loads (handling.source s.source) o := by
  cases handling with
  | instantiate => exact ⟨_, rfl, loads_instantiate h shared⟩
  | abandon => exact ⟨_, rfl, loads_abandon h shared⟩
  | dispatch | deliver | read => exact hinst.elim

/-- a script that was instantiated before is not instantiated again, and stays as it is -/
theorem refuses_handle {s : Script} {failure : ScriptFailure} (h : s.state.refusal? = some failure)
    {handling : Handling} (hinst : handling.Instantiates) (shared : SharedSession σ) :
    s.handle handling shared = { answer := .instantiated (some (.error failure)), script := s, shared } := by
  rcases s with ⟨setting, source, state, runtime, queue⟩
  cases handling with
  | instantiate | abandon => cases state <;> cases h <;> rfl
  | dispatch | deliver | read => exact hinst.elim

/-- a script without a guest takes no notice of what needs one -/
theorem idle_handle {s : Script} (h : s.runtime = none) {handling : Handling} {reply : Reply}
    (hreply : handling.idleReply? = some reply) (shared : SharedSession σ) :
    s.handle handling shared = { answer := reply, script := s, shared } := by
  cases handling with
  | instantiate | abandon => cases hreply
  | dispatch event =>
    cases hreply
    rw [handle, dispatch_of_none h]
    rfl
  | deliver =>
    cases hreply
    rw [handle, deliver_of_none h]
    rfl
  | read addr len =>
    cases hreply
    have hmemory : s.memory? = none := by rw [memory?, h, Option.map_none]
    rw [handle, readMemory?, hmemory]
    rfl

/-- whatever is done to a script, it has a guest afterwards just if it is initialized -/
theorem consistent_handle {s : Script} (h : s.Consistent) (handling : Handling) (shared : SharedSession σ) :
    (s.handle handling shared).script.Consistent := by
  cases handling with
  | instantiate => exact consistent_instantiate h shared
  | abandon => exact consistent_instantiate (s := { s with source := .pending }) h shared
  | dispatch event => exact consistent_dispatch h shared event
  | deliver => exact consistent_deliver h shared
  | read => exact h

/-- the reply to a handling tells the state that is come to, and the step out of `unloaded` is the one that fetches -/
structure Moves (s : Script) (handling : Handling) (o : Outcome σ Reply) : Prop where
  told : o.script.state = s.state.after handling o.answer
  fetched : o.script.state.fetches = s.state.fetches + fetches o.trace

omit [SceneBackend σ] in
theorem Moves.of_unchanged {s : Script} {handling : Handling} {reply : Reply} {shared : SharedSession σ}
    (h : s.state.after handling reply = s.state) :
    s.Moves handling { answer := reply, script := s, shared } :=
  ⟨h.symm, rfl⟩

omit [SceneBackend σ] in
theorem Moves.of_loads {s : Script} {handling : Handling} {source : Source}
    {o : Outcome σ (Option (Except ScriptFailure Unit))} (h : Loads source o) (hstate : s.state = .unloaded) :
    s.Moves handling (o.map .instantiated) := by
  refine ⟨?_, ?_⟩
  · rw [hstate]
    exact h.state
  · have hfetches : fetches (o.map Reply.instantiated).trace = 1 := h.fetches
    have hanswered : (o.map Reply.instantiated).script.state = .answered o.answer := h.state
    rw [hfetches, hanswered, hstate]
    rcases o.answer with _ | _ | _ <;> rfl

theorem moves_of_loaded {s : Script} {started : Bool} {runtime : Runtime} (hstate : s.state = .initialized started)
    (hruntime : s.runtime = some runtime) {handling : Handling} (h : ¬ handling.Instantiates)
    (shared : SharedSession σ) : s.Moves handling (s.handle handling shared) := by
  cases handling with
  | instantiate | abandon => exact absurd trivial h
  | dispatch event =>
    obtain ⟨runtime', -, -, hstate'⟩ := runtime_dispatch hstate hruntime event shared
    have hafter : (s.handle (.dispatch event) shared).script.state = .initialized (started || event = .update) := hstate'
    have hfetches : fetches (s.handle (.dispatch event) shared).trace = 0 := by
      simp only [handle, Outcome.map, dispatch, hstate, hruntime]
      exact (Activity.course_react _ _ _ _).fetches_eq
    refine ⟨?_, ?_⟩
    · rw [hstate, hafter]
      cases event <;> simp [ScriptState.after]
    · rw [hstate, hafter, hfetches]
      rfl
  | deliver =>
    obtain ⟨runtime', -, -, hstate'⟩ := runtime_deliver hruntime shared
    have hafter : (s.handle .deliver shared).script.state = .initialized started := hstate'.trans hstate
    have hfetches : fetches (s.handle .deliver shared).trace = 0 := by
      simp only [handle, Outcome.map, deliver, hruntime]
      exact (Activity.course_deliver _ _).fetches_eq
    refine ⟨?_, ?_⟩
    · rw [hstate, hafter]
      rfl
    · rw [hstate, hafter, hfetches, Nat.add_zero]
  | read addr len =>
    refine .of_unchanged ?_
    rw [hstate]
    rfl

theorem moves_handle {s : Script} (h : s.Consistent) (handling : Handling) (shared : SharedSession σ) :
    s.Moves handling (s.handle handling shared) := by
  -- an instantiation asks for the state alone, every other handling for the guest
  by_cases hinst : handling.Instantiates
  · cases hrefusal : s.state.refusal? with
    | none =>
      have hunloaded := ScriptState.refusal?_eq_none.1 hrefusal
      obtain ⟨o, hhandle, hloads⟩ := loads_handle hunloaded hinst shared
      rw [hhandle]
      exact .of_loads hloads hunloaded
    | some failure =>
      rw [refuses_handle hrefusal hinst shared]
      exact .of_unchanged (ScriptState.after_of_refusal hrefusal hinst _)
  · rcases h.cases with ⟨started, runtime, hstate, hruntime⟩ | ⟨hidle, hnone⟩
    · exact moves_of_loaded hstate hruntime hinst shared
    · obtain ⟨reply, hreply⟩ := Handling.idleReply?_of_not hinst
      rw [idle_handle hnone hreply shared]
      exact .of_unchanged (ScriptState.after_of_idle hidle hreply)

end Script

/-! ## A whole life -/

/-- a handling of a script, with the session and the events that it finds -/
structure Encounter (σ : Type) where
  handling : Handling
  shared : SharedSession σ
  queue : List Event

/-- what can be seen of a handling -/
structure Report where
  handling : Handling
  reply : Reply
  trace : List Entry

/-- the state that all reports together tell -/
def ScriptState.told (state : ScriptState) (reports : List Report) : ScriptState :=
  reports.foldl (fun state r => state.after r.handling r.reply) state

/-- the traces of all reports, one after another -/
def Report.traces (reports : List Report) : List Entry := reports.flatMap (·.trace)

namespace Script

/-- a script as an encounter finds it -/
def foundBy (s : Script) (e : Encounter σ) : Script := { s with queue := e.queue.toArray }

def face (s : Script) (e : Encounter σ) : Outcome σ Reply := (s.foundBy e).handle e.handling e.shared

def report (s : Script) (e : Encounter σ) : Report := ⟨e.handling, (s.face e).answer, (s.face e).trace⟩

/-- a script after some encounters -/
def through (s : Script) (es : List (Encounter σ)) : Script := es.foldl (fun s e => (s.face e).script) s

/-- what can be seen of some encounters, one after another -/
def reports (s : Script) : List (Encounter σ) → List Report
  | [] => []
  | e :: rest => s.report e :: (s.face e).script.reports rest

theorem through_append (s : Script) (es later : List (Encounter σ)) :
    s.through (es ++ later) = (s.through es).through later :=
  List.foldl_append

theorem source_handle (s : Script) (handling : Handling) (shared : SharedSession σ) :
    (s.handle handling shared).script.source = s.source := by
  cases handling with
  | instantiate =>
    simp only [handle, Outcome.map, instantiate]
    repeat' split
    all_goals rfl
  | dispatch event =>
    simp only [handle, Outcome.map, dispatch]
    split <;> rfl
  | deliver =>
    simp only [handle, Outcome.map, deliver]
    split <;> rfl
  | abandon | read => rfl

theorem source_through (s : Script) (es : List (Encounter σ)) : (s.through es).source = s.source := by
  induction es generalizing s with
  | nil => rfl
  | cons e rest ih => exact (ih _).trans ((s.foundBy e).source_handle e.handling e.shared)

theorem consistent_through {s : Script} (h : s.Consistent) (es : List (Encounter σ)) : (s.through es).Consistent := by
  induction es generalizing s with
  | nil => exact h
  | cons e rest ih => exact ih (consistent_handle (s := s.foundBy e) h e.handling e.shared)

section Consistent

variable {s : Script} (h : s.Consistent)

include h

theorem moves_face (e : Encounter σ) : (s.foundBy e).Moves e.handling (s.face e) :=
  moves_handle (s := s.foundBy e) h e.handling e.shared

theorem consistent_face (e : Encounter σ) : (s.face e).script.Consistent :=
  consistent_handle (s := s.foundBy e) h e.handling e.shared

theorem told_reports (es : List (Encounter σ)) : (s.through es).state = s.state.told (s.reports es) := by
  induction es generalizing s with
  | nil => rfl
  | cons e rest ih =>
    refine (ih (consistent_face h e)).trans ?_
    exact congrArg (ScriptState.told · ((s.face e).script.reports rest)) (moves_face h e).told

theorem fetches_reports (es : List (Encounter σ)) :
    (s.through es).state.fetches = s.state.fetches + fetches (Report.traces (s.reports es)) := by
  induction es generalizing s with
  | nil => rfl
  | cons e rest ih =>
    calc (s.through (e :: rest)).state.fetches
        = (s.face e).script.state.fetches + fetches (Report.traces ((s.face e).script.reports rest)) :=
          ih (consistent_face h e)
      _ = s.state.fetches + fetches (s.face e).trace + fetches (Report.traces ((s.face e).script.reports rest)) :=
        congrArg (· + _) (moves_face h e).fetched
      _ = s.state.fetches + fetches (Report.traces (s.reports (e :: rest))) := by
        rw [Nat.add_assoc, ← fetches_append]
        rfl

theorem leads_through (es : List (Encounter σ)) : s.state.Leads (s.through es).state := by
  induction es generalizing s with
  | nil => exact .refl
  | cons e rest ih =>
    have htold : (s.face e).script.state = s.state.after e.handling (s.face e).answer := (moves_face h e).told
    have hstep : s.state.Leads (s.face e).script.state := by
      rw [htold]
      exact s.state.leads_after e.handling (s.face e).answer
    exact hstep.trans (ih (consistent_face h e))

end Consistent

/-- where some encounters have brought a script, and what it makes of the next one -/
structure Advances (s : Script) (es : List (Encounter σ)) : Prop where
  /-- the replies tell how far the script has come -/
  told : (s.through es).state = ScriptState.unloaded.told (s.reports es)
  /-- its way leads on from every state to which it has come -/
  onward : ∀ before later, es = before ++ later → (s.through before).state.Leads (s.through es).state
  /-- and to none of those that it has left -/
  noReturn : ∀ before between later, es = before ++ between ++ later →
    (s.through es).state = (s.through before).state → (s.through (before ++ between)).state = (s.through before).state
  /-- the module is fetched when the script leaves `unloaded`, and never again -/
  fetched : fetches (Report.traces (s.reports es)) = if (s.through es).state = .unloaded then 0 else 1
  /-- there is a guest just when the script is initialized -/
  guest : (s.through es).runtime.isSome ↔ ∃ started, (s.through es).state = .initialized started
  /-- otherwise nothing comes of what needs a guest -/
  idle : (¬ ∃ started, (s.through es).state = .initialized started) → ∀ (e : Encounter σ) reply,
    e.handling.idleReply? = some reply →
      (s.through es).face e = { answer := reply, script := (s.through es).foundBy e, shared := e.shared }
  /-- the first instantiation brings the script to the state that its answer tells -/
  loads : (s.through es).state = .unloaded → ∀ e : Encounter σ, e.handling.Instantiates →
    ∃ o, (s.through es).face e = o.map .instantiated ∧ Loads (e.handling.source s.source) o
  /-- any other one is refused -/
  refuses : ∀ failure, (s.through es).state.refusal? = some failure → ∀ e : Encounter σ, e.handling.Instantiates →
    (s.through es).face e =
      { answer := .instantiated (some (.error failure)), script := (s.through es).foundBy e, shared := e.shared }

end Script

/-- **The stages of a script's life.** Whatever is done to a fresh script, in any order and any session, and whatever its
source and its guest do: it goes along `ScriptState.Next`, and its module is fetched once at most. -/
theorem lifecycle_stages (setting : Setting) (source : Source) (es : List (Encounter σ)) :
    ({ setting, source } : Script).Advances es := by
  have hconsistent : ({ setting, source } : Script).Consistent := rfl
  have hsource := Script.source_through ({ setting, source } : Script) es
  generalize hs : ({ setting, source } : Script) = s at *
  have hfresh : s.state = .unloaded := by rw [← hs]
  have htold := Script.told_reports hconsistent es
  have hfetches := Script.fetches_reports hconsistent es
  have hafter : ∀ before : List (Encounter σ), (s.through before).Consistent := Script.consistent_through hconsistent
  rw [hfresh] at htold hfetches
  refine {
    told := htold
    onward := ?onward
    noReturn := ?noReturn
    fetched := ?fetched
    guest := ?guest
    idle := ?idle
    loads := ?loads
    refuses := ?refuses }
  case onward =>
    intro before later hsplit
    rw [hsplit, Script.through_append]
    exact Script.leads_through (hafter before) later
  case noReturn =>
    intro before between later hsplit hreturn
    have hfirst := Script.leads_through (hafter before) between
    have hlater := Script.leads_through (hafter (before ++ between)) later
    rw [← Script.through_append] at hfirst hlater
    rw [← hsplit, hreturn] at hlater
    exact hlater.antisymm hfirst
  case fetched =>
    rw [← Nat.zero_add (fetches _)]
    refine hfetches.symm.trans ?_
    cases (s.through es).state <;> rfl
  case guest =>
    rcases (hafter es).cases with ⟨started, runtime, hstate, hruntime⟩ | ⟨hidle, hnone⟩
    · simp [hstate, hruntime]
    · refine ⟨fun hsome => ?_, fun ⟨started, hstate⟩ => ?_⟩
      · rw [hnone] at hsome
        cases hsome
      · rw [hstate] at hidle
        cases hidle
  case idle =>
    intro hidle e reply hreply
    rcases (hafter es).cases with ⟨started, -, hstate, -⟩ | ⟨-, hnone⟩
    · exact absurd ⟨started, hstate⟩ hidle
    · exact ((s.through es).foundBy e).idle_handle hnone hreply e.shared
  case loads =>
    intro hunloaded e hinst
    obtain ⟨o, ho, hloads⟩ := ((s.through es).foundBy e).loads_handle hunloaded hinst e.shared
    rw [← hsource]
    exact ⟨o, ho, hloads⟩
  case refuses =>
    intro failure hrefusal e hinst
    exact ((s.through es).foundBy e).refuses_handle hrefusal hinst e.shared

/-- a fetch that was given up is not taken up again -/
example (shared : SharedSession SceneStore) :
    (faultyScript.through ([.abandon, .instantiate, .dispatch .update].map (⟨·, shared, []⟩))).state = .instantiating :=
  rfl

end ScriptHost
