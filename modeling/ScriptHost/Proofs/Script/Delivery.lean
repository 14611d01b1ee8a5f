/-
What a delivery hands to the guest. A guest that takes events is handed those that wait from the front on, until none is
left or a call traps; the event whose call trapped counts as handed over, and those behind it go on waiting (`HandsOver`).
From a guest without the export for events a delivery takes them all and calls nothing (`DropsAll`).

- `Activity.handsOver_deliver`, `Activity.dropsAll_deliver`: this holds of every delivery to a loaded guest.
- `Script.keeps_operate`: so in each operation what is handed over, followed by what is left, is what waited before. Which
  of the two kinds a script is of can be told from its module (`Script.hears`), before it is loaded.
-/
import ScriptHost.Proofs.Script.Control

namespace ScriptHost

/-- the event that an entry of a trace says was handed to the guest -/
def Entry.event? : Entry → Option Event
  | .handed event => some event
  | .fetched | .called _ | .noted _ => none

/-- the events that a trace says were handed to the guest, in order -/
def handed (trace : List Entry) : List Event := trace.filterMap Entry.event?

@[simp] theorem handed_append (trace later : List Entry) : handed (trace ++ later) = handed trace ++ handed later :=
  List.filterMap_append

@[simp] theorem handed_noted (notices : List Notice) : handed (noted notices) = [] := by
  simp [handed, noted, List.filterMap_map, Function.comp_def, Entry.event?]

section HandsOver

variable {σ : Type} [SceneBackend σ]

/-- how a call ends that hands over an event, once the guest was handed the events before it -/
def endOf (body : Event → Program) (held : Guest × SharedSession σ) (before : List Event) (event : Event) :
    Except Trap Unit :=
  let (guest, shared) := runAll (before.map body) held
  ((body event).run { guest, shared }).2

/-- none of the calls that hand over some events traps -/
def Unbroken (body : Event → Program) (held : Guest × SharedSession σ) (events : List Event) : Prop :=
  ∀ before event later, events = before ++ event :: later → endOf body held before event = .ok ()

/-- a guest was handed events from the front on: which of them, which are left, what the host answers, and what the guest
and the session are in the end -/
structure HandsOver (body : Event → Program) (held : Guest × SharedSession σ) (events taken left : List Event)
    (answer : Except ScriptFailure Nat) (held' : Guest × SharedSession σ) : Prop where
  /-- nothing is lost, doubled or moved, so no more calls are made than there were events -/
  split : taken ++ left = events
  /-- the guest ran its export with just these events, in order -/
  ran : held' = runAll (taken.map body) held
  /-- either all events were handed over and counted, or the last one trapped and the others did not -/
  ended : (Unbroken body held taken ∧ left = [] ∧ answer = .ok taken.length) ∨
    ∃ before last trap, taken = before ++ [last] ∧ Unbroken body held before ∧
      endOf body held before last = .error trap ∧ answer = .error (.guestTrap trap.reason)

variable {body : Event → Program} {held : Guest × SharedSession σ}

theorem unbroken_nil : Unbroken body held [] := by
  intro before event later h
  exact absurd h.symm (List.append_ne_nil_of_right_ne_nil before (List.cons_ne_nil event later))

theorem endOf_cons (first : Event) (before : List Event) (event : Event) :
    endOf body held (first :: before) event = endOf body (runAll [body first] held) before event := rfl

theorem Unbroken.cons {first : Event} {rest : List Event} (hfirst : endOf body held [] first = .ok ())
    (hrest : Unbroken body (runAll [body first] held) rest) : Unbroken body held (first :: rest) := by
  intro before event later h
  rcases before with _ | ⟨e, before⟩
  · obtain ⟨rfl, -⟩ := List.cons.inj h
    exact hfirst
  · obtain ⟨rfl, htail⟩ := List.cons.inj h
    rw [endOf_cons]
    exact hrest before event later htail

theorem HandsOver.nothing (body : Event → Program) (held : Guest × SharedSession σ) :
    HandsOver body held [] [] [] (.ok 0) held :=
  ⟨rfl, rfl, Or.inl ⟨unbroken_nil, rfl, rfl⟩⟩

/-- the first event traps, and the others go on waiting -/
theorem HandsOver.trapped {event : Event} {trap : Trap} (h : endOf body held [] event = .error trap)
    (rest : List Event) :
    HandsOver body held (event :: rest) [event] rest (.error (.guestTrap trap.reason)) (runAll [body event] held) :=
  ⟨rfl, rfl, Or.inr ⟨[], event, trap, rfl, unbroken_nil, h, rfl⟩⟩

/-- the first event does not trap, and the delivery goes on -/
theorem HandsOver.cons {event : Event} {rest taken left : List Event} {answer : Except ScriptFailure Nat}
    {held' : Guest × SharedSession σ} (hfirst : endOf body held [] event = .ok ())
    (h : HandsOver body (runAll [body event] held) rest taken left answer held') :
    HandsOver body held (event :: rest) (event :: taken) left (answer.map (· + 1)) held' := by
  obtain ⟨hsplit, hran, hended⟩ := h
  refine ⟨?_, hran, ?_⟩
  · rw [List.cons_append, hsplit]
  · rcases hended with ⟨hunbroken, hleft, hanswer⟩ | ⟨before, last, trap, htaken, hunbroken, hlast, hanswer⟩
    · refine Or.inl ⟨hunbroken.cons hfirst, hleft, ?_⟩
      rw [hanswer]
      rfl
    · refine Or.inr ⟨event :: before, last, trap, ?_, hunbroken.cons hfirst, hlast, ?_⟩
      · rw [htaken]
        rfl
      · rw [hanswer]
        rfl

/-- a guest without the export for events stays as it is, is called not at all, and no event is left -/
structure DropsAll (held : Guest × SharedSession σ) (taken left : List Event) (answer : Except ScriptFailure Nat)
    (held' : Guest × SharedSession σ) : Prop where
  untouched : held' = held
  uncalled : taken = []
  gone : left = []
  answer : answer = .ok 0

end HandsOver

/-! ## Guests at work -/

namespace Activity

variable {σ : Type} [SceneBackend σ] (a : Activity σ) (names : ExportNames)

/-! ### Calls that hand over nothing -/

/-- an operation that hands over no event -/
theorem Course.handed_eq {kind : Entry → Prop} {a a' : Activity σ} {answer : Except ScriptFailure Unit}
    (h : Course kind a a' answer) (hkind : ∀ event, ¬ kind (.handed event)) : handed a'.trace = handed a.trace := by
  induction h with
  | nothing a => rfl
  | @enter a entry program exportName hentry hentered =>
    obtain ⟨⟨notices, htrace⟩, -⟩ := a.enter_eq entry exportName program
    have hcons : handed (entry :: noted notices) = handed (noted notices) := by
      cases entry with
      | handed event => exact absurd hentry (hkind event)
      | fetched | called | noted => rfl
    rw [htrace, handed_append, hcons, handed_noted, List.append_nil]
  | take => rfl
  | drop a event exportName =>
    rw [trace_record, handed_append]
    exact List.append_nil _
  | trans h h' ih ih' => exact ih'.trans ih

theorem handed_react (event : ScriptEvent) (started : Bool) :
    handed (Script.react names event started a).1.trace = handed a.trace :=
  (a.course_react names event started).handed_eq nofun

/-! ### Deliveries -/

theorem handsOver_deliver {body : Event → Program} (h : a.runtime.exports.onEvent = some body) :
    ∃ taken, handed (deliver names a).1.trace = handed a.trace ++ taken ∧
      HandsOver body a.held a.queue taken (deliver names a).1.queue (deliver names a).2 (deliver names a).1.held := by
  -- the queue is what the loop runs on, and no call puts anything into it
  generalize hevents : a.queue = events
  induction events generalizing a with
  | nil =>
    rw [deliver_of_nil hevents, hevents]
    exact ⟨[], (List.append_nil _).symm, .nothing body a.held⟩
  | cons event rest ih =>
    obtain ⟨⟨notices, htrace⟩, hheld, hexports, hresult⟩ :=
      ({ a with queue := rest } : Activity σ).enter_eq (.handed event) names.onEvent (body event)
    have hqueue := queue_enter { a with queue := rest } (.handed event) names.onEvent (body event)
    have hhanded : handed (a.trace ++ .handed event :: noted notices) = handed a.trace ++ [event] := by
      have hcons : handed (.handed event :: noted notices) = event :: handed (noted notices) := rfl
      rw [handed_append, hcons, handed_noted]
    have hend : endOf body a.held [] event = ((body event).run { guest := a.runtime.guest, shared := a.shared }).2 := rfl
    rw [← hend] at hresult
    rcases hentered : ({ a with queue := rest } : Activity σ).enter (.handed event) names.onEvent (body event) with
      ⟨b, failure | done⟩ <;> rw [hentered] at htrace hheld hexports hresult hqueue <;>
      cases hended : endOf body a.held [] event <;> rw [hended] at hresult <;> cases hresult
    · rw [deliver_of_trap hevents h hentered]
      refine ⟨[event], (congrArg handed htrace).trans hhanded, ?_⟩
      rw [hqueue, hheld]
      exact .trapped hended rest
    · obtain ⟨taken, htaken, hover⟩ := ih b ((congrArg Exports.onEvent hexports).trans h) hqueue
      have hrest : b.held = runAll [body event] a.held := hheld
      rw [hrest] at hover
      rw [deliver_of_done hevents h hentered]
      refine ⟨event :: taken, ?_, hover.cons hended⟩
      have hfirst : handed b.trace = handed a.trace ++ [event] := (congrArg handed htrace).trans hhanded
      rw [htaken, hfirst, List.append_assoc]
      rfl

theorem dropsAll_deliver (h : a.runtime.exports.onEvent = none) :
    ∃ taken, handed (deliver names a).1.trace = handed a.trace ++ taken ∧
      DropsAll a.held taken (deliver names a).1.queue (deliver names a).2 (deliver names a).1.held := by
  generalize hevents : a.queue = events
  induction events generalizing a with
  | nil =>
    rw [deliver_of_nil hevents]
    exact ⟨[], (List.append_nil _).symm, rfl, rfl, hevents, rfl⟩
  | cons event rest ih =>
    obtain ⟨taken, htaken, hdrops⟩ :=
      ih (({ a with queue := rest } : Activity σ).record [.noted (.eventDropped event names.onEvent)]) h rfl
    rw [deliver_of_unheard hevents h]
    refine ⟨taken, ?_, hdrops⟩
    rw [htaken, trace_record, handed_append]
    exact congrArg (· ++ taken) (List.append_nil _)

end Activity

/-! ## Operations on scripts -/

namespace Script

/-- does the script's module export a function of the right name that takes the four words of an event and answers
nothing? -/
def hears (s : Script) : Bool :=
  match s.source.module? with
  | some (.ok m) =>
    match m.export? s.names.onEvent with
    | some (.function params results _) => params = [.i32, .i32, .i32, .i32] && results = []
    | _ => false
  | _ => false

/-- a guest that is loaded takes events if the script's module says so -/
def Attuned (s : Script) : Prop :=
  ∀ runtime, s.runtime = some runtime → runtime.exports.onEvent.isSome = s.hears

theorem hears_eq {s : Script} {m : Module} (h : s.source.module? = some (.ok m)) :
    s.hears = (Exports.function? m s.names.onEvent Exports.eventParams).isSome := by
  rw [hears, h]
  unfold Exports.function? Exports.eventParams
  dsimp only
  cases m.export? s.names.onEvent with
  | none => rfl
  | some item =>
    cases item with
    | function params results body =>
      cases results with
      | nil => by_cases hparams : params = [.i32, .i32, .i32, .i32] <;> simp [hparams]
      | cons => simp
    | memory | global => rfl

theorem attuned_of_none {s : Script} (h : s.runtime = none) : s.Attuned := by
  intro runtime hruntime
  rw [h] at hruntime
  cases hruntime

variable {σ : Type}

/-- a script stays attuned to its module in an operation, and the events that it is handed are the first that waited -/
structure Keeps {α : Type} (s : Script) (o : Outcome σ α) : Prop where
  hears : o.script.hears = s.hears
  attuned : o.script.Attuned
  conserved : s.hears → handed o.trace ++ o.script.waiting = s.waiting

theorem keeps_of_idle {α : Type} {s : Script} {o : Outcome σ α} (h : s.Attuned) (hscript : o.script = s)
    (htrace : handed o.trace = []) : s.Keeps o := by
  refine ⟨by rw [hscript], by rw [hscript]; exact h, ?_⟩
  intro _
  rw [htrace, hscript]
  rfl

variable [SceneBackend σ]

theorem keeps_instantiate {s : Script} (h : s.Attuned) (shared : SharedSession σ) :
    s.Keeps (s.instantiate shared) := by
  unfold instantiate
  split
  · exact keeps_of_idle h rfl rfl
  · exact keeps_of_idle h rfl rfl
  · exact keeps_of_idle h rfl rfl
  · split
    · exact ⟨rfl, h, fun _ => rfl⟩
    · exact ⟨rfl, h, fun _ => rfl⟩
    · rename_i m hm
      have hfetched : ∀ notices, handed (.fetched :: noted notices) = [] := handed_noted
      have hqueue := m.queue_load s.setting shared s.waiting
      dsimp only
      split
      · rename_i runtime hruntime
        refine ⟨rfl, ?_, ?_⟩
        · intro other hother
          cases hother
          have hhears : s.hears = (Exports.function? m s.names.onEvent Exports.eventParams).isSome := hears_eq hm
          rw [Module.exports_of_load hruntime]
          exact Option.isSome_map.trans hhears.symm
        · intro _
          rw [hfetched]
          exact hqueue
      · refine ⟨rfl, h, ?_⟩
        intro _
        rw [hfetched]
        exact hqueue

theorem attuned_of_exports {s s' : Script} {runtime runtime' : Runtime} (h : s.Attuned) (hruntime : s.runtime = some runtime)
    (hruntime' : s'.runtime = some runtime') (hexports : runtime'.exports = runtime.exports) (hhears : s'.hears = s.hears) :
    s'.Attuned := by
  intro other hother
  rw [hruntime'] at hother
  cases hother
  rw [hexports, hhears]
  exact h runtime hruntime

theorem keeps_dispatch {s : Script} (h : s.Attuned) (event : ScriptEvent) (shared : SharedSession σ) :
    s.Keeps (s.dispatch event shared) := by
  unfold dispatch
  split
  · rename_i started runtime hstate hruntime
    have hcourse := Activity.course_react (s.atWork runtime shared) s.names event started
    have hhanded := Activity.handed_react (s.atWork runtime shared) s.names event started
    refine ⟨rfl, attuned_of_exports h hruntime rfl hcourse.plays.exports rfl, ?_⟩
    intro _
    calc handed (react s.names event started (s.atWork runtime shared)).1.trace ++ _
      _ = [] ++ _ := congrArg (· ++ _) hhanded
      _ = s.waiting := hcourse.queue_eq nofun
  · exact keeps_of_idle h rfl rfl

theorem keeps_deliver {s : Script} (h : s.Attuned) (shared : SharedSession σ) : s.Keeps (s.deliver shared) := by
  unfold deliver
  split
  · rename_i runtime hruntime
    have hplays := (Activity.course_deliver (s.atWork runtime shared) s.names).plays
    refine ⟨rfl, attuned_of_exports h hruntime rfl hplays.exports rfl, ?_⟩
    intro hhears
    obtain ⟨body, hbody⟩ := Option.isSome_iff_exists.1 ((h runtime hruntime).trans hhears)
    obtain ⟨taken, htaken, hover⟩ := Activity.handsOver_deliver (s.atWork runtime shared) s.names hbody
    dsimp only
    rw [htaken]
    exact hover.split
  · exact keeps_of_idle h rfl rfl

theorem keeps_operate {s : Script} (h : s.Attuned) (act : ScriptAct) (shared : SharedSession σ) :
    s.Keeps (s.operate act shared) := by
  cases act with
  | instantiate => exact keeps_instantiate h shared
  | dispatch event =>
    have hkeeps := keeps_dispatch h event shared
    exact ⟨hkeeps.hears, hkeeps.attuned, hkeeps.conserved⟩
  | deliver =>
    have hkeeps := keeps_deliver h shared
    exact ⟨hkeeps.hears, hkeeps.attuned, hkeeps.conserved⟩

/-! ### What a delivery does, by the guest of the script -/

/-- what a delivery comes to: without a guest to nothing at all; a guest that takes events is handed those that wait, and
any other guest none -/
structure Delivers (s : Script) (shared : SharedSession σ) (o : Outcome σ (Except ScriptFailure Nat)) : Prop where
  unloaded : s.runtime = none → o = { answer := .ok 0, script := s, shared }
  heard : s.hears → ∀ runtime, s.runtime = some runtime → ∃ body runtime',
    runtime.exports.onEvent = some body ∧ o.script.runtime = some runtime' ∧
      HandsOver body (runtime.guest, shared) s.waiting (handed o.trace) o.script.waiting o.answer
        (runtime'.guest, o.shared)
  unheard : ¬ s.hears → ∀ runtime, s.runtime = some runtime → ∃ runtime',
    o.script.runtime = some runtime' ∧
      DropsAll (runtime.guest, shared) (handed o.trace) o.script.waiting o.answer (runtime'.guest, o.shared)

theorem delivers_deliver {s : Script} (h : s.Attuned) (shared : SharedSession σ) :
    s.Delivers shared (s.deliver shared) := by
  unfold deliver
  split
  · rename_i runtime hruntime
    refine ⟨?_, ?_, ?_⟩
    · intro hnone
      rw [hruntime] at hnone
      cases hnone
    · intro hhears other hother
      obtain rfl : runtime = other := Option.some.inj (hruntime.symm.trans hother)
      obtain ⟨body, hbody⟩ := Option.isSome_iff_exists.1 ((h runtime hruntime).trans hhears)
      obtain ⟨taken, htaken, hover⟩ := Activity.handsOver_deliver (s.atWork runtime shared) s.names hbody
      refine ⟨body, _, hbody, rfl, ?_⟩
      dsimp only
      rw [htaken]
      exact hover
    · intro hhears other hother
      obtain rfl : runtime = other := Option.some.inj (hruntime.symm.trans hother)
      have hnone : runtime.exports.onEvent = none := by
        rw [← Option.not_isSome_iff_eq_none, h runtime hruntime]
        exact hhears
      obtain ⟨taken, htaken, hdrops⟩ := Activity.dropsAll_deliver (s.atWork runtime shared) s.names hnone
      refine ⟨_, rfl, ?_⟩
      dsimp only
      rw [htaken]
      exact hdrops
  · rename_i hnone
    refine ⟨fun _ => rfl, ?_, ?_⟩ <;>
    · intro _ runtime hruntime
      rw [hnone] at hruntime
      cases hruntime

end Script

end ScriptHost
