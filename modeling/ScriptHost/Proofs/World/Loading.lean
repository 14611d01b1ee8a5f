/-
Loading leaves a world alone, and nothing reaches a script before its first update.

An instantiation changes neither the session nor any queue, and what a guest prints in its start section is lost
(`LoadsSilently`). So a script cannot ask for events before its first update; nothing is told to it, nothing waits for it,
and its guest is handed no event (`Untouched`). The script is not alone in the world: others ask for events and are told,
and each makes its calls under an id of its own (`Unstarted.named`).

- `loading_is_silent`: both, for every world, and after any acts on a world that starts without scripts.
- `loading_of_eager_guest`: a start section that asks for events and prints.
-/
import ScriptHost.Proofs.Script.Loading
import ScriptHost.Proofs.World.Delivery

namespace ScriptHost.World

variable {σ : Type}

/-! ## Where the scripts of a world come from -/

section Comes

variable [SceneHost σ]

/-- how a script of a world comes out of an act: it is new, or it was there before and was told of events, had its events
taken, or was operated on -/
inductive Comes (w : World σ) (act : Act) (id : ScriptId) (new : Script) : Prop where
  | attached (hsetting : new.setting.script = id) (hstate : new.state = .unloaded) (hruntime : new.runtime = none)
    (hwaiting : new.waiting = [])
  | told (old : Script) (hold : w.script? id = some old) (hnew : new = (w.raises id act).foldl Script.enqueue old)
  | emptied (old : Script) (hold : w.script? id = some old) (hnew : new = { old with queue := #[] })
  | operated (old : Script) (hold : w.script? id = some old) (operation : ScriptAct)
    (hact : act = .operate id operation) (hnew : new = (old.operate operation w.shared).script)

variable {w : World σ} {act : Act} {id : ScriptId} {new : Script}

theorem Comes.of_scripts {w' : World σ} (hscripts : w'.scripts = w.scripts) (hraises : w.raises id act = [])
    (h : w'.script? id = some new) : w.Comes act id new := by
  refine .told new ?_ (by rw [hraises]; rfl)
  rw [script?, ← hscripts]
  exact h

/-- one script is changed or dropped, and this is another one -/
theorem Comes.of_withScript_of_ne {w' : World σ} {other : ScriptId} {script : Option Script}
    (hscripts : w'.scripts = w.scripts) (hraises : w.raises id act = []) (hother : id ≠ other)
    (h : (w'.withScript other script).script? id = some new) : w.Comes act id new := by
  rw [script?_withScript_of_ne w' hother] at h
  exact .of_scripts hscripts hraises h

theorem comes_of_step (h : (w.step act).script? id = some new) : w.Comes act id new := by
  cases act with
  | fire node event =>
    have htold : (w.step (.fire node event)).script? id =
        (w.script? id).map ((w.raises id (.fire node event)).foldl Script.enqueue) :=
      script?_foldl_tell w _ id
    rw [htold] at h
    obtain ⟨old, hold, rfl⟩ := Option.map_eq_some_iff.1 h
    exact .told old hold rfl
  | takeEvents other =>
    rw [step, World.takeEvents] at h
    split at h
    · rename_i old hold
      by_cases hother : id = other
      · subst hother
        cases eq_some_of_script?_withScript h
        exact .emptied old hold rfl
      · exact .of_withScript_of_ne rfl rfl hother h
    · exact .of_scripts rfl rfl h
  | attach config source readings =>
    rw [script?, step, World.attach, Array.getElem?_push] at h
    split at h
    · rename_i hid
      cases h
      exact .attached (congrArg ScriptId.mk hid.symm) rfl rfl rfl
    · have hold : w.script? id = some new := h
      exact .of_scripts rfl rfl hold
  | drop other =>
    by_cases hother : id = other
    · subst hother
      cases eq_some_of_script?_withScript h
    · exact .of_withScript_of_ne rfl rfl hother h
  | operate other operation =>
    rw [step] at h
    cases hoperate : w.operate other operation with
    | none =>
      rw [hoperate] at h
      exact .of_scripts rfl rfl h
    | some st =>
      rw [hoperate] at h
      simp only [World.operate, onScript, bind, pure, Option.bind_eq_some_iff, Option.some.injEq] at hoperate
      obtain ⟨old, hold, rfl⟩ := hoperate
      by_cases hother : id = other
      · subst hother
        cases eq_some_of_script?_withScript h
        exact .operated old hold operation rfl rfl
      · exact .of_withScript_of_ne rfl rfl hother h
  | patch node p =>
    refine .of_scripts ?_ rfl h
    simp only [step, World.patch]
    split <;> rfl
  | animate node clip playState wrap =>
    refine .of_scripts ?_ rfl h
    simp only [step, World.animate]
    split <;> rfl
  | _ => exact .of_scripts rfl rfl h

end Comes

/-! ## Scripts before their first update -/

section Unstarted

variable [StoreHost σ]

/-- does an act start the guest of a script? -/
def starts (w : World σ) (id : ScriptId) : Act → Bool
  | .operate other act => other = id && (w.script? id).any (·.starts act)
  | _ => false

/-- was the guest of a script started in a run? -/
def started (w : World σ) (id : ScriptId) : List Act → Bool
  | [] => false
  | act :: rest => w.starts id act || (w.step act).started id rest

/-- an act is a call that the host itself makes in the name of a script; only a guest has its script's name, so this is
none of the things that happen to a script -/
def Act.CallsAs (id : ScriptId) : Act → Prop
  | @Act.call _ _ caller _ _ => caller = id
  | _ => False

/-- a script was not started, nothing waits for it, and no request for events was granted to it -/
structure Unstarted (w : World σ) (id : ScriptId) (past : List Request) : Prop where
  /-- every script has an id of its own -/
  named : ∀ other s, w.script? other = some s → s.Is other
  fresh : ∀ s, w.script? id = some s → s.state.hasStarted = false ∧ s.waiting = []
  recalls : w.store.Recalls past
  unasked : ∀ r ∈ past, r.subscriber.eventFor id = none

variable {w : World σ} {id : ScriptId} {past : List Request} {act : Act}

theorem Unstarted.untold (h : w.Unstarted id past) (node : NodeId) (event : EventKind) :
    (w.store.subscribers node event).filterMap (·.eventFor id) = [] := by
  rw [List.filterMap_eq_nil_iff, h.recalls.subscribers_eq]
  intro subscriber hsubscriber
  split at hsubscriber
  · obtain ⟨r, hr, rfl⟩ := List.mem_map.1 hsubscriber
    exact h.unasked r (List.mem_filter.1 hr).1
  · cases hsubscriber

theorem Unstarted.raises_eq (h : w.Unstarted id past) (act : Act) : w.raises id act = [] := by
  cases act with
  | fire node event => exact h.untold node event
  | _ => rfl

theorem named_step (h : w.Unstarted id past) (act : Act) {other : ScriptId} {s : Script}
    (hs : (w.step act).script? other = some s) : s.Is other := by
  cases comes_of_step hs with
  | attached hsetting hstate hnone =>
    refine ⟨hsetting, fun runtime hruntime => ?_⟩
    rw [hnone] at hruntime
    cases hruntime
  | told old hold hnew =>
    rw [hnew, Script.foldl_enqueue]
    exact ⟨(h.named other old hold).setting, (h.named other old hold).guest⟩
  | emptied old hold hnew =>
    rw [hnew]
    exact ⟨(h.named other old hold).setting, (h.named other old hold).guest⟩
  | operated old hold operation hact hnew =>
    rw [hnew]
    exact Script.is_operate (h.named other old hold) operation w.shared

theorem fresh_step (h : w.Unstarted id past) (hstarts : w.starts id act = false) {s : Script}
    (hs : (w.step act).script? id = some s) : s.state.hasStarted = false ∧ s.waiting = [] := by
  cases comes_of_step hs with
  | attached hsetting hstate hruntime hwaiting => exact ⟨by rw [hstate]; rfl, hwaiting⟩
  | told old hold hnew =>
    rw [hnew, h.raises_eq]
    exact h.fresh old hold
  | emptied old hold hnew =>
    rw [hnew]
    exact ⟨(h.fresh old hold).1, rfl⟩
  | operated old hold operation hact hnew =>
    obtain ⟨hstarted, hwaiting⟩ := h.fresh old hold
    by_cases hoperation : operation = .instantiate
    · subst hoperation
      rw [hnew]
      exact ⟨(old.hasStarted_instantiate w.shared).trans hstarted, (old.silent_instantiate w.shared).waiting.trans hwaiting⟩
    · have hnot : old.starts operation = false := by
        rw [hact, starts, hold] at hstarts
        simpa using hstarts
      obtain ⟨answer, hidle⟩ := Script.idle_operate hstarted hwaiting hoperation hnot w.shared
      rw [hnew, hidle]
      exact ⟨hstarted, hwaiting⟩

/-- a script that is not started makes no scene call in an operation and is handed no event -/
theorem idle_operate (h : w.Unstarted id past) {operation : ScriptAct}
    (hstarts : w.starts id (.operate id operation) = false) {old : Script} (hold : w.script? id = some old) :
    old.made w.shared (old.operate operation w.shared).trace = [] ∧
      handed (old.operate operation w.shared).trace = [] := by
  obtain ⟨hstarted, hwaiting⟩ := h.fresh old hold
  by_cases hoperation : operation = .instantiate
  · subst hoperation
    exact ⟨old.made_instantiate w.shared, old.handed_instantiate w.shared⟩
  · have hnot : old.starts operation = false := by
      rw [starts, hold] at hstarts
      simpa using hstarts
    obtain ⟨answer, hidle⟩ := Script.idle_operate hstarted hwaiting hoperation hnot w.shared
    rw [hidle]
    exact ⟨old.made_nil w.shared, rfl⟩

theorem hands_eq (h : w.Unstarted id past) (hstarts : w.starts id act = false) : w.hands id act = [] := by
  cases act with
  | operate other operation =>
    rw [hands]
    cases hoperate : w.operate other operation with
    | none => rfl
    | some st =>
      simp only [World.operate, onScript, bind, pure, Option.bind_eq_some_iff, Option.some.injEq] at hoperate
      obtain ⟨old, hold, rfl⟩ := hoperate
      by_cases hother : other = id
      · subst hother
        exact (if_pos rfl).trans (idle_operate h hstarts hold).2
      · exact if_neg hother
  | _ => rfl

/-! ### Requests -/

theorem eventFor_of_caller {caller : ScriptId} (hcaller : caller ≠ id) {r : Request}
    (hr : ∃ event, r.subscriber = .script caller event) : r.subscriber.eventFor id = none := by
  obtain ⟨event, hevent⟩ := hr
  rw [hevent]
  exact if_neg hcaller

/-- a request that is granted with a call is made in the name of the caller -/
theorem caller_of_granted {μ : Type} [LinearMemory μ] {caller : ScriptId} {m : μ} {s : Session σ} {call : SceneCall}
    {r : Request} (hr : r ∈ call.granted caller m s) : ∃ event, r.subscriber = .script caller event := by
  rw [SceneCall.granted] at hr
  split at hr
  · rw [Option.mem_toList] at hr
    cases call with
    | registerEvent d code userData =>
      simp only [SceneCall.request?, bind, pure, Option.bind_eq_some_iff, Option.some.injEq] at hr
      obtain ⟨_, -, _, -, rfl⟩ := hr
      exact ⟨_, rfl⟩
    | _ => cases hr
  · cases hr

theorem caller_of_granted_calls {caller : ScriptId} {s : Session σ} {calls : List Made} {r : Request}
    (hr : r ∈ s.granted caller calls) : ∃ event, r.subscriber = .script caller event := by
  induction calls generalizing s with
  | nil => cases hr
  | cons made rest ih =>
    rcases List.mem_append.1 hr with hr | hr
    · exact caller_of_granted hr
    · exact ih hr

theorem unasked_step (h : w.Unstarted id past) (hcalls : ¬ act.CallsAs id) (hstarts : w.starts id act = false)
    {r : Request} (hr : r ∈ w.granted act) : r.subscriber.eventFor id = none := by
  cases act with
  | subscribe node event =>
    rw [granted] at hr
    split at hr
    · rw [List.mem_singleton.1 hr]
      rfl
    · cases hr
  | call caller m call => exact eventFor_of_caller hcalls (caller_of_granted hr)
  | operate other operation =>
    rw [granted] at hr
    split at hr
    · rename_i old st hold hoperate
      simp only [World.operate, onScript, hold, bind, pure, Option.bind_some, Option.some.injEq] at hoperate
      subst hoperate
      by_cases hother : other = id
      · subst hother
        rw [(idle_operate h hstarts hold).1] at hr
        cases hr
      · have hcaller := (h.named other old hold).guestId_eq
        rw [hcaller] at hr
        exact eventFor_of_caller hother (caller_of_granted_calls hr)
    · cases hr
  | _ => cases hr

theorem unstarted_step (h : w.Unstarted id past) (hcalls : ¬ act.CallsAs id) (hstarts : w.starts id act = false) :
    (w.step act).Unstarted id (past ++ w.granted act) where
  named _ _ := named_step h act
  fresh _ := fresh_step h hstarts
  recalls := recalls_step h.recalls act
  unasked r hr := by
    rcases List.mem_append.1 hr with hr | hr
    · exact h.unasked r hr
    · exact unasked_step h hcalls hstarts hr

/-- what every act keeps, a run keeps, and in none of its acts an event is handed to the script -/
theorem unstarted_run (h : w.Unstarted id past) (acts : List Act) (hcalls : ∀ act ∈ acts, ¬ act.CallsAs id)
    (hstarted : w.started id acts = false) :
    (w.run acts).Unstarted id (past ++ w.history acts) ∧ w.deliveries id acts = [] := by
  induction acts generalizing w past with
  | nil =>
    rw [history, List.append_nil]
    exact ⟨h, rfl⟩
  | cons act rest ih =>
    obtain ⟨hact, hrest⟩ := List.forall_mem_cons.1 hcalls
    rw [started, Bool.or_eq_false_iff] at hstarted
    obtain ⟨hnow, hlater⟩ := hstarted
    obtain ⟨hrun, hdeliveries⟩ := ih (unstarted_step h hact hnow) hrest hlater
    rw [run_cons, history, ← List.append_assoc, deliveries, hands_eq h hnow, List.nil_append]
    exact ⟨hrun, hdeliveries⟩

/-! ## Worlds that start without scripts -/

/-- there is no script yet, and nobody has asked for events -/
structure Bare (w : World σ) : Prop where
  scripts : w.scripts = #[]
  unasked : ∀ node event, w.store.subscribers node event = []

/-- an instantiation leaves the session and every queue as they were, and prints nothing -/
structure LoadsSilently (w : World σ) (st : Step σ (Option (Except ScriptFailure Unit))) : Prop where
  /-- so the descriptors, the elements, the subscriptions and the journal too -/
  shared : st.world.shared = w.shared
  queues : ∀ id, st.world.queue? id = w.queue? id
  hostly : Hostly (notices st.trace)

/-- no event has reached a script, and none is on its way -/
structure Untouched (w : World σ) (id : ScriptId) (taken : List Event) : Prop where
  waiting : ∀ s, w.script? id = some s → s.waiting = []
  unsubscribed : ∀ node event, ∀ subscriber ∈ w.store.subscribers node event, subscriber.eventFor id = none
  /-- a delivery has nothing to do -/
  deliver : ∀ s, w.script? id = some s → w.deliver id = some { answer := .ok 0, world := w }
  /-- its guest was not handed any event -/
  uncalled : taken = []

theorem Bare.unstarted (h : w.Bare) (id : ScriptId) : w.Unstarted id [] := by
  have hnone : ∀ other s, w.script? other ≠ some s := by
    intro other s hs
    rw [script?, h.scripts] at hs
    cases hs
  exact {
    named := fun other s hs => absurd hs (hnone other s)
    fresh := fun s hs => absurd hs (hnone id s)
    recalls := ⟨fun node _ event => h.unasked node event, List.forall_mem_nil _⟩
    unasked := List.forall_mem_nil _ }

omit [StoreHost σ] in
theorem silent_onScript {operation : Script → SharedSession σ → Outcome σ (Option (Except ScriptFailure Unit))}
    {st : Step σ (Option (Except ScriptFailure Unit))}
    (hsilent : ∀ (s : Script) shared, s.Silent shared (operation s shared))
    (h : w.onScript id operation = some st) : w.LoadsSilently st := by
  simp only [onScript, bind, pure, Option.bind_eq_some_iff, Option.some.injEq] at h
  obtain ⟨old, hold, rfl⟩ := h
  refine ⟨(hsilent old w.shared).shared, ?_, (hsilent old w.shared).hostly⟩
  intro other
  have hshared : ({ w with shared := (operation old w.shared).shared } : World σ).script? id = some old := hold
  by_cases hother : other = id
  · subst hother
    rw [queue?, script?_withScript_self hshared, queue?, hold]
    exact congrArg some (hsilent old w.shared).waiting
  · rw [queue?, script?_withScript_of_ne _ hother]
    rfl

theorem Unstarted.untouched (h : w.Unstarted id past) : w.Untouched id [] where
  waiting s hs := (h.fresh s hs).2
  unsubscribed node event subscriber hsubscriber := List.filterMap_eq_nil_iff.1 (h.untold node event) subscriber hsubscriber
  deliver s hs := by
    rw [World.deliver, onScript, hs]
    simp only [bind, pure, Option.bind_some, Script.deliver_of_nothing (h.fresh s hs).2, withScript_self hs]
  uncalled := rfl

/-- **Loading is silent.** Whatever a fetch yields, and whatever the start section of a module does, an instantiation
touches neither the session nor a queue, and prints nothing; nor does one that is given up while the module is fetched. So
in a world that starts without scripts no event reaches a script before its first update, whatever else happens. A script
whose fetch was given up is there as one with a source that is pending. -/
theorem loading_is_silent (w : World σ) :
    (∀ id st, w.instantiate id = some st → w.LoadsSilently st) ∧
      (∀ id st, w.onScript id Script.abandon = some st → w.LoadsSilently st) ∧
      (w.Bare → ∀ acts id, (∀ act ∈ acts, ¬ act.CallsAs id) → w.started id acts = false →
        (w.run acts).Untouched id (w.deliveries id acts)) := by
  refine ⟨fun id st h => silent_onScript Script.silent_instantiate h,
    fun id st h => silent_onScript Script.silent_abandon h, ?_⟩
  intro hbare acts id hcalls hstarted
  obtain ⟨hrun, hdeliveries⟩ := unstarted_run (hbare.unstarted id) acts hcalls hstarted
  rw [hdeliveries]
  exact hrun.untouched

end Unstarted

/-- a module that asks for events and prints while it is linked, and takes events -/
def eager : Module where
  imports := [⟨"flo_scene", "register_event", [.i32, .i32, .i32], [.i32]⟩,
    ⟨"wasi_snapshot_preview1", "fd_write", [.i32, .i32, .i32, .i32], [.i32]⟩]
  pages := some 1
  start := .call 0 [.i32 10, .i32 2, .i32 7] fun _ => .call 1 [.i32 1, .i32 0, .i32 1, .i32 8] fun _ => .done
  exports := [("memory", .memory), ("on_element_event", .function [.i32, .i32, .i32, .i32] [] fun _ => .done)]

/-- a text, and a script with that module -/
def eagerStart : List Act :=
  [.addRegistered { data := .text {} }, .attach {} (.fetched (.ok eager)) fun _ => ⟨0, 0, .error ""⟩]

/-- the script is instantiated, the text is selected, and events are delivered -/
def eagerLife : List Act :=
  eagerStart ++ [.operate ⟨0⟩ .instantiate, .fire ⟨0⟩ .select, .operate ⟨0⟩ .deliver]

/-- the guest is loaded, its request for events came to nothing, and the selection does not reach it -/
theorem loading_of_eager_guest :
    (∃ st, (blank.run eagerStart).instantiate ⟨0⟩ = some st ∧ st.answer = some (.ok ()) ∧
        st.world.shared = (blank.run eagerStart).shared) ∧
      blank.started ⟨0⟩ eagerLife = false ∧ (blank.run eagerLife).queue? ⟨0⟩ = some [] ∧
      blank.deliveries ⟨0⟩ eagerLife = [] := by
  have hbare : blank.Bare := ⟨rfl, fun _ _ => rfl⟩
  have hcalls : ∀ act ∈ eagerLife, ¬ act.CallsAs ⟨0⟩ := by simp [eagerLife, eagerStart, Act.CallsAs]
  have hstarted : blank.started ⟨0⟩ eagerLife = false := by decide +kernel
  have huntouched := (loading_is_silent blank).2.2 hbare eagerLife ⟨0⟩ hcalls hstarted
  refine ⟨?_, hstarted, ?_, huntouched.uncalled⟩
  · have hanswer : ((blank.run eagerStart).instantiate ⟨0⟩).map (·.answer) = some (some (.ok ())) := by decide +kernel
    obtain ⟨st, hst, hok⟩ := Option.map_eq_some_iff.1 hanswer
    exact ⟨st, hst, hok, ((loading_is_silent (blank.run eagerStart)).1 ⟨0⟩ st hst).shared⟩
  · have hthere : ((blank.run eagerLife).script? ⟨0⟩).isSome := by decide +kernel
    obtain ⟨s, hs⟩ := Option.isSome_iff_exists.1 hthere
    rw [queue?, hs, Option.map_some, huntouched.waiting s hs]

end ScriptHost.World
