/-
What loading a script does to the rest of the world: nothing. The start section of a module may call every function that
it imports, but the host cannot reach the guest's memory yet. So no call reaches the session (`Module.shared_load`), none
prints anything (`Program.hostly_run`), and an instantiation changes neither the session nor the queue, whether it
succeeds, fails or never comes to an end (`Script.silent_instantiate`).

A loaded script does nothing before its first update either, as long as nothing waits for it (`Script.idle_operate`). And a
guest makes its calls in the name of its script from the beginning to the end (`Script.is_operate`).
-/
import ScriptHost.Proofs.Script.Delivery
import ScriptHost.Proofs.Script.Life

namespace ScriptHost

variable {σ : Type} [SceneBackend σ]

/-! ## Notices -/

/-- all notices are the host's own: the guest has printed none of them -/
def Hostly (notices : List Notice) : Prop := ∀ n ∈ notices, n.channel = .host

theorem hostly_nil : Hostly [] := nofun

theorem Hostly.append {notices later : List Notice} (h : Hostly notices) (hlater : Hostly later) :
    Hostly (notices ++ later) := by
  intro n hn
  rcases List.mem_append.1 hn with hn | hn
  · exact h n hn
  · exact hlater n hn

theorem hostly_singleton {n : Notice} (h : n.channel = .host) : Hostly [n] := by
  intro other hother
  rw [List.mem_singleton.1 hother]
  exact h

theorem notices_noted (l : List Notice) : notices (noted l) = l := by
  simp [notices, noted, List.filterMap_map, Function.comp_def, Entry.notice?]

theorem hostly_unsupportedNotice (name : String) (args : List Word) : Hostly [unsupportedNotice name args] := by
  apply hostly_singleton
  unfold unsupportedNotice
  split <;> rfl

/-! ## Programs without their memory -/

omit [SceneBackend σ] in
theorem Turn.hostly_report {t : Turn σ} (h : Hostly t.log) (name : String) (args : List Word) :
    Hostly (t.report name args).log := by
  unfold Turn.report
  split
  · exact h
  · exact (hostly_unsupportedNotice name args).append h

/-- without its memory a guest can call, but only the host's own notices come of it -/
theorem HostFunction.hostly_call (f : HostFunction) (args : List Word) {t : Turn σ} (hbound : t.guest.bound = false)
    (h : Hostly t.log) : Hostly (f.call args t).1.log := by
  cases f with
  | scene f =>
    rw [HostFunction.call]
    split
    · simp only [Turn.sceneCall, hbound, Bool.false_and, Bool.false_eq_true, if_false]
      exact h
    · exact h
  | system f =>
    rw [HostFunction.call]
    split
    · simp only [Turn.systemCall, hbound, Bool.false_eq_true, if_false]
      exact h
    · exact h
  | unsupported f => exact Turn.hostly_report h f.name args

theorem Program.hostly_run (program : Program) {t : Turn σ} (hbound : t.guest.bound = false) (h : Hostly t.log) :
    Hostly (program.run t).1.log := by
  induction program generalizing t with
  | done | trap => exact h
  | look next ih => exact ih t.guest.state hbound h
  | change f next ih => exact ih hbound h
  | call position args next ih =>
    rw [Program.run]
    split
    · exact h
    · rename_i f hf
      have hcall := f.hostly_call args hbound h
      have hkept := (f.follows_call args t).bound.trans hbound
      rcases hresult : f.call args t with ⟨t', reason | answer⟩
      · rw [hresult] at hcall
        exact hcall
      · rw [hresult] at hcall hkept
        exact ih answer hkept hcall

/-! ## Modules -/

theorem Exports.hostly_notices (m : Module) (names : ExportNames) : Hostly (Exports.notices m names) := by
  have hignored : ∀ name params, Hostly (ignored m name params) := by
    intro name params
    unfold ignored
    split
    · exact hostly_singleton rfl
    · exact hostly_nil
  exact ((((hignored _ _).append (hignored _ _)).append (hignored _ _)).append (hignored _ _)).append (hignored _ _)

theorem Module.guest_of_ok {m : Module} {setting : Setting} {guest : Guest} (h : m.guest setting = .ok guest) :
    guest.bound = false ∧ guest.script = setting.script := by
  unfold Module.guest at h
  split at h <;> cases h
  exact ⟨rfl, rfl⟩

theorem Module.hostly_load (m : Module) (setting : Setting) (shared : SharedSession σ) (queue : List Event) :
    Hostly (m.load setting shared queue).notices := by
  unfold Module.load
  split
  · exact hostly_nil
  · rename_i guest hguest
    have hrun : Hostly (m.start.run { guest, shared, queue }).1.notices := by
      have hlog := m.start.hostly_run (t := { guest, shared, queue }) (guest_of_ok hguest).1 hostly_nil
      exact fun n hn => hlog n (List.mem_reverse.1 hn)
    split <;> rename_i ht <;> rw [ht] at hrun
    · exact hrun
    · split
      · exact hrun.append (Exports.hostly_notices m _)
      · exact hrun

/-! ## Scripts -/

namespace Script

/-- an operation leaves the session and the queue as they were, and prints nothing -/
structure Silent {α : Type} (s : Script) (shared : SharedSession σ) (o : Outcome σ α) : Prop where
  shared : o.shared = shared
  waiting : o.script.waiting = s.waiting
  hostly : Hostly (notices o.trace)

theorem silent_instantiate (s : Script) (shared : SharedSession σ) : s.Silent shared (s.instantiate shared) := by
  unfold instantiate
  split
  · exact ⟨rfl, rfl, hostly_nil⟩
  · exact ⟨rfl, rfl, hostly_nil⟩
  · exact ⟨rfl, rfl, hostly_nil⟩
  · split
    · exact ⟨rfl, rfl, hostly_nil⟩
    · exact ⟨rfl, rfl, hostly_singleton rfl⟩
    · rename_i m hm
      have hload := m.hostly_load s.setting shared s.waiting
      have hfetched : ∀ l, notices (.fetched :: noted l) = l := notices_noted
      dsimp only
      split
      · refine ⟨m.shared_load s.setting shared s.waiting, m.queue_load s.setting shared s.waiting, ?_⟩
        rw [hfetched]
        exact hload.append (hostly_singleton rfl)
      · refine ⟨m.shared_load s.setting shared s.waiting, m.queue_load s.setting shared s.waiting, ?_⟩
        rw [hfetched]
        exact hload.append (hostly_singleton rfl)

/-- an instantiation that is given up before the fetch has come to an end: as if it never came to one -/
def abandon (s : Script) (shared : SharedSession σ) : Outcome σ (Option (Except ScriptFailure Unit)) :=
  let o := { s with source := .pending }.instantiate shared
  { o with script := { o.script with source := s.source } }

theorem silent_abandon (s : Script) (shared : SharedSession σ) : s.Silent shared (s.abandon shared) :=
  have hsilent := ({ s with source := .pending } : Script).silent_instantiate shared
  ⟨hsilent.shared, hsilent.waiting, hsilent.hostly⟩

/-- an instantiation makes no scene call -/
theorem made_instantiate (s : Script) (shared : SharedSession σ) :
    s.made shared (s.instantiate shared).trace = [] := by
  unfold instantiate
  split
  · exact s.made_nil shared
  · exact s.made_nil shared
  · exact s.made_nil shared
  · split
    · exact s.made_fetched shared []
    · exact s.made_fetched shared [_]
    · dsimp only
      split <;> exact s.made_fetched shared _

theorem handed_instantiate (s : Script) (shared : SharedSession σ) :
    handed (s.instantiate shared).trace = [] := by
  unfold instantiate
  split
  · rfl
  · rfl
  · rfl
  · split
    · rfl
    · rfl
    · dsimp only
      split <;> exact handed_noted _

theorem hasStarted_instantiate (s : Script) (shared : SharedSession σ) :
    (s.instantiate shared).script.state.hasStarted = s.state.hasStarted := by
  rcases s.instantiate_cases shared with ⟨-, -, -, hstarted⟩ | ⟨-, hstarted, hstate, -⟩
  · exact hstarted
  · rw [hstate, hstarted]
    rfl

/-- only a delivery takes out events that wait -/
theorem waiting_dispatch (s : Script) (event : ScriptEvent) (shared : SharedSession σ) :
    (s.dispatch event shared).script.waiting = s.waiting := by
  unfold dispatch
  split
  · rename_i started runtime hstate hruntime
    exact (Activity.course_react (s.atWork runtime shared) s.names event started).queue_eq nofun
  · rfl

/-- does an operation start the script's guest? -/
def starts (s : Script) (act : ScriptAct) : Bool := act = .dispatch .update && s.state.isInitialized

/-- a delivery of a script for which nothing waits does nothing -/
theorem deliver_of_nothing {s : Script} (hwaiting : s.waiting = []) (shared : SharedSession σ) :
    s.deliver shared = { answer := .ok 0, script := s, shared } := by
  unfold deliver
  split
  · rename_i runtime hruntime
    have hidle : Activity.deliver s.names (s.atWork runtime shared) = (s.atWork runtime shared, .ok 0) :=
      Activity.deliver_of_nil hwaiting
    have hkept : s.resume (s.atWork runtime shared) = s := by
      simp only [resume, atWork, ← hruntime]
      rfl
    simp only [hidle, hkept]
    rfl
  · rfl

/-- a script that was not started, for which nothing waits, does nothing but be instantiated and started -/
theorem idle_operate {s : Script} (hstarted : s.state.hasStarted = false) (hwaiting : s.waiting = []) {act : ScriptAct}
    (hact : act ≠ .instantiate) (hstarts : s.starts act = false) (shared : SharedSession σ) :
    ∃ answer, s.operate act shared = { answer, script := s, shared } := by
  cases act with
  | instantiate => exact absurd rfl hact
  | deliver => exact ⟨_, by rw [operate, deliver_of_nothing hwaiting]⟩
  | dispatch event =>
    obtain ⟨setting, source, state, runtime, queue⟩ := s
    cases state with
    | unloaded | instantiating | failed => exact ⟨_, rfl⟩
    | initialized started =>
      cases hstarted
      cases event with
      | update => cases hstarts
      | select => cases runtime <;> exact ⟨_, rfl⟩

/-- the script makes its calls under an id, and so does its guest -/
structure Is (s : Script) (id : ScriptId) : Prop where
  setting : s.setting.script = id
  guest : ∀ runtime, s.runtime = some runtime → runtime.guest.script = id

theorem Is.guestId_eq {s : Script} {id : ScriptId} (h : s.Is id) : s.guestId = id := by
  unfold guestId
  split
  · exact h.guest _ ‹_›
  · exact h.setting

theorem script_runAll (programs : List Program) (held : Guest × SharedSession σ) :
    (runAll programs held).1.script = held.1.script := by
  induction programs generalizing held with
  | nil => rfl
  | cons program rest ih =>
    have hrun := program.follows_run { guest := held.1, shared := held.2 }
    exact (ih (runAll [program] held)).trans hrun.script

theorem setting_operate (s : Script) (act : ScriptAct) (shared : SharedSession σ) :
    (s.operate act shared).script.setting = s.setting := by
  cases act with
  | instantiate =>
    simp only [operate, instantiate]
    repeat' split
    all_goals rfl
  | dispatch event =>
    simp only [operate, dispatch]
    split <;> rfl
  | deliver =>
    simp only [operate, deliver]
    split <;> rfl

theorem script_of_load {m : Module} {setting : Setting} {shared : SharedSession σ} {queue : List Event} {runtime : Runtime}
    (h : (m.load setting shared queue).result = .ok runtime) : runtime.guest.script = setting.script := by
  unfold Module.load at h
  split at h
  · cases h
  · rename_i guest hguest
    have hscript := (m.start.follows_run { guest, shared, queue }).script
    rw [(Module.guest_of_ok hguest).2] at hscript
    split at h <;> rename_i ht <;> rw [ht] at hscript
    · cases h
    · split at h <;> cases h
      exact hscript

theorem is_instantiate {s : Script} {id : ScriptId} (h : s.Is id) (shared : SharedSession σ) :
    (s.instantiate shared).script.Is id := by
  refine ⟨(congrArg Setting.script (s.setting_operate .instantiate shared)).trans h.setting, ?_⟩
  unfold instantiate
  split
  · exact h.guest
  · exact h.guest
  · exact h.guest
  · split
    · exact h.guest
    · exact h.guest
    · dsimp only
      split
      · rename_i runtime hruntime
        intro other hother
        cases hother
        exact (script_of_load hruntime).trans h.setting
      · exact h.guest

/-- a guest at work keeps the id of its script -/
theorem Is.of_course {s s' : Script} {id : ScriptId} {shared : SharedSession σ} {runtime : Runtime} {kind : Entry → Prop}
    {a : Activity σ} {answer : Except ScriptFailure Unit} (h : s.Is id) (hruntime : s.runtime = some runtime)
    (hcourse : Activity.Course kind (s.atWork runtime shared) a answer) (hsetting : s'.setting = s.setting)
    (hruntime' : s'.runtime = some a.runtime) : s'.Is id := by
  obtain ⟨-, block, -, hheld⟩ := hcourse.plays
  refine ⟨hsetting ▸ h.setting, ?_⟩
  intro other hother
  rw [hruntime'] at hother
  cases hother
  calc a.runtime.guest.script
    _ = runtime.guest.script := (congrArg (·.1.script) hheld).trans (script_runAll _ (runtime.guest, shared))
    _ = id := h.guest runtime hruntime

/-- a script keeps its id in every operation -/
theorem is_operate {s : Script} {id : ScriptId} (h : s.Is id) (act : ScriptAct) (shared : SharedSession σ) :
    (s.operate act shared).script.Is id := by
  cases act with
  | instantiate => exact is_instantiate h shared
  | dispatch event =>
    rw [operate, dispatch]
    split
    · rename_i started runtime hstate hruntime
      exact h.of_course hruntime (Activity.course_react (s.atWork runtime shared) s.names event started) rfl rfl
    · exact h
  | deliver =>
    rw [operate, deliver]
    split
    · rename_i runtime hruntime
      exact h.of_course hruntime (Activity.course_deliver (s.atWork runtime shared) s.names) rfl rfl
    · exact h

end Script

end ScriptHost
