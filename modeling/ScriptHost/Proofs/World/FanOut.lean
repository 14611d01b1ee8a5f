/-
Events go to everyone who has asked for them. Whatever has happened to a world, the subscriptions of a node that is in
the scene are the requests for its events that were granted in the past, in order (`recalls_run`). So an event that the
node raises is told once for each of them, and a script finds it in its queue as often as it has asked, each time with
the words of that request.

- `fan_out_conserves`: this, after any acts in any order; and nothing but a raised event puts an event into a queue.
- `fan_out_three_times`: a script asks twice for an event and the host once, while another script is refused; after the
  node has left the scene nobody is told any more.
-/
import ScriptHost.Proofs.World.History

namespace ScriptHost

/-- the event that a subscription brings to a script, if the script made it -/
def Subscriber.eventFor (id : ScriptId) : Subscriber → Option Event
  | .script caller event => if caller = id then some event else none
  | .host => none

theorem Script.waiting_enqueue (s : Script) (event : Event) : (s.enqueue event).waiting = s.waiting ++ [event] :=
  Array.toList_push

theorem Script.foldl_enqueue (s : Script) (events : List Event) :
    events.foldl Script.enqueue s = { s with queue := (s.waiting ++ events).toArray } := by
  induction events generalizing s with
  | nil =>
    rw [List.append_nil]
    rfl
  | cons event rest ih =>
    rw [List.foldl_cons, ih, waiting_enqueue, List.append_assoc]
    rfl

theorem Script.waiting_foldl_enqueue (s : Script) (events : List Event) :
    (events.foldl Script.enqueue s).waiting = s.waiting ++ events :=
  congrArg Script.waiting (s.foldl_enqueue events)

namespace World

/-! ## Queues -/

section Queue

variable {σ : Type}

/-- the events that wait for a script, unless it was dropped -/
def queue? (w : World σ) (id : ScriptId) : Option (List Event) := (w.script? id).map Script.waiting

theorem script?_tell (w : World σ) (subscriber : Subscriber) (id : ScriptId) :
    (w.tell subscriber).script? id = (w.script? id).map ((subscriber.eventFor id).toList.foldl Script.enqueue) := by
  cases subscriber with
  | host => exact Option.map_id_apply.symm
  | script caller event =>
    by_cases hid : caller = id
    · subst hid
      rw [Subscriber.eventFor, if_pos rfl]
      simp only [tell, script?, Array.getElem?_modify, if_pos]
      cases w.scripts[caller.index]? <;> rfl
    · have hindex : caller.index ≠ id.index := fun h => hid (congrArg ScriptId.mk h)
      rw [Subscriber.eventFor, if_neg hid]
      simp only [tell, script?, Array.getElem?_modify, if_neg hindex]
      exact Option.map_id_apply.symm

/-- a script gets the events of its own subscriptions, in their order -/
theorem script?_foldl_tell (w : World σ) (subscribers : List Subscriber) (id : ScriptId) :
    (subscribers.foldl tell w).script? id =
      (w.script? id).map ((subscribers.filterMap (·.eventFor id)).foldl Script.enqueue) := by
  induction subscribers generalizing w with
  | nil => exact Option.map_id_apply.symm
  | cons subscriber rest ih =>
    rw [List.foldl_cons, ih, script?_tell, Option.map_map]
    cases h : subscriber.eventFor id with
    | none =>
      rw [List.filterMap_cons_none h]
      rfl
    | some event =>
      rw [List.filterMap_cons_some h]
      rfl

theorem queue?_foldl_tell (w : World σ) (subscribers : List Subscriber) (id : ScriptId) :
    (subscribers.foldl tell w).queue? id = (w.queue? id).map (· ++ subscribers.filterMap (·.eventFor id)) := by
  rw [queue?, script?_foldl_tell, queue?, Option.map_map, Option.map_map]
  exact congrArg (Option.map · (w.script? id)) (funext fun s => s.waiting_foldl_enqueue _)

theorem script?_withScript_of_ne (w : World σ) {id other : ScriptId} (h : other ≠ id) (script : Option Script) :
    (w.withScript id script).script? other = w.script? other := by
  have hindex : id.index ≠ other.index := fun heq => h (congrArg ScriptId.mk heq.symm)
  rw [script?, withScript, Array.getElem?_setIfInBounds_ne hindex]
  rfl

theorem eq_some_of_script?_withScript {w : World σ} {id : ScriptId} {script : Option Script} {new : Script}
    (h : (w.withScript id script).script? id = some new) : script = some new := by
  rw [script?, withScript, Array.getElem?_setIfInBounds_self] at h
  split at h
  · exact h
  · cases h

theorem script?_withScript_self {w : World σ} {id : ScriptId} {old : Script} (h : w.script? id = some old)
    (new : Script) : (w.withScript id (some new)).script? id = some new := by
  have hplace : w.scripts[id.index]? = some (some old) := Option.join_eq_some_iff.1 h
  obtain ⟨hlt, -⟩ := Array.getElem?_eq_some_iff.1 hplace
  rw [script?, withScript, Array.getElem?_setIfInBounds_self_of_lt hlt]
  rfl

theorem withScript_self {w : World σ} {id : ScriptId} {script : Script} (h : w.script? id = some script) :
    w.withScript id (some script) = w := by
  have hplace : w.scripts[id.index]? = some (some script) := Option.join_eq_some_iff.1 h
  obtain ⟨hlt, hentry⟩ := Array.getElem?_eq_some_iff.1 hplace
  rw [withScript, Array.setIfInBounds_def, dif_pos hlt, ← hentry, Array.set_getElem_self]

/-- no queue of a world holds an event that it does not hold in another -/
def Quieter (w' w : World σ) : Prop :=
  ∀ id events, w'.queue? id = some events → events <:+ (w.queue? id).getD []

theorem Quieter.of_scripts {w w' : World σ} (h : w'.scripts = w.scripts) : Quieter w' w := by
  intro id events hevents
  rw [queue?, script?, h] at hevents
  rw [queue?, script?, hevents]
  exact List.suffix_rfl

theorem Quieter.withScript (w : World σ) (id : ScriptId) (script : Option Script)
    (h : ∀ new, script = some new → ∃ old, w.script? id = some old ∧ new.waiting <:+ old.waiting) :
    Quieter (w.withScript id script) w := by
  intro other events hevents
  by_cases hother : other = id
  · obtain ⟨new, hnew, rfl⟩ := Option.map_eq_some_iff.1 hevents
    rw [hother] at hnew ⊢
    obtain ⟨old, hold, hsuffix⟩ := h new (eq_some_of_script?_withScript hnew)
    rw [queue?, hold]
    exact hsuffix
  · rw [queue?, script?_withScript_of_ne w hother] at hevents
    rw [queue?, hevents]
    exact List.suffix_rfl

theorem quieter_takeEvents (w : World σ) (id : ScriptId) : (w.takeEvents id).2.Quieter w := by
  unfold takeEvents
  split
  · rename_i script hscript
    refine .withScript w id _ fun new hnew => ⟨script, hscript, ?_⟩
    cases hnew
    exact List.nil_suffix
  · exact .of_scripts rfl

theorem quieter_attach (w : World σ) (config : Config) (source : Source) (readings : Nat → Reading) :
    (w.attach config source readings).Quieter w := by
  intro id events hevents
  rw [queue?, script?, attach, Array.getElem?_push] at hevents
  split at hevents
  · cases hevents
    exact List.nil_suffix
  · rw [queue?, script?, hevents]
    exact List.suffix_rfl

theorem quieter_drop (w : World σ) (id : ScriptId) : (w.drop id).Quieter w := by
  apply Quieter.withScript
  intro new hnew
  cases hnew

end Queue

variable {σ : Type} [StoreHost σ]

theorem quieter_operate (w : World σ) (id : ScriptId) (act : ScriptAct) : (w.step (.operate id act)).Quieter w := by
  rw [step]
  cases hoperate : w.operate id act with
  | none => exact .of_scripts rfl
  | some st =>
    obtain ⟨script, hscript, new, shared, hworld, hwaiting, -⟩ := operated_of_operate hoperate
    dsimp only
    rw [hworld]
    refine .withScript { w with shared } id _ fun other hother => ⟨script, hscript, ?_⟩
    cases hother
    exact hwaiting

/-- only raising an event puts an event into a queue -/
theorem quieter_step (w : World σ) (act : Act) (h : ∀ node event, act ≠ .fire node event) :
    (w.step act).Quieter w := by
  cases act with
  | fire node event => exact absurd rfl (h node event)
  | takeEvents id => exact quieter_takeEvents w id
  | attach config source readings => exact quieter_attach w config source readings
  | drop id => exact quieter_drop w id
  | operate id act => exact quieter_operate w id act
  | patch node p =>
    refine .of_scripts ?_
    simp only [step, World.patch]
    split <;> rfl
  | animate node clip playState wrap =>
    refine .of_scripts ?_
    simp only [step, World.animate]
    split <;> rfl
  | _ => exact .of_scripts rfl

/-! ## The fan-out -/

/-- a world tells of events just as it was asked to in the past -/
structure FansOut (w : World σ) (past : List Request) : Prop where
  /-- the answer to raising an event is the number of subscriptions -/
  answer : ∀ node event, (w.fire node event).1 = w.store.subscriptionCount node event
  /-- there is one subscription for each request, and none at a node that is not in the scene -/
  count : ∀ node event, w.store.subscriptionCount node event =
    if (w.store.node? node).isSome then (askedFor past node event).length else 0
  /-- behind what waits already, a script finds one event for each request of its own, in order -/
  queues : ∀ node event id, (w.fire node event).2.queue? id = (w.queue? id).map
    (· ++ if (w.store.node? node).isSome then (askedFor past node event).filterMap (·.eventFor id) else [])
  /-- no other act puts an event into a queue -/
  quiet : ∀ act, (∀ node event, act ≠ .fire node event) → (w.step act).Quieter w

theorem fansOut_of_recalls {w : World σ} {past : List Request} (h : w.store.Recalls past) : w.FansOut past where
  answer node event := by rw [SceneStore.subscriptionCount_eq_length]; rfl
  count := h.subscriptionCount_eq
  queues node event id := by
    have hqueue : (w.fire node event).2.queue? id = _ := queue?_foldl_tell w (w.store.subscribers node event) id
    rw [hqueue, h.subscribers_eq]
    split <;> rfl
  quiet := w.quieter_step

/-- **Fan-out conserves registrations.** In a world that starts without subscriptions, after any acts of the host and of
scripts in any order, raising an event tells everyone who was granted a request for it, once for each such request and in
their order, and nobody else; and nothing but raising an event adds to a queue. -/
theorem fan_out_conserves (w : World σ) (h : ∀ node event, w.store.subscribers node event = []) (acts : List Act) :
    (w.run acts).FansOut (w.history acts) := by
  have hstart : w.store.Recalls [] := ⟨fun node _ event => h node event, nofun⟩
  exact fansOut_of_recalls (recalls_run hstart acts)

/-- a world with nothing in it -/
def blank : World SceneStore := { shared := { session := { scene := .empty } } }

/-- two scripts and a text; the first script asks twice for selections, the second asks once for a code that is none and
once for updates, and the host asks for selections in between -/
def asking : List Act :=
  let script : Act := .attach {} .pending fun _ => ⟨0, 0, .error ""⟩
  let ask (id : Nat) (code userData : Int32) : Act :=
    .call ⟨id⟩ (⟨.empty⟩ : ByteMemory) (.registerEvent firstDescriptor code userData)
  [script, script, .addRegistered { data := .text {} }, ask 0 2 7, ask 1 9 0, .subscribe ⟨0⟩ .select, ask 1 1 5,
    ask 0 2 8]

/-- a selection of the text is told three times, twice to the first script; once the text is gone, nobody is told -/
theorem fan_out_three_times :
    ((blank.run asking).fire ⟨0⟩ .select).1 = 3 ∧
      ((blank.run asking).fire ⟨0⟩ .select).2.queue? ⟨0⟩ = some [⟨10, 3, 2, 7⟩, ⟨10, 3, 2, 8⟩] ∧
      ((blank.run asking).fire ⟨0⟩ .select).2.queue? ⟨1⟩ = some [] ∧
      ((blank.run (asking ++ [.remove ⟨0⟩])).fire ⟨0⟩ .select).1 = 0 := by
  have hblank : ∀ node event, blank.store.subscribers node event = [] := fun _ _ => rfl
  have htold := fan_out_conserves blank hblank asking
  have hgone := fan_out_conserves blank hblank (asking ++ [.remove ⟨0⟩])
  refine ⟨?_, ?_, ?_, ?_⟩
  · rw [htold.answer, htold.count]
    decide +kernel
  · rw [htold.queues]
    decide +kernel
  · rw [htold.queues]
    decide +kernel
  · rw [hgone.answer, hgone.count]
    decide +kernel

end World

end ScriptHost
