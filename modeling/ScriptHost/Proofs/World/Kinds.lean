/-
Kinds over time. An element has its kind and its clips from the time when it is added until it is removed, whatever is
done to it (`World.ages_run`); and a descriptor leads to one node for good. So what a guest once learns of a descriptor's
kind stays true: the code that it reads in a list, the one that a lookup writes and the one that an event has carried since
it was asked for are the same (`World.Shows.eq`).

A run passes through the sessions between its acts, and within an act through those between the calls of a guest
(`World.Passes`).

- `kinds_last`: this, in every session that a run passes through, and what scene calls leave as it is.
- `kinds_last_of_walker`: a model that is renamed and animated by the host and moved by a guest after the guest has asked
  for its events.
-/
import ScriptHost.Proofs.SceneCall.Kinds
import ScriptHost.Proofs.World.Delivery
import ScriptHost.Proofs.World.Enumeration
import ScriptHost.Proofs.World.Names

namespace ScriptHost

/-! ## Scenes in the course of time -/

namespace SceneStore

/-- numbers of nodes are given out and never taken back, and what has its number keeps its nature until it is removed -/
structure Ages (s s' : SceneStore) : Prop where
  next : s.next.index ≤ s'.next.index
  natureOf? : ∀ node, node.index < s.next.index →
    s'.natureOf? node = none ∨ s'.natureOf? node = s.natureOf? node

namespace Ages

theorem refl (s : SceneStore) : s.Ages s := ⟨Nat.le_refl _, fun _ _ => .inr rfl⟩

theorem trans {s t u : SceneStore} (h : s.Ages t) (h' : t.Ages u) : s.Ages u := by
  refine ⟨Nat.le_trans h.next h'.next, ?_⟩
  intro node hnode
  rcases h'.natureOf? node (Nat.lt_of_lt_of_le hnode h.next) with hgone | hsame
  · exact .inl hgone
  · rw [hsame]
    exact h.natureOf? node hnode

theorem of_natureOf? {s s' : SceneStore} (hnext : s'.next = s.next)
    (hnature : ∀ node, s'.natureOf? node = s.natureOf? node) : s.Ages s' :=
  ⟨Nat.le_of_eq (congrArg NodeId.index hnext).symm, fun node _ => .inr (hnature node)⟩

theorem add (s : SceneStore) (e : Element) : s.Ages (s.add e).2 := by
  have hnext : (s.add e).2.next.index = s.next.index + 1 := Array.size_push ..
  refine ⟨by omega, ?_⟩
  intro node hnode
  have hold : node ≠ s.next := fun heq => Nat.lt_irrefl _ (heq ▸ hnode)
  rw [SceneStore.natureOf?, element?_add, if_neg hold]
  exact .inr rfl

theorem remove (s : SceneStore) (removed : NodeId) : s.Ages (s.remove removed).2 := by
  have hnext : (s.remove removed).2.next = s.next := next_put ..
  refine ⟨Nat.le_of_eq (congrArg NodeId.index hnext).symm, ?_⟩
  intro node _
  rw [SceneStore.natureOf?, element?_remove]
  split
  · exact .inl rfl
  · exact .inr rfl

end Ages

end SceneStore

/-- what an edit makes of a scene comes from it in the course of time -/
theorem Edit.ages_make? {s s' : Session SceneStore} {e : Edit} (h : e.make? s = some s') : s.scene.Ages s'.scene := by
  cases e with
  | add e =>
    cases h
    exact .add s.scene e
  | remove node =>
    cases h
    exact .remove s.scene node
  | patch node p =>
    obtain ⟨scene, hscene, rfl⟩ := Option.map_eq_some_iff.1 h
    exact .of_natureOf? (SceneStore.alters_patch? hscene).next (SceneStore.natureOf?_patch? hscene)
  | animate node clip playState wrap =>
    obtain ⟨scene, hscene, rfl⟩ := Option.map_eq_some_iff.1 h
    exact .of_natureOf? (SceneStore.alters_animate? hscene).next (SceneStore.natureOf?_animate? hscene)
  | subscribe node event subscriber =>
    cases h
    exact .of_natureOf? (SceneStore.alters_subscribe s.scene node event subscriber).next
      (SceneStore.natureOf?_subscribe s.scene node event subscriber)
  | register node id =>
    cases h
    exact .refl s.scene

namespace World

variable {w : World SceneStore} {acts : List Act} {d : Int32}

theorem ages_run (w : World SceneStore) (acts : List Act) : w.store.Ages (w.run acts).store := by
  have hstep : ∀ (_ : List Edit) (s : Session SceneStore) e s', w.store.Ages s.scene → Edit.make? s e = some s' →
      w.store.Ages s'.scene := fun _ _ _ _ hpast he => hpast.trans (Edit.ages_make? he)
  have hstart : w.store.Ages w.session.inMemory.scene := .refl _
  exact @Edit.induct_all (fun _ s => w.store.Ages s.scene) hstep [] _ _ hstart _ (edits_run w acts)

/-! ## Two times of a run -/

theorem all_growing {early late : List Act} (h : early <+: late) :
    (w.run early).session.registry.all <+: (w.run late).session.registry.all := by
  obtain ⟨rest, rfl⟩ := h
  rw [run_append]
  exact all_run _ rest

theorem natureOf?_eq_later {node : NodeId} {early late : List Act} (h : early <+: late)
    {nature nature' : ElementKind × List String} (hearly : (w.run early).store.natureOf? node = some nature)
    (hlate : (w.run late).store.natureOf? node = some nature') : nature = nature' := by
  obtain ⟨rest, rfl⟩ := h
  obtain ⟨e, helement, -⟩ := Option.map_eq_some_iff.1 hearly
  have hnode : node.index < (w.run early).store.next.index := SceneStore.index_lt_of_element? helement
  rw [run_append] at hlate
  rcases (ages_run (w.run early) rest).natureOf? node hnode with hgone | hsame
  · rw [hgone] at hlate
    cases hlate
  · rw [hsame, hearly] at hlate
    exact Option.some.inj hlate

theorem kind?_eq_later {early late : List Act} (h : early <+: late)
    (hroom : (w.run late).session.registry.count ≤ Registry.room) {k k' : ElementKind}
    (hearly : (w.run early).session.kind? d = some k) (hlate : (w.run late).session.kind? d = some k') : k = k' := by
  obtain ⟨node, clips, hnode, hnature⟩ := Session.kind?_eq_some.1 hearly
  obtain ⟨node', clips', hnode', hnature'⟩ := Session.kind?_eq_some.1 hlate
  rw [(w.run early).session.indexed.node?_of_grown (w.run late).session.indexed hroom (all_growing h) hnode] at hnode'
  cases hnode'
  exact congrArg Prod.fst (natureOf?_eq_later h hnature hnature')

/-- what is the same at an earlier and a later time is the same at any two times of a run -/
theorem eq_of_prefixes {α : Type} {f : List Act → Option α}
    (hlater : ∀ {early late}, early <+: late → late <+: acts → ∀ {a b}, f early = some a → f late = some b → a = b)
    {early early' : List Act} (h : early <+: acts) (h' : early' <+: acts) {a b : α} (ha : f early = some a)
    (hb : f early' = some b) : a = b := by
  rcases List.prefix_or_prefix_of_prefix h h' with hle | hle
  · exact hlater hle h' ha hb
  · exact (hlater hle h hb ha).symm

/-- at some time of the run the descriptor names an element, and the code of its kind is this -/
def Shows (w : World SceneStore) (acts : List Act) (d code : Int32) : Prop :=
  ∃ early, early <+: acts ∧ (w.run early).session.kindCode? d = some code

theorem count_le_of_early {early : List Act} (h : early <+: acts)
    (hroom : (w.run acts).session.registry.count ≤ Registry.room) :
    (w.run early).session.registry.count ≤ Registry.room :=
  Nat.le_trans (all_growing h).length_le hroom

theorem kind?_eq_of_prefixes (hroom : (w.run acts).session.registry.count ≤ Registry.room) {early early' : List Act}
    (h : early <+: acts) (h' : early' <+: acts) {k k' : ElementKind} (hk : (w.run early).session.kind? d = some k)
    (hk' : (w.run early').session.kind? d = some k') : k = k' :=
  eq_of_prefixes (f := fun acts => (w.run acts).session.kind? d)
    (fun hearly hlate => kind?_eq_later hearly (count_le_of_early hlate hroom)) h h' hk hk'

theorem Shows.eq (hroom : (w.run acts).session.registry.count ≤ Registry.room) {code code' : Int32}
    (h : w.Shows acts d code) (h' : w.Shows acts d code') : code = code' := by
  obtain ⟨early, hearly, hcode⟩ := h
  obtain ⟨early', hearly', hcode'⟩ := h'
  obtain ⟨k, hk, rfl⟩ := Option.map_eq_some_iff.1 hcode
  obtain ⟨k', hk', rfl⟩ := Option.map_eq_some_iff.1 hcode'
  rw [kind?_eq_of_prefixes hroom hearly hearly' hk hk']

/-! ## Sessions within a run -/

/-- a session that the run passes through: between two acts, or between two calls of a guest within an act -/
inductive Passes (w : World SceneStore) (acts : List Act) : Session SceneStore → Prop where
  | between {early : List Act} (h : early <+: acts) : w.Passes acts (w.run early).session
  | within {early : List Act} {id : ScriptId} {act : ScriptAct} (h : early ++ [.operate id act] <+: acts)
    {script : Script} (hscript : (w.run early).script? id = some script)
    {st : Step SceneStore (Option (Except ScriptFailure Unit))} (hst : (w.run early).operate id act = some st)
    {calls : List Made} (hcalls : calls <+: script.made (w.run early).shared st.trace) :
    w.Passes acts ((w.run early).session.after script.guestId calls)

/-- the calls of a guest spare what was there before the act -/
theorem Passes.spared {s : Session SceneStore} (h : w.Passes acts s) :
    ∃ early, early <+: acts ∧ (w.run early).session.Spares s := by
  cases h with
  | between h => exact ⟨_, h, .refl _⟩
  | @within early id act h script hscript st hst calls hcalls =>
    exact ⟨early, (List.prefix_append _ _).trans h, Session.spares_after script.guestId _ calls⟩

theorem spares_operate {id : ScriptId} {act : ScriptAct} {st : Step SceneStore (Option (Except ScriptFailure Unit))}
    (h : w.operate id act = some st) : w.session.Spares st.world.session := by
  obtain ⟨script, -, new, shared, hworld, -, hsession⟩ := operated_of_operate h
  have hafter : st.world.session = w.session.after script.guestId (script.made w.shared st.trace) := by
    rw [hworld]
    exact hsession
  rw [hafter]
  exact Session.spares_after _ _ _

end World

/-! ## Events -/

/-- an event that a script asks for carries the code of the element's kind -/
theorem SceneCall.kindCode?_of_granted {μ : Type} [LinearMemory μ] {caller : ScriptId} {m : μ} {s : Session SceneStore}
    {call : SceneCall} {r : Request} (hr : r ∈ call.granted caller m s) {id : ScriptId} {event : Event}
    (hevent : r.subscriber = .script id event) : s.kindCode? event.descriptor = some event.elementKind := by
  rw [granted] at hr
  split at hr
  · rw [Option.mem_toList] at hr
    cases call with
    | registerEvent d code userData =>
      simp only [request?, bind, pure, Option.bind_eq_some_iff, Option.some.injEq] at hr
      obtain ⟨⟨node, e⟩, hfound, asked, -, rfl⟩ := hr
      cases hevent
      exact Session.kindCode?_of_resolve hfound
    | _ => cases hr
  · cases hr

theorem Session.kindCode?_of_granted {caller : ScriptId} {s : Session SceneStore} {calls : List Made} {r : Request}
    (hr : r ∈ s.granted caller calls) {id : ScriptId} {event : Event} (hevent : r.subscriber = .script id event) :
    s.kindCode? event.descriptor = some event.elementKind := by
  induction calls generalizing s with
  | nil => cases hr
  | cons made rest ih =>
    rcases List.mem_append.1 hr with hnow | hlater
    · exact SceneCall.kindCode?_of_granted hnow hevent
    · rw [← (spares_after caller s [made]).kindCode?_eq]
      exact ih hlater

namespace World

variable {w : World SceneStore} {acts : List Act} {d : Int32}

theorem kindCode?_of_granted {act : Act} {r : Request} (hr : r ∈ w.granted act) {id : ScriptId} {event : Event}
    (hevent : r.subscriber = .script id event) : w.session.kindCode? event.descriptor = some event.elementKind := by
  cases act with
  | subscribe node asked =>
    rw [granted] at hr
    split at hr
    · rw [List.mem_singleton.1 hr] at hevent
      cases hevent
    · cases hr
  | call caller m call => exact SceneCall.kindCode?_of_granted hr hevent
  | operate other act =>
    rw [granted] at hr
    split at hr
    · exact Session.kindCode?_of_granted hr hevent
    · cases hr
  | _ => cases hr

/-- the kind was as the event tells when the request was granted -/
theorem shows_of_history {r : Request} (hr : r ∈ w.history acts) {id : ScriptId} {event : Event}
    (hevent : r.subscriber = .script id event) : w.Shows acts event.descriptor event.elementKind := by
  induction acts generalizing w with
  | nil => cases hr
  | cons act rest ih =>
    rcases List.mem_append.1 hr with hnow | hlater
    · exact ⟨[], List.nil_prefix, kindCode?_of_granted hnow hevent⟩
    · obtain ⟨early, hearly, hcode⟩ := ih hlater
      exact ⟨act :: early, List.prefix_cons_inj act |>.2 hearly, hcode⟩

/-- in a world that starts without subscriptions, each event that is raised was asked for before -/
theorem shows_of_raised (hquiet : ∀ node event, w.store.subscribers node event = []) {id : ScriptId} {node : NodeId}
    {kind : EventKind} {event : Event} (hevent : event ∈ (w.run acts).raises id (.fire node kind)) :
    w.Shows acts event.descriptor event.elementKind := by
  have hstart : w.store.Recalls [] := ⟨fun node _ event => hquiet node event, nofun⟩
  have hrecalls : (w.run acts).store.Recalls (w.history acts) := recalls_run hstart acts
  obtain ⟨subscriber, hsubscriber, hfor⟩ := List.mem_filterMap.1 hevent
  rw [hrecalls.subscribers_eq] at hsubscriber
  split at hsubscriber
  · obtain ⟨r, hr, rfl⟩ := List.mem_map.1 hsubscriber
    suffices hevent : r.subscriber = .script id event from shows_of_history (List.mem_of_mem_filter hr) hevent
    cases hsubject : r.subscriber with
    | host =>
      rw [hsubject] at hfor
      cases hfor
    | script caller asked =>
      rw [hsubject, Subscriber.eventFor] at hfor
      split at hfor
      · rename_i hcaller
        cases hfor
        rw [hcaller]
      · cases hfor
  · cases hsubscriber

/-! ## What a run tells -/

/-- in the run a code is told with a descriptor: a guest is told it in a session that the run passes through, or an event
carries it that is raised between two acts -/
inductive Tells (w : World SceneStore) (acts : List Act) : Int32 → Int32 → Prop where
  | reported {s : Session SceneStore} (hpasses : w.Passes acts s) {d code : Int32} (hreports : s.Reports d code) :
    w.Tells acts d code
  | raised {early : List Act} (h : early <+: acts) {id : ScriptId} {node : NodeId} {kind : EventKind} {event : Event}
    (hevent : event ∈ (w.run early).raises id (.fire node kind)) :
    w.Tells acts event.descriptor event.elementKind

theorem Tells.shows (hquiet : ∀ node event, w.store.subscribers node event = [])
    (hroom : (w.run acts).session.registry.count ≤ Registry.room) {code : Int32} (h : w.Tells acts d code) :
    w.Shows acts d code := by
  cases h with
  | @reported s hpasses _ _ hreports =>
    obtain ⟨early, hearly, hspares⟩ := hpasses.spared
    have hearlier := count_le_of_early hearly hroom
    rw [← hspares.names.registry] at hearlier
    refine ⟨early, hearly, ?_⟩
    rw [← hspares.kindCode?_eq]
    exact hreports.kindCode?_eq hearlier
  | raised hearly hevent =>
    obtain ⟨first, hfirst, hcode⟩ := shows_of_raised hquiet hevent
    exact ⟨first, hfirst.trans hearly, hcode⟩

/-! ## The session -/

/-- what a guest may rely on when it has learned what an element is -/
structure KindsLast (w : World SceneStore) (acts : List Act) : Prop where
  /-- a scene call adds and removes no element, and gives none another id, another kind or other clips -/
  calls : ∀ s, w.Passes acts s → ∀ {μ : Type} [LinearMemory μ] (caller : ScriptId) (m : μ) (call : SceneCall),
    s.Spares (call.run caller m s).session
  /-- and so an operation on a script, whatever its guest calls -/
  operations : ∀ id act st, (w.run acts).operate id act = some st → (w.run acts).session.Spares st.world.session
  /-- whatever is done, an element that is in the scene at two times has the same kind and the same clips then -/
  natures : ∀ s s', w.Passes acts s → w.Passes acts s' → ∀ node e e', s.scene.element? node = some e →
    s'.scene.element? node = some e' → e.kind = e'.kind ∧ e.clips = e'.clips
  /-- codes that are told with one descriptor are the same, as long as no descriptor comes again (`Registry.room`) -/
  told : (w.run acts).session.registry.count ≤ Registry.room → ∀ d code code', w.Tells acts d code →
    w.Tells acts d code' → code = code'
  /-- two calls of one function with one descriptor, whoever makes them and whatever else is passed, are both refused as
  unsupported or both not, if the element is there both times; this, too, as long as no descriptor comes again -/
  supported : (w.run acts).session.registry.count ≤ Registry.room →
    ∀ s s', w.Passes acts s → w.Passes acts s' → ∀ d, (s.resolve d).isSome → (s'.resolve d).isSome →
    ∀ (f : SceneFunction) args args' call call', f.call? args = some call → f.call? args' = some call' →
      call.descriptor? = some d → call'.descriptor? = some d →
        ∀ {μ μ' : Type} [LinearMemory μ] [ExactMemory μ] [LinearMemory μ'] [ExactMemory μ'] (caller caller' : ScriptId)
          (m : μ) (m' : μ'), (call.run caller m s).status = .unsupportedOperation ↔
            (call'.run caller' m' s').status = .unsupportedOperation

section Run

variable {s s' : Session SceneStore}

theorem nature_eq_of_passes (h : w.Passes acts s) (h' : w.Passes acts s') {node : NodeId} {e e' : Element}
    (he : s.scene.element? node = some e) (he' : s'.scene.element? node = some e') : e.nature = e'.nature := by
  obtain ⟨early, hearly, hspares⟩ := h.spared
  obtain ⟨early', hearly', hspares'⟩ := h'.spared
  have hnature : s.scene.natureOf? node = some e.nature := congrArg (Option.map Element.nature) he
  have hnature' : s'.scene.natureOf? node = some e'.nature := congrArg (Option.map Element.nature) he'
  rw [hspares.natureOf?] at hnature
  rw [hspares'.natureOf?] at hnature'
  exact eq_of_prefixes (f := fun acts => (w.run acts).store.natureOf? node) (fun h _ => natureOf?_eq_later h) hearly hearly' hnature
    hnature'

theorem kind?_eq_of_passes (hroom : (w.run acts).session.registry.count ≤ Registry.room) (h : w.Passes acts s)
    (h' : w.Passes acts s') {k k' : ElementKind} (hk : s.kind? d = some k) (hk' : s'.kind? d = some k') : k = k' := by
  obtain ⟨early, hearly, hspares⟩ := h.spared
  obtain ⟨early', hearly', hspares'⟩ := h'.spared
  rw [hspares.kind?_eq] at hk
  rw [hspares'.kind?_eq] at hk'
  exact kind?_eq_of_prefixes hroom hearly hearly' hk hk'

end Run

/-- **Kinds last.** In a world that starts without subscriptions, whatever happens, guests
change no id, no kind, no clips and nothing about what is in the scene; nobody changes the kind or the clips of an element
that is in the scene; and so the kind that a guest is told with a descriptor, and what it can do with it, stay the same for as
long as no descriptor comes again, with at most `Registry.room` nodes. -/
theorem kinds_last (w : World SceneStore)
    (hquiet : ∀ node event, w.store.subscribers node event = []) (acts : List Act) : w.KindsLast acts where
  calls s _ _ _ caller m call := Session.spares_call caller m s call
  operations _ _ _ hst := spares_operate hst
  natures s s' hs hs' node e e' he he' := by
    have hnature := nature_eq_of_passes hs hs' he he'
    exact ⟨congrArg Prod.fst hnature, congrArg Prod.snd hnature⟩
  told hroom d code code' htells htells' :=
    (htells.shows hquiet hroom).eq hroom (htells'.shows hquiet hroom)
  supported hroom s s' hs hs' d hfound hfound' f args args' call call' hcall hcall' hd hd' _ _ _ _ _ _ _ _ _ _ := by
    obtain ⟨⟨node, e⟩, hresolve⟩ := Option.isSome_iff_exists.1 hfound
    obtain ⟨⟨node', e'⟩, hresolve'⟩ := Option.isSome_iff_exists.1 hfound'
    have hk := Session.kind?_of_resolve hresolve
    have hk' := Session.kind?_of_resolve hresolve'
    rw [SceneCall.status_eq_unsupported_iff hd hk, SceneCall.status_eq_unsupported_iff hd' hk',
      SceneFunction.suits_of_call? hcall, SceneFunction.suits_of_call? hcall', kind?_eq_of_passes hroom hs hs' hk hk']

/-- the host adds a walker, and a guest asks for its selection; then the host gives it another id and lets it walk, and the
guest moves it -/
def walks : List Act :=
  [.addRegistered { id := some "walker", data := .model { clips := ["idle", "walk"] } },
    .call ⟨0⟩ (⟨.empty⟩ : ByteMemory) (.registerEvent firstDescriptor 2 7), .patch ⟨0⟩ { id := some "runner" },
    .animate ⟨0⟩ (.name "walk") .play .loop, .call ⟨0⟩ (⟨filled 16 1⟩ : ByteMemory) (.setPosition firstDescriptor 0)]

/-- a guest of a session with a walker looks it up and is told the code of a model -/
theorem reports_walker {s : Session SceneStore} (hfound : s.withId? "walker" = some ⟨10, 2⟩) : s.Reports 10 2 := by
  let m : ByteMemory := ⟨"walker".toUTF8 ++ filled 58 0⟩
  have htext : textAt m 0 6 = "walker" := by decide +kernel
  have hread : readText m 0 6 = .ok "walker" := by
    rw [readText_of_inside (by decide +kernel), htext]
  have hlookup : ((SceneCall.getElementById 0 6 8).run ⟨0⟩ m s).status = .success ∧
      readValue ((SceneCall.getElementById 0 6 8).run ⟨0⟩ m s).memory 8 = .ok (⟨10, 2⟩ : ElementRecord) :=
    SceneCall.found_of_withId? (by decide) hread hfound (by decide +kernel)
  exact .found ⟨0⟩ m 0 6 8 hlookup.1 hlookup.2

/-- what the guest is told at first and what the event tells at last is the same code, and nobody is ever told another one
with that descriptor; and as the walker supports no text at first, it never does -/
theorem kinds_last_of_walker :
    (∀ node event, blank.store.subscribers node event = []) ∧
      (blank.run walks).session.registry.count ≤ Registry.room ∧
      (blank.run (walks.take 1)).session.Reports 10 2 ∧
      (blank.run walks).raises ⟨0⟩ (.fire ⟨0⟩ .select) = [⟨10, 2, 2, 7⟩] ∧
      (∀ code, blank.Tells walks 10 code → code = 2) ∧
      ∀ s, blank.Passes walks s → (s.resolve 10).isSome → ∀ (m : ByteMemory) input length,
        ((SceneCall.setText 10 input length).run ⟨0⟩ m s).status = .unsupportedOperation := by
  have hquiet : ∀ node event, blank.store.subscribers node event = [] := fun _ _ => rfl
  have hroom : (blank.run walks).session.registry.count ≤ Registry.room := by decide +kernel
  have hlast : blank.KindsLast walks := kinds_last blank hquiet walks
  have hfirst : blank.Passes walks (blank.run (walks.take 1)).session := .between (List.take_prefix 1 walks)
  have hreports : (blank.run (walks.take 1)).session.Reports 10 2 := reports_walker (by decide +kernel)
  refine ⟨hquiet, hroom, hreports, by decide +kernel, ?_, ?_⟩
  · intro code hcode
    exact hlast.told hroom 10 code 2 hcode (.reported hfirst hreports)
  · intro s hs hfound m input length
    have hcall : SceneFunction.setText.call? [10, input, length.toUInt32] = some (.setText 10 input length) := by
      have hword : length.toUInt32.toInt32 = length := length.toInt32_toUInt32
      change some (SceneCall.setText 10 input length.toUInt32.toInt32) = _
      rw [hword]
    have hrefused : ((SceneCall.setText 10 0 0).run ⟨0⟩ (⟨.empty⟩ : ByteMemory)
        (blank.run (walks.take 1)).session).status = .unsupportedOperation := by decide +kernel
    have hsame := hlast.supported hroom s _ hs hfirst 10 hfound (by decide +kernel) .setText _ [10, 0, 0] _ _ hcall rfl rfl rfl
      ⟨0⟩ ⟨0⟩ m (⟨.empty⟩ : ByteMemory)
    exact hsame.2 hrefused

end World

end ScriptHost
