/-
Deliveries over time. An event comes in to a script when it is raised and the script has asked for it (`arrivals`); it
goes out when it is handed to the script's guest (`deliveries`). Between the two it waits in the script's queue, which
nothing but these acts changes, unless the host takes the events itself.

- `delivers_in_order`: after any acts, what went out followed by what waits is what came in, event by event; and the next
  delivery hands over what waits from the front on, up to the first trap.
- `delivers_around_trap`: a guest that traps on one event and asks for more on every other one.
-/
import ScriptHost.Proofs.Script.Delivery
import ScriptHost.Proofs.World.FanOut

namespace ScriptHost.World

variable {σ : Type}

/-! ## What comes in and what goes out -/

section InOut

variable [SceneHost σ]

/-- the events of a script that an act raises -/
def raises (w : World σ) (id : ScriptId) : Act → List Event
  | .fire node event => (w.store.subscribers node event).filterMap (·.eventFor id)
  | _ => []

/-- the events that an act hands to the guest of a script -/
def hands (w : World σ) (id : ScriptId) : Act → List Event
  | .operate other act =>
    match w.operate other act with
    | some st => if other = id then handed st.trace else []
    | none => []
  | _ => []

/-- the events of a script that come in during a run -/
def arrivals (w : World σ) (id : ScriptId) : List Act → List Event
  | [] => []
  | act :: rest => w.raises id act ++ (w.step act).arrivals id rest

/-- the events that go out to the guest of a script during a run -/
def deliveries (w : World σ) (id : ScriptId) : List Act → List Event
  | [] => []
  | act :: rest => w.hands id act ++ (w.step act).deliveries id rest

end InOut

theorem size_foldl_tell (w : World σ) (subscribers : List Subscriber) :
    (subscribers.foldl tell w).scripts.size = w.scripts.size := by
  induction subscribers generalizing w with
  | nil => rfl
  | cons subscriber rest ih =>
    rw [List.foldl_cons, ih]
    cases subscriber with
    | host => rfl
    | script caller event => exact Array.size_modify

/-- a script has a place in the world, and as long as it is not dropped it is attuned to its module, and what came in to
it is what went out and what waits -/
structure Conserves (w : World σ) (id : ScriptId) (arrived taken : List Event) : Prop where
  placed : id.index < w.scripts.size
  attuned : ∀ s, w.script? id = some s → s.Attuned
  conserved : ∀ s, w.script? id = some s → s.hears → taken ++ s.waiting = arrived

namespace Conserves

variable {w w' : World σ} {id : ScriptId} {arrived taken : List Event}

/-- nothing comes in and nothing goes out, and the script stays as it is or is dropped -/
theorem idle (h : w.Conserves id arrived taken) (hsize : w.scripts.size ≤ w'.scripts.size)
    (hscript : ∀ s, w'.script? id = some s → w.script? id = some s) : w'.Conserves id arrived taken where
  placed := Nat.lt_of_lt_of_le h.placed hsize
  attuned s hs := h.attuned s (hscript s hs)
  conserved s hs := h.conserved s (hscript s hs)

theorem of_scripts (h : w.Conserves id arrived taken) (hscripts : w'.scripts = w.scripts) :
    w'.Conserves id arrived taken := by
  refine h.idle (Nat.le_of_eq (congrArg Array.size hscripts.symm)) ?_
  intro s hs
  rw [script?, hscripts] at hs
  exact hs

/-- another script is changed or dropped -/
theorem withScript_of_ne (h : w.Conserves id arrived taken) {other : ScriptId} (hother : other ≠ id)
    (script : Option Script) : (w.withScript other script).Conserves id arrived taken := by
  refine h.idle (Nat.le_of_eq (Array.size_setIfInBounds ..).symm) ?_
  intro s hs
  rw [script?_withScript_of_ne w hother.symm] at hs
  exact hs

theorem takeEvents (h : w.Conserves id arrived taken) {other : ScriptId} (hother : other ≠ id) :
    (w.takeEvents other).2.Conserves id arrived taken := by
  unfold World.takeEvents
  split
  · exact h.withScript_of_ne hother _
  · exact h

theorem attach (h : w.Conserves id arrived taken) (config : Config) (source : Source) (readings : Nat → Reading) :
    (w.attach config source readings).Conserves id arrived taken := by
  have hsize : (w.attach config source readings).scripts.size = w.scripts.size + 1 := Array.size_push ..
  refine h.idle (by omega) ?_
  intro s hs
  have hold : id.index ≠ w.scripts.size := Nat.ne_of_lt h.placed
  rw [script?, World.attach, Array.getElem?_push, if_neg hold] at hs
  exact hs

theorem drop (h : w.Conserves id arrived taken) (other : ScriptId) : (w.drop other).Conserves id arrived taken := by
  by_cases hother : other = id
  · subst hother
    refine h.idle (Nat.le_of_eq (Array.size_setIfInBounds ..).symm) ?_
    intro s hs
    cases eq_some_of_script?_withScript hs
  · exact h.withScript_of_ne hother none

theorem tell (h : w.Conserves id arrived taken) (subscribers : List Subscriber) :
    (subscribers.foldl World.tell w).Conserves id (arrived ++ subscribers.filterMap (·.eventFor id)) taken := by
  refine ⟨?_, ?_, ?_⟩
  · rw [size_foldl_tell]
    exact h.placed
  · intro s hs
    rw [script?_foldl_tell] at hs
    obtain ⟨old, hold, rfl⟩ := Option.map_eq_some_iff.1 hs
    rw [Script.foldl_enqueue]
    exact h.attuned old hold
  · intro s hs hhears
    rw [script?_foldl_tell] at hs
    obtain ⟨old, hold, rfl⟩ := Option.map_eq_some_iff.1 hs
    rw [Script.foldl_enqueue] at hhears
    rw [Script.waiting_foldl_enqueue, ← List.append_assoc, h.conserved old hold hhears]

end Conserves

variable [StoreHost σ] {w : World σ} {id : ScriptId} {arrived taken : List Event}

theorem Conserves.operate (h : w.Conserves id arrived taken) (other : ScriptId) (act : ScriptAct) :
    (w.step (.operate other act)).Conserves id arrived (taken ++ w.hands id (.operate other act)) := by
  rw [step, hands]
  cases hoperate : w.operate other act with
  | none =>
    rw [List.append_nil]
    exact h
  | some st =>
    simp only [World.operate, onScript, bind, pure, Option.bind_eq_some_iff, Option.some.injEq] at hoperate
    obtain ⟨script, hscript, rfl⟩ := hoperate
    dsimp only
    by_cases hother : other = id
    · subst hother
      have hkeeps := Script.keeps_operate (h.attuned script hscript) act w.shared
      refine ⟨?_, ?_, ?_⟩
      · exact Nat.lt_of_lt_of_eq h.placed (Array.size_setIfInBounds ..).symm
      · intro s hs
        cases eq_some_of_script?_withScript hs
        exact hkeeps.attuned
      · intro s hs hhears
        cases eq_some_of_script?_withScript hs
        rw [hkeeps.hears] at hhears
        rw [if_pos rfl, List.append_assoc, hkeeps.conserved hhears, h.conserved script hscript hhears]
    · rw [if_neg hother, List.append_nil]
      have hshared : ({ w with shared := (script.operate act w.shared).shared } : World σ).Conserves id arrived taken :=
        h.of_scripts rfl
      exact hshared.withScript_of_ne hother _

/-- an act of which the host does not take the events itself -/
theorem conserves_step (h : w.Conserves id arrived taken) (act : Act) (hact : act ≠ .takeEvents id) :
    (w.step act).Conserves id (arrived ++ w.raises id act) (taken ++ w.hands id act) := by
  cases act with
  | fire node event =>
    simp only [hands, List.append_nil]
    exact h.tell _
  | operate other act =>
    simp only [raises, List.append_nil]
    exact h.operate other act
  | takeEvents other =>
    have hother : other ≠ id := fun heq => hact (congrArg Act.takeEvents heq)
    simp only [raises, hands, List.append_nil]
    exact h.takeEvents hother
  | attach config source readings =>
    simp only [raises, hands, List.append_nil]
    exact h.attach config source readings
  | drop other =>
    simp only [raises, hands, List.append_nil]
    exact h.drop other
  | patch node p =>
    simp only [raises, hands, List.append_nil]
    refine h.of_scripts ?_
    simp only [step, World.patch]
    split <;> rfl
  | animate node clip playState wrap =>
    simp only [raises, hands, List.append_nil]
    refine h.of_scripts ?_
    simp only [step, World.animate]
    split <;> rfl
  | _ =>
    simp only [raises, hands, List.append_nil]
    exact h.of_scripts rfl

theorem conserves_run (h : w.Conserves id arrived taken) (acts : List Act)
    (hacts : ∀ act ∈ acts, act ≠ .takeEvents id) :
    (w.run acts).Conserves id (arrived ++ w.arrivals id acts) (taken ++ w.deliveries id acts) := by
  induction acts generalizing w arrived taken with
  | nil =>
    simp only [arrivals, deliveries, List.append_nil]
    exact h
  | cons act rest ih =>
    obtain ⟨hact, hrest⟩ := List.forall_mem_cons.1 hacts
    rw [run_cons, arrivals, deliveries, ← List.append_assoc, ← List.append_assoc]
    exact ih (conserves_step h act hact) hrest

/-! ## Scripts from their attachment on -/

/-- the events of a script go out in the order in which they came in -/
structure Delivers (w : World σ) (id : ScriptId) (arrived taken : List Event) : Prop where
  /-- what went out and then what waits is what came in, if the guest takes events -/
  conserved : ∀ s, w.script? id = some s → s.hears → taken ++ s.waiting = arrived
  /-- what the next delivery does -/
  next : ∀ s, w.script? id = some s → s.Delivers w.shared (s.deliver w.shared)

/-- **First in, first out.** Whatever happens after a script was attached, and whatever its guest does, each event that
came in went out once, in order, or still waits; an event counts as gone out even if the guest trapped on it. A delivery
hands over what waits until nothing is left or the guest traps, and throws it away if the guest takes no events. -/
theorem delivers_in_order (w : World σ) (config : Config) (source : Source) (readings : Nat → Reading)
    (acts : List Act) (hacts : ∀ act ∈ acts, act ≠ .takeEvents ⟨w.scripts.size⟩) :
    ((w.attach config source readings).run acts).Delivers ⟨w.scripts.size⟩
      ((w.attach config source readings).arrivals ⟨w.scripts.size⟩ acts)
      ((w.attach config source readings).deliveries ⟨w.scripts.size⟩ acts) := by
  have hnew : ∀ s, (w.attach config source readings).script? ⟨w.scripts.size⟩ = some s →
      s.runtime = none ∧ s.waiting = [] := by
    intro s hs
    rw [script?, attach, Array.getElem?_push, if_pos rfl] at hs
    cases hs
    exact ⟨rfl, rfl⟩
  have hstart : (w.attach config source readings).Conserves ⟨w.scripts.size⟩ [] [] := by
    refine ⟨?_, ?_, ?_⟩
    · rw [attach, Array.size_push]
      exact Nat.lt_succ_self _
    · intro s hs
      exact Script.attuned_of_none (hnew s hs).1
    · intro s hs _
      exact (hnew s hs).2
  have hrun := conserves_run hstart acts hacts
  exact ⟨hrun.conserved, fun s hs => Script.delivers_deliver (hrun.attuned s hs) _⟩

/-- a module that traps on events with user data 2, and on any other asks for the same events with user data 9 -/
def jumpy : Module where
  imports := [⟨"flo_scene", "register_event", [.i32, .i32, .i32], [.i32]⟩]
  pages := some 1
  exports := [("memory", .memory), ("on_element_event", .function [.i32, .i32, .i32, .i32] [] fun words =>
    match words with
    | [descriptor, _, kind, .i32 data] =>
      if data = 2 then .trap .unreachable else .call 0 [descriptor, kind, .i32 9] fun _ => .done
    | _ => .trap .unreachable)]

/-- the script asks three times for selections of a text, under 1, 2 and 3; the text is selected twice, and each time the
events are delivered -/
def jumps : List Act :=
  let ask (userData : Int32) : Act :=
    .call ⟨0⟩ (⟨.empty⟩ : ByteMemory) (.registerEvent firstDescriptor 2 userData)
  [.addRegistered { data := .text {} }, ask 1, ask 2, ask 3, .operate ⟨0⟩ .instantiate, .fire ⟨0⟩ .select,
    .operate ⟨0⟩ .deliver, .fire ⟨0⟩ .select, .operate ⟨0⟩ .deliver]

/-- the script with that module, before the acts -/
def jumpyStart : World SceneStore := blank.attach {} (.fetched (.ok jumpy)) fun _ => ⟨0, 0, .error ""⟩

/-- each delivery ends at an event that traps, which does not come back; the one behind it comes first in the next -/
theorem delivers_around_trap :
    (jumpyStart.deliveries ⟨0⟩ jumps).map (·.userData) = [1, 2, 3, 1, 2] ∧
      ((jumpyStart.run jumps).queue? ⟨0⟩).map (·.map (·.userData)) = some [3, 9] ∧
      ∀ s, (jumpyStart.run jumps).script? ⟨0⟩ = some s →
        jumpyStart.deliveries ⟨0⟩ jumps ++ s.waiting = jumpyStart.arrivals ⟨0⟩ jumps := by
  have hacts : ∀ act ∈ jumps, act ≠ .takeEvents ⟨0⟩ := by simp [jumps]
  have hdelivers := delivers_in_order blank {} (.fetched (.ok jumpy)) (fun _ => ⟨0, 0, .error ""⟩) jumps hacts
  refine ⟨by decide +kernel, by decide +kernel, ?_⟩
  intro s hs
  have hhears : (((jumpyStart.run jumps).script? ⟨0⟩).all Script.hears) = true := by decide +kernel
  rw [hs] at hhears
  exact hdelivers.conserved s hs hhears

end ScriptHost.World
