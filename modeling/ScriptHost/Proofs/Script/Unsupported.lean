/-
Unsupported calls in the life of a script. What a guest has tried is remembered as long as the guest lives: over traps, from
the start section to the last export that is called. So of each name the first attempt in a whole life is noted, whichever
operation it falls into and whatever happens in between, and none of the others.

An attempt changes nothing besides. A request to end the program ends the stint that it falls into, and that is all it ends:
the stint keeps what was done before, the operation answers with the trap, and the next stint goes on from there. In the
start section it is the end of the instantiation, as every trap is.

- `Attempt.inert`: what one attempt changes and answers.
- `Script.reported_life`: what the attempts of a life put into the log.
- `unsupported_calls_noted_once`: all this together, for every life of every script.
-/
import ScriptHost.Proofs.Script.Stints

namespace ScriptHost

variable {σ : Type} [SceneBackend σ]

theorem UnsupportedFunction.ofName?_name {f : UnsupportedFunction} (h : f ∈ all) :
    SystemFunction.ofName? f.name = none ∧ ofName? f.name = some f := by
  revert f
  decide +kernel

theorem HostFunction.ofImport?_unsupported {sceneNamespace : String} (hspace : sceneNamespace ≠ systemNamespace)
    {f : UnsupportedFunction} (h : f ∈ UnsupportedFunction.all) :
    ofImport? sceneNamespace ⟨systemNamespace, f.name, (unsupported f).params, (unsupported f).results⟩ =
      some (unsupported f) := by
  obtain ⟨hsystem, hunsupported⟩ := UnsupportedFunction.ofName?_name h
  simp [ofImport?, sceneFunction?, systemFunction?, hspace.symm, hsystem, hunsupported]

/-- an attempt, at a name that is known or not, leaves all as it is but for the log, and answers that there is no such
function -/
structure Attempt.Inert (a : Attempt σ) (known : Prop) : Prop where
  guest : a.after.guest = { a.before.guest with reported := a.after.guest.reported }
  shared : a.after.shared = a.before.shared
  first : ¬ known → a.after.log = a.notice :: a.before.log
  again : known → a.after.log = a.before.log
  answer : a.name ≠ "proc_exit" → a.answer = .ok 52

theorem Attempt.inert (a : Attempt σ) {known : Prop} (h : a.name ∈ a.before.guest.reported ↔ known) : a.Inert known where
  guest := by
    rw [a.after_eq]
    split <;> rfl
  shared := by
    rw [a.after_eq]
    split <;> rfl
  first hnew := by
    rw [a.after_eq, if_neg (h.not.2 hnew)]
  again hknown := by
    rw [a.after_eq, if_pos (h.2 hknown)]
  answer hstays := a.answer_eq.trans (if_neg hstays)

namespace Script

/-- the stints of some operations, one after another -/
def allStints (s : Script) : List (Move σ) → List (Stint σ)
  | [] => []
  | move :: rest => s.stints move ++ (s.meet move).script.allStints rest

/-- the calls of unsupported functions in some operations, in order -/
def attempts (s : Script) (moves : List (Move σ)) : List (Attempt σ) := (s.allStints moves).flatMap Stint.attempts

/-- what is noted in some operations, in order -/
def log (s : Script) (moves : List (Move σ)) : List Notice := (s.deeds moves).flatMap fun d => notices d.trace

theorem reported_life {s : Script} (h : s.Consistent) {known : List String} (hknows : s.Knows known)
    (moves : List (Move σ)) : ∃ known', Reported known (s.attempts moves) known' (s.log moves) := by
  induction moves generalizing s known with
  | nil => exact ⟨known, .none rfl⟩
  | cons move rest ih =>
    obtain ⟨known', hknows', hmet⟩ := reported_meet h hknows move
    obtain ⟨known'', hrest⟩ := ih (consistent_operate (s := { s with queue := move.queue.toArray }) h move.shared move.act) hknows'
    refine ⟨known'', ?_⟩
    rw [attempts, allStints, List.flatMap_append, log, deeds, List.flatMap_cons]
    exact hmet.append hrest

/-- what becomes of the unsupported calls in some operations -/
structure TriesInVain (s : Script) (moves : List (Move σ)) : Prop where
  /-- a guest can import each of the functions, if it declares it as the host does -/
  linked : s.setting.config.sceneNamespace ≠ systemNamespace → ∀ f ∈ UnsupportedFunction.all,
    let f' := HostFunction.unsupported f
    HostFunction.ofImport? s.setting.config.sceneNamespace ⟨systemNamespace, f.name, f'.params, f'.results⟩ = some f'
  /-- of each name the first attempt is noted, if there is one, and none of the others -/
  once (name : String) : (s.log moves).filter (·.attempted? = some name) =
    (((s.attempts moves).find? (·.name = name)).map Attempt.notice).toList
  /-- the host warns of it -/
  warned : ∀ a ∈ s.attempts moves,
    a.notice.attempted? = some a.name ∧ a.notice.level = .warn ∧ a.notice.channel = .host
  /-- it is noted when it is made, and nothing else comes of it -/
  inert : ∀ earlier a later, s.attempts moves = earlier ++ a :: later → a.Inert (a.name ∈ earlier.map Attempt.name)
  /-- a request to end the program is the last attempt of its stint, which ends there and keeps what it has done -/
  exits : ∀ st ∈ s.allStints moves, ∀ a ∈ st.attempts, a.name = "proc_exit" →
    st.finish = (a.after, .error (.exit a.name (exitCode a.args))) ∧
      st.failure? = some (.guestTrap (Trap.exit a.name (exitCode a.args)).reason) ∧
      ∃ earlier, st.attempts = earlier ++ [a]
  /-- and that is what the operation answers, unless a stint before it has trapped; the next stint goes on from there -/
  works : ∀ before move later, moves = before ++ move :: later → (s.after before).Works move

end Script

/-- **Unsupported calls are inert and noted once.** Whatever is done to a fresh script, in any order and any session, and
whatever its guest tries: of each unsupported function the first call is noted, wherever in the script's life it is made,
and none of the others; no call changes anything, and only a request to end the program ends something, namely the program
that is running. -/
theorem unsupported_calls_noted_once (setting : Setting) (source : Source) (moves : List (Move σ)) :
    ({ setting, source } : Script).TriesInVain moves := by
  have hconsistent : ({ setting, source } : Script).Consistent := rfl
  have hknows : ({ setting, source } : Script).Knows [] := fun _ => rfl
  obtain ⟨known, hreported⟩ := Script.reported_life hconsistent hknows moves
  exact {
    linked := fun hspace _ hf => HostFunction.ofImport?_unsupported hspace hf
    once := hreported.filter_log
    warned := fun a _ => ⟨a.attempted?_notice, a.level_notice⟩
    inert := by
      intro earlier a later hsplit
      apply a.inert
      rw [hreported.found earlier a later hsplit, mem_learned]
      exact or_iff_right List.not_mem_nil
    exits := by
      intro st _ a ha hexit
      obtain ⟨hrun, hlast⟩ := Program.exits ha hexit
      have hfinish : st.finish = (a.after, .error (.exit a.name (exitCode a.args))) := hrun
      refine ⟨hfinish, ?_, hlast⟩
      rw [Stint.failure?, hfinish]
    works := fun before move _ _ => Script.works_meet (Script.consistent_after hconsistent before) move }

/-- a module that tries to close a file when it is linked and when it is entered, and then asks to end the program; so does
its `onStart`, and its `onUpdate` tries something else -/
def resigned : Module where
  imports := [⟨systemNamespace, "fd_close", [.i32], [.i32]⟩, ⟨systemNamespace, "proc_exit", [.i32], []⟩,
    ⟨systemNamespace, "sched_yield", [], [.i32]⟩]
  pages := some 1
  start := .call 0 [.i32 3] fun _ => .done
  exports := [("memory", .memory),
    ("_start", .function [] [] fun _ => .call 0 [.i32 4] fun _ => .call 1 [.i32 7] fun _ => .trap .outOfBounds),
    ("on_start", .function [] [] fun _ => .call 1 [.i32 8] fun _ => .done),
    ("on_update", .function [] [] fun _ => .call 2 [] fun _ => .done)]

/-- of its six attempts in three updates three are noted, each when its name is called for the first time -/
example :
    let script : Script := { setting := bareSetting, source := .fetched (.ok resigned) }
    let moves : List (Move SceneStore) := [.instantiate, .dispatch .update, .dispatch .update, .dispatch .update].map
      fun act => ⟨act, { session := { scene := .empty } }, []⟩
    (script.attempts moves).map Attempt.name =
        ["fd_close", "fd_close", "proc_exit", "proc_exit", "sched_yield", "sched_yield"] ∧
      script.log moves = [.unsupportedCall "fd_close", .instantiated, .exitRequested "proc_exit" 7,
        .trapped "_start" (.guestTrap "guest called proc_exit(7)"),
        .trapped "on_start" (.guestTrap "guest called proc_exit(8)"), .unsupportedCall "sched_yield"] := by
  decide +kernel

end ScriptHost
