/-
What comes of calls that the host does not support. A guest can call such a function whenever it has control, as often as it
likes. All that the call does is to be noted, if it is the first one of that name; then it answers that there is no such
function, or, if the guest asks to end the program, ends the program that is running (`Attempt.after_eq`,
`Attempt.answer_eq`). Which calls are noted depends on nothing but the names that were called before, so the attempts of a
run can be told apart from all else that happens in it, and the attempts of several runs can be put together
(`Reported.append`).

- `filter_fresh`: of the attempts with one name the first is new, and none of the others.
- `Program.reported_run`: a run notes just the attempts whose names are new.
- `Program.exits`: a request to end the program is the last thing that a run does.
-/
import ScriptHost.Proofs.Script.Calls

namespace ScriptHost

variable {σ : Type}

/-! ## Attempts -/

/-- a call of an unsupported function, with the guest, the session and the log as they are before it -/
structure Attempt (σ : Type) where
  function : UnsupportedFunction
  args : List Word
  before : Turn σ

namespace Attempt

def name (a : Attempt σ) : String := a.function.name

/-- the notice of the call, if it is noted -/
def notice (a : Attempt σ) : Notice := unsupportedNotice a.name a.args

variable [SceneBackend σ] (a : Attempt σ)

def call : Turn σ × Except Trap UInt32 := (HostFunction.unsupported a.function).call a.args a.before

/-- the guest, the session and the log after the call -/
def after : Turn σ := a.call.1

/-- what the guest is answered, or the trap that it ends in -/
def answer : Except Trap UInt32 := a.call.2

theorem after_eq : a.after = if a.name ∈ a.before.guest.reported then a.before else
    { a.before with
      guest := { a.before.guest with reported := a.before.guest.reported ++ [a.name] }
      log := a.notice :: a.before.log } := rfl

theorem answer_eq :
    a.answer = if a.name = "proc_exit" then .error (.exit a.name (exitCode a.args)) else .ok 52 := by
  have hanswer : a.answer = (if a.name == "proc_exit" then .error (.exit a.name (exitCode a.args))
      else .ok Errno.nosys : Except Trap Errno).map fun errno => errno.code.toUInt32 := rfl
  rw [hanswer]
  by_cases hexit : a.name = "proc_exit"
  · rw [if_pos (beq_iff_eq.2 hexit), if_pos hexit]
    rfl
  · rw [if_neg (fun h => hexit (beq_iff_eq.1 h)), if_neg hexit]
    rfl

end Attempt

/-! ## Names that are new -/

/-- the attempts whose names are new to a guest that knows some names -/
def fresh (known : List String) : List (Attempt σ) → List (Attempt σ)
  | [] => []
  | a :: rest => if a.name ∈ known then fresh known rest else a :: fresh (known ++ [a.name]) rest

/-- the names that a guest knows after some attempts -/
def learned (known : List String) (tries : List (Attempt σ)) : List String :=
  known ++ (fresh known tries).map Attempt.name

section Fresh

variable {known : List String}

theorem learned_nil : learned known ([] : List (Attempt σ)) = known := List.append_nil known

theorem learned_cons (a : Attempt σ) (rest : List (Attempt σ)) :
    learned known (a :: rest) = learned (if a.name ∈ known then known else known ++ [a.name]) rest := by
  by_cases hknown : a.name ∈ known
  · rw [learned, fresh, if_pos hknown, if_pos hknown]
    rfl
  · rw [learned, fresh, if_neg hknown, if_neg hknown, List.map_cons, List.append_cons]
    rfl

theorem fresh_append (tries more : List (Attempt σ)) :
    fresh known (tries ++ more) = fresh known tries ++ fresh (learned known tries) more := by
  induction tries generalizing known with
  | nil => rw [learned_nil, fresh, List.nil_append, List.nil_append]
  | cons a rest ih =>
    rw [List.cons_append, learned_cons, fresh, fresh]
    split
    · exact ih
    · rw [ih, List.cons_append]

theorem learned_append (tries more : List (Attempt σ)) :
    learned known (tries ++ more) = learned (learned known tries) more := by
  rw [learned, fresh_append, List.map_append, ← List.append_assoc]
  rfl

theorem mem_learned {name : String} {tries : List (Attempt σ)} :
    name ∈ learned known tries ↔ name ∈ known ∨ name ∈ tries.map Attempt.name := by
  induction tries generalizing known with
  | nil => simp [learned_nil]
  | cons a rest ih =>
    rw [learned_cons, ih, List.map_cons, List.mem_cons]
    split
    · rename_i hknown
      constructor
      · exact Or.imp_right Or.inr
      · rintro (h | rfl | h)
        · exact Or.inl h
        · exact Or.inl hknown
        · exact Or.inr h
    · rw [List.mem_append, List.mem_singleton, or_assoc]

/-- of the attempts with one name the first is new, unless the name is known, and none of the others -/
theorem filter_fresh (name : String) (tries : List (Attempt σ)) : (fresh known tries).filter (·.name = name) =
    if name ∈ known then [] else (tries.find? (·.name = name)).toList := by
  induction tries generalizing known with
  | nil => rw [fresh, List.filter_nil, List.find?_nil, Option.toList_none, ite_self]
  | cons a rest ih =>
    rw [fresh]
    by_cases hname : a.name = name
    · subst hname
      rw [List.find?_cons_of_pos (by simp)]
      split
      · rename_i hknown
        rw [ih, if_pos hknown]
      · have hlearned : a.name ∈ known ++ [a.name] := List.mem_append_right _ (List.mem_singleton_self _)
        rw [List.filter_cons_of_pos (by simp), ih, if_pos hlearned]
        rfl
    · rw [List.find?_cons_of_neg (by simp [hname])]
      split
      · exact ih
      · have hlearned : name ∈ known ++ [a.name] ↔ name ∈ known := by
          rw [List.mem_append, List.mem_singleton, or_iff_left (Ne.symm hname)]
        rw [List.filter_cons_of_neg (by simp [hname]), ih]
        simp only [hlearned]

end Fresh

/-! ## What is noted -/

/-- the unsupported function that a notice tells of -/
def Notice.attempted? : Notice → Option String
  | unsupportedCall name | exitRequested name _ => some name
  | _ => none

/-- the notices that tell of unsupported functions -/
def attempted (notices : List Notice) : List Notice := notices.filter (·.attempted?.isSome)

theorem Attempt.attempted?_notice (a : Attempt σ) : a.notice.attempted? = some a.name := by
  unfold Attempt.notice unsupportedNotice
  split <;> rfl

theorem Attempt.level_notice (a : Attempt σ) : a.notice.level = .warn ∧ a.notice.channel = .host := by
  unfold Attempt.notice unsupportedNotice
  split <;> exact ⟨rfl, rfl⟩

theorem attempted_append (notices later : List Notice) :
    attempted (notices ++ later) = attempted notices ++ attempted later := List.filter_append ..

theorem attempted_of_ofCalls {notices : List Notice} (h : OfCalls notices) : attempted notices = [] := by
  refine List.filter_eq_nil_iff.2 fun n hn => ?_
  have hcall := h n hn
  cases n with
  | patchRefused | entropyFailed | printed => exact Bool.false_ne_true
  | _ => cases hcall

/-- a guest that knew some names has made some attempts, and of these just those whose names were new were noted -/
structure Reported (known : List String) (tries : List (Attempt σ)) (known' : List String) (log : List Notice) :
    Prop where
  learned : known' = learned known tries
  noted : attempted log = (fresh known tries).map Attempt.notice
  /-- whenever it made one, it knew the names of those before -/
  found : ∀ earlier a later, tries = earlier ++ a :: later →
    a.before.guest.reported = ScriptHost.learned known earlier

section Reported

variable {known known' known'' : List String} {tries more : List (Attempt σ)} {log later : List Notice}

theorem Reported.none (h : attempted log = []) : Reported known ([] : List (Attempt σ)) known log where
  learned := learned_nil.symm
  noted := h
  found earlier a later hsplit := absurd hsplit.symm (List.append_ne_nil_of_right_ne_nil earlier (List.cons_ne_nil a later))

theorem Reported.append (h : Reported known tries known' log) (h' : Reported known' more known'' later) :
    Reported known (tries ++ more) known'' (log ++ later) where
  learned := by rw [h'.learned, h.learned, learned_append]
  noted := by rw [attempted_append, h.noted, h'.noted, fresh_append, List.map_append, h.learned]
  found := by
    intro earlier a rest hsplit
    rcases List.append_eq_append_iff.1 hsplit with ⟨between, rfl, hmore⟩ | ⟨between, htries, hrest⟩
    · rw [h'.found between a rest hmore, h.learned, learned_append]
    · rcases between with _ | ⟨b, between⟩
      · rw [List.append_nil] at htries
        rw [List.nil_append] at hrest
        subst htries
        rw [h'.found [] a rest hrest.symm, learned_nil, h.learned]
      · obtain ⟨rfl, -⟩ := List.cons.inj hrest
        exact h.found earlier a between htries

/-- of each name the first attempt was noted, if there was one, and none of the others -/
theorem Reported.filter_log (h : Reported [] tries known' log) (name : String) :
    log.filter (·.attempted? = some name) = ((tries.find? (·.name = name)).map Attempt.notice).toList := by
  have hsome : ∀ n : Notice, (decide (n.attempted? = some name) && n.attempted?.isSome) =
      decide (n.attempted? = some name) := by
    intro n
    by_cases hn : n.attempted? = some name <;> simp [hn]
  have hname : ∀ a : Attempt σ, decide (a.notice.attempted? = some name) = decide (a.name = name) := by
    intro a
    simp only [a.attempted?_notice, Option.some.injEq]
  calc log.filter (·.attempted? = some name)
    _ = (attempted log).filter (·.attempted? = some name) := by
      rw [attempted, List.filter_filter]
      simp only [hsome]
    _ = ((fresh [] tries).filter (·.name = name)).map Attempt.notice := by
      rw [h.noted, List.filter_map]
      simp only [Function.comp_def, hname]
    _ = ((tries.find? (·.name = name)).map Attempt.notice).toList := by
      rw [filter_fresh, if_neg List.not_mem_nil]
      cases tries.find? (·.name = name) <;> rfl

theorem Reported.singleton [SceneBackend σ] (a : Attempt σ) : ∃ log, a.after.log = log.reverse ++ a.before.log ∧
    Reported a.before.guest.reported [a] a.after.guest.reported log := by
  have hfound : ∀ earlier b later, [a] = earlier ++ b :: later →
      b.before.guest.reported = ScriptHost.learned a.before.guest.reported earlier := by
    intro earlier b later hsplit
    rcases List.cons_eq_append_iff.1 hsplit with ⟨rfl, hrest⟩ | ⟨rest, -, hrest⟩
    · obtain ⟨rfl, -⟩ := List.cons.inj hrest
      exact learned_nil.symm
    · exact absurd hrest.symm (List.append_ne_nil_of_right_ne_nil rest (List.cons_ne_nil b later))
  rw [a.after_eq]
  by_cases hknown : a.name ∈ a.before.guest.reported
  · rw [if_pos hknown]
    refine ⟨[], rfl, ?_, ?_, hfound⟩
    · rw [learned_cons, if_pos hknown, learned_nil]
    · rw [fresh, if_pos hknown]
      rfl
  · rw [if_neg hknown]
    refine ⟨[a.notice], rfl, ?_, ?_, hfound⟩
    · rw [learned_cons, if_neg hknown, learned_nil]
    · rw [fresh, if_neg hknown, fresh, List.map_singleton]
      exact List.filter_cons_of_pos (by rw [a.attempted?_notice]; rfl)

end Reported

/-! ## Runs -/

variable [SceneBackend σ]

/-- the attempt that a call of an import is, if it is one -/
def HostFunction.attempts (f : HostFunction) (args : List Word) (t : Turn σ) : List (Attempt σ) :=
  match f with
  | unsupported f => [⟨f, args, t⟩]
  | scene _ | system _ => []

/-- the calls of unsupported functions that a program makes, in order -/
def Program.attempts : Program → Turn σ → List (Attempt σ)
  | done, _ | trap _, _ => []
  | look next, t => (next t.guest.state).attempts t
  | change f next, t => next.attempts { t with guest := { t.guest with state := f t.guest.state } }
  | call position args next, t =>
    match t.guest.imports[position]? with
    | none => []
    | some f => f.attempts args t ++
      match f.call args t with
      | (t, .ok answer) => (next answer).attempts t
      | (_, .error _) => []

theorem HostFunction.mem_attempts {f : HostFunction} {args : List Word} {t : Turn σ} {a : Attempt σ}
    (h : a ∈ f.attempts args t) : f.attempts args t = [a] ∧ f.call args t = a.call := by
  cases f with
  | unsupported f =>
    obtain rfl := List.mem_singleton.1 h
    exact ⟨rfl, rfl⟩
  | scene | system => exact absurd h List.not_mem_nil

theorem HostFunction.reported_call (f : HostFunction) (args : List Word) (t : Turn σ) :
    ∃ log, (f.call args t).1.log = log.reverse ++ t.log ∧
      Reported t.guest.reported (f.attempts args t) (f.call args t).1.guest.reported log := by
  cases f with
  | scene f =>
    rw [HostFunction.call]
    split
    · dsimp only [Turn.sceneCall]
      split
      · exact ⟨_, rfl, .none (attempted_of_ofCalls (SceneCall.ofCalls_run _ _ _ _))⟩
      · exact ⟨[], rfl, .none rfl⟩
    · exact ⟨[], rfl, .none rfl⟩
  | system f =>
    rw [HostFunction.call]
    split
    · dsimp only [Turn.systemCall]
      split
      · exact ⟨_, rfl, .none (attempted_of_ofCalls (SystemCall.ofCalls_run _ _ _ _))⟩
      · exact ⟨[], rfl, .none rfl⟩
    · exact ⟨[], rfl, .none rfl⟩
  | unsupported f => exact Reported.singleton ⟨f, args, t⟩

/-- a run notes just the attempts whose names are new -/
theorem Program.reported_run (program : Program) (t : Turn σ) :
    ∃ log, (program.run t).1.log = log.reverse ++ t.log ∧
      Reported t.guest.reported (program.attempts t) (program.run t).1.guest.reported log := by
  induction program generalizing t with
  | done | trap => exact ⟨[], rfl, .none rfl⟩
  | look next ih => exact ih t.guest.state t
  | change f next ih => exact ih { t with guest := { t.guest with state := f t.guest.state } }
  | call position args next ih =>
    rw [Program.run, Program.attempts]
    cases t.guest.imports[position]? with
    | none => exact ⟨[], rfl, .none rfl⟩
    | some f =>
      obtain ⟨log, hlog, hcall⟩ := f.reported_call args t
      dsimp only
      rcases hresult : f.call args t with ⟨t', reason | answer⟩
      · rw [hresult] at hlog hcall
        dsimp only
        rw [List.append_nil]
        exact ⟨log, hlog, hcall⟩
      · rw [hresult] at hlog hcall
        obtain ⟨later, hlater, hrest⟩ := ih answer t'
        refine ⟨log ++ later, ?_, hcall.append hrest⟩
        dsimp only at hlog ⊢
        rw [hlater, hlog, List.reverse_append, List.append_assoc]

/-- a request to end the program is the last attempt of a run, and the run ends with it -/
theorem Program.exits {program : Program} {t : Turn σ} {a : Attempt σ} (h : a ∈ program.attempts t)
    (hexit : a.name = "proc_exit") : program.run t = (a.after, .error (.exit a.name (exitCode a.args))) ∧
      ∃ earlier, program.attempts t = earlier ++ [a] := by
  have htrap : a.answer = .error (.exit a.name (exitCode a.args)) := a.answer_eq.trans (if_pos hexit)
  induction program generalizing t with
  | done | trap => exact absurd h List.not_mem_nil
  | look next ih => exact ih t.guest.state h
  | change f next ih => exact ih h
  | call position args next ih =>
    rw [Program.attempts] at h ⊢
    rw [Program.run]
    cases himport : t.guest.imports[position]? with
    | none =>
      rw [himport] at h
      exact absurd h List.not_mem_nil
    | some f =>
      rw [himport] at h
      dsimp only at h ⊢
      rcases List.mem_append.1 h with hfirst | hlater
      · obtain ⟨hattempts, hcall⟩ := HostFunction.mem_attempts hfirst
        have hresult : f.call args t = (a.after, .error (.exit a.name (exitCode a.args))) := by
          rw [hcall, ← htrap]
          rfl
        rw [hresult, hattempts]
        exact ⟨rfl, [], rfl⟩
      · rcases hresult : f.call args t with ⟨t', reason | answer⟩
        · rw [hresult] at hlater
          exact absurd hlater List.not_mem_nil
        · rw [hresult] at hlater
          obtain ⟨hrun, earlier, hearlier⟩ := ih answer hlater
          refine ⟨hrun, f.attempts args t ++ earlier, ?_⟩
          dsimp only at hearlier ⊢
          rw [hearlier, List.append_assoc]

end ScriptHost
