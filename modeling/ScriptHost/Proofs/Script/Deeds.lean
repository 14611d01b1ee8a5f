/-
What the deeds of the past say of the next one. A deed is what can be seen of an operation on a script: its answer and its
trace. Whether the script has been instantiated and whether its guest has been started can be told from the deeds so far
(`Deed.Loaded`, `Deed.Begun`), and with that which exports are to be called next (`Deed.Exact`).

If all deeds are exact, the exports are called in one order: first those that start the guest, each of them once, and then
only the others (`Deed.roles_allCalls`).
-/
import ScriptHost.Proofs.Script.Calls
import Mathlib.Data.List.Induction

namespace ScriptHost

/-- what can be seen of an operation -/
structure Deed where
  act : ScriptAct
  answer : Option (Except ScriptFailure Unit)
  trace : List Entry

namespace Deed

/-- the calls that were made in a life so far -/
def allCalls (deeds : List Deed) : List LifecycleCall := deeds.flatMap fun d => calls d.trace

/-- has the script been instantiated? -/
def Loaded (past : List Deed) : Prop := ∃ d ∈ past, d.act = .instantiate ∧ d.answer = some (.ok ())

/-- has there been an update since the script was instantiated? -/
def Begun (past : List Deed) : Prop :=
  ∃ before d later, past = before ++ d :: later ∧ Loaded before ∧ d.act = .dispatch .update

/-- the calls that an operation is to make after these deeds, of the exports that the guest has -/
def Due (bound : LifecycleExport → Bool) (past : List Deed) : ScriptAct → List LifecycleCall → Prop
  | .instantiate, made | .deliver, made => made = []
  -- without a guest nothing is called; the first update starts the guest, and goes on if no call has trapped
  | .dispatch .update, made => (¬ Loaded past → made = []) ∧
    (Loaded past → ¬ Begun past → ∃ start later, made = start ++ later ∧
      roles start = [.entryPoint, .onStart].filter bound ∧
        roles later = if firstTrap start = none then [.onUpdate].filter bound else []) ∧
    (Begun past → roles made = [.onUpdate].filter bound)
  -- a selection in front of the first update is passed over
  | .dispatch .select, made =>
    (¬ Begun past → made = []) ∧ (Begun past → roles made = [.onSelect].filter bound)

/-- an operation makes the calls that are due, and an event of the host is answered with the first trap -/
structure Exact (bound : LifecycleExport → Bool) (past : List Deed) (d : Deed) : Prop where
  due : Due bound past d.act (calls d.trace)
  answer : ∀ event, d.act = .dispatch event → d.answer = some (answerOf (calls d.trace))

/-! ## The past -/

theorem loaded_concat {past : List Deed} {d : Deed} :
    Loaded (past ++ [d]) ↔ Loaded past ∨ (d.act = .instantiate ∧ d.answer = some (.ok ())) := by
  constructor
  · rintro ⟨d', hd', h⟩
    rcases List.mem_append.1 hd' with hd' | hd'
    · exact Or.inl ⟨d', hd', h⟩
    · rw [List.mem_singleton.1 hd'] at h
      exact Or.inr h
  · rintro (⟨d', hd', h⟩ | h)
    · exact ⟨d', List.mem_append_left _ hd', h⟩
    · exact ⟨d, List.mem_append_right _ (List.mem_singleton_self d), h⟩

theorem begun_concat {past : List Deed} {d : Deed} :
    Begun (past ++ [d]) ↔ Begun past ∨ (Loaded past ∧ d.act = .dispatch .update) := by
  constructor
  · rintro ⟨before, d', later, heq, hloaded, hact⟩
    rcases List.eq_nil_or_concat later with rfl | ⟨later, last, rfl⟩
    · obtain ⟨rfl, hd⟩ := List.append_inj' heq rfl
      cases hd
      exact Or.inr ⟨hloaded, hact⟩
    · rw [List.concat_eq_append, ← List.cons_append, ← List.append_assoc] at heq
      obtain ⟨hpast, -⟩ := List.append_inj' heq rfl
      exact Or.inl ⟨before, d', later, hpast, hloaded, hact⟩
  · rintro (⟨before, d', later, rfl, hloaded, hact⟩ | ⟨hloaded, hact⟩)
    · exact ⟨before, d', later ++ [d], by simp, hloaded, hact⟩
    · exact ⟨past, d, [], rfl, hloaded, hact⟩

theorem Begun.loaded {past : List Deed} (h : Begun past) : Loaded past := by
  obtain ⟨before, d, later, rfl, ⟨d', hd', hact⟩, -⟩ := h
  exact ⟨d', List.mem_append_left _ hd', hact⟩

/-! ## The order of the calls -/

/-- every operation makes the calls that are due -/
def AllExact (bound : LifecycleExport → Bool) (deeds : List Deed) : Prop :=
  ∀ before d later, deeds = before ++ d :: later → Exact bound before d

/-- the exports that are called only once the guest is started -/
def Onward (role : LifecycleExport) : Prop := role = .onUpdate ∨ role = .onSelect

theorem onward_of_filter {bound : LifecycleExport → Bool} {role role' : LifecycleExport} (h : Onward role)
    (hrole : role' ∈ [role].filter bound) : Onward role' := by
  rw [List.mem_singleton.1 (List.mem_filter.1 hrole).1]
  exact h

variable {bound : LifecycleExport → Bool} {past : List Deed} {d : Deed}

theorem Exact.roles_before (h : Exact bound past d) (hnot : ¬ Begun (past ++ [d])) : roles (calls d.trace) = [] := by
  have hpast : ¬ Begun past := fun hb => hnot (begun_concat.2 (Or.inl hb))
  have hdue := h.due
  rcases d with ⟨act, answer, trace⟩
  rcases act with _ | ⟨_ | _⟩ | _
  · exact congrArg roles hdue
  · have hloaded : ¬ Loaded past := fun hl => hnot (begun_concat.2 (Or.inr ⟨hl, rfl⟩))
    exact congrArg roles (hdue.1 hloaded)
  · exact congrArg roles (hdue.1 hpast)
  · exact congrArg roles hdue

theorem Exact.roles_first (h : Exact bound past d) (hpast : ¬ Begun past) (hbegun : Begun (past ++ [d])) :
    ∃ rest, roles (calls d.trace) = [.entryPoint, .onStart].filter bound ++ rest ∧ ∀ role ∈ rest, Onward role := by
  obtain ⟨hloaded, hact⟩ := (begun_concat.1 hbegun).resolve_left hpast
  have hdue := h.due
  rw [hact] at hdue
  obtain ⟨start, later, hmade, hstart, hlater⟩ := hdue.2.1 hloaded hpast
  refine ⟨roles later, ?_, ?_⟩
  · rw [hmade, ← hstart]
    exact List.map_append
  · intro role hrole
    rw [hlater] at hrole
    split at hrole
    · exact onward_of_filter (Or.inl rfl) hrole
    · exact absurd hrole List.not_mem_nil

theorem Exact.roles_later (h : Exact bound past d) (hpast : Begun past) :
    ∀ role ∈ roles (calls d.trace), Onward role := by
  have hdue := h.due
  intro role hrole
  rcases d with ⟨act, answer, trace⟩
  rcases act with _ | ⟨_ | _⟩ | _
  · rw [show calls trace = [] from hdue] at hrole
    exact absurd hrole List.not_mem_nil
  · rw [hdue.2.2 hpast] at hrole
    exact onward_of_filter (Or.inl rfl) hrole
  · rw [hdue.2 hpast] at hrole
    exact onward_of_filter (Or.inr rfl) hrole
  · rw [show calls trace = [] from hdue] at hrole
    exact absurd hrole List.not_mem_nil

theorem roles_allCalls_concat (past : List Deed) (d : Deed) :
    roles (allCalls (past ++ [d])) = roles (allCalls past) ++ roles (calls d.trace) := by
  simp [allCalls, roles]

/-- nothing is called before the guest is started; then come the exports that start it, and after them the others -/
theorem roles_allCalls {deeds : List Deed} (h : AllExact bound deeds) :
    (¬ Begun deeds → roles (allCalls deeds) = []) ∧
      (Begun deeds → ∃ rest, roles (allCalls deeds) = [.entryPoint, .onStart].filter bound ++ rest ∧
        ∀ role ∈ rest, Onward role) := by
  induction deeds using List.reverseRecOn with
  | nil =>
    constructor
    · intro _
      rfl
    · rintro ⟨before, d, later, heq, -⟩
      exact absurd heq.symm (by simp)
  | append_singleton past d ih =>
    have hexact : Exact bound past d := h past d [] rfl
    obtain ⟨hbefore, hbegun⟩ := ih fun before d' later heq => h before d' (later ++ [d]) (by rw [heq]; simp)
    rw [roles_allCalls_concat]
    constructor
    · intro hnot
      have hpast : ¬ Begun past := fun hp => hnot (begun_concat.2 (Or.inl hp))
      rw [hexact.roles_before hnot, hbefore hpast]
      rfl
    · intro hb
      by_cases hpast : Begun past
      · obtain ⟨rest, hroles, hrest⟩ := hbegun hpast
        refine ⟨rest ++ roles (calls d.trace), by rw [hroles, List.append_assoc], ?_⟩
        intro role hrole
        rcases List.mem_append.1 hrole with hrole | hrole
        · exact hrest role hrole
        · exact hexact.roles_later hpast role hrole
      · rw [hbefore hpast]
        exact hexact.roles_first hpast hb

/-- an export that starts the guest is called once at most -/
theorem count_roles_le_one {deeds : List Deed} (h : AllExact bound deeds) {role : LifecycleExport}
    (hrole : ¬ Onward role) : (roles (allCalls deeds)).count role ≤ 1 := by
  obtain ⟨hbefore, hbegun⟩ := roles_allCalls h
  by_cases hb : Begun deeds
  · obtain ⟨rest, hroles, hrest⟩ := hbegun hb
    have hzero : rest.count role = 0 := List.count_eq_zero.2 fun hmem => hrole (hrest role hmem)
    have hstart : ([.entryPoint, .onStart] : List LifecycleExport).count role ≤ 1 := by cases role <;> decide
    calc (roles (allCalls deeds)).count role
      _ = (([.entryPoint, .onStart] : List LifecycleExport).filter bound).count role + rest.count role := by
        rw [hroles, List.count_append]
      _ = (([.entryPoint, .onStart] : List LifecycleExport).filter bound).count role := by rw [hzero, Nat.add_zero]
      _ ≤ ([.entryPoint, .onStart] : List LifecycleExport).count role := List.filter_sublist.count_le role
      _ ≤ 1 := hstart
  · rw [hbefore hb]
    exact Nat.zero_le 1

/-- in front of the other exports those have been called that start the guest -/
theorem started_before {deeds : List Deed} (h : AllExact bound deeds) {before later : List LifecycleExport}
    {role start : LifecycleExport} (hsplit : roles (allCalls deeds) = before ++ role :: later) (hrole : Onward role)
    (hstart : ¬ Onward start) (hbound : bound start = true) : start ∈ before := by
  obtain ⟨hbefore, hbegun⟩ := roles_allCalls h
  by_cases hb : Begun deeds
  · obtain ⟨rest, hroles, hrest⟩ := hbegun hb
    have hmem : start ∈ ([.entryPoint, .onStart] : List LifecycleExport).filter bound := by
      refine List.mem_filter.2 ⟨?_, hbound⟩
      cases start with
      | entryPoint | onStart => decide
      | onUpdate => exact absurd (Or.inl rfl) hstart
      | onSelect => exact absurd (Or.inr rfl) hstart
    rw [hroles] at hsplit
    rcases List.append_eq_append_iff.1 hsplit with ⟨more, rfl, -⟩ | ⟨more, hopening, hmore⟩
    · exact List.mem_append_left _ hmem
    · rcases more with _ | ⟨first, more⟩
      · rw [List.append_nil] at hopening
        exact hopening ▸ hmem
      -- then the role itself would be one of those that start the guest
      · obtain ⟨rfl, -⟩ := List.cons.inj hmore
        have hopened : role ∈ ([.entryPoint, .onStart] : List LifecycleExport) :=
          (List.mem_filter.1 (hopening ▸ List.mem_append_right before List.mem_cons_self)).1
        rcases hrole with rfl | rfl <;> exact absurd hopened (by decide)
  · rw [hbefore hb] at hsplit
    exact absurd hsplit.symm (by simp)

end Deed

end ScriptHost
