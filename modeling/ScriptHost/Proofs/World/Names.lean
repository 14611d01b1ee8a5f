/-
Names over time. Five acts of the host add a node, remove one, register one or patch one; no other act changes the
descriptor of a node or the id of an element, and so nothing that a guest does (`World.sameNames_step`).

- `all_run`: the registry only grows, at its end.
- `placed_run`: a registered node has a number that the scene has given out, so once it has left the scene, it is away for
  good (`idOf?_run_of_gone`).
- `unrenamed_run`: as long as the host gives no registered element another id, each has the id that it was registered with.
-/
import ScriptHost.Proofs.SceneCall.Names
import ScriptHost.Proofs.World.History

namespace ScriptHost

/-! ## What an act does to names -/

namespace World

variable {w : World SceneStore} {node : NodeId}

/-- the act adds, removes, registers and patches nothing; an act of a guest is always quiet -/
def Act.isQuiet : Act → Bool
  | .add _ | .addRegistered _ | .register _ | .remove _ | .patch .. => false
  | _ => true

theorem sameNames_of_shared {w' : World SceneStore} (h : w'.shared = w.shared) :
    w.session.SameNames w'.session := by
  rw [session, session, h]
  exact .refl _

/-- **Only the host names.** An act that is not one of its five leaves the registry, the nodes and their ids as they are. -/
theorem sameNames_step {act : Act} (h : act.isQuiet) : w.session.SameNames (w.step act).session := by
  cases act with
  | add | addRegistered | register | remove | patch => cases h
  | call caller m call => exact Session.sameNames_call caller m w.session call
  | operate id act =>
    rw [step]
    cases hoperate : w.operate id act with
    | none => exact .refl _
    | some st =>
      obtain ⟨script, -, new, shared, hworld, -, hsession⟩ := operated_of_operate hoperate
      have hafter : st.world.session = w.session.after script.guestId (script.made w.shared st.trace) := by
        rw [hworld]
        exact hsession
      dsimp only
      rw [hafter]
      exact Session.sameNames_after _ _ _
  | subscribe node event => exact Session.sameNames_subscribe w.session node event .host
  | animate node clip playState wrap =>
    rw [step, World.animate]
    cases ha : SceneBackend.animate? w.session.scene node clip playState wrap with
    | none => exact .refl _
    | some scene => exact Session.sameNames_animate? ha
  | fire node event => exact sameNames_of_shared (shared_foldl_tell w _)
  | takeEvents id => exact sameNames_of_shared (shared_takeEvents w id)
  | setClosed | attach | drop | breakSession => exact .refl _

/-- the entry that an act makes in the registry -/
def enrolled (w : World SceneStore) : Act → Option Registration
  | .addRegistered e => w.session.registry.enrol? w.store.next e.id
  | .register node => (w.store.element? node).bind fun e => w.session.registry.enrol? node e.id
  | _ => none

/-- the registry only grows, at its end -/
theorem all_step (w : World SceneStore) (act : Act) :
    (w.step act).session.registry.all = w.session.registry.all ++ (w.enrolled act).toList := by
  cases act with
  | addRegistered e => exact w.session.registry.all_register w.store.next e.id
  | register node =>
    have helement : SceneBackend.element? w.session.scene node = w.store.element? node := rfl
    rw [step, World.register, Session.register, enrolled, helement]
    cases w.store.element? node with
    | none => exact (List.append_nil _).symm
    | some e => exact w.session.registry.all_register node e.id
  | add | remove => exact (List.append_nil _).symm
  | patch node p =>
    rw [step, World.patch]
    cases SceneBackend.patch? w.session.scene node p <;> exact (List.append_nil _).symm
  | _ =>
    rw [(sameNames_step rfl).registry]
    exact (List.append_nil _).symm

/-- numbers of nodes are given out and never taken back -/
theorem next_step (w : World SceneStore) (act : Act) : w.store.next.index ≤ (w.step act).store.next.index := by
  cases act with
  | add e | addRegistered e =>
    have hnext : (w.store.add e).2.next.index = w.store.next.index + 1 := Array.size_push ..
    calc w.store.next.index
      _ ≤ w.store.next.index + 1 := Nat.le_succ _
      _ = (w.store.add e).2.next.index := hnext.symm
  | register node => exact Nat.le_of_eq (congrArg (·.next.index) (store_register w node)).symm
  | remove node =>
    have hnext : (w.store.remove node).2.next = w.store.next := SceneStore.next_put ..
    exact Nat.le_of_eq (congrArg NodeId.index hnext).symm
  | patch node p =>
    rw [step, World.patch]
    cases hp : SceneBackend.patch? w.session.scene node p with
    | none => exact Nat.le_refl _
    | some scene =>
      have hnext : SceneStore.next scene = w.store.next := (SceneStore.alters_patch? hp).next
      exact Nat.le_of_eq (congrArg NodeId.index hnext).symm
  | _ => exact Nat.le_of_eq (congrArg NodeId.index (sameNames_step rfl).next).symm

/-- the host gives the element of a node another id -/
def Renames (w : World SceneStore) (node : NodeId) : Act → Prop
  | .patch patched p => patched = node ∧ ∃ e e', w.store.element? node = some e ∧ p.applyTo? e = some e' ∧ e'.id ≠ e.id
  | _ => False

/-- a node that has its number keeps the id of its element, unless it is removed or renamed by the host -/
theorem idOf?_step (hnode : node.index < w.store.next.index) (act : Act) :
    (w.step act).store.idOf? node = none ∨ (w.step act).store.idOf? node = w.store.idOf? node ∨
      w.Renames node act := by
  have hold : node ≠ w.store.next := fun heq => Nat.lt_irrefl _ (heq ▸ hnode)
  cases act with
  | add e | addRegistered e =>
    refine .inr (.inl ((SceneStore.idOf?_add w.store e node).trans ?_))
    rw [if_neg hold]
  | register => rw [step, store_register]; exact .inr (.inl rfl)
  | remove removed =>
    by_cases heq : node = removed
    · exact .inl ((SceneStore.idOf?_remove w.store removed node).trans (if_pos heq))
    · exact .inr (.inl ((SceneStore.idOf?_remove w.store removed node).trans (if_neg heq)))
  | patch patched p =>
    rw [step, World.patch]
    cases hp : SceneBackend.patch? w.session.scene patched p with
    | none => exact .inr (.inl rfl)
    | some scene =>
      by_cases heq : node = patched
      · subst heq
        obtain ⟨old, new, hfound, happly, rfl⟩ := SceneStore.patch?_eq_some.1 hp
        have helement : w.store.element? node = some old.element := congrArg (Option.map SceneNode.element) hfound
        have hid : w.store.idOf? node = some old.element.id := congrArg (Option.map Element.id) helement
        have hnew : (w.withScene
            { w.session.scene.put node (some { old with element := new }) with journal := (node, p) ::
              w.session.scene.journal }).store.idOf? node = some new.id :=
          congrArg (Option.map Element.id) (SceneStore.element?_put_self hfound { old with element := new })
        by_cases hsame : new.id = old.element.id
        · refine .inr (.inl ?_)
          dsimp only
          rw [hnew, hid, hsame]
        · exact .inr (.inr ⟨rfl, old.element, new, helement, happly, hsame⟩)
      · exact .inr (.inl (SceneStore.idOf?_of_alters (SceneStore.alters_patch? hp) heq))
  | _ => exact .inr (.inl ((sameNames_step rfl).idOf? node))

/-- what an act enrols is in the scene then, with the id that is noted -/
theorem idOf?_of_enrolled {act : Act} {entry : Registration} (h : w.enrolled act = some entry) :
    (w.step act).store.idOf? entry.node = some entry.id := by
  cases act with
  | addRegistered e =>
    obtain ⟨-, rfl⟩ := Registry.enrol?_eq_some.1 h
    rw [step, store_addRegistered, SceneStore.idOf?_add, if_pos rfl]
  | register node =>
    obtain ⟨e, helement, h⟩ := Option.bind_eq_some_iff.1 h
    obtain ⟨-, rfl⟩ := Registry.enrol?_eq_some.1 h
    rw [step, store_register, SceneStore.idOf?, helement]
    rfl
  | _ => cases h

end World

/-! ## Runs -/

namespace World

variable {w : World SceneStore} {node : NodeId}

theorem all_run (w : World SceneStore) (acts : List Act) :
    w.session.registry.all <+: (w.run acts).session.registry.all := by
  induction acts generalizing w with
  | nil => exact List.prefix_refl _
  | cons act rest ih =>
    have hstep : w.session.registry.all <+: (w.step act).session.registry.all := by
      rw [all_step]
      exact List.prefix_append _ _
    exact hstep.trans (ih _)

theorem placed_step (h : w.session.Placed) (act : Act) : (w.step act).session.Placed := by
  intro entry hentry
  rw [all_step, List.mem_append, Option.mem_toList] at hentry
  rcases hentry with hentry | hentry
  · exact Nat.lt_of_lt_of_le (h entry hentry) (next_step w act)
  · exact SceneStore.index_lt_of_idOf? (idOf?_of_enrolled hentry)

theorem placed_run (h : w.session.Placed) (acts : List Act) : (w.run acts).session.Placed := by
  induction acts generalizing w with
  | nil => exact h
  | cons act rest ih => exact ih (placed_step h act)

theorem idOf?_step_of_gone (hnode : node.index < w.store.next.index) (hgone : w.store.idOf? node = none) (act : Act) :
    (w.step act).store.idOf? node = none := by
  rcases idOf?_step hnode act with h | h | h
  · exact h
  · rw [h, hgone]
  · cases act with
    | patch patched p =>
      obtain ⟨-, e, -, helement, -⟩ := h
      rw [SceneStore.idOf?_eq_none_iff, helement] at hgone
      cases hgone
    | _ => cases h

/-- a node that has left the scene does not come back -/
theorem idOf?_run_of_gone (hnode : node.index < w.store.next.index) (hgone : w.store.idOf? node = none)
    (acts : List Act) : (w.run acts).store.idOf? node = none := by
  induction acts generalizing w with
  | nil => exact hgone
  | cons act rest ih => exact ih (Nat.lt_of_lt_of_le hnode (next_step w act)) (idOf?_step_of_gone hnode hgone act)

/-- in a run the host gives no registered element another id -/
def KeepsIds (w : World SceneStore) : List Act → Prop
  | [] => True
  | act :: rest => (∀ entry ∈ w.session.registry.all, ¬ w.Renames entry.node act) ∧ (w.step act).KeepsIds rest

theorem unrenamed_step {act : Act} (hplaced : w.session.Placed) (h : w.session.Unrenamed)
    (hkeeps : ∀ entry ∈ w.session.registry.all, ¬ w.Renames entry.node act) : (w.step act).session.Unrenamed := by
  intro entry hentry
  rw [all_step, List.mem_append, Option.mem_toList] at hentry
  rcases hentry with hentry | hentry
  · rcases idOf?_step (hplaced entry hentry) act with hgone | hsame | hrenames
    · exact .inl hgone
    · have hbefore : w.store.idOf? entry.node = none ∨ w.store.idOf? entry.node = some entry.id := h entry hentry
      rw [← hsame] at hbefore
      exact hbefore
    · exact absurd hrenames (hkeeps entry hentry)
  · exact .inr (idOf?_of_enrolled hentry)

theorem unrenamed_run (hplaced : w.session.Placed) (h : w.session.Unrenamed) {acts : List Act}
    (hkeeps : w.KeepsIds acts) : (w.run acts).session.Unrenamed := by
  induction acts generalizing w with
  | nil => exact h
  | cons act rest ih => exact ih (placed_step hplaced act) (unrenamed_step hplaced h hkeeps.1) hkeeps.2

theorem placed_of_fresh (hfresh : w.session.registry = {}) : w.session.Placed := by
  intro entry hentry
  rw [hfresh] at hentry
  cases hentry

theorem unrenamed_of_fresh (hfresh : w.session.registry = {}) : w.session.Unrenamed := by
  intro entry hentry
  rw [hfresh] at hentry
  cases hentry

end World

end ScriptHost
