/-
The indices of a registry agree with its entries and with its counter (`Registry.Indexed`): each descriptor leads to the last
entry that has it, each node to its only entry, and each id to the first entry that was registered with it; and the counter
stands where the entries end. A registration keeps this up (`indexed_register`), so it is true of every registry that comes
from registrations alone.
-/
import ScriptHost.Registry
import Std.Data.ExtTreeMap.Lemmas

namespace ScriptHost.Registry

/-- the descriptor of the entry at a position -/
def descriptorAt (position : Nat) : Int32 := firstDescriptor + Int32.ofNat position

theorem descriptorAt_succ (position : Nat) : descriptorAt (position + 1) = descriptorAt position + 1 := by
  rw [descriptorAt, descriptorAt, Int32.ofNat_add, Int32.add_assoc]
  rfl

/-- the last entry with the descriptor stands at the position -/
structure Last (r : Registry) (d : Int32) (position : Nat) : Prop where
  entry : ∃ e, r.all[position]? = some e ∧ e.descriptor = d
  latest : ∀ i e, position < i → r.all[i]? = some e → e.descriptor ≠ d

/-- the indices of a registry lead to its entries, and the counter stands behind the last of them -/
structure Indexed (r : Registry) : Prop where
  descriptor : ∀ i e, r.all[i]? = some e → e.descriptor = descriptorAt i
  next : r.next = descriptorAt r.count
  byDescriptor : ∀ d i, r.byDescriptor[d]? = some i ↔ r.Last d i
  byNode : ∀ node : NodeId, r.byNode[node.index]? = r.all.findIdx? fun e => e.node = node
  byId : ∀ id : String, r.byId[id]? = r.all.findIdx? fun e => e.id = some id
  distinct : (r.all.map (·.node)).Nodup

theorem indexed_empty : Indexed {} where
  descriptor i e h := by cases h
  next := rfl
  byDescriptor d i := by
    rw [show (({} : Registry).byDescriptor)[d]? = none from Std.ExtTreeMap.getElem?_empty]
    constructor
    · nofun
    · rintro ⟨⟨e, h, -⟩, -⟩
      cases h
  byNode node := Std.ExtTreeMap.getElem?_empty
  byId id := Std.ExtTreeMap.getElem?_empty
  distinct := List.nodup_nil

variable {r : Registry}

theorem length_all (r : Registry) : r.all.length = r.count := Array.length_toList

theorem getElem?_entries (r : Registry) (i : Nat) : r.entries[i]? = r.all[i]? := Array.getElem?_toList.symm

/-- the entry that a node's or an id's position leads to -/
theorem getElem?_findIdx? (r : Registry) (p : Registration → Bool) :
    ((r.all.findIdx? p).bind fun i => r.entries[i]?) = r.all.find? p := by
  simp only [getElem?_entries]
  generalize r.all = entries
  induction entries with
  | nil => rfl
  | cons e rest ih =>
    rw [List.findIdx?_cons, List.find?_cons]
    cases p e with
    | true => rfl
    | false =>
      rw [← ih]
      cases rest.findIdx? p <;> rfl

theorem Indexed.descriptor?_eq (h : r.Indexed) (node : NodeId) :
    r.descriptor? node = (r.all.find? fun e => e.node = node).map (·.descriptor) := by
  rw [← getElem?_findIdx?, ← h.byNode]
  simp only [descriptor?, bind, pure, Option.map_eq_bind, Option.bind_assoc, Function.comp_def]

theorem Indexed.descriptor?_eq_none_iff (h : r.Indexed) {node : NodeId} :
    r.descriptor? node = none ↔ node ∉ r.all.map (·.node) := by
  rw [h.descriptor?_eq, Option.map_eq_none_iff, List.find?_eq_none]
  simp only [decide_eq_true_eq, List.mem_map, not_exists, not_and]

/-! ## Registrations -/

theorem register_of_some {node : NodeId} {d : Int32} (h : r.descriptor? node = some d) (id : Option String) :
    r.register node id = (d, r) := by
  rw [register, h]

/-- the position of the first entry that fits, with one more entry at the end -/
theorem findIdx?_concat (entries : List Registration) (e : Registration) (p : Registration → Bool) :
    (entries ++ [e]).findIdx? p = (entries.findIdx? p).or (if p e then some entries.length else none) := by
  rw [List.findIdx?_append, List.findIdx?_cons]
  cases p e <;> simp

section New

variable {node : NodeId} (hnew : r.descriptor? node = none) (id : Option String)

include hnew

theorem register_fst_of_none : (r.register node id).1 = r.next := by
  rw [register, hnew]

theorem all_register_of_none : (r.register node id).2.all = r.all ++ [⟨r.next, node, id⟩] := by
  rw [register, hnew]
  exact Array.toList_push

theorem next_register_of_none : (r.register node id).2.next = r.next + 1 := by
  rw [register, hnew]

theorem byDescriptor_register_of_none :
    (r.register node id).2.byDescriptor = r.byDescriptor.insert r.next r.count := by
  rw [register, hnew]
  rfl

theorem byNode_register_of_none : (r.register node id).2.byNode = r.byNode.insert node.index r.count := by
  rw [register, hnew]
  rfl

theorem byId_register_of_none : (r.register node id).2.byId =
    match id with
    | some id => r.byId.insertIfNew id r.count
    | none => r.byId := by
  rw [register, hnew]
  rfl

/-- an entry is an old one, or the one that is added last -/
theorem getElem?_all_register {i : Nat} {e : Registration} : (r.register node id).2.all[i]? = some e ↔
    r.all[i]? = some e ∨ i = r.count ∧ e = ⟨r.next, node, id⟩ := by
  rw [all_register_of_none hnew, List.getElem?_append, length_all]
  split
  · rename_i hlt
    exact (or_iff_left fun hlast => Nat.ne_of_lt hlt hlast.1).symm
  · rename_i hge
    have hold : r.all[i]? = none := List.getElem?_eq_none (by rw [length_all]; omega)
    rw [hold, List.getElem?_singleton]
    constructor
    · intro h
      split at h
      · exact .inr ⟨by omega, (Option.some.inj h).symm⟩
      · cases h
    · rintro (h | ⟨rfl, rfl⟩)
      · cases h
      · rw [Nat.sub_self, if_pos rfl]

variable (h : r.Indexed)

include h

theorem Indexed.descriptor_register {i : Nat} {e : Registration} (hi : (r.register node id).2.all[i]? = some e) :
    e.descriptor = descriptorAt i := by
  rcases (getElem?_all_register hnew id).1 hi with hold | ⟨rfl, rfl⟩
  · exact h.descriptor i e hold
  · exact h.next

theorem Indexed.next_register : (r.register node id).2.next = descriptorAt (r.register node id).2.count := by
  have hcount : (r.register node id).2.count = r.count + 1 := by
    rw [← length_all, all_register_of_none hnew, List.length_append, length_all]
    rfl
  rw [next_register_of_none hnew, h.next, hcount, descriptorAt_succ]

/-- the descriptor that was given out leads to the new entry, and every other one leads where it led before -/
theorem Indexed.byDescriptor_register (d : Int32) (i : Nat) :
    (r.register node id).2.byDescriptor[d]? = some i ↔ (r.register node id).2.Last d i := by
  have hentry {i : Nat} {e : Registration} := getElem?_all_register (i := i) (e := e) hnew id
  have hbound {i : Nat} {e : Registration} (hi : r.all[i]? = some e) : i < r.count :=
    length_all r ▸ (List.getElem?_eq_some_iff.1 hi).1
  rw [byDescriptor_register_of_none hnew, Std.ExtTreeMap.getElem?_insert]
  simp only [Std.LawfulEqCmp.compare_eq_iff_eq]
  by_cases hd : r.next = d
  · rw [if_pos hd, Option.some.injEq]
    constructor
    · rintro rfl
      refine ⟨⟨_, hentry.2 (.inr ⟨rfl, rfl⟩), hd⟩, fun i e hi hlater => ?_⟩
      rcases hentry.1 hlater with hold | ⟨rfl, -⟩
      · exact absurd (hbound hold) (Nat.not_lt.2 (Nat.le_of_lt hi))
      · exact absurd hi (Nat.lt_irrefl _)
    · rintro ⟨⟨e, hi, -⟩, hlatest⟩
      rcases hentry.1 hi with hold | ⟨rfl, -⟩
      · exact absurd hd (hlatest _ _ (hbound hold) (hentry.2 (.inr ⟨rfl, rfl⟩)))
      · rfl
  · rw [if_neg hd, h.byDescriptor]
    constructor
    · rintro ⟨⟨e, hi, hdescriptor⟩, hlatest⟩
      refine ⟨⟨e, hentry.2 (.inl hi), hdescriptor⟩, fun j later hj hlater => ?_⟩
      rcases hentry.1 hlater with hold | ⟨-, rfl⟩
      · exact hlatest j later hj hold
      · exact hd
    · rintro ⟨⟨e, hi, hdescriptor⟩, hlatest⟩
      rcases hentry.1 hi with hold | ⟨-, rfl⟩
      · exact ⟨⟨e, hold, hdescriptor⟩, fun j later hj hlater => hlatest j later hj (hentry.2 (.inl hlater))⟩
      · exact absurd hdescriptor hd

theorem Indexed.byNode_register (other : NodeId) : (r.register node id).2.byNode[other.index]? =
    (r.register node id).2.all.findIdx? fun e => e.node = other := by
  rw [byNode_register_of_none hnew, all_register_of_none hnew, findIdx?_concat, Std.ExtTreeMap.getElem?_insert,
    h.byNode, length_all]
  by_cases hother : node = other
  · have hnone : (r.all.findIdx? fun e => e.node = other) = none := by
      rw [← h.byNode, ← hother, h.byNode, List.findIdx?_eq_none_iff]
      intro e he
      have hnot := h.descriptor?_eq_none_iff.1 hnew
      exact decide_eq_false fun heq => hnot (List.mem_map.2 ⟨e, he, heq⟩)
    rw [hnone]
    simp [hother]
  · have hindex : node.index ≠ other.index := fun heq => hother (congrArg NodeId.mk heq)
    simp [hother, hindex]

theorem Indexed.byId_register (wanted : String) : (r.register node id).2.byId[wanted]? =
    (r.register node id).2.all.findIdx? fun e => e.id = some wanted := by
  rw [byId_register_of_none hnew, all_register_of_none hnew, findIdx?_concat, length_all]
  cases id with
  | none => simp [h.byId]
  | some given =>
    rw [Std.ExtTreeMap.getElem?_insertIfNew, ← h.byId]
    by_cases hgiven : given = wanted
    · subst hgiven
      -- an id that is known stays with the entry that had it first
      have hmem := Std.ExtTreeMap.isSome_getElem?_iff_mem (t := r.byId) (a := given)
      cases hknown : r.byId[given]? with
      | none =>
        have hnot : given ∉ r.byId := by simp [← hmem, hknown]
        simp [hnot]
      | some i =>
        have hin : given ∈ r.byId := by simp [← hmem, hknown]
        simp [hin]
    · simp [hgiven]

theorem Indexed.distinct_register : ((r.register node id).2.all.map (·.node)).Nodup := by
  rw [all_register_of_none hnew, List.map_append, List.map_singleton]
  refine List.nodup_append.2 ⟨h.distinct, List.pairwise_singleton .., ?_⟩
  intro known hknown added hadded heq
  rw [List.mem_singleton] at hadded
  have hnode : known = node := heq.trans hadded
  exact h.descriptor?_eq_none_iff.1 hnew (hnode ▸ hknown)

end New

theorem indexed_register (h : r.Indexed) (node : NodeId) (id : Option String) : (r.register node id).2.Indexed := by
  cases hd : r.descriptor? node with
  | some d =>
    rw [register_of_some hd]
    exact h
  | none =>
    exact {
      descriptor := fun _ _ => h.descriptor_register hd id
      next := h.next_register hd id
      byDescriptor := h.byDescriptor_register hd id
      byNode := h.byNode_register hd id
      byId := h.byId_register hd id
      distinct := h.distinct_register hd id }

end ScriptHost.Registry
