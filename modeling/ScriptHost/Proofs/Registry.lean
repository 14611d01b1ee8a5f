/-
A registry is a list. However often nodes are registered, under whatever ids, what can be asked of the registry is what
can be asked of the list of the first registrations (`Naming.firsts`).

The registry keeps three indices and a counter beside its entries, which agree with them (`Registry.Indexed`): the counter
stands where the entries end, so that the descriptors count up from 10 while there are positive words left (`capacity`), and
differ while there are words left at all (`room`). That a descriptor leads to the entry at its position is told by this
agreement alone (`Indexed.node?_eq`). A registration keeps it up (`indexed_register`), and adds to the list just what the
registry did not have yet (`namings_register`).

- `registry_refines_list`: every answer of a registry, told from the list alone.
- `registry_refines_doors`: registrations with a node and an id that come twice.

What a registry has told stays true when entries are added (`Indexed.node?_of_grown`, `Indexed.descriptor?_of_grown`), and
of the entries with one id it leads to the first (`Indexed.withId?_eq_some_iff`).
-/
import ScriptHost.Registry.Indexed
import Mathlib.Data.List.Induction
import Mathlib.Data.List.Nodup

namespace ScriptHost

/-- a node that is registered, and the id that it is given -/
structure Naming where
  node : NodeId
  id : Option String
deriving DecidableEq, Repr

namespace Naming

/-- the first naming of each node, in order -/
def firsts : List Naming → List Naming
  | [] => []
  | n :: rest => n :: (firsts rest).filter fun later => later.node ≠ n.node

theorem mem_nodes_firsts_cons {first : Naming} {rest : List Naming} {node : NodeId} :
    node ∈ (firsts (first :: rest)).map Naming.node ↔
      node = first.node ∨ node ∈ (firsts rest).map Naming.node := by
  rw [firsts, List.map_cons, List.mem_cons]
  by_cases hfirst : node = first.node
  · simp only [hfirst, true_or]
  · simp only [hfirst, false_or, List.mem_map, List.mem_filter, decide_eq_true_eq]
    constructor
    · rintro ⟨later, ⟨hlater, -⟩, hnode⟩
      exact ⟨later, hlater, hnode⟩
    · rintro ⟨later, hlater, rfl⟩
      exact ⟨later, ⟨hlater, hfirst⟩, rfl⟩

/-- one more naming counts only if its node is new -/
theorem firsts_concat (namings : List Naming) (n : Naming) :
    firsts (namings ++ [n]) =
      if n.node ∈ (firsts namings).map Naming.node then firsts namings else firsts namings ++ [n] := by
  induction namings with
  | nil => simp [firsts]
  | cons first rest ih =>
    rw [List.cons_append, firsts, ih]
    by_cases hfirst : n.node = first.node
    · -- whether the rest has the node or not, it is the first one that counts
      rw [if_pos (mem_nodes_firsts_cons.2 (.inl hfirst)), firsts]
      split
      · rfl
      · rw [List.filter_append]
        simp [hfirst]
    · by_cases hrest : n.node ∈ (firsts rest).map Naming.node
      · rw [if_pos hrest, if_pos (mem_nodes_firsts_cons.2 (.inr hrest)), firsts]
      · have hnew : n.node ∉ (firsts (first :: rest)).map Naming.node := by
          rw [mem_nodes_firsts_cons]
          exact not_or.2 ⟨hfirst, hrest⟩
        rw [if_neg hrest, if_neg hnew, List.filter_append, firsts, List.cons_append]
        simp [hfirst]

end Naming

namespace Registry

/-- the registry after some registrations -/
def ofList (namings : List Naming) : Registry := namings.foldl (fun r n => (r.register n.node n.id).2) {}

theorem ofList_concat (namings : List Naming) (n : Naming) :
    ofList (namings ++ [n]) = ((ofList namings).register n.node n.id).2 :=
  List.foldl_append

/-- what a registry was told, without the descriptors that it gave out -/
def namings (r : Registry) : List Naming := r.all.map fun e => ⟨e.node, e.id⟩

theorem length_namings (r : Registry) : r.namings.length = r.count := by
  rw [namings, List.length_map, length_all]

theorem nodes_namings (r : Registry) : r.namings.map Naming.node = r.all.map (·.node) := by
  rw [namings, List.map_map]
  rfl

theorem Indexed.withId?_eq {r : Registry} (h : r.Indexed) (id : String) :
    r.withId? id = r.all.find? fun e => e.id = some id := by
  have hid : r.withId? id = (r.byId[id]?).bind fun i => r.entries[i]? := rfl
  rw [hid, h.byId, getElem?_findIdx?]

variable {r : Registry}

theorem namings_register (h : r.Indexed) (n : Naming) :
    (r.register n.node n.id).2.namings =
      if n.node ∈ r.namings.map Naming.node then r.namings else r.namings ++ [n] := by
  rw [r.nodes_namings]
  cases hd : r.descriptor? n.node with
  | some d =>
    have hmem : n.node ∈ r.all.map (·.node) := by
      by_cases hmem : n.node ∈ r.all.map (·.node)
      · exact hmem
      · rw [h.descriptor?_eq_none_iff.2 hmem] at hd
        cases hd
    rw [if_pos hmem, register_of_some hd]
  | none =>
    rw [if_neg (h.descriptor?_eq_none_iff.1 hd), namings, all_register_of_none hd, List.map_append]
    rfl

theorem indexed_ofList (namings : List Naming) : (ofList namings).Indexed := by
  induction namings using List.reverseRecOn with
  | nil => exact indexed_empty
  | append_singleton past n ih =>
    rw [ofList_concat]
    exact indexed_register ih n.node n.id

theorem namings_ofList (namings : List Naming) : (ofList namings).namings = Naming.firsts namings := by
  induction namings using List.reverseRecOn with
  | nil => rfl
  | append_singleton past n ih =>
    rw [ofList_concat, namings_register (indexed_ofList past), ih, Naming.firsts_concat]

/-! ## Descriptors -/

/-- so many descriptors count up from 10: there are as many words from 10 to 2147483647 -/
def capacity : Nat := 2147483638

/-- so many descriptors differ from each other: there are as many words -/
def room : Nat := 4294967296

theorem capacity_le_room : capacity ≤ room := by decide

theorem toInt_firstDescriptor : firstDescriptor.toInt = 10 := rfl

/-- a descriptor says its position, as long as it counts up -/
theorem toInt_descriptorAt {i : Nat} (h : i < capacity) : (descriptorAt i).toInt = 10 + i := by
  unfold capacity at h
  have hi : (Int32.ofNat i).toInt = i := Int32.toInt_ofNat_of_lt (by omega)
  rw [descriptorAt, Int32.toInt_add, toInt_firstDescriptor, hi]
  apply Int.bmod_eq_of_le <;> omega

theorem descriptorAt_inj {i j : Nat} (hi : i < room) (hj : j < room) (h : descriptorAt i = descriptorAt j) : i = j := by
  unfold room at hi hj
  have hword : Int32.ofNat i = Int32.ofNat j := (Int32.add_right_inj firstDescriptor).1 h
  have hbmod : (i : Int).bmod 4294967296 = (j : Int).bmod 4294967296 := by
    rw [← Int32.toInt_ofNat', hword, Int32.toInt_ofNat']
  have hmod : (i : Int) % (4294967296 : Nat) = (j : Int) % (4294967296 : Nat) := by
    rw [← Int.bmod_emod, hbmod, Int.bmod_emod]
  omega

/-- a descriptor that leads somewhere leads to an entry that has it -/
theorem Indexed.entry_of_node? (h : r.Indexed) {d : Int32} {node : NodeId} (hd : r.node? d = some node) :
    ∃ entry ∈ r.all, entry.descriptor = d ∧ entry.node = node := by
  obtain ⟨i, hi, hbind⟩ := Option.bind_eq_some_iff.1 hd
  obtain ⟨⟨entry, hentry, hdescriptor⟩, -⟩ := (h.byDescriptor d i).1 hi
  rw [getElem?_entries, hentry] at hbind
  exact ⟨entry, List.mem_of_getElem? hentry, hdescriptor, Option.some.inj hbind⟩

/-- no node goes by two descriptors -/
theorem Indexed.node?_injective (h : r.Indexed) {d d' : Int32} {node : NodeId} (hd : r.node? d = some node)
    (hd' : r.node? d' = some node) : d = d' := by
  obtain ⟨entry, hentry, rfl, hnode⟩ := h.entry_of_node? hd
  obtain ⟨entry', hentry', rfl, hnode'⟩ := h.entry_of_node? hd'
  rw [List.inj_on_of_nodup_map h.distinct hentry hentry' (hnode.trans hnode'.symm)]

/-- the descriptor of an entry leads to it, as long as no descriptor came again -/
theorem Indexed.node?_of_mem (h : r.Indexed) (hroom : r.count ≤ room) {entry : Registration} (hentry : entry ∈ r.all) :
    r.node? entry.descriptor = some entry.node := by
  obtain ⟨i, hi, hget⟩ := List.mem_iff_getElem.1 hentry
  have hat : r.all[i]? = some entry := List.getElem?_eq_some_iff.2 ⟨hi, hget⟩
  have hlast : r.Last entry.descriptor i := by
    refine ⟨⟨entry, hat, rfl⟩, fun j later hj hlater hsame => ?_⟩
    have hlt : j < r.count := length_all r ▸ (List.getElem?_eq_some_iff.1 hlater).1
    rw [h.descriptor j later hlater, h.descriptor i entry hat] at hsame
    exact Nat.ne_of_gt hj (descriptorAt_inj (by omega) (by omega) hsame)
  have hindex : r.byDescriptor[entry.descriptor]? = some i := (h.byDescriptor _ i).2 hlast
  rw [node?, hindex]
  simp only [bind, pure, Option.bind_some, getElem?_entries, hat]

/-- a descriptor leads to the node of the entry that has it -/
theorem Indexed.node?_eq_some_iff (h : r.Indexed) (hroom : r.count ≤ room) {d : Int32} {node : NodeId} :
    r.node? d = some node ↔ ∃ entry ∈ r.all, entry.descriptor = d ∧ entry.node = node := by
  refine ⟨h.entry_of_node?, ?_⟩
  rintro ⟨entry, hentry, rfl, rfl⟩
  exact h.node?_of_mem hroom hentry

/-- the entry with a descriptor stands at the position that the descriptor says -/
theorem Indexed.node?_eq (h : r.Indexed) (hcount : r.count ≤ capacity) (d : Int32) :
    r.node? d = if 10 ≤ d.toInt then (r.namings[(d.toInt - 10).toNat]?).map Naming.node else none := by
  refine Option.ext fun node => ?_
  rw [h.node?_eq_some_iff (Nat.le_trans hcount capacity_le_room)]
  have hint {i : Nat} {e : Registration} (hi : r.all[i]? = some e) : e.descriptor.toInt = 10 + i := by
    have hlt : i < r.count := length_all r ▸ (List.getElem?_eq_some_iff.1 hi).1
    rw [h.descriptor i e hi, toInt_descriptorAt (by omega)]
  have hnamed (i : Nat) : (r.namings[i]?).map Naming.node = (r.all[i]?).map Registration.node := by
    rw [namings, List.getElem?_map, Option.map_map]
    rfl
  constructor
  · rintro ⟨entry, hentry, rfl, rfl⟩
    obtain ⟨i, hi, hget⟩ := List.mem_iff_getElem.1 hentry
    have hat : r.all[i]? = some entry := List.getElem?_eq_some_iff.2 ⟨hi, hget⟩
    have hposition : (entry.descriptor.toInt - 10).toNat = i := by
      rw [hint hat]
      omega
    rw [if_pos (by rw [hint hat]; omega), hposition, hnamed, hat]
    rfl
  · intro hnode
    obtain ⟨hge, hnode⟩ := Option.ite_none_right_eq_some.1 hnode
    rw [hnamed] at hnode
    obtain ⟨entry, hat, rfl⟩ := Option.map_eq_some_iff.1 hnode
    refine ⟨entry, List.mem_of_getElem? hat, Int32.toInt_inj.1 ?_, rfl⟩
    rw [hint hat]
    omega

/-! ## A registry and its list -/

/-- every answer of a registry, told from a list of namings -/
structure Refines (r : Registry) (l : List Naming) : Prop where
  /-- the entries are the namings, and their descriptors count up from 10 -/
  all : r.all.map (fun e => (e.descriptor.toInt, e.node, e.id)) =
    l.mapIdx fun i n => ((10 + i : Int), n.node, n.id)
  count : r.count = l.length
  /-- the counter stands at 10 more than there are entries -/
  next : r.next.toInt = 10 + r.count
  /-- a node that is known keeps its descriptor, and the registry stays as it is, whatever the id -/
  again : ∀ node ∈ l.map Naming.node, ∀ id, ∃ d, r.descriptor? node = some d ∧ r.register node id = (d, r)
  /-- a new node gets the next descriptor -/
  new : ∀ node, node ∉ l.map Naming.node → ∀ id, (r.register node id).1.toInt = 10 + r.count
  /-- a descriptor names the node at its position; every other word names none -/
  named : ∀ d : Int32, r.node? d =
    if 10 ≤ d.toInt then (l[(d.toInt - 10).toNat]?).map Naming.node else none
  inverse : ∀ node d, r.descriptor? node = some d ↔ r.node? d = some node
  /-- an id leads to the first entry that was registered with it -/
  withId : ∀ id, r.withId? id = r.all.find? fun e => e.id = some id
  /-- no index leads out of the entries -/
  inside : ∀ i : Nat, (∃ d : Int32, r.byDescriptor[d]? = some i) ∨ (∃ node : NodeId, r.byNode[node.index]? = some i) ∨
    (∃ id : String, r.byId[id]? = some i) → i < r.count

theorem Indexed.descriptor?_of_mem (h : r.Indexed) {entry : Registration} (hentry : entry ∈ r.all) :
    r.descriptor? entry.node = some entry.descriptor := by
  rw [h.descriptor?_eq]
  cases hfound : r.all.find? fun e => e.node = entry.node with
  | none => exact absurd (List.find?_eq_none.1 hfound entry hentry) (by simp)
  | some e =>
    have hnode : e.node = entry.node := by simpa using List.find?_some hfound
    have hsame : e = entry := List.inj_on_of_nodup_map h.distinct (List.mem_of_find?_eq_some hfound) hentry hnode
    rw [hsame, Option.map_some]

/-- the descriptor of a node is the one that its entry has -/
theorem Indexed.entry_of_descriptor? (h : r.Indexed) {node : NodeId} {d : Int32} (hd : r.descriptor? node = some d) :
    ∃ entry ∈ r.all, entry.descriptor = d ∧ entry.node = node := by
  rw [h.descriptor?_eq, Option.map_eq_some_iff] at hd
  obtain ⟨entry, hfound, hdescriptor⟩ := hd
  exact ⟨entry, List.mem_of_find?_eq_some hfound, hdescriptor, by simpa using List.find?_some hfound⟩

theorem Indexed.node?_of_descriptor? (h : r.Indexed) (hroom : r.count ≤ room) {node : NodeId} {d : Int32}
    (hd : r.descriptor? node = some d) : r.node? d = some node :=
  (h.node?_eq_some_iff hroom).2 (h.entry_of_descriptor? hd)

theorem Indexed.descriptor?_eq_some_iff (h : r.Indexed) (hroom : r.count ≤ room) {node : NodeId} {d : Int32} :
    r.descriptor? node = some d ↔ r.node? d = some node := by
  refine ⟨h.node?_of_descriptor? hroom, fun hd => ?_⟩
  obtain ⟨entry, hentry, rfl, rfl⟩ := h.entry_of_node? hd
  exact h.descriptor?_of_mem hentry

/-- descriptors are given out in increasing order -/
theorem Indexed.pairwise_descriptor (h : r.Indexed) (hcount : r.count ≤ capacity) :
    r.all.Pairwise fun a b => a.descriptor < b.descriptor := by
  have hlength := length_all r
  rw [List.pairwise_iff_getElem]
  intro i j hi hj hij
  rw [h.descriptor _ _ (List.getElem?_eq_getElem hi), h.descriptor _ _ (List.getElem?_eq_getElem hj),
    Int32.lt_iff_toInt_lt, toInt_descriptorAt (by omega), toInt_descriptorAt (by omega)]
  omega

/-- each index leads to an entry -/
theorem Indexed.lt_count (h : r.Indexed) {i : Nat} (hi : (∃ d : Int32, r.byDescriptor[d]? = some i) ∨
    (∃ node : NodeId, r.byNode[node.index]? = some i) ∨ (∃ id : String, r.byId[id]? = some i)) : i < r.count := by
  rw [← length_all]
  rcases hi with ⟨d, hd⟩ | ⟨node, hnode⟩ | ⟨id, hid⟩
  · obtain ⟨⟨e, he, -⟩, -⟩ := (h.byDescriptor d i).1 hd
    exact (List.getElem?_eq_some_iff.1 he).1
  · exact (List.findIdx?_eq_some_iff_getElem.1 (h.byNode node ▸ hnode)).1
  · exact (List.findIdx?_eq_some_iff_getElem.1 (h.byId id ▸ hid)).1

theorem Indexed.refines (h : r.Indexed) (hcount : r.count < capacity) : r.Refines r.namings := by
  have hlength := length_all r
  have hroom : r.count ≤ room := Nat.le_trans (Nat.le_of_lt hcount) capacity_le_room
  have hnext : r.next.toInt = 10 + r.count := by
    rw [h.next]
    exact toInt_descriptorAt hcount
  refine ⟨?_, r.length_namings.symm, hnext, ?_, ?_, h.node?_eq (Nat.le_of_lt hcount),
    fun _ _ => h.descriptor?_eq_some_iff hroom, h.withId?_eq, fun _ => h.lt_count⟩
  · apply List.ext_getElem?
    intro i
    rw [List.getElem?_map, List.getElem?_mapIdx, namings, List.getElem?_map, Option.map_map]
    cases hi : r.all[i]? with
    | none => rfl
    | some e =>
      have hlt := (List.getElem?_eq_some_iff.1 hi).1
      have hint : e.descriptor.toInt = 10 + i := by
        rw [h.descriptor i e hi]
        exact toInt_descriptorAt (by omega)
      simp [hint]
  · intro node hnode id
    cases hd : r.descriptor? node with
    | none => exact absurd (r.nodes_namings ▸ hnode) (h.descriptor?_eq_none_iff.1 hd)
    | some d => exact ⟨d, rfl, register_of_some hd id⟩
  · intro node hnode id
    rw [r.nodes_namings, ← h.descriptor?_eq_none_iff] at hnode
    rw [register_fst_of_none hnode]
    exact hnext

/-- **A registry is a list.** After any registrations, with nodes and ids repeated in any order, the registry answers as
the list of the first registrations of each node does. -/
theorem registry_refines_list (namings : List Naming) (h : (Naming.firsts namings).length < capacity) :
    (ofList namings).Refines (Naming.firsts namings) := by
  have hindexed := indexed_ofList namings
  have hcount : (ofList namings).count < capacity := by
    rw [← length_namings, namings_ofList]
    exact h
  rw [← namings_ofList namings]
  exact hindexed.refines hcount

/-- two doors of one id and a lamp without one; the first door is registered again, under another id -/
def doors : List Naming := [⟨⟨4⟩, some "door"⟩, ⟨⟨2⟩, none⟩, ⟨⟨4⟩, some "gate"⟩, ⟨⟨7⟩, some "door"⟩]

/-- the door that came first keeps its descriptor and its id, and the id leads to it and not to the other door -/
theorem registry_refines_doors :
    (Naming.firsts doors).length < capacity ∧
      (ofList doors).all.map (fun e => (e.descriptor.toInt, e.node, e.id)) =
        [(10, ⟨4⟩, some "door"), (11, ⟨2⟩, none), (12, ⟨7⟩, some "door")] ∧
      (ofList doors).node? 12 = some ⟨7⟩ ∧ (ofList doors).node? (-12) = none ∧
      ((ofList doors).withId? "door").map (·.node) = some ⟨4⟩ ∧ (ofList doors).withId? "gate" = none := by
  have hlength : (Naming.firsts doors).length < capacity := by decide
  have hlist := registry_refines_list doors hlength
  refine ⟨hlength, ?_, ?_, ?_, ?_, ?_⟩
  · rw [hlist.all]
    decide
  · rw [hlist.named]
    decide
  · rw [hlist.named]
    decide
  · rw [hlist.withId]
    decide +kernel
  · rw [hlist.withId]
    decide +kernel

/-! ## Registries that grow -/

section Growth

variable {r' : Registry} {node : NodeId} {id : Option String} {entry : Registration} {d : Int32}

/-- the entry that a registration makes, if the node is new -/
def enrol? (r : Registry) (node : NodeId) (id : Option String) : Option Registration :=
  match r.descriptor? node with
  | some _ => none
  | none => some ⟨r.next, node, id⟩

theorem enrol?_eq_some : r.enrol? node id = some entry ↔
    r.descriptor? node = none ∧ ⟨r.next, node, id⟩ = entry := by
  rw [enrol?]
  cases r.descriptor? node <;> simp

theorem all_register (r : Registry) (node : NodeId) (id : Option String) :
    (r.register node id).2.all = r.all ++ (r.enrol? node id).toList := by
  rw [enrol?]
  cases hd : r.descriptor? node with
  | some d => rw [register_of_some hd, Option.toList_none, List.append_nil]
  | none => exact all_register_of_none hd id

/-- what a registration answers is the descriptor of the node then -/
theorem Indexed.descriptor?_register (h : r.Indexed) (node : NodeId) (id : Option String) :
    (r.register node id).2.descriptor? node = some (r.register node id).1 := by
  cases hd : r.descriptor? node with
  | some d => rw [register_of_some hd, hd]
  | none =>
    have hentry : ⟨r.next, node, id⟩ ∈ (r.register node id).2.all := by
      rw [all_register_of_none hd]
      exact List.mem_append_right _ (List.mem_singleton_self _)
    rw [register_fst_of_none hd]
    exact (indexed_register h node id).descriptor?_of_mem hentry

/-- a descriptor that leads to a node leads to it still when entries were added -/
theorem Indexed.node?_of_grown (h : r.Indexed) (h' : r'.Indexed) (hroom : r'.count ≤ room) (hgrown : r.all <+: r'.all)
    (hd : r.node? d = some node) : r'.node? d = some node := by
  obtain ⟨entry, hentry, rfl, rfl⟩ := h.entry_of_node? hd
  exact h'.node?_of_mem hroom (hgrown.subset hentry)

theorem Indexed.descriptor?_of_grown (h : r.Indexed) (h' : r'.Indexed) (hgrown : r.all <+: r'.all)
    (hd : r.descriptor? node = some d) : r'.descriptor? node = some d := by
  obtain ⟨entry, hentry, rfl, rfl⟩ := h.entry_of_descriptor? hd
  exact h'.descriptor?_of_mem (hgrown.subset hentry)

end Growth

/-! ## The first entry with an id -/

/-- the entry has the lowest descriptor of those that were registered with an id -/
structure First (r : Registry) (id : String) (entry : Registration) : Prop where
  mem : entry ∈ r.all
  named : entry.id = some id
  least : ∀ other ∈ r.all, other.id = some id → entry.descriptor ≤ other.descriptor

/-- entries with one descriptor are one -/
theorem Indexed.eq_of_descriptor (h : r.Indexed) (hroom : r.count ≤ room) {a b : Registration} (ha : a ∈ r.all)
    (hb : b ∈ r.all) (hd : a.descriptor = b.descriptor) : a = b := by
  have hnode : some a.node = some b.node := by
    rw [← h.node?_of_mem hroom ha, hd, h.node?_of_mem hroom hb]
  exact List.inj_on_of_nodup_map h.distinct ha hb (Option.some.inj hnode)

section First

variable {id : String} {entry : Registration} (h : r.Indexed) (hcount : r.count ≤ capacity)

include h hcount

theorem Indexed.first_of_withId? (hfound : r.withId? id = some entry) : r.First id entry := by
  have hpairwise := h.pairwise_descriptor hcount
  rw [h.withId?_eq, List.find?_eq_some_iff_append] at hfound
  obtain ⟨hid, before, after, hall, hbefore⟩ := hfound
  rw [hall] at hpairwise
  have hlater := (List.pairwise_cons.1 (List.pairwise_append.1 hpairwise).2.1).1
  refine ⟨?_, of_decide_eq_true hid, ?_⟩
  · rw [hall]
    exact List.mem_append_right _ List.mem_cons_self
  · intro other hother hsame
    rw [hall, List.mem_append, List.mem_cons] at hother
    rcases hother with hother | rfl | hother
    · exact absurd hsame (by simpa using hbefore other hother)
    · exact Int32.le_refl _
    · exact Int32.le_of_lt (hlater other hother)

/-- an id leads to the first entry with it -/
theorem Indexed.withId?_eq_some_iff : r.withId? id = some entry ↔ r.First id entry := by
  refine ⟨h.first_of_withId? hcount, ?_⟩
  intro hfirst
  cases hfound : r.withId? id with
  | none =>
    rw [h.withId?_eq, List.find?_eq_none] at hfound
    exact absurd (decide_eq_true hfirst.named) (hfound entry hfirst.mem)
  | some found =>
    have hleads := h.first_of_withId? hcount hfound
    have hsame : found.descriptor = entry.descriptor :=
      Int32.le_antisymm (hleads.least entry hfirst.mem hfirst.named) (hfirst.least found hleads.mem hleads.named)
    rw [h.eq_of_descriptor (Nat.le_trans hcount capacity_le_room) hleads.mem hfirst.mem hsame]

end First

end Registry

end ScriptHost
