/-
What the records of a session list, and what the calls that tell of them leave in a guest's memory.

The records describe the nodes that are present, one record for each (`Session.describes_records`), and they list just the
descriptors by which an element can be found (`Session.listed_iff`). A count tells how many they are
(`SceneCall.counts_of_success`), and an enumeration leaves the first of them in the guest's array, with that same number
(`SceneCall.copies_of_success`).

- `Session.enumerates`: all of it, for every session.
-/
import ScriptHost.Proofs.SceneCall.Verdict

namespace ScriptHost

open Wire

/-! ## The records -/

namespace Session

variable (s : Session SceneStore)

/-- the registered nodes that are still in the scene, in the order of registration -/
def present : List NodeId := (s.registry.all.map (·.node)).filter fun node => (s.scene.element? node).isSome

/-- a record describes a node: it has the node's descriptor, and the kind of its element -/
def Describes (node : NodeId) (r : ElementRecord) : Prop :=
  s.registry.descriptor? node = some r.descriptor ∧ ∃ e, s.scene.element? node = some e ∧ r.kind = e.kind.code

/-- records as a guest finds them, one behind another: two little-endian words for each -/
def packed (records : List ElementRecord) : List UInt8 :=
  records.flatMap fun r => littleEndian 4 r.descriptor.toUInt32.toNat ++ littleEndian 4 r.kind.toUInt32.toNat

theorem length_packed (records : List ElementRecord) : (packed records).length = 8 * records.length :=
  length_encodeAll records

theorem packed_append (records later : List ElementRecord) : packed (records ++ later) = packed records ++ packed later :=
  List.flatMap_append

/-- a descriptor is listed -/
def Listed (d : Int32) : Prop := ∃ r ∈ s.records, r.descriptor = d

variable {s}

/-- an entry that is in the scene is listed -/
theorem mem_records_of_mem {entry : Registration} {e : Element} (hentry : entry ∈ s.registry.all)
    (helement : s.scene.element? entry.node = some e) : ⟨entry.descriptor, e.kind.code⟩ ∈ s.records := by
  refine List.mem_filterMap.2 ⟨entry, hentry, ?_⟩
  exact Option.map_eq_some_iff.2 ⟨e, helement, rfl⟩

theorem nodup_present (s : Session SceneStore) : s.present.Nodup := s.indexed.distinct.filter _

theorem mem_present {node : NodeId} :
    node ∈ s.present ↔ (s.registry.descriptor? node).isSome ∧ (s.scene.element? node).isSome := by
  have hregistered : (s.registry.descriptor? node).isSome ↔ node ∈ s.registry.all.map (·.node) := by
    rw [← not_iff_not, ← s.indexed.descriptor?_eq_none_iff, Option.not_isSome_iff_eq_none]
  rw [present, List.mem_filter, hregistered]

theorem describes_records (s : Session SceneStore) : List.Forall₂ s.Describes s.present s.records := by
  have hall : ∀ entries : List Registration, (∀ entry ∈ entries, entry ∈ s.registry.all) →
      List.Forall₂ s.Describes
        ((entries.map (·.node)).filter fun node => (s.scene.element? node).isSome)
        (entries.filterMap fun entry =>
          (s.scene.element? entry.node).map fun e => ⟨entry.descriptor, e.kind.code⟩) := by
    intro entries hentries
    induction entries with
    | nil => exact .nil
    | cons entry rest ih =>
      obtain ⟨hentry, hrest⟩ := List.forall_mem_cons.1 hentries
      rw [List.map_cons, List.filter_cons, List.filterMap_cons]
      cases helement : s.scene.element? entry.node with
      | none => exact ih hrest
      | some e => exact .cons ⟨s.indexed.descriptor?_of_mem hentry, e, helement, rfl⟩ (ih hrest)
  exact hall s.registry.all fun _ => id

theorem length_records (s : Session SceneStore) : s.records.length = s.present.length := (describes_records s).length_eq.symm

/-- as long as there are words enough, the records are in the order of their descriptors -/
theorem pairwise_records (hcount : s.registry.count ≤ Registry.capacity) :
    s.records.Pairwise fun a b => a.descriptor < b.descriptor := by
  refine (s.indexed.pairwise_descriptor hcount).filterMap _ ?_
  intro a b hab r hr r' hr'
  obtain ⟨e, -, rfl⟩ := Option.map_eq_some_iff.1 hr
  obtain ⟨e', -, rfl⟩ := Option.map_eq_some_iff.1 hr'
  exact hab

/-- an entry that is in the scene is found by its descriptor -/
theorem resolve_of_mem (hroom : s.registry.count ≤ Registry.room) {entry : Registration} {e : Element}
    (hentry : entry ∈ s.registry.all) (helement : s.scene.element? entry.node = some e) :
    s.resolve entry.descriptor = some (entry.node, e) :=
  Session.resolve_eq_some.2 ⟨s.indexed.node?_of_mem hroom hentry, helement⟩

/-- and they list just the descriptors by which an element can be found -/
theorem listed_iff (hroom : s.registry.count ≤ Registry.room) {d : Int32} :
    s.Listed d ↔ (s.resolve d).isSome := by
  constructor
  · rintro ⟨r, hr, rfl⟩
    obtain ⟨entry, hentry, hrecord⟩ := List.mem_filterMap.1 hr
    obtain ⟨e, helement, rfl⟩ := Option.map_eq_some_iff.1 hrecord
    exact Option.isSome_iff_exists.2 ⟨_, resolve_of_mem hroom hentry helement⟩
  · intro hfound
    obtain ⟨⟨node, e⟩, hresolve⟩ := Option.isSome_iff_exists.1 hfound
    obtain ⟨hnode, helement⟩ := Session.resolve_eq_some.1 hresolve
    obtain ⟨entry, hentry, hdescriptor, rfl⟩ := s.indexed.entry_of_node? hnode
    exact ⟨_, mem_records_of_mem hentry helement, hdescriptor⟩

end Session

/-! ## Calls about one element -/

namespace SceneCall

section Calls

variable {μ : Type} [LinearMemory μ] {m : μ} {s : Session SceneStore} {caller : ScriptId}

/-- a call with a descriptor is answered with `elementNotFound` just if the descriptor is not listed -/
theorem status_eq_elementNotFound_iff [ExactMemory μ] (hroom : s.registry.count ≤ Registry.room) {call : SceneCall}
    {d : Int32} (hd : call.descriptor? = some d) :
    (call.run caller m s).status = .elementNotFound ↔ ¬ s.Listed d := by
  rw [Session.listed_iff hroom]
  cases hfound : s.resolve d with
  | none =>
    rw [status_of_error (plan_of_not_found hd hfound)]
    simp
  | some found =>
    have hjudged : Judged (call.Missing m s) (call.Unable s) (call.Short s) (call.Invalid m s)
        (call.run caller m s).status := judged_of_found hroom hd hfound
    rw [hjudged.elementNotFound]
    simp [not_missing_of_found hroom hd hfound]

/-! ## The calls that tell of the records -/

theorem toInt_of_total {records : List ElementRecord} {all : Int32} (h : total records = .ok all) :
    all.toInt = records.length := by
  unfold total at h
  split at h
  · rename_i hlimit
    cases h
    exact Int32.toInt_ofNat_of_lt hlimit
  · cases h

/-- an answer that is taken -/
theorem run_of_write {call : SceneCall} {regions : List Region} (h : call.plan caller m s = .ok (.write regions))
    (hsuccess : (call.run caller m s).status = .success) :
    (writeRegions m regions).2 = .ok () ∧ (call.run caller m s).memory = (writeRegions m regions).1 := by
  have hrun : call.run caller m s = (SceneAction.write regions).perform m s := by rw [run, h]
  rw [hrun, SceneAction.perform_write] at hsuccess ⊢
  refine ⟨?_, rfl⟩
  cases hresult : (writeRegions m regions).2 with
  | ok => rfl
  | error e =>
    rw [hresult] at hsuccess
    cases e <;> cases hsuccess

theorem plan_of_success {call : SceneCall} (hsuccess : (call.run caller m s).status = .success) :
    ∃ act, call.plan caller m s = .ok act := by
  cases hplan : call.plan caller m s with
  | ok act => exact ⟨act, rfl⟩
  | error status =>
    rw [status_of_error hplan] at hsuccess
    exact absurd (hsuccess ▸ hplan) (honest_plan caller m s call)

end Calls

section Success

variable {μ : Type} [LinearMemory μ] [ExactMemory μ] {m : μ} {s : Session SceneStore} {caller : ScriptId}

/-- the regions of an enumeration: where no record is copied, the array is not looked at -/
def listing (array : Pointer) (copied : List ElementRecord) (count : Pointer) (all : Int32) : List Region :=
  if copied.isEmpty then [.ofValue count all] else [.ofValues array copied, .ofValue count all]

section Listing

variable {array count : Pointer} {copied : List ElementRecord} {all : Int32}

theorem span_of_mem_listing {r : Region} (hr : r ∈ listing array copied count all) :
    r.span = ⟨array, 8 * copied.length⟩ ∨ r.span = ⟨count, 4⟩ := by
  unfold listing at hr
  split at hr
  · rw [List.mem_singleton.1 hr]
    exact .inr (Region.span_ofValue count all)
  · rcases List.mem_cons.1 hr with rfl | hr
    · exact .inl (Region.span_ofValues array copied)
    · rw [List.mem_singleton.1 hr]
      exact .inr (Region.span_ofValue count all)

variable (htaken : (writeRegions m (listing array copied count all)).2 = .ok ())

include htaken

/-- the number is written last, so it can be read wherever the array is -/
theorem readValue_listing : readValue (writeRegions m (listing array copied count all)).1 count = .ok all := by
  unfold listing at htaken ⊢
  split
  · rename_i hempty
    rw [if_pos hempty] at htaken
    exact readValue_writeRegions htaken (List.forall_mem_nil _)
  · rename_i hsome
    rw [if_neg hsome] at htaken
    obtain ⟨m', hm'⟩ := writeRegions_of_cons htaken
    rw [hm'] at htaken ⊢
    exact readValue_writeRegions htaken (List.forall_mem_nil _)

theorem readBytes_listing (hsome : copied ≠ [])
    (hapart : (⟨array, 8 * copied.length⟩ : Span).Apart ⟨count, 4⟩) :
    readBytes (writeRegions m (listing array copied count all)).1 array (8 * copied.length) =
      .ok (Session.packed copied).toByteArray := by
  have harray : (Region.ofValues array copied).span = ⟨array, 8 * copied.length⟩ := Region.span_ofValues array copied
  have hsize : (Region.ofValues array copied).bytes.size = 8 * copied.length := congrArg Span.size harray
  rw [listing, if_neg (mt List.isEmpty_iff.1 hsome)] at htaken ⊢
  rw [← hsize]
  refine readBytes_writeRegions htaken ?_
  intro q hq i hcovers hcovers'
  have hfirst : (Region.ofValues array copied).span.Covers i := hcovers
  have hsecond : q.span.Covers i := hcovers'
  rw [List.mem_singleton.1 hq, Region.span_ofValue] at hsecond
  rw [harray] at hfirst
  exact hapart i hfirst hsecond

omit htaken in
theorem byte_listing {i : Nat} (harray : ¬ (⟨array, 8 * copied.length⟩ : Span).Covers i)
    (hslot : ¬ (⟨count, 4⟩ : Span).Covers i) :
    HonestMemory.byte (writeRegions m (listing array copied count all)).1 i = HonestMemory.byte m i := by
  refine byte_writeRegions_outside m _ i ?_
  intro r hr hcovers
  have hspan : r.span.Covers i := hcovers
  rcases span_of_mem_listing hr with h | h
  · exact harray (h ▸ hspan)
  · exact hslot (h ▸ hspan)

end Listing

/-- a count that succeeds -/
structure Counting (μ : Type) [LinearMemory μ] (s : Session SceneStore) where
  caller : ScriptId
  memory : μ
  out : Pointer
  success : ((getElementCount out).run caller memory s).status = .success

/-- an enumeration that succeeds -/
structure Enumeration (μ : Type) [LinearMemory μ] (s : Session SceneStore) where
  caller : ScriptId
  memory : μ
  array : Pointer
  length : Int32
  count : Pointer
  success : ((getElements array length count).run caller memory s).status = .success

/-- the memory that a count leaves -/
def Counting.after (c : Counting μ s) : μ := ((getElementCount c.out).run c.caller c.memory s).memory

namespace Enumeration

variable (e : Enumeration μ s)

/-- the memory that an enumeration leaves -/
def after : μ := ((getElements e.array e.length e.count).run e.caller e.memory s).memory

/-- how many records are copied -/
def copied : Nat := min e.length.toInt.toNat s.present.length

/-- the bytes of the array to which records are copied -/
def target : Span := ⟨e.array, 8 * e.copied⟩

/-- the bytes that take the number of all records -/
def slot : Span := ⟨e.count, 4⟩

end Enumeration

/-- what a count tells -/
theorem Counting.total (c : Counting μ s) :
    ∃ all : Int32, all.toInt = s.present.length ∧ readValue c.after c.out = .ok all := by
  obtain ⟨act, hplan⟩ := plan_of_success c.success
  have hdecided := hplan
  simp only [plan, bind_eq_ok, pure_eq_ok] at hdecided
  obtain ⟨all, htotal, rfl⟩ := hdecided
  obtain ⟨htaken, hmemory⟩ := run_of_write hplan c.success
  refine ⟨all, ?_, ?_⟩
  · rw [toInt_of_total htotal, Session.length_records s]
  · rw [after, hmemory]
    exact readValue_writeRegions htaken (List.forall_mem_nil _)

namespace Enumeration

variable (e : Enumeration μ s)

/-- the regions to write, if the number of all records is `all` -/
def regions (all : Int32) : List Region := listing e.array (s.records.take e.length.toInt.toNat) e.count all

/-- the regions were decided on, and the memory took all of them -/
structure Took (all : Int32) : Prop where
  toInt : all.toInt = s.records.length
  decided : enumerate e.memory s e.array e.length e.count = .ok (s.records.take e.length.toInt.toNat, e.regions all)
  taken : (writeRegions e.memory (e.regions all)).2 = .ok ()
  after : e.after = (writeRegions e.memory (e.regions all)).1

omit [ExactMemory μ] in
theorem exists_took : ∃ all, e.Took all := by
  obtain ⟨act, hplan⟩ := plan_of_success e.success
  have hdecided := hplan
  simp only [plan, bind_eq_ok, pure_eq_ok] at hdecided
  obtain ⟨⟨copied, regions⟩, henumerate, rfl⟩ := hdecided
  have hcopied := henumerate
  simp only [enumerate, bind_eq_ok, pure_eq_ok, natural_eq_ok, access_eq_ok] at hcopied
  obtain ⟨_, ⟨-, rfl⟩, all, htotal, -, -, heq⟩ := hcopied
  obtain ⟨rfl, rfl⟩ := Prod.mk.inj heq
  obtain ⟨htaken, hafter⟩ := run_of_write hplan e.success
  exact ⟨all, toInt_of_total htotal, henumerate, htaken, hafter⟩

omit [ExactMemory μ] in
theorem length_take : (s.records.take e.length.toInt.toNat).length = e.copied := by
  rw [List.length_take, Session.length_records s, copied]

/-- an enumeration tells the same number, however many records are copied -/
theorem total : ∃ all : Int32, all.toInt = s.present.length ∧ readValue e.after e.count = .ok all := by
  obtain ⟨all, htook⟩ := e.exists_took
  refine ⟨all, ?_, ?_⟩
  · rw [htook.toInt, Session.length_records s]
  · rw [htook.after]
    exact readValue_listing htook.taken

omit [ExactMemory μ] in
/-- the records are copied, and it is told how many -/
theorem copyRecords_eq : copyRecords e.memory s e.array e.length e.count = (e.after, .ok e.copied) := by
  obtain ⟨all, htook⟩ := e.exists_took
  rw [copyRecords, htook.decided, htook.after, ← e.length_take]
  simp only [htook.taken]
  rfl

theorem records (hsome : 0 < e.copied) (hapart : e.target.Apart e.slot) :
    readBytes e.after e.array (8 * e.copied) =
      .ok (Session.packed (s.records.take e.length.toInt.toNat)).toByteArray := by
  obtain ⟨all, htook⟩ := e.exists_took
  rw [target, slot, ← e.length_take] at hapart
  rw [← e.length_take] at hsome
  rw [htook.after, ← e.length_take]
  exact readBytes_listing htook.taken (List.length_pos_iff.1 hsome) hapart

/-- nothing else is written -/
theorem others {i : Nat} (htarget : ¬ e.target.Covers i) (hslot : ¬ e.slot.Covers i) :
    HonestMemory.byte e.after i = HonestMemory.byte e.memory i := by
  obtain ⟨all, htook⟩ := e.exists_took
  rw [target, ← e.length_take] at htarget
  rw [htook.after]
  exact byte_listing htarget hslot

/-- a smaller array has the beginning of what a larger one has -/
theorem begins (e' : Enumeration μ s) (hle : e.length ≤ e'.length) (hsome : 0 < e.copied)
    (hapart : e.target.Apart e.slot) (hapart' : e'.target.Apart e'.slot) :
    readBytes e.after e.array (8 * e.copied) = readBytes e'.after e'.array (8 * e.copied) := by
  have hroom : e.length.toInt.toNat ≤ e'.length.toInt.toNat := Int.toNat_le_toNat (Int32.le_iff_toInt_le.1 hle)
  have hsome' : 0 < e'.copied := by
    unfold copied at hsome ⊢
    omega
  have hsplit : s.records.take e'.length.toInt.toNat = s.records.take e.length.toInt.toNat ++
      (s.records.take e'.length.toInt.toNat).drop e.length.toInt.toNat := by
    have htake : (s.records.take e'.length.toInt.toNat).take e.length.toInt.toNat =
        s.records.take e.length.toInt.toNat := by
      rw [List.take_take, Nat.min_eq_left hroom]
    rw [← htake, List.take_append_drop]
  have hlarge := e'.records hsome' hapart'
  rw [hsplit, Session.packed_append] at hlarge
  have hfirst := readBytes_of_append hlarge
  rw [Session.length_packed, e.length_take] at hfirst
  rw [e.records hsome hapart, hfirst]

/-- an array of the size that was counted takes all records -/
theorem all_of_counted (c : Counting μ s) (hcounted : readValue c.after c.out = .ok e.length)
    (hsome : 0 < s.present.length) (hapart : e.target.Apart e.slot) :
    readBytes e.after e.array (8 * s.present.length) = .ok (Session.packed s.records).toByteArray := by
  obtain ⟨all, hall, hread⟩ := c.total
  have hlength : e.length.toInt.toNat = s.present.length := by
    rw [hcounted] at hread
    cases hread
    omega
  have hcopied : e.copied = s.present.length := by rw [copied, hlength, Nat.min_self]
  have hrecords := e.records (hcopied ▸ hsome) hapart
  rw [hcopied, hlength, ← Session.length_records s, List.take_length] at hrecords
  rw [← Session.length_records s]
  exact hrecords

end Enumeration

end Success

/-- with no record to copy the array is not looked at -/
theorem run_of_no_room {μ : Type} [LinearMemory μ] {m : μ} {s : Session SceneStore} {caller : ScriptId}
    {length : Int32} (h : min length.toInt.toNat s.records.length = 0) (array array' count : Pointer) :
    (getElements array length count).run caller m s = (getElements array' length count).run caller m s := by
  have htake : s.records.take length.toInt.toNat = [] := by
    rw [← List.length_eq_zero_iff, List.length_take, h]
  have henumerate : enumerate m s array length count = enumerate m s array' length count := by
    rcases natural_cases length with ⟨-, hnatural⟩ | ⟨-, hnatural⟩
    · simp only [enumerate, hnatural, bind, Except.bind]
    · simp only [enumerate, hnatural, htake, bind, Except.bind, List.isEmpty_nil, if_true]
  rw [run, run, plan, plan, henumerate]

end SceneCall

/-! ## All of it -/

open SceneCall

/-- what a session tells its guests of its elements -/
structure Session.Enumerates (μ : Type) [LinearMemory μ] [ExactMemory μ] (s : Session SceneStore) : Prop where
  nodup : s.present.Nodup
  mem : ∀ node, node ∈ s.present ↔ (s.registry.descriptor? node).isSome ∧ (s.scene.element? node).isSome
  /-- there is one record for each node that is present, in order -/
  describes : List.Forall₂ s.Describes s.present s.records
  /-- as long as the descriptors count up from 10 (`Registry.capacity`), the records are in their order -/
  increasing : s.registry.count ≤ Registry.capacity → s.records.Pairwise fun a b => a.descriptor < b.descriptor
  /-- as long as no descriptor comes again (`Registry.room`), those are listed by which an element can be found -/
  finds : s.registry.count ≤ Registry.room → ∀ (call : SceneCall) d, call.descriptor? = some d →
    ∀ (m : μ) caller, (call.run caller m s).status = .elementNotFound ↔ ¬ s.Listed d
  /-- a count and an enumeration tell how many nodes are present -/
  counted : ∀ c : Counting μ s, ∃ all : Int32, all.toInt = s.present.length ∧ readValue c.after c.out = .ok all
  total : ∀ e : Enumeration μ s, ∃ all : Int32, all.toInt = s.present.length ∧ readValue e.after e.count = .ok all
  /-- the host is told how many records are copied: as many as there is room for -/
  copied : ∀ e : Enumeration μ s, copyRecords e.memory s e.array e.length e.count = (e.after, .ok e.copied)
  /-- they are the first ones, packed, if the slot of the number does not lie among them -/
  records : ∀ e : Enumeration μ s, 0 < e.copied → e.target.Apart e.slot →
    readBytes e.after e.array (8 * e.copied) =
      .ok (Session.packed (s.records.take e.length.toInt.toNat)).toByteArray
  /-- nothing else is written -/
  others : ∀ e : Enumeration μ s, ∀ i, ¬ e.target.Covers i → ¬ e.slot.Covers i →
    HonestMemory.byte e.after i = HonestMemory.byte e.memory i
  /-- a smaller array has the beginning of what a larger one has -/
  begins : ∀ e e' : Enumeration μ s, e.length ≤ e'.length → 0 < e.copied → e.target.Apart e.slot →
    e'.target.Apart e'.slot → readBytes e.after e.array (8 * e.copied) = readBytes e'.after e'.array (8 * e.copied)
  /-- an array of the size that was counted takes all records -/
  all : ∀ (c : Counting μ s) (e : Enumeration μ s), readValue c.after c.out = .ok e.length →
    0 < s.present.length → e.target.Apart e.slot →
      readBytes e.after e.array (8 * s.present.length) = .ok (Session.packed s.records).toByteArray
  /-- with no record to copy the array is not looked at -/
  unlooked : ∀ (m : μ) caller array array' length count, min length.toInt.toNat s.present.length = 0 →
    (getElements array length count).run caller m s = (getElements array' length count).run caller m s

theorem Session.enumerates {μ : Type} [LinearMemory μ] [ExactMemory μ] (s : Session SceneStore) : s.Enumerates μ where
  nodup := s.nodup_present
  mem _ := Session.mem_present
  describes := s.describes_records
  increasing := Session.pairwise_records
  finds hroom _ _ hd _ _ := status_eq_elementNotFound_iff hroom hd
  counted c := c.total
  total e := e.total
  copied e := e.copyRecords_eq
  records e := e.records
  others e _ := e.others
  begins e := e.begins
  all c e := e.all_of_counted c
  unlooked _ _ array array' _ count hroom :=
    run_of_no_room (by rwa [Session.length_records s]) array array' count

end ScriptHost
