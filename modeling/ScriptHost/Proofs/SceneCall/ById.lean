/-
Lookups by id. The registry leads an id to the first entry that was registered with it (`Registry.First`), and the scene
tells whether that node is still there, so a lookup finds one record or none (`Session.withId?`). It does not look at the
ids that elements have now, nor at later entries with the same id.

- `plan_getElementById`: what a lookup decides on.
- `soundById_of_count`: what is found is listed, and has the lowest descriptor that was given out for the id.
- `coherentById_of_unrenamed`: as long as registered elements keep their ids, what is found tells the id that was asked
  for, and an element that was the first with its id is found by it.
- `Lookup.answers_of_unrenamed`: as long as registered elements keep their ids, a lookup finds the first of the elements
  with the id just if the node that was registered first with it is still in the scene.
-/
import ScriptHost.Proofs.SceneCall.Lenses
import ScriptHost.Proofs.SceneCall.Listing
import ScriptHost.Proofs.SceneCall.Names

namespace ScriptHost

open Wire

/-! ## The record that is found -/

namespace Session

/-- the record that a lookup by an id finds -/
def withId? (s : Session SceneStore) (id : String) : Option ElementRecord := do
  let entry ← s.registry.withId? id
  let e ← s.scene.element? entry.node
  return ⟨entry.descriptor, e.kind.code⟩

/-- a registered element that is in the scene has the id now, and the record is its record -/
def Bears (s : Session SceneStore) (id : String) (r : ElementRecord) : Prop :=
  ∃ entry ∈ s.registry.all, ∃ e, s.scene.element? entry.node = some e ∧ e.id = some id ∧
    r = ⟨entry.descriptor, e.kind.code⟩

/-- the record has the lowest descriptor of those whose elements have the id now -/
structure Least (s : Session SceneStore) (id : String) (r : ElementRecord) : Prop where
  bears : s.Bears id r
  least : ∀ other, s.Bears id other → r.descriptor ≤ other.descriptor

variable {s : Session SceneStore} {id : String} {r : ElementRecord}

theorem Bears.mem_records (h : s.Bears id r) : r ∈ s.records := by
  obtain ⟨entry, hentry, e, helement, -, rfl⟩ := h
  exact mem_records_of_mem hentry helement

theorem mem_records_of_withId? (hfound : s.withId? id = some r) : r ∈ s.records := by
  obtain ⟨entry, hentry, hbind⟩ := Option.bind_eq_some_iff.1 hfound
  obtain ⟨e, helement, hrecord⟩ := Option.bind_eq_some_iff.1 hbind
  obtain rfl := Option.some.inj hrecord
  rw [s.indexed.withId?_eq] at hentry
  exact mem_records_of_mem (List.mem_of_find?_eq_some hentry) helement

section Ordered

variable (hcount : s.registry.count ≤ Registry.capacity)

include hcount

theorem withId?_eq_some_iff : s.withId? id = some r ↔ ∃ entry e, s.registry.First id entry ∧
    s.scene.element? entry.node = some e ∧ r = ⟨entry.descriptor, e.kind.code⟩ := by
  simp only [withId?, bind, pure, Option.bind_eq_some_iff, Option.some.injEq, s.indexed.withId?_eq_some_iff hcount]
  constructor
  · rintro ⟨entry, hfirst, e, helement, rfl⟩
    exact ⟨entry, e, hfirst, helement, rfl⟩
  · rintro ⟨entry, e, hfirst, helement, rfl⟩
    exact ⟨entry, hfirst, e, helement, rfl⟩

theorem withId?_eq_none_iff : s.withId? id = none ↔
    ∀ entry, s.registry.First id entry → s.scene.element? entry.node = none := by
  constructor
  · intro hnone entry hfirst
    by_contra hpresent
    obtain ⟨e, helement⟩ := Option.ne_none_iff_exists'.1 hpresent
    rw [(withId?_eq_some_iff hcount).2 ⟨entry, e, hfirst, helement, rfl⟩] at hnone
    cases hnone
  · intro hgone
    rw [Option.eq_none_iff_forall_ne_some]
    intro r hfound
    obtain ⟨entry, e, hfirst, helement, -⟩ := (withId?_eq_some_iff hcount).1 hfound
    rw [hgone entry hfirst] at helement
    cases helement

end Ordered

/-- as long as elements keep their ids, what is found has the id, and it is the first of those that have it -/
theorem least_of_withId? (hcount : s.registry.count ≤ Registry.capacity)
    (hkept : s.Unrenamed) (hfound : s.withId? id = some r) : s.Least id r := by
  obtain ⟨entry, e, hfirst, helement, rfl⟩ := (withId?_eq_some_iff hcount).1 hfound
  refine ⟨⟨entry, hfirst.mem, e, helement, (hkept.id_eq hfirst.mem helement).trans hfirst.named, rfl⟩, ?_⟩
  rintro _ ⟨other, hother, e', helement', hid, rfl⟩
  exact hfirst.least other hother ((hkept.id_eq hother helement').symm.trans hid)

/-- there is one first element with an id at most -/
theorem Least.eq (hroom : s.registry.count ≤ Registry.room) {r' : ElementRecord}
    (hleast : s.Least id r) (hleast' : s.Least id r') : r = r' := by
  have hd : r.descriptor = r'.descriptor :=
    Int32.le_antisymm (hleast.least r' hleast'.bears) (hleast'.least r hleast.bears)
  obtain ⟨entry, hentry, e, helement, -, rfl⟩ := hleast.bears
  obtain ⟨entry', hentry', e', helement', -, rfl⟩ := hleast'.bears
  obtain rfl := s.indexed.eq_of_descriptor hroom hentry hentry' hd
  rw [Option.some.inj (helement.symm.trans helement')]

end Session

/-! ## The call -/

namespace SceneCall

section Lookup

variable {μ : Type} [LinearMemory μ] {m : μ} {s : Session SceneStore} {caller : ScriptId} {id out : Pointer}
  {length : Int32} {text : String}

/-- what a lookup decides on, if a text was asked for -/
theorem plan_getElementById (caller : ScriptId) (s : Session SceneStore) (out : Pointer) (hlength : 0 ≤ length)
    (hread : readText m id length.toInt.toNat = .ok text) :
    (getElementById id length out).plan caller m s =
      match s.withId? text with
      | some r => .ok (answer out r)
      | none => .error .elementNotFound := by
  have hnatural : natural length = .ok length.toInt.toNat := natural_eq_ok.2 ⟨Int32.not_lt.2 hlength, rfl⟩
  have htext : access (readText m id length.toInt.toNat) = .ok text := access_eq_ok.2 hread
  simp only [plan, hnatural, htext, Session.withId?, SceneBackend.element?, bind, Except.bind]
  cases s.registry.withId? text with
  | none => rfl
  | some entry =>
    dsimp only [Option.bind_some]
    cases s.scene.element? entry.node <;> rfl

theorem status_of_not_found (hlength : 0 ≤ length) (hread : readText m id length.toInt.toNat = .ok text)
    (hnone : s.withId? text = none) : ((getElementById id length out).run caller m s).status = .elementNotFound := by
  refine status_of_error ?_
  rw [plan_getElementById caller s out hlength hread, hnone]

variable [ExactMemory μ]

/-- an answer that there is room for is taken, and can be read -/
theorem read_of_answer {α : Type} [WireValue α] [LawfulWire α] {call : SceneCall} {value : α}
    (h : call.plan caller m s = .ok (answer out value)) (hroom : out.toNat + wireSize α ≤ LinearMemory.size m) :
    (call.run caller m s).status = .success ∧ readValue (call.run caller m s).memory out = .ok value := by
  have hinside : ∀ r ∈ [Region.ofValue out value], r.Inside (LinearMemory.size m) := by
    intro r hr
    rw [List.mem_singleton.1 hr]
    have hsize : (Region.ofValue out value).bytes.size = wireSize α :=
      congrArg Span.size (Region.span_ofValue out value)
    rw [Region.Inside, hsize]
    exact hroom
  have htaken := writeRegions_of_inside m _ hinside
  have hrun : call.run caller m s = (answer out value).perform m s := by rw [run, h]
  rw [hrun, answer, SceneAction.perform_write, htaken]
  exact ⟨rfl, readValue_writeRegions htaken (List.forall_mem_nil _)⟩

theorem found_of_withId? (hlength : 0 ≤ length) (hread : readText m id length.toInt.toNat = .ok text)
    {r : ElementRecord} (hfound : s.withId? text = some r) (hroom : out.toNat + 8 ≤ LinearMemory.size m) :
    ((getElementById id length out).run caller m s).status = .success ∧
      readValue ((getElementById id length out).run caller m s).memory out = .ok r := by
  have hplan := plan_getElementById caller s out hlength hread
  rw [hfound] at hplan
  exact read_of_answer hplan hroom

/-- a lookup that succeeds has asked for the text that stands in the memory, has found a record and has written it -/
theorem withId?_of_success (hsuccess : ((getElementById id length out).run caller m s).status = .success) :
    0 ≤ length ∧ readText m id length.toInt.toNat = .ok (textAt m id length.toInt.toNat) ∧
      ∃ r, s.withId? (textAt m id length.toInt.toNat) = some r ∧
        readValue ((getElementById id length out).run caller m s).memory out = .ok r := by
  obtain ⟨act, hplan⟩ := plan_of_success hsuccess
  have hdecided := hplan
  simp only [plan, bind_eq_ok, natural_eq_ok, access_eq_ok] at hdecided
  obtain ⟨_, ⟨hnonneg, rfl⟩, text, htext, -⟩ := hdecided
  have hlength : 0 ≤ length := Int32.not_lt.1 hnonneg
  have hread : readText m id length.toInt.toNat = .ok (textAt m id length.toInt.toNat) := by
    rcases readText_cases m id length.toInt.toNat with ⟨houtside, -⟩ | ⟨-, hread⟩
    · rw [readText_of_outside houtside] at htext
      cases htext
    · exact access_eq_ok.1 hread
  refine ⟨hlength, hread, ?_⟩
  have hanswer := plan_getElementById caller s out hlength hread
  cases hfound : s.withId? (textAt m id length.toInt.toNat) with
  | none =>
    rw [hfound, hplan] at hanswer
    cases hanswer
  | some r =>
    rw [hfound] at hanswer
    obtain ⟨htaken, hmemory⟩ := run_of_write hanswer hsuccess
    rw [hmemory]
    exact ⟨r, rfl, readValue_writeRegions htaken (List.forall_mem_nil _)⟩

/-- the record that can be read after a lookup that succeeds is the one that was found -/
theorem withId?_of_read (hsuccess : ((getElementById id length out).run caller m s).status = .success)
    {r : ElementRecord} (hread : readValue ((getElementById id length out).run caller m s).memory out = .ok r) :
    s.withId? (textAt m id length.toInt.toNat) = some r := by
  obtain ⟨-, -, r', hfound, hwritten⟩ := withId?_of_success hsuccess
  rw [hwritten] at hread
  cases hread
  exact hfound

end Lookup

end SceneCall

/-! ## Telling an id -/

namespace Session

/-- the queries for the id of an element tell a text: its length, if that is a signed word, and its bytes, if there is
room for them -/
structure TellsId (s : Session SceneStore) (d : Int32) (text : String) : Prop where
  length : text.utf8ByteSize < signedLimit → ∀ out,
    s.Yields (.getIdLength d out) out (encode (Int32.ofNat text.utf8ByteSize)).toByteArray
  tooLong : signedLimit ≤ text.utf8ByteSize → ∀ {μ : Type} [LinearMemory μ] (caller : ScriptId) (m : μ) (out : Pointer),
    ((SceneCall.getIdLength d out).run caller m s).status = .insufficientBufferSize
  bytes : ∀ out capacity, 0 ≤ capacity → text.utf8ByteSize ≤ capacity.toInt.toNat →
    s.Yields (.getId d out capacity) out text.toUTF8

open SceneCall in
theorem tellsId_of_resolve {s : Session SceneStore} {d : Int32} {node : NodeId} {e : Element} {text : String}
    (hfound : s.resolve d = some (node, e)) (hid : e.id = some text) : s.TellsId d text := by
  have htext : e.idText = text := by rw [Element.idText, hid]; rfl
  refine ⟨?_, ?_, ?_⟩
  · intro hfits out
    have hlength : access (textLength text) = .ok (Int32.ofNat text.utf8ByteSize) :=
      access_eq_ok.2 (if_pos hfits)
    refine yields_of_plan fun caller m => ?_
    simp only [plan, answerLength, bind_eq_ok, pure_eq_ok, Prod.exists, lookUp_eq_ok]
    exact ⟨node, e, hfound, _, htext ▸ hlength, rfl⟩
  · intro hlong μ _ caller m out
    have hlength : access (textLength text) = .error .insufficientBufferSize :=
      congrArg access (if_neg (Nat.not_lt.2 hlong))
    have hlook : lookUp s d = .ok (node, e) := lookUp_eq_ok.2 hfound
    refine status_of_error ?_
    simp only [plan, hlook, answerLength, htext, hlength, bind, Except.bind]
  · intro out capacity hnonneg hroom
    refine yields_of_plan fun caller m => ?_
    simp only [plan, answerText, bind_eq_ok, pure_eq_ok, Prod.exists, lookUp_eq_ok, natural_eq_ok, access_eq_ok,
      textBytes_eq_ok]
    exact ⟨node, e, hfound, _, ⟨Int32.not_lt.2 hnonneg, rfl⟩, _, ⟨htext ▸ hroom, rfl⟩, htext ▸ rfl⟩

end Session

/-! ## There and back -/

/-- a guest that copies the id of an element out and then looks it up: it asks for the length, then for the bytes, and
passes what it was given -/
structure IdTrip (μ : Type) where
  caller : ScriptId
  memory : μ
  slot : Pointer
  buffer : Pointer
  out : Pointer

namespace IdTrip

variable {μ : Type} [LinearMemory μ] (t : IdTrip μ) (s : Session SceneStore) (d n : Int32)

/-- the guest has asked for the length -/
def measured : SceneOutcome μ SceneStore := (SceneCall.getIdLength d t.slot).run t.caller t.memory s

/-- then it has asked for the bytes, with room for `n` of them -/
def copied : SceneOutcome μ SceneStore :=
  (SceneCall.getId d t.buffer n).run t.caller (t.measured s d).memory (t.measured s d).session

/-- then it has passed the `n` bytes -/
def found : SceneOutcome μ SceneStore :=
  (SceneCall.getElementById t.buffer n t.out).run t.caller (t.copied s d n).memory (t.copied s d n).session

/-- there is room for the length, for an id of so many bytes, and for a record -/
structure HasRoom (size : Nat) : Prop where
  slot : t.slot.toNat + 4 ≤ LinearMemory.size t.memory
  buffer : t.buffer.toNat + size ≤ LinearMemory.size t.memory
  out : t.out.toNat + 8 ≤ LinearMemory.size t.memory

/-- the guest is told a length, and with it it comes to the record -/
def LeadsTo (r : ElementRecord) : Prop :=
  ∃ n : Int32, (t.measured s r.descriptor).status = .success ∧
    readValue (t.measured s r.descriptor).memory t.slot = .ok n ∧
    (t.copied s r.descriptor n).status = .success ∧ (t.found s r.descriptor n).status = .success ∧
    readValue (t.found s r.descriptor n).memory t.out = .ok r

end IdTrip

section Trip

variable {μ : Type} [LinearMemory μ] [ExactMemory μ] {s : Session SceneStore}

/-- a query that has room for its answer leaves a memory of the same size with the answer in it, and nothing else -/
theorem Session.Yields.leaves {call : SceneCall} {out : Pointer} {bytes : ByteArray} (h : s.Yields call out bytes)
    (caller : ScriptId) {m : μ} (hroom : out.toNat + bytes.size ≤ LinearMemory.size m) :
    ∃ m', call.run caller m s = { status := .success, memory := m', session := s } ∧
      LinearMemory.size m' = LinearMemory.size m ∧ readBytes m' out bytes.size = .ok bytes := by
  obtain ⟨m', hwrite⟩ := writeBytes_of_inside hroom
  refine ⟨m', ?_, size_writeBytes hwrite, readBytes_writeBytes hwrite⟩
  rw [h.writes, SceneAction.perform_write, writeRegions, hwrite]
  rfl

/-- where the id is told, and where it leads to a record, the way there and back ends at that record -/
theorem IdTrip.leadsTo_of_tellsId (t : IdTrip μ) {r : ElementRecord} {id : String} (htells : s.TellsId r.descriptor id)
    (hfound : s.withId? id = some r) (hfits : id.utf8ByteSize < signedLimit) (hroom : t.HasRoom id.utf8ByteSize) :
    t.LeadsTo s r := by
  have hint : (Int32.ofNat id.utf8ByteSize).toInt = id.utf8ByteSize := Int32.toInt_ofNat_of_lt hfits
  have hnat : (Int32.ofNat id.utf8ByteSize).toInt.toNat = id.utf8ByteSize := by rw [hint, Int.toNat_natCast]
  have hnonneg : 0 ≤ Int32.ofNat id.utf8ByteSize := SceneCall.nonneg_of_toInt hint
  have hword : (encode (Int32.ofNat id.utf8ByteSize)).toByteArray.size = 4 := List.size_toByteArray
  -- the length stands in the slot
  obtain ⟨m, hmeasured, hsize, hlength⟩ := (htells.length hfits t.slot).leaves t.caller (hword ▸ hroom.slot)
  rw [hword] at hlength
  -- the bytes stand in the buffer
  have hbuffer : t.buffer.toNat + id.toUTF8.size ≤ LinearMemory.size m := hsize ▸ hroom.buffer
  obtain ⟨m', hcopied, hsize', hbytes⟩ :=
    (htells.bytes t.buffer _ hnonneg (Nat.le_of_eq hnat.symm)).leaves t.caller hbuffer
  have htext : readText m' t.buffer (Int32.ofNat id.utf8ByteSize).toInt.toNat = .ok id := by
    rw [hnat]
    exact readText_of_readBytes hbytes
  -- and so they can be passed
  have hout : t.out.toNat + 8 ≤ LinearMemory.size m' := by
    rw [hsize', hsize]
    exact hroom.out
  refine ⟨Int32.ofNat id.utf8ByteSize, ?_⟩
  simp only [IdTrip.found, IdTrip.copied, IdTrip.measured, hmeasured, hcopied]
  exact ⟨trivial, readValue_of_readBytes hlength, trivial, SceneCall.found_of_withId? hnonneg htext hfound hout⟩

end Trip

/-! ## What a lookup finds -/

namespace Session

/-- whenever a lookup succeeds, the record that it has written is listed, and its descriptor is the lowest that was given to
a node with the id that was asked for -/
def SoundById (μ : Type) [LinearMemory μ] [ExactMemory μ] (s : Session SceneStore) : Prop :=
  ∀ (caller : ScriptId) (m : μ) id length out,
    ((SceneCall.getElementById id length out).run caller m s).status = .success →
      ∃ r ∈ s.records, readValue ((SceneCall.getElementById id length out).run caller m s).memory out = .ok r ∧
        ∃ entry, s.registry.First (textAt m id length.toInt.toNat) entry ∧ entry.descriptor = r.descriptor

/-- the element of the record has the id, and no node was registered with that id before it -/
def Owns (s : Session SceneStore) (id : String) (r : ElementRecord) : Prop :=
  s.Bears id r ∧ ∃ entry, s.registry.First id entry ∧ entry.descriptor = r.descriptor

/-- the queries for ids and the lookups by them fit together -/
structure CoherentById (μ : Type) [LinearMemory μ] [ExactMemory μ] (s : Session SceneStore) : Prop where
  /-- what is found by an id tells that id -/
  tells : ∀ (caller : ScriptId) (m : μ) id length out (r : ElementRecord),
    ((SceneCall.getElementById id length out).run caller m s).status = .success →
      readValue ((SceneCall.getElementById id length out).run caller m s).memory out = .ok r →
        s.TellsId r.descriptor (textAt m id length.toInt.toNat)
  /-- an element that was registered first with its id tells it, and is found wherever its bytes stand -/
  found : ∀ id r, s.Owns id r → s.TellsId r.descriptor id ∧
    ∀ (caller : ScriptId) (m : μ) p length out, 0 ≤ length → readBytes m p length.toInt.toNat = .ok id.toUTF8 →
      out.toNat + 8 ≤ LinearMemory.size m →
        ((SceneCall.getElementById p length out).run caller m s).status = .success ∧
          readValue ((SceneCall.getElementById p length out).run caller m s).memory out = .ok r
  /-- and so by a guest that has its id copied and passes the copy -/
  back : ∀ id r, s.Owns id r → id.utf8ByteSize < signedLimit → ∀ t : IdTrip μ, t.HasRoom id.utf8ByteSize →
    t.LeadsTo s r

variable {μ : Type} [LinearMemory μ] [ExactMemory μ] {s : Session SceneStore}
  (hcount : s.registry.count ≤ Registry.capacity)

include hcount

theorem soundById_of_count : s.SoundById μ := by
  intro caller m id length out hsuccess
  obtain ⟨-, -, r, hfound, hread⟩ := SceneCall.withId?_of_success hsuccess
  obtain ⟨entry, e, hfirst, helement, hr⟩ := (withId?_eq_some_iff hcount).1 hfound
  exact ⟨r, mem_records_of_withId? hfound, hread, entry, hfirst, by rw [hr]⟩

/-- an element that was registered first with its id is found by it -/
theorem withId?_of_owns {id : String} {r : ElementRecord} (howns : s.Owns id r) : s.withId? id = some r := by
  obtain ⟨⟨other, hother, e, helement, -, rfl⟩, entry, hfirst, hd⟩ := howns
  obtain rfl := s.indexed.eq_of_descriptor (Nat.le_trans hcount Registry.capacity_le_room) hfirst.mem hother hd
  exact (withId?_eq_some_iff hcount).2 ⟨entry, e, hfirst, helement, rfl⟩

theorem tellsId_of_bears {id : String} {r : ElementRecord} (hbears : s.Bears id r) : s.TellsId r.descriptor id := by
  obtain ⟨entry, hentry, e, helement, hid, rfl⟩ := hbears
  exact tellsId_of_resolve (resolve_of_mem (Nat.le_trans hcount Registry.capacity_le_room) hentry helement) hid

theorem coherentById_of_unrenamed (hkept : s.Unrenamed) : s.CoherentById μ where
  tells caller m id length out r hsuccess hread := by
    have hfound := SceneCall.withId?_of_read hsuccess hread
    exact tellsId_of_bears hcount (least_of_withId? hcount hkept hfound).bears
  found id r howns := by
    refine ⟨tellsId_of_bears hcount howns.1, ?_⟩
    intro caller m p length out hlength hbytes hroom
    exact SceneCall.found_of_withId? hlength (readText_of_readBytes hbytes) (withId?_of_owns hcount howns) hroom
  back id r howns hfits t hroom :=
    t.leadsTo_of_tellsId (tellsId_of_bears hcount howns.1) (withId?_of_owns hcount howns) hfits hroom

end Session

/-! ## What a lookup misses -/

/-- a lookup by an id that lies inside the memory, with room for the record -/
structure Lookup (μ : Type) [LinearMemory μ] where
  caller : ScriptId
  memory : μ
  id : Pointer
  length : Int32
  out : Pointer
  natural : 0 ≤ length
  inside : id.toNat + length.toInt.toNat ≤ LinearMemory.size memory
  room : out.toNat + 8 ≤ LinearMemory.size memory

namespace Lookup

variable {μ : Type} [LinearMemory μ] [ExactMemory μ] (l : Lookup μ) (s : Session SceneStore)

/-- the id that is asked for -/
def text : String := textAt l.memory l.id l.length.toInt.toNat

omit [ExactMemory μ] in
/-- what the call leaves behind -/
def outcome : SceneOutcome μ SceneStore := (SceneCall.getElementById l.id l.length l.out).run l.caller l.memory s

omit [ExactMemory μ] in
/-- the call succeeds and writes the record -/
def Finds (r : ElementRecord) : Prop :=
  (l.outcome s).status = .success ∧ readValue (l.outcome s).memory l.out = .ok r

/-- what a lookup finds and misses -/
structure Answers : Prop where
  /-- nothing is found just if no node was registered with the id, or the one that was first has left the scene -/
  notFound : (l.outcome s).status = .elementNotFound ↔
    ∀ entry, s.registry.First l.text entry → s.scene.element? entry.node = none
  /-- otherwise the first of the listed elements with the id is found -/
  found : (l.outcome s).status ≠ .elementNotFound → ∃ r ∈ s.records, s.Least l.text r ∧ l.Finds s r
  /-- so the first of the elements with an id can be missed: it is found just if no node was registered with the id before
  it, or the one that was first is still there -/
  least_iff : ∀ r, s.Least l.text r →
    (l.Finds s r ↔ ∃ entry e, s.registry.First l.text entry ∧ s.scene.element? entry.node = some e)

theorem readText_eq : readText l.memory l.id l.length.toInt.toNat = .ok l.text := readText_of_inside l.inside

theorem status_eq_iff : (l.outcome s).status = .elementNotFound ↔ s.withId? l.text = none := by
  cases hfound : s.withId? l.text with
  | none => simp only [outcome, SceneCall.status_of_not_found l.natural l.readText_eq hfound]
  | some r => simp [outcome, (SceneCall.found_of_withId? l.natural l.readText_eq hfound l.room).1]

theorem finds_iff {r : ElementRecord} : l.Finds s r ↔ s.withId? l.text = some r := by
  constructor
  · rintro ⟨hsuccess, hread⟩
    exact SceneCall.withId?_of_read hsuccess hread
  · intro hfound
    exact SceneCall.found_of_withId? l.natural l.readText_eq hfound l.room

theorem answers_of_unrenamed {s : Session SceneStore} (hcount : s.registry.count ≤ Registry.capacity)
    (hkept : s.Unrenamed) : l.Answers s where
  notFound := (l.status_eq_iff s).trans (Session.withId?_eq_none_iff hcount)
  found hfound := by
    rw [ne_eq, l.status_eq_iff s] at hfound
    obtain ⟨r, hr⟩ := Option.ne_none_iff_exists'.1 hfound
    have hleast := Session.least_of_withId? hcount hkept hr
    exact ⟨r, hleast.bears.mem_records, hleast, (l.finds_iff s).2 hr⟩
  least_iff r hleast := by
    rw [l.finds_iff s]
    constructor
    · intro hfound
      obtain ⟨entry, e, hfirst, helement, -⟩ := (Session.withId?_eq_some_iff hcount).1 hfound
      exact ⟨entry, e, hfirst, helement⟩
    · rintro ⟨entry, e, hfirst, helement⟩
      have hfound : s.withId? l.text = some ⟨entry.descriptor, e.kind.code⟩ :=
        (Session.withId?_eq_some_iff hcount).2 ⟨entry, e, hfirst, helement, rfl⟩
      rw [hfound, hleast.eq (Nat.le_trans hcount Registry.capacity_le_room) (Session.least_of_withId? hcount hkept hfound)]

end Lookup

end ScriptHost
