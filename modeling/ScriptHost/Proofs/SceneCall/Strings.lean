/-
Strings in two calls. A guest that wants the id of an element, or the text of a text element, asks for its length with one
call and for its bytes with another. The calls agree (`strings_delivered`):
- the length that is told is the length of the whole string in UTF-8;
- the bytes are copied just if the guest's buffer and its memory have room for all of them, so a guest that makes room for
  as many bytes as it was told gets the whole string (`ElementString.Delivers.trip`);
- a copy that fails changes nothing, and one that succeeds changes no byte behind the string.
-/
import ScriptHost.Proofs.SceneCall.Reasons

namespace ScriptHost

open Wire

/-! ## Answers of one region -/

section Outcomes

variable {μ : Type} [LinearMemory μ] {σ : Type}

/-- a call succeeds, and all that it changes are some bytes from an address on -/
structure SceneOutcome.Writes [LawfulMemory μ] (after : SceneOutcome μ σ) (s : Session σ) (m : μ) (out : Pointer)
    (bytes : ByteArray) : Prop where
  status : after.status = .success
  read : readBytes after.memory out bytes.size = .ok bytes
  others : ∀ i, ¬ (⟨out, bytes⟩ : Region).Covers i → HonestMemory.byte after.memory i = HonestMemory.byte m i
  size : LinearMemory.size after.memory = LinearMemory.size m
  session : after.session = s
  notices : after.notices = []

variable [ExactMemory μ] {m : μ} {s : Session σ} {out : Pointer} {bytes : ByteArray}

theorem SceneOutcome.Writes.readValue_eq {α : Type} [WireValue α] [LawfulWire α] {after : SceneOutcome μ σ} {v : α}
    (h : after.Writes s m out (encode v).toByteArray) : readValue after.memory out = .ok v := by
  have hread := h.read
  rw [List.size_toByteArray, length_encode] at hread
  exact readValue_of_readBytes hread

variable [SceneBackend σ]

theorem SceneAction.writes_of_inside (h : out.toNat + bytes.size ≤ LinearMemory.size m) :
    ((SceneAction.write [⟨out, bytes⟩]).perform m s).Writes s m out bytes := by
  obtain ⟨m', hm'⟩ := writeBytes_of_inside h
  have hwritten : writeRegions m [⟨out, bytes⟩] = (m', .ok ()) := by simp only [writeRegions, hm']
  have hperform : (SceneAction.write [⟨out, bytes⟩]).perform m s =
      { status := .success, memory := m', session := s } := by
    simp only [perform, hwritten]
    rfl
  rw [hperform]
  exact ⟨rfl, readBytes_writeBytes hm', fun i hi => (byte_writeBytes hm' i).trans (if_neg hi), size_writeBytes hm',
    rfl, rfl⟩

omit [ExactMemory μ] in
theorem SceneAction.perform_of_outside (h : ¬ out.toNat + bytes.size ≤ LinearMemory.size m) :
    (SceneAction.write [⟨out, bytes⟩]).perform m s = { status := .invalidArgument, memory := m, session := s } := by
  have hwritten : writeRegions m [⟨out, bytes⟩] = (m, .error .outOfBounds) := by
    simp only [writeRegions, writeBytes_eq, if_neg h]
  simp only [perform, hwritten]
  rfl

end Outcomes

/-! ## The strings of elements -/

/-- a string of an element that guests get in two calls -/
inductive ElementString where
  | id
  | text
deriving DecidableEq, Repr

namespace ElementString

/-- the string, if the element has it; an element without an id has the empty one -/
def of? : ElementString → Element → Option String
  | id, e => some e.idText
  | text, e => e.data.text?.map (·.text)

/-- the call for the length -/
def lengthCall : ElementString → Int32 → Pointer → SceneCall
  | id => .getIdLength
  | text => .getTextLength

/-- the call for the bytes -/
def copyCall : ElementString → Int32 → Pointer → Int32 → SceneCall
  | id => .getId
  | text => .getText

section Calls

variable {μ : Type} [LinearMemory μ] {σ : Type} [SceneBackend σ] {s : Session σ} {d : Int32} {node : NodeId}
  {e : Element} {k : ElementString} {S : String}

theorem plan_lengthCall (hfound : s.resolve d = some (node, e)) (hS : k.of? e = some S) (caller : ScriptId) (m : μ)
    (out : Pointer) : (k.lengthCall d out).plan caller m s = SceneCall.answerLength out S := by
  have hlookUp := SceneCall.lookUp_eq_ok.2 hfound
  cases k with
  | id =>
    cases hS
    simp only [lengthCall, SceneCall.plan, hlookUp, bind, Except.bind]
  | text =>
    obtain ⟨state, hstate, rfl⟩ := Option.map_eq_some_iff.1 hS
    simp only [lengthCall, SceneCall.plan, hlookUp, SceneCall.textOf_eq_ok.2 hstate, bind, Except.bind]

theorem plan_copyCall (hfound : s.resolve d = some (node, e)) (hS : k.of? e = some S) (caller : ScriptId) (m : μ)
    (out : Pointer) (capacity : Int32) :
    (k.copyCall d out capacity).plan caller m s = SceneCall.answerText out capacity S := by
  have hlookUp := SceneCall.lookUp_eq_ok.2 hfound
  cases k with
  | id =>
    cases hS
    simp only [copyCall, SceneCall.plan, hlookUp, bind, Except.bind]
  | text =>
    obtain ⟨state, hstate, rfl⟩ := Option.map_eq_some_iff.1 hS
    simp only [copyCall, SceneCall.plan, hlookUp, SceneCall.textOf_eq_ok.2 hstate, bind, Except.bind]

/-! ### The length -/

theorem run_lengthCall (hfound : s.resolve d = some (node, e)) (hS : k.of? e = some S)
    (hlimit : S.utf8ByteSize < signedLimit) (caller : ScriptId) (m : μ) (out : Pointer) :
    (k.lengthCall d out).run caller m s =
      (SceneCall.answer out (Int32.ofNat S.utf8ByteSize)).perform m s := by
  have hlength : textLength S = .ok (Int32.ofNat S.utf8ByteSize) := if_pos hlimit
  rw [SceneCall.run, plan_lengthCall hfound hS, SceneCall.answerLength, hlength]
  rfl

/-! ### The bytes -/

section Copy

variable (hfound : s.resolve d = some (node, e)) (hS : k.of? e = some S) (caller : ScriptId) (m : μ) (out : Pointer)
  {capacity : Int32}

include hfound hS

/-- a buffer for the whole string is written to, if the memory has it -/
theorem run_copyCall_of_fits (hfits : S.utf8ByteSize ≤ capacity.toInt) :
    (k.copyCall d out capacity).run caller m s = (SceneAction.write [⟨out, S.toUTF8⟩]).perform m s := by
  have hnatural := SceneCall.natural_of_toInt (Int.toNat_of_nonneg (show 0 ≤ capacity.toInt by omega)).symm
  have hbytes : textBytes capacity.toInt.toNat S = .ok S.toUTF8 := SceneCall.textBytes_eq_ok.2 ⟨by omega, rfl⟩
  rw [SceneCall.run, plan_copyCall hfound hS, SceneCall.answerText, hnatural]
  simp only [bind, Except.bind, hbytes]
  rfl

/-- a buffer that is too short is left alone, wherever it is -/
theorem run_copyCall_of_short (hnat : 0 ≤ capacity.toInt) (hshort : capacity.toInt < S.utf8ByteSize) :
    (k.copyCall d out capacity).run caller m s = { status := .insufficientBufferSize, memory := m, session := s } := by
  have hnatural := SceneCall.natural_of_toInt (Int.toNat_of_nonneg (show 0 ≤ capacity.toInt by omega)).symm
  have hbytes : textBytes capacity.toInt.toNat S = .error .bufferTooSmall := if_neg (by omega)
  rw [SceneCall.run, plan_copyCall hfound hS, SceneCall.answerText, hnatural]
  simp only [bind, Except.bind, hbytes]
  rfl

theorem run_copyCall_of_negative (hneg : capacity.toInt < 0) :
    (k.copyCall d out capacity).run caller m s = { status := .invalidArgument, memory := m, session := s } := by
  have hnatural : SceneCall.natural capacity = .error .invalidArgument :=
    if_pos (Int32.lt_iff_toInt_lt.2 (Int32.toInt_zero ▸ hneg))
  rw [SceneCall.run, plan_copyCall hfound hS, SceneCall.answerText, hnatural]
  rfl

end Copy

end Calls

/-! ## What guests get -/

/-- what guests get of a string of the element that a descriptor names, in memories that are exact -/
structure Delivers (k : ElementString) (μ : Type) [LinearMemory μ] [ExactMemory μ] {σ : Type} [SceneBackend σ]
    (s : Session σ) (d : Int32) (S : String) : Prop where
  /-- the length is told, and nothing but its word changes -/
  told : ∀ caller (m : μ) out, out.toNat + 4 ≤ LinearMemory.size m → ∃ L : Int32, L.toInt = S.utf8ByteSize ∧
    ((k.lengthCall d out).run caller m s).Writes s m out (encode L).toByteArray ∧
    readValue ((k.lengthCall d out).run caller m s).memory out = .ok L
  /-- the copy succeeds just if the buffer and the memory have room for the whole string -/
  success_iff : ∀ caller (m : μ) out capacity, ((k.copyCall d out capacity).run caller m s).status = .success ↔
    (S.utf8ByteSize : Int) ≤ capacity.toInt ∧ out.toNat + S.utf8ByteSize ≤ LinearMemory.size m
  /-- then all of it is there, and nothing else changes: not even the rest of the buffer -/
  whole : ∀ caller (m : μ) out capacity, ((k.copyCall d out capacity).run caller m s).status = .success →
    ((k.copyCall d out capacity).run caller m s).Writes s m out S.toUTF8
  /-- otherwise nothing changes -/
  refused : ∀ caller (m : μ) out capacity, ((k.copyCall d out capacity).run caller m s).status ≠ .success →
    ((k.copyCall d out capacity).run caller m s).memory = m ∧ ((k.copyCall d out capacity).run caller m s).session = s
  /-- of a buffer that is too short the guest is told so -/
  short : ∀ caller (m : μ) out (capacity : Int32), 0 ≤ capacity.toInt → capacity.toInt < S.utf8ByteSize →
    (k.copyCall d out capacity).run caller m s = { status := .insufficientBufferSize, memory := m, session := s }
  /-- a guest that is told a length, and then has room for so many bytes in its memory, gets the whole string -/
  trip : ∀ caller (m : μ) out length, out.toNat + 4 ≤ LinearMemory.size m →
    readValue ((k.lengthCall d out).run caller m s).memory out = .ok length →
      ∀ caller' (m' : μ) buffer, buffer.toNat + length.toInt.toNat ≤ LinearMemory.size m' →
        ((k.copyCall d buffer length).run caller' m' s).Writes s m' buffer S.toUTF8

section Delivery

variable {μ : Type} [LinearMemory μ] [ExactMemory μ] {σ : Type} [SceneBackend σ] {s : Session σ} {d : Int32}
  {node : NodeId} {e : Element} {k : ElementString} {S : String} (hfound : s.resolve d = some (node, e))
  (hS : k.of? e = some S)

include hfound hS

theorem writes_lengthCall (hlimit : S.utf8ByteSize < signedLimit) (caller : ScriptId) {m : μ} {out : Pointer}
    (hroom : out.toNat + 4 ≤ LinearMemory.size m) :
    ((k.lengthCall d out).run caller m s).Writes s m out (encode (Int32.ofNat S.utf8ByteSize)).toByteArray := by
  rw [run_lengthCall hfound hS hlimit]
  exact SceneAction.writes_of_inside (by rwa [List.size_toByteArray, length_encode])

theorem writes_copyCall (caller : ScriptId) {m : μ} {out : Pointer} {capacity : Int32}
    (hfits : S.utf8ByteSize ≤ capacity.toInt) (hroom : out.toNat + S.utf8ByteSize ≤ LinearMemory.size m) :
    ((k.copyCall d out capacity).run caller m s).Writes s m out S.toUTF8 := by
  rw [run_copyCall_of_fits hfound hS caller m out hfits]
  exact SceneAction.writes_of_inside hroom

omit [ExactMemory μ] in
/-- there is room for the whole string, or the call is refused -/
theorem copyCall_cases (caller : ScriptId) (m : μ) (out : Pointer) (capacity : Int32) :
    ((S.utf8ByteSize : Int) ≤ capacity.toInt ∧ out.toNat + S.utf8ByteSize ≤ LinearMemory.size m) ∨
    (¬ ((S.utf8ByteSize : Int) ≤ capacity.toInt ∧ out.toNat + S.utf8ByteSize ≤ LinearMemory.size m) ∧
      ∃ status, status ≠ .success ∧
        (k.copyCall d out capacity).run caller m s = { status, memory := m, session := s }) := by
  by_cases hfits : (S.utf8ByteSize : Int) ≤ capacity.toInt
  · by_cases hroom : out.toNat + S.utf8ByteSize ≤ LinearMemory.size m
    · exact .inl ⟨hfits, hroom⟩
    · have hrun := run_copyCall_of_fits hfound hS caller m out hfits
      exact .inr ⟨fun h => hroom h.2, .invalidArgument, nofun, hrun.trans (SceneAction.perform_of_outside hroom)⟩
  · refine .inr ⟨fun h => hfits h.1, ?_⟩
    by_cases hnat : 0 ≤ capacity.toInt
    · exact ⟨.insufficientBufferSize, nofun,
        run_copyCall_of_short hfound hS caller m out hnat (Int.not_le.1 hfits)⟩
    · exact ⟨.invalidArgument, nofun, run_copyCall_of_negative hfound hS caller m out (Int.not_le.1 hnat)⟩

theorem copyCall_success_iff (caller : ScriptId) (m : μ) (out : Pointer) (capacity : Int32) :
    ((k.copyCall d out capacity).run caller m s).status = .success ↔
      (S.utf8ByteSize : Int) ≤ capacity.toInt ∧ out.toNat + S.utf8ByteSize ≤ LinearMemory.size m := by
  rcases copyCall_cases hfound hS caller m out capacity with hroom | ⟨hno, status, hstatus, hrun⟩
  · exact ⟨fun _ => hroom, fun _ => (writes_copyCall hfound hS caller hroom.1 hroom.2).status⟩
  · rw [hrun]
    exact ⟨fun h => absurd h hstatus, fun h => absurd h hno⟩

theorem copyCall_of_failure (caller : ScriptId) (m : μ) (out : Pointer) (capacity : Int32)
    (h : ((k.copyCall d out capacity).run caller m s).status ≠ .success) :
    ((k.copyCall d out capacity).run caller m s).memory = m ∧
      ((k.copyCall d out capacity).run caller m s).session = s := by
  rcases copyCall_cases hfound hS caller m out capacity with hroom | ⟨-, status, -, hrun⟩
  · exact absurd (writes_copyCall hfound hS caller hroom.1 hroom.2).status h
  · rw [hrun]
    exact ⟨rfl, rfl⟩

end Delivery

end ElementString

open ElementString in
/-- **Strings are delivered whole.** Whatever string of an element guests ask for, the length call tells its length, and the
copy succeeds just if the guest makes room for all of it; what it then gets is all of it. -/
theorem strings_delivered {μ : Type} [LinearMemory μ] [ExactMemory μ] {σ : Type} [SceneBackend σ] {s : Session σ}
    {d : Int32} {node : NodeId} {e : Element} (hfound : s.resolve d = some (node, e)) {k : ElementString} {S : String}
    (hS : k.of? e = some S) (hlimit : S.utf8ByteSize < signedLimit) : k.Delivers μ s d S where
  told caller _ _ hroom :=
    have hwrites := writes_lengthCall hfound hS hlimit caller hroom
    ⟨_, Int32.toInt_ofNat_of_lt hlimit, hwrites, hwrites.readValue_eq⟩
  success_iff := copyCall_success_iff hfound hS
  whole caller m out capacity hsuccess :=
    have hroom := (copyCall_success_iff hfound hS caller m out capacity).1 hsuccess
    writes_copyCall hfound hS caller hroom.1 hroom.2
  refused := copyCall_of_failure hfound hS
  short caller m out _ := run_copyCall_of_short hfound hS caller m out
  trip caller m out length hroom hlength caller' m' buffer hbuffer := by
    have htold := (writes_lengthCall hfound hS hlimit caller hroom).readValue_eq
    obtain rfl : Int32.ofNat S.utf8ByteSize = length := Except.ok.inj (htold.symm.trans hlength)
    have hexact : (Int32.ofNat S.utf8ByteSize).toInt = S.utf8ByteSize := Int32.toInt_ofNat_of_lt hlimit
    rw [hexact, Int.toNat_natCast] at hbuffer
    exact writes_copyCall hfound hS caller' (Int.le_of_eq hexact.symm) hbuffer

/-- an element with an id of three characters in four bytes and with the empty text, under the descriptor 10 -/
def towerSession : Session SceneStore := (Session.add { scene := .empty } { id := some "Tür", data := .text {} }).2

/-- the id can be copied to the end of the memory, but not into a buffer that is one byte shorter, nor one byte further;
the empty text can be copied to the end, but not past it -/
theorem strings_delivered_at_end :
    let m : ByteMemory := ⟨filled 8 7⟩
    let copied (k : ElementString) (out : Pointer) (capacity : Int32) :=
      (k.copyCall 10 out capacity).run ⟨0⟩ m towerSession
    readBytes (copied .id 4 4).memory 4 4 = .ok "Tür".toUTF8 ∧ (copied .id 4 3).memory = m ∧
      (copied .id 5 4).status ≠ .success ∧ (copied .text 8 0).status = .success ∧
      (copied .text 9 0).status ≠ .success := by
  intro m copied
  have hsize : LinearMemory.size m = 8 := by decide +kernel
  have hfound : towerSession.resolve 10 = some (⟨0⟩, { id := some "Tür", data := .text {} }) := by decide +kernel
  have hid : ElementString.id.Delivers ByteMemory towerSession 10 "Tür" :=
    strings_delivered hfound rfl (by decide +kernel)
  have htext : ElementString.text.Delivers ByteMemory towerSession 10 "" :=
    strings_delivered hfound rfl (by decide +kernel)
  have hlength : "Tür".utf8ByteSize = 4 := by decide +kernel
  refine ⟨?_, ?_, ?_, ?_, ?_⟩
  · have hsuccess := (hid.success_iff ⟨0⟩ m 4 4).2 ⟨by rw [hlength]; decide, by rw [hlength, hsize]; decide⟩
    exact hlength ▸ (hid.whole ⟨0⟩ m 4 4 hsuccess).read
  · exact congrArg SceneOutcome.memory (hid.short ⟨0⟩ m 4 3 (by decide) (by rw [hlength]; decide))
  · intro hsuccess
    have hroom := ((hid.success_iff ⟨0⟩ m 5 4).1 hsuccess).2
    rw [hlength, hsize] at hroom
    exact absurd hroom (by decide)
  · exact (htext.success_iff ⟨0⟩ m 8 0).2 ⟨by decide, by rw [hsize]; decide⟩
  · intro hsuccess
    have hroom := ((htext.success_iff ⟨0⟩ m 9 0).1 hsuccess).2
    rw [hsize] at hroom
    exact absurd hroom (by decide)

end ScriptHost
