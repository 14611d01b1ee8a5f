/-
Values of a fixed layout, alone and in arrays. Enough bytes hold one value and are the encoding of that value (`Codes`). An
array is written as a whole: it is taken just where all of it lies inside the memory, its values are then found one behind
another, and the memory is what it would be if they had been written one at a time (`Packs`).

- `ByteMemory.copyIn_append`: bytes that are copied in at once could as well be copied in two parts.
- `writeEach_of_copyIn`: so could an array, value by value.
- `values_are_packed`: both, for all values that the host exchanges with guests.
-/
import ScriptHost.Proofs.Memory.Stands
import ScriptHost.Proofs.Memory.Store
import ScriptHost.Proofs.Wire.Faithful

namespace ScriptHost

open Wire

/-! ## Layouts -/

/-- bytes hold a value just if they are enough for one, and of a value nothing is lost or added -/
structure Codes (α : Type) [WireValue α] : Prop where
  decodes (bytes : List UInt8) : (decode? bytes : Option α).isSome ↔ wireSize α ≤ bytes.length
  value (v : α) (rest : List UInt8) : decode? (encode v ++ rest) = some v
  bytes {bytes : List UInt8} {v : α} : decode? bytes = some v → encode v = bytes.take (wireSize α)

section Layouts

variable {α : Type} [WireValue α]

theorem decode?_eq_some {bytes : List UInt8} {v : α} (h : decode? bytes = some v) :
    ∃ rest, take? bytes = some (v, rest) := by
  rw [decode?, Option.map_eq_some_iff] at h
  obtain ⟨⟨_, rest⟩, htaken, rfl⟩ := h
  exact ⟨rest, htaken⟩

theorem codes [LawfulWire α] [TotalWire α] [FaithfulWire α] : Codes α where
  decodes bytes := by
    constructor
    · intro h
      obtain ⟨v, hv⟩ := Option.isSome_iff_exists.1 h
      obtain ⟨rest, htaken⟩ := decode?_eq_some hv
      rw [← encode_append htaken, List.length_append, length_encode]
      exact Nat.le_add_right _ _
    · intro h
      exact Option.isSome_iff_exists.2 (exists_decode? h)
  value v rest := by
    rw [decode?, take?_encode]
    rfl
  bytes h := by
    obtain ⟨rest, htaken⟩ := decode?_eq_some h
    rw [← encode_append htaken, List.take_left' (length_encode _)]

end Layouts

/-! ## Arrays -/

/-- bytes that are copied in at once could as well be copied in two parts, the second behind the first -/
theorem ByteMemory.copyIn_append {m m' : ByteMemory} {offset : Nat} {first rest : ByteArray}
    (h : LinearMemory.copyIn m offset (first ++ rest) = some m') : ∃ between,
      LinearMemory.copyIn m offset first = some between ∧
        LinearMemory.copyIn between (offset + first.size) rest = some m' := by
  have hin := (ExactMemory.isSome_copyIn_iff m offset _).1 (Option.isSome_iff_exists.2 ⟨m', h⟩)
  rw [ByteArray.size_append] at hin
  obtain ⟨between, hbetween⟩ :=
    Option.isSome_iff_exists.1 ((ExactMemory.isSome_copyIn_iff m offset first).2 (by omega))
  have hsize : LinearMemory.size between = LinearMemory.size m := LawfulMemory.size_copyIn hbetween
  obtain ⟨last, hlast⟩ := Option.isSome_iff_exists.1
    ((ExactMemory.isSome_copyIn_iff between (offset + first.size) rest).2 (by omega))
  have hsame : last = m' := by
    refine ByteMemory.ext_byte ?_ ?_
    · rw [LawfulMemory.size_copyIn hlast, hsize, LawfulMemory.size_copyIn h]
    · intro i
      rw [HonestMemory.byte_copyIn hlast, HonestMemory.byte_copyIn hbetween, HonestMemory.byte_copyIn h,
        ByteArray.size_append, byteAt_append]
      by_cases hfirst : i < offset + first.size
      · rw [if_neg (by omega)]
        by_cases hstart : offset ≤ i
        · rw [if_pos (by omega), if_pos (by omega), if_pos (by omega)]
        · rw [if_neg (by omega), if_neg (by omega)]
      · by_cases hrest : i < offset + first.size + rest.size
        · rw [if_pos (by omega), if_pos (by omega), if_neg (by omega), Nat.sub_sub]
        · rw [if_neg (by omega), if_neg (by omega), if_neg (by omega)]
  exact ⟨between, hbetween, hsame ▸ hlast⟩

section Arrays

variable {α : Type} [WireValue α]

/-- writes values one at a time, each behind the one before it; an address that is no pointer ends the writing -/
def writeEach (m : ByteMemory) (address : Nat) : List α → ByteMemory × Except AccessError Unit
  | [] => (m, .ok ())
  | v :: rest =>
    match pointer address with
    | .ok p =>
      match writeValue m p v with
      | (m, .ok ()) => writeEach m (address + wireSize α) rest
      | (m, .error e) => (m, .error e)
    | .error e => (m, .error e)

theorem toByteArray_encodeAll_cons (v : α) (rest : List α) :
    (encodeAll (v :: rest)).toByteArray = (encode v).toByteArray ++ (encodeAll rest).toByteArray := by
  rw [encodeAll, List.flatMap_cons, List.toByteArray_append]
  rfl

theorem writeEach_of_copyIn {m m' : ByteMemory} {address : Nat} {vs : List α}
    (h : LinearMemory.copyIn m address (encodeAll vs).toByteArray = some m')
    (haddress : ∀ i, i < vs.length → address + wireSize α * i < wordLimit) :
    writeEach m address vs = (m', .ok ()) := by
  induction vs generalizing m address with
  | nil =>
    have hsame : m' = m := by
      refine ByteMemory.ext_byte (LawfulMemory.size_copyIn h) ?_
      intro i
      have hempty : (encodeAll ([] : List α)).toByteArray.size = 0 := rfl
      rw [HonestMemory.byte_copyIn h, if_neg (by omega)]
    rw [writeEach, hsame]
  | cons v rest ih =>
    rw [toByteArray_encodeAll_cons] at h
    obtain ⟨between, hv, hrest⟩ := ByteMemory.copyIn_append h
    have hsize : (encode v).toByteArray.size = wireSize α := by rw [List.size_toByteArray, length_encode]
    obtain ⟨p, hp, hpaddress⟩ := pointer_of_lt address (haddress 0 (Nat.succ_pos _))
    have hwrite : writeValue m p v = (between, .ok ()) := by
      have hin := (ExactMemory.isSome_copyIn_iff m address _).1 (Option.isSome_iff_exists.2 ⟨between, hv⟩)
      rw [← hpaddress] at hv hin
      exact writeBytes_eq_ok_iff.2 ⟨hin, hv⟩
    have hothers : ∀ i, i < rest.length → address + wireSize α + wireSize α * i < wordLimit := by
      intro i hi
      have hnext := haddress (i + 1) (Nat.succ_lt_succ hi)
      rwa [Nat.mul_succ, Nat.add_comm (wireSize α * i), ← Nat.add_assoc] at hnext
    rw [hsize] at hrest
    simp only [writeEach, hp, hwrite]
    exact ih hrest hothers

variable (α) in
/-- values are written whole and read back, and arrays are their values one behind another -/
structure Packs (m : ByteMemory) : Prop where
  /-- a value is written just where all of it lies inside the memory; otherwise nothing is changed -/
  value (p : Pointer) (v : α) :
    (p.toNat + wireSize α ≤ LinearMemory.size m ∧ ∃ m', writeValue m p v = (m', .ok ()) ∧
        readValue m' p = .ok v) ∨
      (LinearMemory.size m < p.toNat + wireSize α ∧ writeValue m p v = (m, .error .outOfBounds))
  /-- so is an array, however many of its values would lie inside; its values are then where they are looked for, and they
  could as well have been written one at a time, as long as pointers lead to them -/
  array (p : Pointer) (vs : List α) :
    (p.toNat + wireSize α * vs.length ≤ LinearMemory.size m ∧ ∃ m', writeArray m p vs = (m', .ok ()) ∧
        (∀ i (hi : i < vs.length) (q : Pointer), q.toNat = p.toNat + wireSize α * i → readValue m' q = .ok vs[i]) ∧
        ((∀ i, i < vs.length → p.toNat + wireSize α * i < wordLimit) →
          writeEach m p.toNat vs = (m', .ok ()))) ∨
      (LinearMemory.size m < p.toNat + wireSize α * vs.length ∧
        writeArray m p vs = (m, .error .outOfBounds))

theorem packs [LawfulWire α] (m : ByteMemory) : Packs α m where
  value p v := by
    have hsize : (encode v).toByteArray.size = wireSize α := by rw [List.size_toByteArray, length_encode]
    rw [writeValue, ← hsize]
    rcases writeBytes_cases m p (encode v).toByteArray with ⟨hin, m', hm'⟩ | ⟨hout, hrefused⟩
    · have hread := readBytes_writeBytes hm'
      rw [hsize] at hread
      exact .inl ⟨hin, m', hm', readValue_of_readBytes hread⟩
    · exact .inr ⟨hout, hrefused⟩
  array p vs := by
    have hsize : (encodeAll vs).toByteArray.size = wireSize α * vs.length := by
      rw [List.size_toByteArray, length_encodeAll]
    rw [writeArray, ← hsize]
    rcases writeBytes_cases m p (encodeAll vs).toByteArray with ⟨hin, m', hm'⟩ | ⟨hout, hrefused⟩
    · refine .inl ⟨hin, m', hm', ?_, writeEach_of_copyIn (writeBytes_eq_ok_iff.1 hm').2⟩
      intro i hi q hq
      have harray := stands_of_readBytes (readBytes_writeBytes hm')
      rw [List.toList_data_toByteArray] at harray
      have hvalue := stands_of_encodeAll harray i hi
      rw [← hq] at hvalue
      refine readValue_of_stands hvalue ?_
      have hroom : wireSize α * i + wireSize α ≤ wireSize α * vs.length := Nat.mul_le_mul_left _ hi
      rw [size_writeBytes hm']
      omega
    · exact .inr ⟨hout, hrefused⟩

end Arrays

/-- what is exchanged with guests: its bytes say it, alone and in arrays -/
structure Exchanged (α : Type) [WireValue α] : Prop where
  codes : Codes α
  packs (m : ByteMemory) : Packs α m

/-- **Values come back, and arrays are packed.** Whatever bit patterns the numbers of a vector, a rotation or a colour have,
and whatever descriptor and code a record holds: the value is what its bytes say, and an array in memory is its values one
behind another, written as a whole or not at all. -/
theorem values_are_packed : Exchanged Vec3 ∧ Exchanged Quaternion ∧ Exchanged Rgba ∧ Exchanged ElementRecord :=
  ⟨⟨codes, packs⟩, ⟨codes, packs⟩, ⟨codes, packs⟩, ⟨codes, packs⟩⟩

end ScriptHost
