/-
Any bytes read as text. `Reads` is the rule: a character's encoding is that character, and where no encoding stands, the
longest bytes with which some encoding begins, or else one byte, are one U+FFFD. The rule leaves no choice (`Reads.eq`), and
the reader follows it byte by byte (`Reader.passes_next`): the bytes of the encoding that it stands in are pending, and what
it has written is the reading of the bytes before them.

- `reads_decodeLossy`: `decodeLossy` follows the rule, whatever the bytes are.
- `Reads.length_le`: the text has at most three times as many bytes.
- `holds_decodeLossy`: so any bytes hold just one text.
-/
import ScriptHost.Proofs.Text.Encoding

namespace ScriptHost.Text

/-! ## The rule -/

/-- some encoding begins with the bytes -/
def Starts (bytes : List UInt8) : Prop := ∃ c, bytes <+: String.utf8EncodeChar c

/-- bytes that are no text, with those behind them: no encoding stands there, and the part is as long as can be of those that
start an encoding or are one byte -/
structure IllFormed (part rest : List UInt8) : Prop where
  starts : Starts part ∨ part.length = 1
  nonempty : part ≠ []
  noEncoding : ∀ c, ¬ String.utf8EncodeChar c <+: part ++ rest
  longest : ∀ longer, longer <+: part ++ rest → Starts longer ∨ longer.length = 1 → longer.length ≤ part.length

/-- bytes and the characters that they are read as -/
inductive Reads : List UInt8 → List Char → Prop where
  | nil : Reads [] []
  | char (c : Char) {rest : List UInt8} {text : List Char} (h : Reads rest text) :
      Reads (String.utf8EncodeChar c ++ rest) (c :: text)
  | illFormed {part rest : List UInt8} {text : List Char} (hpart : IllFormed part rest) (h : Reads rest text) :
      Reads (part ++ rest) (replacement :: text)

/-- only one ill-formed part can stand somewhere -/
theorem IllFormed.inj {part rest part' rest' : List UInt8} (h : IllFormed part rest) (h' : IllFormed part' rest')
    (heq : part ++ rest = part' ++ rest') : part = part' ∧ rest = rest' := by
  have hle : part.length ≤ part'.length := h'.longest part (heq ▸ List.prefix_append ..) h.starts
  have hge : part'.length ≤ part.length := h.longest part' (heq ▸ List.prefix_append ..) h'.starts
  exact List.append_inj heq (Nat.le_antisymm hle hge)

/-- only one encoding can stand somewhere -/
theorem utf8EncodeChar_append_inj {c c' : Char} {rest rest' : List UInt8}
    (heq : String.utf8EncodeChar c ++ rest = String.utf8EncodeChar c' ++ rest') : c = c' ∧ rest = rest' := by
  have hc : c = c' := by
    have hprefix : String.utf8EncodeChar c <+: String.utf8EncodeChar c' ++ rest' := heq ▸ List.prefix_append ..
    rcases Nat.le_total (String.utf8EncodeChar c).length (String.utf8EncodeChar c').length with hle | hle
    · exact eq_of_prefix_encoding (List.prefix_of_prefix_length_le hprefix (List.prefix_append ..) hle)
    · exact (eq_of_prefix_encoding (List.prefix_of_prefix_length_le (List.prefix_append ..) hprefix hle)).symm
  subst hc
  exact ⟨rfl, List.append_cancel_left heq⟩

/-- bytes can be read in one way only -/
theorem Reads.eq {bytes : List UInt8} {text text' : List Char} (h : Reads bytes text) (h' : Reads bytes text') :
    text = text' := by
  induction h generalizing text' with
  | nil =>
    generalize hbytes : ([] : List UInt8) = bytes at h'
    cases h' with
    | nil => rfl
    | char c => exact absurd (List.append_eq_nil_iff.1 hbytes.symm).1 String.utf8EncodeChar_ne_nil
    | illFormed hpart => exact absurd (List.append_eq_nil_iff.1 hbytes.symm).1 hpart.nonempty
  | @char c rest text _ ih =>
    generalize hbytes : String.utf8EncodeChar c ++ rest = bytes at h'
    cases h' with
    | nil => exact absurd (List.append_eq_nil_iff.1 hbytes).1 String.utf8EncodeChar_ne_nil
    | char c' hrest =>
      obtain ⟨rfl, rfl⟩ := utf8EncodeChar_append_inj hbytes
      rw [ih hrest]
    | illFormed hpart => exact absurd (hbytes ▸ List.prefix_append ..) (hpart.noEncoding c)
  | @illFormed part rest text hpart _ ih =>
    generalize hbytes : part ++ rest = bytes at h'
    cases h' with
    | nil => exact absurd (List.append_eq_nil_iff.1 hbytes).1 hpart.nonempty
    | char c => exact absurd (hbytes ▸ List.prefix_append ..) (hpart.noEncoding c)
    | illFormed hpart' hrest =>
      obtain ⟨rfl, rfl⟩ := hpart.inj hpart' hbytes
      rw [ih hrest]

/-! ## Ill-formed parts -/

/-- a longer beginning of some bytes goes on with the byte that follows -/
theorem head?_of_longer {part rest longer : List UInt8} (h : longer <+: part ++ rest) (hlen : part.length < longer.length) :
    ∃ b, rest.head? = some b ∧ part ++ [b] <+: longer := by
  obtain ⟨more, rfl⟩ := List.prefix_of_prefix_length_le (List.prefix_append part rest) h (Nat.le_of_lt hlen)
  rw [List.prefix_append_right_inj] at h
  cases more with
  | nil => exact absurd hlen (by rw [List.append_nil]; exact Nat.lt_irrefl _)
  | cons b more =>
    obtain ⟨rest', rfl⟩ := h
    exact ⟨b, rfl, by rw [List.prefix_append_right_inj]; exact ⟨more, rfl⟩⟩

/-- bytes in the middle of an encoding are an ill-formed part where no encoding goes on with the next byte -/
theorem IllFormed.of_begun {state : State} {bits : Nat} {part rest : List UInt8} (h : Begun state bits part)
    (hpart : part ≠ []) (hstop : ∀ b, rest.head? = some b → ¬ state.accepts b) : IllFormed part rest := by
  have hlongest : ∀ longer, longer <+: part ++ rest → Starts longer → longer.length ≤ part.length := by
    rintro longer hlonger ⟨c, hc⟩
    refine Nat.le_of_not_lt fun hlen => ?_
    obtain ⟨b, hb, hnext⟩ := head?_of_longer hlonger hlen
    exact hstop b hb (h.accepts_iff.2 ⟨c, hnext.trans hc⟩)
  obtain ⟨c, hc, hlen⟩ := h.exists_encoding
  refine ⟨.inl ⟨c, hc⟩, hpart, fun c' hc' => ?_, fun longer hlonger hstarts => ?_⟩
  · -- an encoding that stands there is within the part, so it begins the longer encoding of `c`
    have hle := hlongest _ hc' ⟨c', List.prefix_refl _⟩
    have hwithin := List.prefix_of_prefix_length_le hc' (List.prefix_append ..) hle
    obtain rfl := eq_of_prefix_encoding (hwithin.trans hc)
    omega
  · rcases hstarts with hstarts | hone
    · exact hlongest longer hlonger hstarts
    · rw [hone]
      exact List.length_pos_iff.2 hpart

/-- a byte with which no encoding begins is an ill-formed part -/
theorem IllFormed.of_lead {b : UInt8} (h : ∀ c, ¬ [b] <+: String.utf8EncodeChar c) (rest : List UInt8) :
    IllFormed [b] rest := by
  have hfirst {bytes : List UInt8} (hbytes : bytes <+: b :: rest) (hne : bytes ≠ []) : [b] <+: bytes := by
    obtain ⟨b', more, rfl⟩ := List.exists_cons_of_ne_nil hne
    obtain ⟨rfl, -⟩ := List.cons_prefix_cons.1 hbytes
    exact ⟨more, rfl⟩
  refine ⟨.inr rfl, List.cons_ne_nil _ _, fun c hc => h c (hfirst hc String.utf8EncodeChar_ne_nil), ?_⟩
  intro longer hlonger hstarts
  rcases hstarts with ⟨c, hc⟩ | hone
  · cases longer with
    | nil => exact Nat.zero_le _
    | cons b' more => exact absurd ((hfirst hlonger (List.cons_ne_nil _ _)).trans hc) (h c)
  · exact Nat.le_of_eq hone

/-! ## The reader -/

namespace Reader

/-- the bytes that are pending: those of the encoding that the reader stands in -/
def Holds (r : Reader) (pending : List UInt8) : Prop :=
  (r.state = .ground ∧ pending = []) ∨ (pending ≠ [] ∧ Begun r.state r.bits.toNat pending)

/-- behind the text `start` the reader took some bytes and wrote `out`: what is read before the pending bytes is `out` -/
structure Passes (start : String) (r : Reader) (bytes pending : List UInt8) (out : List Char) : Prop where
  text_eq : r.text.toList = start.toList ++ out
  holds : r.Holds pending
  reads : ∀ {rest tail}, Reads (pending ++ rest) tail → Reads (bytes ++ rest) (out ++ tail)

theorem Passes.trans {start : String} {r r' : Reader} {bytes pending bytes' pending' : List UInt8} {out out' : List Char}
    (h : Passes start r bytes pending out) (h' : Passes r.text r' (pending ++ bytes') pending' out') :
    Passes start r' (bytes ++ bytes') pending' (out ++ out') where
  text_eq := by rw [h'.text_eq, h.text_eq, List.append_assoc]
  holds := h'.holds
  reads hreads := by
    rw [List.append_assoc, List.append_assoc]
    refine h.reads ?_
    rw [← List.append_assoc]
    exact h'.reads hreads

/-- between two encodings -/
theorem passes_lead (text : String) (b : UInt8) : ∃ pending out, Passes text (lead text b) [b] pending out := by
  unfold lead
  split
  · -- a character of one byte
    rename_i hb
    have hsingle := utf8EncodeChar_ofNat_of_lt (b := b) hb
    refine ⟨[], [Char.ofNat b.toNat], by rw [String.toList_push], .inl ⟨rfl, rfl⟩, fun hreads => ?_⟩
    rw [← hsingle]
    exact .char _ hreads
  · rename_i hb
    split
    · -- no encoding begins with the byte
      rename_i hground
      have hpart := IllFormed.of_lead (no_encoding_of_lead (UInt8.not_lt.1 hb) hground)
      exact ⟨[], [replacement], by rw [String.toList_push], .inl ⟨rfl, rfl⟩, .illFormed (hpart _)⟩
    · rename_i hstate
      exact ⟨[b], [], by rw [List.append_nil], .inr ⟨List.cons_ne_nil _ _, .of_lead hstate⟩, id⟩

theorem toNat_bits {bits : UInt32} {b : UInt8} (h : 64 * bits.toNat + b.toNat % 64 < 0x110000) :
    (64 * bits + (b &&& 0x3F).toUInt32).toNat = 64 * bits.toNat + b.toNat % 64 := by
  have hlow : (b &&& 0x3F).toUInt32.toNat = b.toNat % 64 := by
    rw [UInt8.toNat_toUInt32, UInt8.toNat_and]
    exact Nat.and_two_pow_sub_one_eq_mod b.toNat 6
  rw [UInt32.toNat_add, UInt32.toNat_mul, hlow, show (64 : UInt32).toNat = 64 from rfl]
  omega

/-- one byte -/
theorem passes_next {r : Reader} {pending : List UInt8} (h : r.Holds pending) (b : UInt8) :
    ∃ pending' out, Passes r.text (r.next b) (pending ++ [b]) pending' out := by
  unfold next
  rcases h with ⟨hground, rfl⟩ | ⟨hne, h⟩
  · rw [if_pos hground]
    exact passes_lead r.text b
  rw [if_neg h.state_ne_ground]
  split
  · -- the encoding goes on
    rename_i haccepts
    obtain ⟨hlt, hnext⟩ := h.next haccepts
    have hbits := toNat_bits hlt
    split
    · rename_i hground
      rcases hnext with ⟨-, hencoding⟩ | hbegun
      · refine ⟨[], [Char.ofNat (64 * r.bits.toNat + b.toNat % 64)], ?_, .inl ⟨rfl, rfl⟩, fun hreads => ?_⟩
        · rw [String.toList_push, hbits]
        · rw [← hencoding]
          exact .char _ hreads
      · exact absurd hground hbegun.state_ne_ground
    · rename_i hstate
      rcases hnext with ⟨hground, -⟩ | hbegun
      · exact absurd hground hstate
      · refine ⟨pending ++ [b], [], by rw [List.append_nil], .inr ⟨by simp, ?_⟩, id⟩
        rw [hbits]
        exact hbegun
  · -- the encoding is cut short, and the byte is read afresh
    rename_i hrejects
    obtain ⟨pending', out, hlead⟩ := passes_lead (r.text.push replacement) b
    refine ⟨pending', replacement :: out, ?_, hlead.holds, fun {rest tail} hreads => ?_⟩
    · rw [hlead.text_eq, String.toList_push, List.append_assoc, List.singleton_append]
    · rw [List.append_assoc]
      refine .illFormed (.of_begun h hne fun b' hb' => ?_) (hlead.reads hreads)
      obtain rfl : b = b' := Option.some.inj hb'
      exact hrejects

/-- any number of bytes -/
theorem passes_foldl (bytes : List UInt8) {r : Reader} {pending : List UInt8} (h : r.Holds pending) :
    ∃ pending' out, Passes r.text (bytes.foldl next r) (pending ++ bytes) pending' out := by
  induction bytes generalizing r pending with
  | nil =>
    rw [List.append_nil]
    exact ⟨pending, [], (List.append_nil _).symm, h, id⟩
  | cons b rest ih =>
    obtain ⟨mid, out, hnext⟩ := passes_next h b
    obtain ⟨pending', out', hrest⟩ := ih hnext.holds
    have hpasses := hnext.trans hrest
    rw [List.append_assoc] at hpasses
    exact ⟨pending', out ++ out', hpasses⟩

/-- the end of the input -/
theorem reads_finish {r : Reader} {pending : List UInt8} (h : r.Holds pending) :
    ∃ text, r.finish.toList = r.text.toList ++ text ∧ Reads pending text := by
  unfold finish
  rcases h with ⟨hground, rfl⟩ | ⟨hne, h⟩
  · exact ⟨[], by rw [if_pos hground, List.append_nil], .nil⟩
  · have hpart : IllFormed pending [] := .of_begun h hne nofun
    refine ⟨[replacement], by rw [if_neg h.state_ne_ground, String.toList_push], ?_⟩
    rw [← List.append_nil pending]
    exact .illFormed hpart .nil

theorem readAll_eq (bytes : ByteArray) : readAll bytes = bytes.data.toList.foldl next {} := by
  have hlist : (List.finRange bytes.size).map (fun i => bytes[i]) = bytes.data.toList := by
    refine List.ext_getElem (by rw [List.length_map, List.length_finRange]; rfl) fun i hi hi' => ?_
    rw [List.getElem_map, List.getElem_finRange, Array.getElem_toList]
    rfl
  rw [readAll, Nat.fold_eq_finRange_foldl, ← hlist, List.foldl_map]
  rfl

theorem reads_readAll (bytes : ByteArray) : Reads bytes.data.toList (readAll bytes).finish.toList := by
  have hstart : Holds {} [] := .inl ⟨rfl, rfl⟩
  obtain ⟨pending, out, hpasses⟩ := passes_foldl bytes.data.toList hstart
  rw [← readAll_eq, List.nil_append] at hpasses
  obtain ⟨tail, hfinish, htail⟩ := reads_finish hpasses.holds
  have hout : (readAll bytes).text.toList = out := hpasses.text_eq
  rw [hfinish, hout, ← List.append_nil bytes.data.toList]
  refine hpasses.reads ?_
  rwa [List.append_nil]

end Reader

/-! ## Decoding -/

theorem utf8_eq_flatMap (text : String) : utf8 text = text.toList.flatMap String.utf8EncodeChar := by
  have hencode : text.toUTF8 = text.toList.utf8Encode := String.utf8Encode_toList.symm
  rw [utf8, hencode, List.utf8Encode, List.data_toByteArray]

/-- the bytes of a text are read as that text -/
theorem reads_utf8 (text : String) : Reads (utf8 text) text.toList := by
  rw [utf8_eq_flatMap]
  induction text.toList with
  | nil => exact .nil
  | cons c rest ih =>
    rw [List.flatMap_cons]
    exact .char c ih

theorem eq_toUTF8_of_fromUTF8? {bytes : ByteArray} {text : String} (h : String.fromUTF8? bytes = some text) :
    bytes = text.toUTF8 := by
  unfold String.fromUTF8? at h
  split at h
  · exact congrArg String.toByteArray (Option.some.inj h)
  · exact nomatch h

/-- decoding follows the rule -/
theorem reads_decodeLossy (bytes : ByteArray) : Reads bytes.data.toList (decodeLossy bytes).toList := by
  unfold decodeLossy
  split
  · rename_i text htext
    rw [eq_toUTF8_of_fromUTF8? htext]
    exact reads_utf8 text
  · exact Reader.reads_readAll bytes

/-- what is read has at most three times as many bytes: U+FFFD has three, for one byte or more -/
theorem Reads.length_le {bytes : List UInt8} {text : List Char} (h : Reads bytes text) :
    (text.flatMap String.utf8EncodeChar).length ≤ 3 * bytes.length := by
  induction h with
  | nil => exact Nat.zero_le _
  | @char c rest text _ ih =>
    calc ((c :: text).flatMap String.utf8EncodeChar).length
        = (String.utf8EncodeChar c).length + (text.flatMap String.utf8EncodeChar).length := by
          rw [List.flatMap_cons, List.length_append]
      _ ≤ 3 * (String.utf8EncodeChar c).length + 3 * rest.length := by omega
      _ = 3 * (String.utf8EncodeChar c ++ rest).length := by rw [List.length_append, Nat.mul_add]
  | @illFormed part rest text hpart _ ih =>
    have hpos : 0 < part.length := List.length_pos_iff.2 hpart.nonempty
    calc ((replacement :: text).flatMap String.utf8EncodeChar).length
        = 3 + (text.flatMap String.utf8EncodeChar).length := by
          rw [List.flatMap_cons, List.length_append]
          rfl
      _ ≤ 3 * part.length + 3 * rest.length := by omega
      _ = 3 * (part ++ rest).length := by rw [List.length_append, Nat.mul_add]

theorem toUTF8_decodeLossy {bytes : ByteArray} (h : bytes.IsValidUTF8) : (decodeLossy bytes).toUTF8 = bytes := by
  have hread : String.fromUTF8? bytes = some (String.fromUTF8 bytes h) := dif_pos h
  rw [decodeLossy, hread]
  rfl

/-- bytes hold a text: they are read as that text and as no other -/
structure Holds (bytes : ByteArray) (text : String) : Prop where
  reads : Reads bytes.data.toList text.toList
  only : ∀ other : String, Reads bytes.data.toList other.toList → other = text
  /-- the text has at most three times as many bytes -/
  size_le : text.utf8ByteSize ≤ 3 * bytes.size
  /-- where the bytes are UTF-8, they are those of the text -/
  same : bytes.IsValidUTF8 → text.toUTF8 = bytes

/-- **Lossy decoding.** Any bytes hold just one text: encodings are kept, and each ill-formed part is one U+FFFD. -/
theorem holds_decodeLossy (bytes : ByteArray) : Holds bytes (decodeLossy bytes) where
  reads := reads_decodeLossy bytes
  only _ h := String.toList_inj.1 (h.eq (reads_decodeLossy bytes))
  size_le := by
    have hle := (reads_decodeLossy bytes).length_le
    rwa [← utf8_eq_flatMap] at hle
  same := toUTF8_decodeLossy

/-- a sequence that breaks off before a letter, a byte that starts nothing, and a sequence cut short by the end -/
example : decodeLossy ⟨#[0xF0, 0x9F, 0x98, 0x41, 0xFF, 0xC3]⟩ = "\uFFFDA\uFFFD\uFFFD" := by decide +kernel

end ScriptHost.Text
