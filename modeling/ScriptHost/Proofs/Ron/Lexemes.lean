/-
Names, strings and characters in a RON text. For each it is said which texts write it, and that its reader reads any of them,
whatever comes next. A name ends only at the edge of what comes next; a string and a character bring their own ends with them.

- `name?_named`, `string?_literal`, `char?_literal`: the readers.
- `stringLiteral_quoted`, `stringLiteral_raw`: every text can be written as a string, in quotes and raw.
-/
import ScriptHost.Proofs.Ron.Gaps
import ScriptHost.Ron.Reading

namespace ScriptHost.Ron

variable {c edge : Char} {text rest tail : List Char}

/-! ## Edges -/

theorem takeWhile_edge {p : Char → Bool} (h : p edge = false) (text rest : List Char) :
    (text ++ edge :: rest).takeWhile p = text.takeWhile p := by
  induction text with
  | nil => simp [h]
  | cons c text ih => simp only [List.cons_append, List.takeWhile_cons, ih]

theorem dropWhile_edge {p : Char → Bool} (h : p edge = false) (text rest : List Char) :
    (text ++ edge :: rest).dropWhile p = text.dropWhile p ++ edge :: rest := by
  induction text with
  | nil => simp [h]
  | cons c text ih =>
    simp only [List.cons_append, List.dropWhile_cons, ih]
    split <;> rfl

theorem takeWhile_all {p : Char → Bool} (hall : ∀ d ∈ text, p d) (h : p edge = false) (rest : List Char) :
    (text ++ edge :: rest).takeWhile p = text := by
  rw [List.takeWhile_append_of_pos hall, List.takeWhile_cons_of_neg (by simp [h]), List.append_nil]

theorem dropWhile_all {p : Char → Bool} (hall : ∀ d ∈ text, p d) (h : p edge = false) (rest : List Char) :
    (text ++ edge :: rest).dropWhile p = edge :: rest := by
  rw [List.dropWhile_append_of_pos hall, List.dropWhile_cons_of_neg (by simp [h])]

/-! ## Names -/

/-- a text that writes a name, as it is or raw -/
inductive Named : String → List Char → Prop where
  | plain {c : Char} {text : List Char} (hstart : isNameStart c) (h : ∀ d ∈ text, isNameChar d) :
    Named (String.ofList (c :: text)) (c :: text)
  | raw {text : List Char} (hne : text ≠ []) (h : ∀ d ∈ text, isRawNameChar d) :
    Named (String.ofList text) ('r' :: '#' :: text)

theorem isNameChar_of_isNameStart (h : isNameStart c) : isNameChar c := by
  rw [isNameChar, h, Bool.true_or]

theorem isRawNameChar_of_isNameChar (h : isNameChar c) : isRawNameChar c := by
  rw [isRawNameChar, h, Bool.true_or, Bool.true_or, Bool.true_or]

/-- a name that is not written raw is not taken for a raw one -/
theorem name?_plain {cs : List Char} (hquote : c = 'r' → cs.head? ≠ some '"') (hraw : c = 'r' → cs.head? ≠ some '#')
    (hlast : c = 'r' → cs ≠ []) : name? (c :: cs) =
    if isNameStart c && ((c :: cs).takeWhile isNameChar).length = ((c :: cs).takeWhile isRawNameChar).length then
      some (String.ofList ((c :: cs).takeWhile isNameChar), (c :: cs).dropWhile isNameChar)
    else none := by
  refine name?.eq_5 c cs (fun tail hc hcs => ?_) hlast (fun tail hc hcs => ?_)
  · exact hquote hc (by rw [hcs]; rfl)
  · exact hraw hc (by rw [hcs]; rfl)

theorem name?_of_not_start (h : isNameStart c = false) (rest : List Char) : name? (c :: rest) = none := by
  have hr : c ≠ 'r' := by
    rintro rfl
    cases h
  rw [name?_plain (fun hc => absurd hc hr) (fun hc => absurd hc hr) (fun hc => absurd hc hr), h]
  rfl

/-- a name is read up to its edge -/
theorem name?_named {name : String} (h : Named name text) (hedge : edge ∈ edges) (rest : List Char) :
    name? (text ++ edge :: rest) = some (name, edge :: rest) := by
  have hraw : isRawNameChar edge = false := false_of_mem (by decide) hedge
  have hplain : isNameChar edge = false := false_of_mem (by decide) hedge
  cases h with
  | @plain c text hstart h =>
    have hall : ∀ d ∈ c :: text, isNameChar d := List.forall_mem_cons.2 ⟨isNameChar_of_isNameStart hstart, h⟩
    have hallRaw : ∀ d ∈ c :: text, isRawNameChar d := fun d hd => isRawNameChar_of_isNameChar (hall d hd)
    have hnext (d : Char) (hd : d ∉ edges) (hdname : isNameChar d = false) :
        (text ++ edge :: rest).head? ≠ some d := by
      cases text with
      | nil => exact fun heq => hd (Option.some.inj heq ▸ hedge)
      | cons e text =>
        rintro heq
        have he := h e List.mem_cons_self
        rw [Option.some.inj heq, hdname] at he
        cases he
    have hcons : c :: (text ++ edge :: rest) = (c :: text) ++ edge :: rest := rfl
    rw [List.cons_append, name?_plain (fun _ => hnext '"' (by decide) (by decide))
      (fun _ => hnext '#' (by decide) (by decide)) (fun _ => by simp), hcons, takeWhile_all hall hplain,
      takeWhile_all hallRaw hraw, dropWhile_all hall hplain, hstart]
    simp
  | @raw text hne h =>
    have hempty : text.isEmpty = false := by simpa using hne
    simp only [List.cons_append, name?, takeWhile_all h hraw, dropWhile_all h hraw, hempty]
    rfl

/-! ## Words -/

theorem stripWord_eq_some {word left : List Char} : stripWord word text = some left ↔ text = word ++ left := by
  induction word generalizing text with
  | nil => simp [stripWord]
  | cons d word ih =>
    cases text with
    | nil => simp [stripWord]
    | cons c text =>
      rw [stripWord, Option.ite_none_right_eq_some, ih, List.cons_append, List.cons.injEq, eq_comm (a := d)]

/-- a word does not go on over an edge -/
theorem stripWord_edge {word : List Char} (hword : ∀ d ∈ word, isNameChar d) (h : isNameChar edge = false)
    (text rest : List Char) : stripWord word (text ++ edge :: rest) = (stripWord word text).map (· ++ edge :: rest) := by
  induction word generalizing text with
  | nil => rfl
  | cons d word ih =>
    cases text with
    | nil =>
      have hne : d ≠ edge := by
        rintro rfl
        rw [hword d List.mem_cons_self] at h
        cases h
      rw [List.nil_append, stripWord, if_neg hne]
      rfl
    | cons c text =>
      rw [List.cons_append, stripWord, stripWord, ih fun e he => hword e (List.mem_cons_of_mem d he)]
      split <;> rfl

/-- a text of name characters is one word at most -/
theorem word?_name (word : String) (h : ∀ d ∈ text, isNameChar d) (hword : word.toList.all isNameChar)
    (hedge : edge ∈ edges) (rest : List Char) :
    word? word (text ++ edge :: rest) = if text = word.toList then some (edge :: rest) else none := by
  have hplain : isNameChar edge = false := false_of_mem (by decide) hedge
  rw [word?, stripWord_edge (List.all_eq_true.1 hword) hplain]
  cases hstrip : stripWord word.toList text with
  | none =>
    rw [if_neg]
    · rfl
    · rintro rfl
      rw [stripWord_eq_some.2 (List.append_nil _).symm] at hstrip
      cases hstrip
  | some left =>
    rw [stripWord_eq_some] at hstrip
    cases left with
    | nil =>
      rw [hstrip, List.append_nil, if_pos rfl]
      simp [hplain]
    | cons d left =>
      have hd : isNameChar d := h d (by rw [hstrip]; simp)
      rw [if_neg (by rw [hstrip]; simp)]
      simp [hd]

/-- a word that begins with another character does not stand there -/
theorem word?_cons (word : String) (h : word.toList.head? ≠ some c) (hne : word.toList ≠ []) (rest : List Char) :
    word? word (c :: rest) = none := by
  obtain ⟨d, ds, hword⟩ := List.exists_cons_of_ne_nil hne
  have hdc : d ≠ c := fun heq => h (by rw [hword, heq]; rfl)
  rw [word?, hword, stripWord, if_neg hdc]

/-! ## Escapes -/

/-- what can be written behind a backslash for a character -/
inductive Escaped : Char → List Char → Prop where
  | itself {c : Char} (h : c ∈ ['\'', '"', '\\']) : Escaped c [c]
  | newline : Escaped '\n' ['n']
  | carriageReturn : Escaped '\r' ['r']
  | tab : Escaped '\t' ['t']
  | null : Escaped '\x00' ['0']
  | byte {d e : Char} {high low : Nat} (hd : hexValue? d = some high) (he : hexValue? e = some low) :
    Escaped (Char.ofNat (16 * high + low)) ['x', d, e]
  | scalar {c : Char} {digits : List Char} {values : List Nat} (hdigits : digits.map hexValue? = values.map some)
      (hcount : 0 < digits.length ∧ digits.length ≤ 6)
      (hc : scalar? (values.foldl (fun value digit => 16 * value + digit) 0) = some c) :
    Escaped c ('u' :: '\x7b' :: (digits ++ ['\x7d']))

theorem escape?_scalar {digits : List Char} {values : List Nat} {value count : Nat}
    (hdigits : digits.map hexValue? = values.map some) (hcount : 0 < count + digits.length ∧ count + digits.length ≤ 6)
    (hc : scalar? (values.foldl (fun value digit => 16 * value + digit) value) = some c) (rest : List Char) :
    escape? (.scalar value count) (digits ++ '\x7d' :: rest) = some (c, rest) := by
  induction digits generalizing values value count with
  | nil =>
    have hvalues : values = [] := List.map_eq_nil_iff.1 hdigits.symm
    have hzero : count ≠ 0 := Nat.pos_iff_ne_zero.1 hcount.1
    rw [hvalues, List.foldl_nil] at hc
    simp [escape?, Escape.feed, hzero, hc]
  | cons d digits ih =>
    cases values with
    | nil => cases hdigits
    | cons v values =>
      obtain ⟨hd, hrest⟩ := List.cons.inj hdigits
      rw [List.length_cons] at hcount
      have hbrace : d ≠ '\x7d' := by
        rintro rfl
        cases hd
      have hroom : count ≠ 6 := by omega
      have hnext := ih hrest (show 0 < (count + 1) + digits.length ∧ (count + 1) + digits.length ≤ 6 by omega) hc
      simp [escape?, Escape.feed, hbrace, hroom, hd, hnext]

/-- an escape is read to its end -/
theorem escape?_escaped (h : Escaped c text) (rest : List Char) : escape? .start (text ++ rest) = some (c, rest) := by
  cases h with
  | itself h =>
    simp only [List.mem_cons, List.not_mem_nil, or_false] at h
    simp [escape?, Escape.feed, h, or_assoc]
  | newline | carriageReturn | tab | null => rfl
  | byte hd he => simp [escape?, Escape.feed, hd, he]
  | @scalar c digits values hdigits hcount hc =>
    have hread := escape?_scalar hdigits (show 0 < 0 + digits.length ∧ 0 + digits.length ≤ 6 by omega) hc rest
    simp [escape?, Escape.feed, hread]

/-! ## Strings and characters -/

/-- what can be written between double quotes for some characters -/
inductive Quoted : List Char → List Char → Prop where
  | nil : Quoted [] []
  | itself {c : Char} {chars text : List Char} (hquote : c ≠ '"') (hslash : c ≠ '\\') :
    Quoted chars text → Quoted (c :: chars) (c :: text)
  | escape {c : Char} {chars escaped text : List Char} (hescaped : Escaped c escaped) :
    Quoted chars text → Quoted (c :: chars) ('\\' :: (escaped ++ text))

/-- a text that writes a string, in double quotes or raw; a raw one ends at the first quote with enough hash marks -/
inductive StringLiteral : String → List Char → Prop where
  | quoted {s : String} {text : List Char} (h : Quoted s.toList text) : StringLiteral s ('"' :: (text ++ ['"']))
  | raw {s : String} (hashes : Nat) (h : ¬ '"' :: List.replicate hashes '#' <:+: s.toList) : StringLiteral s
    ('r' :: (List.replicate hashes '#' ++ '"' :: (s.toList ++ '"' :: List.replicate hashes '#')))

/-- a text that writes a character in single quotes -/
inductive CharLiteral : Char → List Char → Prop where
  | itself {c : Char} (hquote : c ≠ '\'') (hslash : c ≠ '\\') : CharLiteral c ['\'', c, '\'']
  | escape {c : Char} {escaped : List Char} (h : Escaped c escaped) : CharLiteral c ('\'' :: '\\' :: (escaped ++ ['\'']))

/-- in a string, an escape is read as by itself -/
theorem quotedRest_escape {escape : Escape} (h : escape? escape text = some (c, rest)) :
    quotedRest (some escape) text = (quotedRest none rest).map fun (chars, rest) => (c :: chars, rest) := by
  induction text generalizing escape with
  | nil => cases h
  | cons d text ih =>
    rw [escape?] at h
    rw [quotedRest]
    cases hfeed : escape.feed d with
    | none => simp [hfeed] at h
    | some next =>
      cases next with
      | inl escape' =>
        simp only [hfeed] at h
        simpa using ih h
      | inr c' =>
        simp only [hfeed, Option.some.injEq, Prod.mk.injEq] at h
        obtain ⟨rfl, rfl⟩ := h
        dsimp only
        cases quotedRest none text <;> rfl

theorem quotedRest_quoted {chars : List Char} (h : Quoted chars text) (rest : List Char) :
    quotedRest none (text ++ '"' :: rest) = some (chars, rest) := by
  induction h with
  | nil => simp [quotedRest]
  | @itself c chars text hquote hslash _ ih => simp [quotedRest, hquote, hslash, ih]
  | @escape c chars escaped text hescaped _ ih =>
    have hread := quotedRest_escape (escape?_escaped hescaped (text ++ '"' :: rest))
    rw [ih] at hread
    simpa [quotedRest] using hread

theorem hashes?_replicate (n : Nat) (rest : List Char) : hashes? n (List.replicate n '#' ++ rest) = some rest := by
  induction n with
  | zero => rfl
  | succ n ih => simpa [List.replicate_succ, hashes?] using ih

/-- hash marks that are read in front of a quote all stand in front of it -/
theorem prefix_of_hashes? {n : Nat} {chars : List Char} (h : hashes? n (chars ++ '"' :: tail) = some rest) :
    List.replicate n '#' <+: chars := by
  induction n generalizing chars with
  | zero => exact List.nil_prefix
  | succ n ih =>
    cases chars with
    | nil => simp [hashes?] at h
    | cons c chars =>
      rw [List.cons_append, hashes?] at h
      obtain ⟨rfl, h⟩ := Option.ite_none_right_eq_some.1 h
      rw [List.replicate_succ]
      exact (List.prefix_cons_inj _).2 (ih h)

theorem rawRest_raw {hashes : Nat} {chars : List Char} (h : ¬ '"' :: List.replicate hashes '#' <:+: chars)
    (rest : List Char) : rawRest hashes (chars ++ '"' :: (List.replicate hashes '#' ++ rest)) = some (chars, rest) := by
  induction chars with
  | nil => rw [List.nil_append, rawRest, rawEnd?, hashes?_replicate]
  | cons c chars ih =>
    have hlater : ¬ '"' :: List.replicate hashes '#' <:+: chars := fun hinfix => h (List.infix_cons hinfix)
    have hnotyet : rawEnd? hashes (c :: (chars ++ '"' :: (List.replicate hashes '#' ++ rest))) = none := by
      by_cases hc : c = '"'
      · rw [hc, rawEnd?, Option.eq_none_iff_forall_ne_some]
        intro left hread
        exact h (hc ▸ ((List.prefix_cons_inj _).2 (prefix_of_hashes? hread)).isInfix)
      · exact rawEnd?.eq_2 _ _ fun tail heq => hc (List.cons.inj heq).1
    rw [List.cons_append, rawRest, hnotyet]
    dsimp only
    rw [ih hlater]
    rfl

theorem string?_literal {s : String} (h : StringLiteral s text) (rest : List Char) :
    string? (text ++ rest) = some (s, rest) := by
  cases h with
  | quoted h =>
    have hread := quotedRest_quoted h rest
    simp [string?, hread]
  | raw hashes h =>
    have hmarks : ∀ d ∈ List.replicate hashes '#', decide (d = '#') = true := fun d hd =>
      decide_eq_true (List.eq_of_mem_replicate hd)
    have hread := rawRest_raw h rest
    simp only [List.cons_append, List.append_assoc, string?]
    rw [dropWhile_all hmarks (by decide), takeWhile_all hmarks (by decide), List.length_replicate]
    simp [expect, hread]

theorem char?_literal (h : CharLiteral c text) (rest : List Char) : char? (text ++ rest) = some (c, rest) := by
  cases h with
  | itself hquote hslash => simp [char?, hquote, expect]
  | escape h =>
    have hread := escape?_escaped h ('\'' :: rest)
    simp [char?, hread, expect]

/-! ## Writing strings -/

/-- a text in double quotes, with a backslash wherever one may be needed -/
def quoted (s : String) : List Char :=
  '"' :: ((s.toList.flatMap fun c => if c ∈ ['\'', '"', '\\'] then ['\\', c] else [c]) ++ ['"'])

/-- a raw text, with enough hash marks -/
def raw (s : String) : List Char :=
  let hashes := List.replicate s.toList.length '#'
  'r' :: (hashes ++ '"' :: (s.toList ++ '"' :: hashes))

/-- every text can be written in double quotes -/
theorem stringLiteral_quoted (s : String) : StringLiteral s (quoted s) := by
  refine .quoted ?_
  induction s.toList with
  | nil => exact .nil
  | cons c chars ih =>
    rw [List.flatMap_cons]
    split
    · rename_i hc
      exact .escape (.itself hc) ih
    · rename_i hc
      simp only [List.mem_cons, List.not_mem_nil, or_false, not_or] at hc
      exact .itself hc.2.1 hc.2.2 ih

/-- every text can be written raw -/
theorem stringLiteral_raw (s : String) : StringLiteral s (raw s) := by
  refine .raw s.toList.length fun hinfix => ?_
  have hlength := hinfix.length_le
  rw [List.length_cons, List.length_replicate] at hlength
  exact Nat.not_succ_le_self _ hlength

end ScriptHost.Ron
