/-
Texts of RON values are read as the values that they write. The levels of the grammar are those of the reader: what is right
for what can stand inside a value is right for the value (`reads_spelling`), and so for every level (`exists_level`).

- `parse_document`: a whole text is read as the value that it writes.
-/
import ScriptHost.Proofs.Ron.Items

namespace ScriptHost.Ron

variable {α : Type} {text rest : List Char} {sign : Char} {n : Nat}

/-! ## Words -/

/-- no word begins with another character than these -/
theorem wordValue_of_first {c : Char} (h : c ∉ ['t', 'f', 'N', 'i', '+', '-', '(']) (rest : List Char) :
    wordValue (c :: rest) = none := by
  simp only [List.mem_cons, List.not_mem_nil, or_false, not_or, eq_comm (a := c)] at h
  simp [wordValue, numberWords, word?, stripWord, h]

/-- nothing but the words themselves is taken for one, among the texts of names -/
theorem wordValue_name {c edge : Char} (hstart : isNameStart c) (h : ∀ d ∈ text, isNameChar d)
    (hfree : String.ofList (c :: text) ∉ reservedWords) (hedge : edge ∈ edges) (rest : List Char) :
    wordValue ((c :: text) ++ edge :: rest) = none ∧ word? "Some" ((c :: text) ++ edge :: rest) = none := by
  have hall : ∀ d ∈ c :: text, isNameChar d := List.forall_mem_cons.2 ⟨isNameChar_of_isNameStart hstart, h⟩
  have hword (word : String) (hreserved : word ∈ reservedWords) (hchars : word.toList.all isNameChar) :
      word? word ((c :: text) ++ edge :: rest) = none := by
    rw [word?_name word hall hchars hedge, if_neg]
    rintro heq
    exact hfree (heq ▸ String.ofList_toList ▸ hreserved)
  have hother {d : Char} (hd : isNameStart d = false) : d ≠ c := by
    rintro rfl
    rw [hstart] at hd
    cases hd
  have hsigned (word : String) {sign : Char} (hhead : word.toList.head? = some sign)
      (hsign : isNameStart sign = false) :
      word? word ((c :: text) ++ edge :: rest) = none := by
    refine word?_cons word (fun heq => ?_) (fun hnil => ?_) _
    · exact hother hsign (Option.some.inj (hhead.symm.trans heq))
    · rw [hnil] at hhead
      cases hhead
  have hround : stripWord ['(', ')'] ((c :: text) ++ edge :: rest) = none := by
    rw [List.cons_append, stripWord, if_neg (hother (by decide))]
  have hnumber : numberWords.findSome? (word? · ((c :: text) ++ edge :: rest)) = none := by
    refine List.findSome?_eq_none_iff.2 fun word hmem => ?_
    simp only [numberWords, List.mem_cons, List.not_mem_nil, or_false] at hmem
    rcases hmem with rfl | rfl | rfl | rfl | rfl | rfl
    · exact hword "inf" (by decide) (by decide)
    · exact hsigned "+inf" rfl (by decide)
    · exact hsigned "-inf" rfl (by decide)
    · exact hword "NaN" (by decide) (by decide)
    · exact hsigned "+NaN" rfl (by decide)
    · exact hsigned "-NaN" rfl (by decide)
  refine ⟨?_, hword "Some" (by decide) (by decide)⟩
  rw [wordValue, hword "true" (by decide) (by decide), hword "false" (by decide) (by decide),
    hword "None" (by decide) (by decide), hround, hnumber]
  rfl

/-- a name that stands for itself is read as a name, and as nothing else -/
theorem freeName_read {name : String} {edge : Char} (h : FreeName name text) (hedge : edge ∈ edges)
    (rest : List Char) : wordValue (text ++ edge :: rest) = none ∧ word? "Some" (text ++ edge :: rest) = none ∧
      name? (text ++ edge :: rest) = some (name, edge :: rest) := by
  obtain ⟨hnamed, hfree⟩ := h
  refine and_assoc.1 ⟨?_, name?_named hnamed hedge rest⟩
  cases hnamed with
  | plain hstart h => exact wordValue_name hstart h hfree hedge rest
  | raw _ _ => exact ⟨wordValue_of_first (by decide) _, word?_cons "Some" (by decide) (by decide) _⟩

/-! ## Brackets -/

variable {implicitSome : Bool} {inside : Inside} {item content : Texts Value}

/-- a text that is no word and begins with no name is read by its first character -/
theorem valueWith_plain {c : Char} (hword : wordValue (c :: rest) = none) (hsome : c ≠ 'S')
    (hname : name? (c :: rest) = none) :
    valueWith implicitSome inside (c :: rest) = plainValue inside (c :: rest) := by
  have hnot : word? "Some" (c :: rest) = none :=
    word?_cons "Some" (fun heq => hsome (Option.some.inj heq).symm) (by decide) rest
  rw [valueWith, hword, hnot, hname]

theorem Blank.head?_ne {gap : List Char} (h : Blank gap) (hne : gap ≠ []) (more : List Char) :
    (gap ++ more).head? ≠ some ')' := by
  cases h with
  | nil => exact absurd rfl hne
  | space hc _ =>
    intro heq
    rw [Option.some.inj heq] at hc
    exact absurd hc (by decide)
  | line _ _ | block _ _ => simp

/-- what stands in round brackets does not begin with the closing one, unless nothing stands there -/
theorem Separated.head?_ne {read : Reader α} {texts : Texts α} {items : List α} (h : Reads n read texts)
    (hitems : Separated texts items text) (hne : text ≠ []) (rest : List Char) : (text ++ rest).head? ≠ some ')' := by
  have hfirst {a : α} {gap first : List Char} (hgap : Blank gap) (ha : texts a first) (more : List Char) :
      (gap ++ (first ++ more)).head? ≠ some ')' := by
    by_cases hnil : gap = []
    · obtain ⟨c, tail, rfl, hc⟩ := h.begins ha
      rw [hnil]
      exact fun heq => hc (Option.some.inj heq ▸ by decide)
    · exact hgap.head?_ne hnil _
  cases hitems with
  | nil hgap => exact hgap.head?_ne hne rest
  | last hgap ha _ =>
    simp only [List.append_assoc]
    exact hfirst hgap ha _
  | cons hgap ha _ _ =>
    simp only [List.append_assoc]
    exact hfirst hgap ha _

theorem inRoundBrackets_tuple {items : List Value} (hitem : Reads n inside.item item) (hunlabeled : Unlabeled item)
    (hfuel : inside.fuel = n) (hbrackets : inside.brackets) (hitems : Separated item items text) (hbound : text.length < n)
    (name : Option String) (rest : List Char) :
    inRoundBrackets inside name (text ++ ')' :: rest) = some (.tuple name items, rest) := by
  have henclosed := enclosed_items hitem (show ')' ∈ closers by decide) (by decide) hitems hbound rest
  simp [inRoundBrackets, hbrackets, startsRecord_items hitem hunlabeled hitems, hfuel, henclosed]

theorem inRoundBrackets_record {fields : List (String × Value)} (hitem : Reads n inside.item item)
    (hfuel : inside.fuel = n) (hbrackets : inside.brackets) (hfields : Separated (Entry Named item) fields text)
    (hne : fields ≠ []) (hbound : text.length < n) (name : Option String) (rest : List Char) :
    inRoundBrackets inside name (text ++ ')' :: rest) = some (.record name fields, rest) := by
  have henclosed := enclosed_items (reads_entry (reads_name n) hitem) (show ')' ∈ closers by decide) (by decide)
    hfields hbound rest
  simp [inRoundBrackets, hbrackets, startsRecord_fields hfields hne, hfuel, henclosed]

/-- the words are read as the values that they are -/
theorem valueWith_word {v : Value} (h : wordValue text = some (v, rest)) :
    valueWith implicitSome inside text = some (v, rest) := by
  rw [valueWith, h]

/-- round brackets are read by what stands in them, with the name in front of them -/
theorem valueWith_title {name : Option String} {title body : List Char} (h : Title name title)
    (hunit : name = none → body.head? ≠ some ')') :
    valueWith implicitSome inside (title ++ '(' :: body) = inRoundBrackets inside name body := by
  cases h with
  | none =>
    have hround : stripWord [')'] body = none := by
      cases body with
      | nil => rfl
      | cons c body =>
        have hc : ')' ≠ c := fun heq => hunit rfl (heq ▸ rfl)
        rw [stripWord, if_neg hc]
    have hword : wordValue ('(' :: body) = none := by
      simp [wordValue, numberWords, word?, stripWord, hround]
    rw [List.nil_append, valueWith_plain hword (by decide) (name?_of_not_start (by decide) body)]
    rfl
  | @name name text gap hname hgap =>
    obtain ⟨edge, tail, htail, hedge⟩ := hgap.edge (c := '(') (by decide) body
    obtain ⟨hword, hsome, hread⟩ := freeName_read hname hedge tail
    have hbracket : skip (edge :: tail) = some ('(' :: body) := htail ▸ skip_blank_cons hgap (by decide) body
    rw [List.append_assoc, htail, valueWith, hword, hsome, hread]
    simp [hbracket]

/-- a value in brackets is read to its last bracket, whatever comes next -/
theorem valueWith_bracketed {v : Value} (hitem : Reads n inside.item item) (hunlabeled : Unlabeled item)
    (hfuel : inside.fuel = n) (h : Spelling inside.brackets item content v text) (hbracketed : v.isBracketed)
    (hbound : text.length < n) (rest : List Char) :
    valueWith implicitSome inside (text ++ rest) = some (v, rest) := by
  cases h with
  | yes | no | absent | numberWord | number | char | string | named | present => cases hbracketed
  | unit => exact valueWith_word rfl
  | @list items text hbrackets hitems =>
    simp only [List.length_cons, List.length_append] at hbound
    have hread := enclosed_items hitem (show ']' ∈ closers by decide) (by decide) hitems (by omega) rest
    rw [List.cons_append, List.append_assoc, List.singleton_append, valueWith_plain (wordValue_of_first (by decide) _)
      (by decide) (name?_of_not_start (by decide) _)]
    simp [plainValue, hbrackets, hfuel, hread]
  | @map entries text hbrackets hentries =>
    simp only [List.length_cons, List.length_append] at hbound
    have hread := enclosed_items (reads_entry hitem hitem) (show '\x7d' ∈ closers by decide) (by decide) hentries
      (by omega) rest
    rw [List.cons_append, List.append_assoc, List.singleton_append, valueWith_plain (wordValue_of_first (by decide) _)
      (by decide) (name?_of_not_start (by decide) _)]
    simp [plainValue, hbrackets, hfuel, hread]
  | @tuple name items title text hbrackets htitle hitems hunit =>
    simp only [List.length_cons, List.length_append] at hbound
    rw [List.append_assoc, List.cons_append, List.append_assoc, List.singleton_append, valueWith_title htitle fun hname =>
      hitems.head?_ne hitem (hunit hname) _]
    exact inRoundBrackets_tuple hitem hunlabeled hfuel hbrackets hitems (by omega) name rest
  | @record name fields title text hbrackets htitle hfields hne =>
    simp only [List.length_cons, List.length_append] at hbound
    have hnonempty : text ≠ [] := by
      have hlength := hfields.length_le (reads_entry (reads_name n) hitem)
      intro hnil
      rw [hnil] at hlength
      exact hne (List.length_eq_zero_iff.1 (Nat.le_zero.1 hlength))
    rw [List.append_assoc, List.cons_append, List.append_assoc, List.singleton_append, valueWith_title htitle fun _ =>
      hfields.head?_ne (reads_entry (reads_name n) hitem) hnonempty _]
    exact inRoundBrackets_record hitem hfuel hbrackets hfields hne (by omega) name rest

/-! ## Values without brackets -/

theorem wordValue_of_sign {c d : Char} (hc : isSign c) (hd : d ∉ ['i', 'N']) (rest : List Char) :
    wordValue (c :: d :: rest) = none := by
  have hsign : c = '+' ∨ c = '-' := by simpa [isSign] using hc
  simp only [List.mem_cons, List.not_mem_nil, or_false, not_or, eq_comm (a := d)] at hd
  rcases hsign with rfl | rfl <;> simp [wordValue, numberWords, word?, stripWord, hd]

/-- neither a digit nor a sign begins a name -/
theorem isNameStart_of_number {c : Char} (h : c.isDigit || isSign c) : isNameStart c = false := by
  rcases Bool.or_eq_true_iff.1 h with hdigit | hsign
  · have hrange : 48 ≤ c.val.toNat ∧ c.val.toNat ≤ 57 := by
      simpa [Char.isDigit, UInt32.le_iff_toNat_le] using hdigit
    have hall : ∀ k < 58, 48 ≤ k → isNameStart (Char.ofNat k) = false := by decide
    rw [← Char.ofNat_toNat c]
    exact hall c.toNat (Nat.lt_succ_of_le hrange.2) hrange.1
  · have hc : c = '+' ∨ c = '-' := by simpa [isSign] using hsign
    rcases hc with rfl | rfl <;> decide

theorem valueWith_number {edge : Char} (h : Numeral text) (hedge : edge ∈ edges) (rest : List Char) :
    valueWith implicitSome inside (text ++ edge :: rest) = some (.number, edge :: rest) := by
  rcases number?_numeral h hedge rest with ⟨c, tail, rfl, hc, hread⟩ | ⟨tail, rfl, hread⟩
  · have hne {d : Char} (hd : (d.isDigit || isSign d) = false) : c ≠ d := by
      rintro rfl
      rw [hc] at hd
      cases hd
    have hword : wordValue ((c :: tail) ++ edge :: rest) = none := by
      by_cases hsign : isSign c
      · obtain ⟨d, more, hmore⟩ : ∃ d more, tail ++ edge :: rest = d :: more := by
          cases tail <;> exact ⟨_, _, rfl⟩
        rw [List.cons_append, hmore] at hread ⊢
        refine wordValue_of_sign hsign (fun hd => ?_) more
        have hletter : isIntegerChar d = false ∧ isFloatChar d = false := by
          simp only [List.mem_cons, List.not_mem_nil, or_false] at hd
          rcases hd with rfl | rfl <;> decide
        rw [number?_sign_letter hsign hletter.1 hletter.2] at hread
        cases hread
      · refine wordValue_of_first ?_ _
        simp only [List.mem_cons, List.not_mem_nil, or_false, not_or]
        exact ⟨hne (by decide), hne (by decide), hne (by decide), hne (by decide), fun heq => hsign (heq ▸ rfl),
          fun heq => hsign (heq ▸ rfl), hne (by decide)⟩
    rw [List.cons_append] at hword hread ⊢
    rw [valueWith_plain hword (hne (by decide)) (name?_of_not_start (isNameStart_of_number hc) _), plainValue,
      if_neg (hne (by decide)), if_neg (hne (by decide)), if_neg (hne (by decide)), if_pos hc, hread]
    rfl
  · rw [List.cons_append] at hread ⊢
    rw [valueWith_plain (wordValue_of_first (by decide) _) (by decide) (name?_of_not_start (by decide) _)]
    simp [plainValue, isSign, hread]

theorem valueWith_char {c : Char} (h : CharLiteral c text) (rest : List Char) :
    valueWith implicitSome inside (text ++ rest) = some (.char c, rest) := by
  have hread := char?_literal h rest
  obtain ⟨tail, rfl⟩ : ∃ tail, text = '\'' :: tail := by cases h <;> exact ⟨_, rfl⟩
  rw [List.cons_append] at hread ⊢
  rw [valueWith_plain (wordValue_of_first (by decide) _) (by decide) (name?_of_not_start (by decide) _)]
  simp [plainValue, isSign, hread]

/-- a string that is written raw is not taken for a name -/
theorem name?_string {s : String} (h : StringLiteral s text) (rest : List Char) : name? (text ++ rest) = none := by
  cases h with
  | quoted h => exact name?_of_not_start (by decide) _
  | raw hashes h =>
    match hashes with
    | 0 => rfl
    | 1 => rfl
    | _ + 2 => rfl

theorem valueWith_string {s : String} (h : StringLiteral s text) (rest : List Char) :
    valueWith implicitSome inside (text ++ rest) = some (.string s, rest) := by
  have hread := string?_literal h rest
  have hname := name?_string h rest
  obtain ⟨c, tail, rfl, hc⟩ : ∃ c tail, text = c :: tail ∧ (c = '"' ∨ c = 'r') := by
    cases h with
    | quoted _ => exact ⟨_, _, rfl, .inl rfl⟩
    | raw _ _ => exact ⟨_, _, rfl, .inr rfl⟩
  rw [List.cons_append] at hread hname ⊢
  have hword : wordValue (c :: (tail ++ rest)) = none := wordValue_of_first (by rcases hc with rfl | rfl <;> decide) _
  rw [valueWith_plain hword (by rcases hc with rfl | rfl <;> decide) hname]
  rcases hc with rfl | rfl <;> simp [plainValue, isSign, hread]

theorem valueWith_named {name : String} (h : FreeName name text) (hrest : Follows sign rest) :
    ∃ left, valueWith implicitSome inside (text ++ rest) = some (.named name, left) ∧ skip left = skip rest := by
  obtain ⟨edge, tail, rfl, hedge⟩ := hrest.edge
  obtain ⟨hword, hsome, hread⟩ := freeName_read h hedge tail
  obtain ⟨hsign, next, hskip⟩ := hrest
  have hround : sign ≠ '(' := by
    rintro rfl
    exact absurd hsign (by decide)
  refine ⟨sign :: next, ?_, (skip_skip hskip).trans hskip.symm⟩
  rw [valueWith, hword, hsome, hread]
  simp [hskip, hround]

theorem Separated.blank {texts : Texts α} (h : Separated texts [] text) : Blank text := by
  cases h
  assumption

/-- one item between gaps, perhaps with a comma behind it -/
theorem Reads.one {read : Reader α} {texts : Texts α} {a : α} (h : Reads n read texts) (ha : Separated texts [a] text)
    (hbound : text.length < n) (rest : List Char) : ∃ item left more, skip (text ++ ')' :: rest) = some item ∧
      read item = some (a, left) ∧ comma left = some (more, ')' :: rest) := by
  have hone {gap item tail : List Char} {sign : Char} {more : Bool} (hgap : Blank gap) (ha : texts a item)
      (hlength : item.length < n) (htail : Follows sign tail) (hcomma : comma tail = some (more, ')' :: rest)) :
      ∃ item' left more, skip (gap ++ (item ++ tail)) = some item' ∧
        read item' = some (a, left) ∧ comma left = some (more, ')' :: rest) := by
    obtain ⟨left, hread, hleft⟩ := h.reads ha hlength htail
    exact ⟨_, left, more, (skip_blank hgap _).trans (h.skip_append ha tail), hread, (comma_congr hleft).trans hcomma⟩
  cases ha with
  | @last _ gap item gap' hgap ha hgap' =>
    simp only [List.length_append] at hbound
    simp only [List.append_assoc]
    exact hone hgap ha (by omega) ((follows_cons (show ')' ∈ closers by decide) rest).blank hgap')
      ((comma_blank hgap' _).trans (comma_close (by decide) (by decide) rest))
  | @cons _ _ gap item gap' last hgap ha hgap' hnone =>
    simp only [List.length_append, List.length_cons] at hbound
    simp only [List.append_assoc, List.cons_append]
    have hcomma : comma (gap' ++ ',' :: (last ++ ')' :: rest)) = some (true, ')' :: rest) := by
      rw [comma_blank hgap', comma_comma, skip_blank_cons hnone.blank (by decide)]
      rfl
    exact hone hgap ha (by omega) ((follows_cons (show ',' ∈ closers by decide) _).blank hgap') hcomma

theorem valueWith_present {v : Value} {gap : List Char} (hcontent : Reads n inside.content content) (hgap : Blank gap)
    (h : Separated content [v] text) (hbound : text.length < n) (rest : List Char) :
    valueWith implicitSome inside ("Some".toList ++ (gap ++ '(' :: (text ++ ')' :: rest))) = some (.present v, rest) := by
  obtain ⟨edge, tail, htail, hedge⟩ := hgap.edge (c := '(') (by decide) (text ++ ')' :: rest)
  have hword : wordValue ("Some".toList ++ edge :: tail) = none := wordValue_of_first (by decide) _
  have hsome : word? "Some" ("Some".toList ++ edge :: tail) = some (edge :: tail) :=
    (word?_name "Some" (List.all_eq_true.1 (by decide)) (by decide) hedge tail).trans (if_pos rfl)
  have hbracket : skip (edge :: tail) = some ('(' :: (text ++ ')' :: rest)) := htail ▸ skip_blank_cons hgap (by decide) _
  obtain ⟨item, left, more, hskip, hread, hcomma⟩ := hcontent.one h hbound rest
  rw [htail, valueWith, hword, hsome]
  simp [presentRest, hbracket, hskip, hread, hcomma, expect]

/-! ## Levels -/

theorem Title.begins {name : Option String} {title : List Char} (h : Title name title) (rest : List Char) :
    ∃ c tail, title ++ '(' :: rest = c :: tail ∧ c ∉ nonStarters := by
  cases h with
  | none => exact ⟨'(', rest, rfl, by decide⟩
  | name hname _ =>
    obtain ⟨c, tail, rfl, hc⟩ := (reads_name 0).begins hname.named
    exact ⟨c, _, rfl, hc⟩

theorem Spelling.begins {brackets : Bool} {v : Value} (h : Spelling brackets item content v text) :
    ∃ c tail, text = c :: tail ∧ c ∉ nonStarters := by
  cases h with
  | yes | no | absent | present | unit | list | map => exact ⟨_, _, rfl, by decide⟩
  | numberWord h =>
    simp only [numberWords, List.mem_cons, List.not_mem_nil, or_false] at h
    rcases h with rfl | rfl | rfl | rfl | rfl | rfl <;> exact ⟨_, _, rfl, by decide⟩
  | number h =>
    rcases h.begins with ⟨c, tail, rfl, hc⟩ | ⟨tail, rfl, -⟩
    · refine ⟨c, tail, rfl, fun hmem => ?_⟩
      have hnot : (c.isDigit || isSign c) = false := false_of_mem (p := fun c => c.isDigit || isSign c) (by decide) hmem
      rw [hc] at hnot
      cases hnot
    · exact ⟨_, _, rfl, by decide⟩
  | char h => cases h <;> exact ⟨_, _, rfl, by decide⟩
  | string h => cases h <;> exact ⟨_, _, rfl, by decide⟩
  | named h => exact (reads_name 0).begins h.named
  | tuple _ htitle _ _ | record _ htitle _ _ => exact htitle.begins _

/-- no text of a value is the name of a field -/
theorem unlabeled_spelling (brackets : Bool) (item content : Texts Value) :
    Unlabeled (Spelling brackets item content) := by
  intro v text h sign rest hrest hsign
  obtain ⟨edge, tail, rfl, hedge⟩ := hrest.edge
  obtain ⟨-, left, hskip⟩ := hrest
  have hnamed {name : String} {text : List Char} (h : Named name text) : NoLabel (text ++ edge :: tail) :=
    noLabel_of_named h hedge hskip hsign
  cases h with
  | yes | no | absent => exact hnamed (named_toList (by decide) (by decide))
  | numberWord h =>
    simp only [numberWords, List.mem_cons, List.not_mem_nil, or_false] at h
    rcases h with rfl | rfl | rfl | rfl | rfl | rfl
    · exact hnamed (named_toList (by decide) (by decide))
    · exact noLabel_of_not_start (by decide) _
    · exact noLabel_of_not_start (by decide) _
    · exact hnamed (named_toList (by decide) (by decide))
    · exact noLabel_of_not_start (by decide) _
    · exact noLabel_of_not_start (by decide) _
  | number h =>
    rcases h.begins with ⟨c, tail, rfl, hc⟩ | ⟨tail, rfl, -⟩
    · exact noLabel_of_not_start (isNameStart_of_number hc) _
    · exact noLabel_of_not_start (by decide) _
  | char h => cases h <;> exact noLabel_of_not_start (by decide) _
  | string h => exact noLabel_of_name? (name?_string h _)
  | named h => exact hnamed h.named
  | present hgap _ =>
    rw [List.append_assoc, List.append_assoc, List.cons_append]
    exact noLabel_of_round (named_toList (by decide) (by decide)) hgap _
  | unit | list | map => exact noLabel_of_not_start (by decide) _
  | tuple _ htitle _ _ | record _ htitle _ _ =>
    rw [List.append_assoc, List.cons_append]
    exact noLabel_of_title htitle _

/-- what is right for what stands inside a value is right for the value -/
theorem reads_spelling (hitem : Reads n inside.item item) (hunlabeled : Unlabeled item)
    (hcontent : Reads n inside.content content) (hfuel : inside.fuel = n) :
    Reads n (valueWith implicitSome inside) (Spelling inside.brackets item content) where
  begins h := h.begins
  reads {v text rest sign} h hbound hrest := by
    obtain ⟨edge, tail, htail, hedge⟩ := hrest.edge
    have hplain : isNameChar edge = false := false_of_mem (by decide) hedge
    by_cases hbracketed : v.isBracketed
    · exact ⟨rest, valueWith_bracketed hitem hunlabeled hfuel h hbracketed hbound rest, rfl⟩
    cases h with
    | yes | no | absent =>
      refine ⟨rest, valueWith_word ?_, rfl⟩
      subst htail
      simp [wordValue, word?, stripWord, hplain]
    | numberWord h =>
      refine ⟨rest, valueWith_word ?_, rfl⟩
      subst htail
      simp only [numberWords, List.mem_cons, List.not_mem_nil, or_false] at h
      rcases h with rfl | rfl | rfl | rfl | rfl | rfl <;> simp [wordValue, numberWords, word?, stripWord, hplain]
    | number h => exact ⟨rest, htail ▸ valueWith_number h hedge tail, rfl⟩
    | char h => exact ⟨rest, valueWith_char h rest, rfl⟩
    | string h => exact ⟨rest, valueWith_string h rest, rfl⟩
    | named h => exact valueWith_named h hrest
    | present hgap h =>
      refine ⟨rest, ?_, rfl⟩
      simp only [List.length_append, List.length_cons] at hbound
      simp only [List.append_assoc, List.cons_append]
      exact valueWith_present hcontent hgap h (by omega) rest
    | unit | list | map | tuple | record => exact absurd rfl hbracketed

/-- a level of the grammar and the same level of the reader -/
structure Level (implicitSome : Bool) (n budget : Nat) (inside : Inside) (item content : Texts Value) : Prop where
  value : value implicitSome n budget = valueWith implicitSome inside
  spelled : Spelled budget = Spelling inside.brackets item content
  fuel : inside.fuel = n
  reads_item : Reads n inside.item item
  unlabeled : Unlabeled item
  reads_content : Reads n inside.content content

theorem Level.reads {budget : Nat} (h : Level implicitSome n budget inside item content) :
    Reads n (Ron.value implicitSome n budget) (Spelled budget) := by
  rw [h.value, h.spelled]
  exact reads_spelling h.reads_item h.unlabeled h.reads_content h.fuel

theorem Level.unlabeled_spelled {budget : Nat} (h : Level implicitSome n budget inside item content) :
    Unlabeled (Spelled budget) := by
  rw [h.spelled]
  exact unlabeled_spelling inside.brackets item content

/-- every level of the grammar is a level of the reader -/
theorem exists_level (implicitSome : Bool) (n budget : Nat) : ∃ inside item content,
    Level implicitSome n budget inside item content := by
  have hnone (read : Reader Value) : Reads n read (fun _ _ => False) := ⟨fun h => h.elim, fun h => h.elim⟩
  have hfree : Unlabeled fun _ _ => False := fun _ _ h => h.elim
  induction budget using Nat.strongRecOn with
  | ind budget ih =>
    match budget with
    | 0 => exact ⟨_, _, _, rfl, rfl, rfl, hnone _, hfree, hnone _⟩
    | 1 =>
      obtain ⟨_, _, _, hcontent⟩ := ih 0 (by omega)
      exact ⟨_, _, _, rfl, rfl, rfl, hnone _, hfree, hcontent.reads⟩
    | budget + 2 =>
      obtain ⟨_, _, _, hitem⟩ := ih budget (by omega)
      obtain ⟨_, _, _, hcontent⟩ := ih (budget + 1) (by omega)
      exact ⟨_, _, _, rfl, rfl, rfl, hitem.reads, hitem.unlabeled_spelled, hcontent.reads⟩

/-- a value in brackets is read whole, whatever comes next -/
theorem value_bracketed {v : Value} {budget : Nat} (h : Spelled budget v text) (hbracketed : v.isBracketed)
    (hbound : text.length < n) (rest : List Char) : value implicitSome n budget (text ++ rest) = some (v, rest) := by
  obtain ⟨inside, item, content, hlevel⟩ := exists_level implicitSome n budget
  rw [hlevel.spelled] at h
  rw [hlevel.value]
  exact valueWith_bracketed hlevel.reads_item hlevel.unlabeled hlevel.fuel h hbracketed hbound rest

theorem Spelled.begins {v : Value} {budget : Nat} (h : Spelled budget v text) :
    ∃ c tail, text = c :: tail ∧ c ∉ nonStarters := by
  obtain ⟨inside, item, content, hlevel⟩ := exists_level false 0 budget
  exact hlevel.reads.begins h

/-- **Texts of values.** A whole text is read as the value that it writes. -/
theorem parse_document {v : Value} (h : Document v text) : parse (String.ofList text) = some v := by
  obtain @⟨v, gap, text, gap', hgap, hv, hbracketed, hgap'⟩ := h
  obtain ⟨c, tail, hcons, hc⟩ := hv.begins
  have hskip : skip (gap ++ (text ++ gap')) = some (text ++ gap') := by
    rw [skip_blank hgap, hcons, List.cons_append, skip_of_isSolid (isSolid_of_starter hc)]
  have hplain (items fuel : Nat) : attributes items (fuel + 1) (text ++ gap') = some ([], text ++ gap') := by
    have hhash : c ≠ '#' := fun heq => hc (heq ▸ List.mem_cons_self)
    rw [hcons]
    exact attributes.eq_3 items _ fuel fun rest heq => hhash (List.cons.inj heq).1
  have hbound : text.length < (gap ++ (text ++ gap')).length + 1 := by
    simp only [List.length_append]
    omega
  have hread : value false ((gap ++ (text ++ gap')).length + 1) nestingLimit (text ++ gap') = some (v, gap') :=
    value_bracketed hv hbracketed hbound gap'
  simp only [parse, String.toList_ofList, String.length_ofList, hskip, hplain, bind, Option.bind_some]
  have hnames : List.contains ([] : List String) "implicit_some" = false := rfl
  rw [hnames, hread]
  simp [skip_lastBlank hgap']

end ScriptHost.Ron
