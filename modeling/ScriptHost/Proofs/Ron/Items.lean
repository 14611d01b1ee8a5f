/-
Items between brackets. A reader takes one item from the front of a text, and what it hands back may lack the gap that
followed; so a reading is right up to gaps (`Reads`). Items with commas between them are then read up to the closing bracket
(`separated_items`), and what stands in round brackets is told to be fields or items by its beginning.
-/
import ScriptHost.Proofs.Ron.Grammar

namespace ScriptHost.Ron

variable {α : Type} {text rest : List Char} {n fuel : Nat}

/-! ## Readings -/

/-- the reader reads the texts that are shorter than a bound, each before any sign that can stand behind a value -/
structure Reads (bound : Nat) (read : Reader α) (texts : Texts α) : Prop where
  begins {a : α} {text : List Char} (h : texts a text) : ∃ c tail, text = c :: tail ∧ c ∉ nonStarters
  reads {a : α} {text rest : List Char} {sign : Char} (h : texts a text) (hbound : text.length < bound)
    (hrest : Follows sign rest) : ∃ left, read (text ++ rest) = some (a, left) ∧ skip left = skip rest

theorem isSolid_of_starter {c : Char} (h : c ∉ nonStarters) : isSolid c := by
  simp only [nonStarters, boundaries, List.cons_append, List.nil_append, List.mem_cons, not_or] at h
  simp [isSolid, isSpace, h]

theorem Reads.skip_append {bound : Nat} {read : Reader α} {texts : Texts α} {a : α} (h : Reads bound read texts)
    (ha : texts a text) (rest : List Char) : skip (text ++ rest) = some (text ++ rest) := by
  obtain ⟨c, tail, rfl, hc⟩ := h.begins ha
  exact skip_of_isSolid (isSolid_of_starter hc) _

theorem comma_congr {left : List Char} (h : skip left = skip rest) : comma left = comma rest := by
  rw [comma, comma, h]

/-! ## Items -/

theorem Separated.length_le {bound : Nat} {read : Reader α} {texts : Texts α} {items : List α}
    (h : Reads bound read texts) (hitems : Separated texts items text) : items.length ≤ text.length := by
  induction hitems with
  | nil => exact Nat.zero_le _
  | last _ hitem _ =>
    obtain ⟨c, tail, rfl, -⟩ := h.begins hitem
    simp only [List.length_append, List.length_cons, List.length_nil]
    omega
  | cons _ _ _ _ ih =>
    simp only [List.length_append, List.length_cons]
    omega

theorem comma_blank {gap : List Char} (h : Blank gap) (rest : List Char) : comma (gap ++ rest) = comma rest :=
  comma_congr (skip_blank h rest)

theorem comma_comma (rest : List Char) : comma (',' :: rest) = (skip rest).map fun rest => (true, rest) := by
  rw [comma, skip_of_isSolid (by decide)]
  cases hskip : skip rest <;> simp [hskip]

theorem comma_close {close : Char} (hclose : close ∈ closers) (hcomma : close ≠ ',') (rest : List Char) :
    comma (close :: rest) = some (false, close :: rest) := by
  rw [comma, skip_of_isSolid (isSolid_of_closer hclose)]
  simp [hcomma]

/-- one item of several -/
theorem separated_cons {read : Reader α} {close c : Char} {tail left : List Char} {a : α}
    (hskip : skip text = some (c :: tail)) (hc : c ≠ close) (hread : read (c :: tail) = some (a, left)) :
    separated read close (fuel + 1) text = (comma left).bind fun (more, rest) =>
      if more then (separated read close fuel rest).map fun (items, rest) => (a :: items, rest) else some ([a], rest) := by
  simp only [separated, hskip, bind, Option.bind_some, if_neg hc, hread]
  cases comma left with
  | none => rfl
  | some next =>
    obtain ⟨more, rest⟩ := next
    simp only [Option.bind_some]
    split
    · cases separated read close fuel rest <;> rfl
    · rfl

/-- a gap in front of items is left out -/
theorem separated_skip {read : Reader α} {close : Char} {left : List Char} (h : skip text = some left) :
    separated read close fuel left = separated read close fuel text := by
  cases fuel with
  | zero => rfl
  | succ fuel => rw [separated, separated, h, skip_skip h]

/-- items are read up to the closing bracket -/
theorem separated_items {read : Reader α} {texts : Texts α} {items : List α} {close : Char} (h : Reads n read texts)
    (hclose : close ∈ closers) (hcomma : close ≠ ',') (hitems : Separated texts items text) (hbound : text.length < n)
    (hfuel : items.length < fuel) (rest : List Char) :
    separated read close fuel (text ++ close :: rest) = some (items, close :: rest) := by
  have hsolid : isSolid close := isSolid_of_closer hclose
  have hopen {a : α} {item : List Char} (ha : texts a item) (rest : List Char) :
      ∃ c tail, item ++ rest = c :: tail ∧ c ≠ close := by
    obtain ⟨c, tail, rfl, hc⟩ := h.begins ha
    exact ⟨c, tail ++ rest, rfl, fun heq => hc (heq ▸ List.mem_cons_of_mem _ (List.mem_append_right _ hclose))⟩
  induction hitems generalizing fuel with
  | @nil gap hgap =>
    obtain ⟨fuel, rfl⟩ := Nat.exists_eq_succ_of_ne_zero (Nat.ne_zero_of_lt hfuel)
    simp [separated, skip_blank_cons hgap hsolid]
  | @last a gap item gap' hgap ha hgap' =>
    obtain ⟨fuel, rfl⟩ := Nat.exists_eq_succ_of_ne_zero (Nat.ne_zero_of_lt hfuel)
    simp only [List.length_append] at hbound
    obtain ⟨left, hread, hleft⟩ := h.reads ha (by omega) ((follows_cons hclose rest).blank hgap')
    obtain ⟨c, tail, hcons, hc⟩ := hopen ha (gap' ++ close :: rest)
    have hskip : skip (gap ++ (item ++ gap') ++ close :: rest) = some (c :: tail) := by
      rw [List.append_assoc, skip_blank hgap, List.append_assoc, h.skip_append ha, hcons]
    rw [separated_cons hskip hc (hcons ▸ hread), comma_congr hleft, comma_blank hgap', comma_close hclose hcomma]
    rfl
  | @cons a items gap item gap' more hgap ha hgap' hitems ih =>
    obtain ⟨fuel, rfl⟩ := Nat.exists_eq_succ_of_ne_zero (Nat.ne_zero_of_lt hfuel)
    simp only [List.length_append, List.length_cons] at hbound hfuel
    have hmark : Follows ',' (gap' ++ ',' :: (more ++ close :: rest)) :=
      (follows_cons (by decide) (more ++ close :: rest)).blank hgap'
    obtain ⟨left, hread, hleft⟩ := h.reads ha (by omega) hmark
    obtain ⟨c, tail, hcons, hc⟩ := hopen ha (gap' ++ ',' :: (more ++ close :: rest))
    have hskip : skip (gap ++ (item ++ (gap' ++ ',' :: more)) ++ close :: rest) = some (c :: tail) := by
      rw [List.append_assoc, skip_blank hgap, ← hcons, ← h.skip_append ha]
      simp
    have hmore := ih (by omega) (show items.length < fuel by omega)
    obtain ⟨next, hnext⟩ : ∃ next, skip (more ++ close :: rest) = some next := by
      cases fuel with
      | zero => cases hmore
      | succ fuel =>
        rw [separated] at hmore
        obtain ⟨next, hnext, -⟩ := Option.bind_eq_some_iff.1 hmore
        exact ⟨next, hnext⟩
    rw [separated_cons hskip hc (hcons ▸ hread), comma_congr hleft, comma_blank hgap', comma_comma, hnext]
    simp only [Option.map_some, Option.bind_some, if_pos, separated_skip hnext, hmore]

theorem enclosed_items {read : Reader α} {texts : Texts α} {items : List α} {close : Char} (h : Reads n read texts)
    (hclose : close ∈ closers) (hcomma : close ≠ ',') (hitems : Separated texts items text) (hbound : text.length < n)
    (rest : List Char) : enclosed n read close (text ++ close :: rest) = some (items, rest) := by
  have hfuel : items.length < n := Nat.lt_of_le_of_lt (hitems.length_le h) hbound
  simp [enclosed, separated_items h hclose hcomma hitems hbound hfuel, skip_of_isSolid (isSolid_of_closer hclose), expect]

/-! ## Names and entries -/

theorem starter_of_isNameStart {c : Char} (h : isNameStart c) : c ∉ nonStarters := fun hc => by
  have hnot : isNameStart c = false := false_of_mem (by decide) hc
  rw [h] at hnot
  cases hnot

theorem reads_name (n : Nat) : Reads n name? Named where
  begins h := by
    cases h with
    | plain hstart _ => exact ⟨_, _, rfl, starter_of_isNameStart hstart⟩
    | raw _ _ => exact ⟨_, _, rfl, by decide⟩
  reads h _ hrest := by
    obtain ⟨edge, tail, rfl, hedge⟩ := hrest.edge
    exact ⟨_, name?_named h hedge tail, rfl⟩

theorem reads_entry {key : Reader α} {value : Reader Value} {keys : Texts α} {values : Texts Value}
    (hkey : Reads n key keys) (hvalue : Reads n value values) : Reads n (entry key value) (Entry keys values) where
  begins h := by
    obtain @⟨k, v, keyText, gap, gap', valueText, hk, hgap, hgap', hv⟩ := h
    obtain ⟨c, tail, rfl, hc⟩ := hkey.begins hk
    exact ⟨c, _, rfl, hc⟩
  reads h hbound hrest := by
    obtain @⟨k, v, keyText, gap, gap', valueText, hk, hgap, hgap', hv⟩ := h
    rename_i rest sign
    simp only [List.length_append, List.length_cons] at hbound
    have hcolon : Follows ':' (gap ++ ':' :: (gap' ++ (valueText ++ rest))) := (follows_cons (by decide) _).blank hgap
    obtain ⟨left, hleft, hskip⟩ := hkey.reads hk (by omega) hcolon
    obtain ⟨left', hleft', hskip'⟩ := hvalue.reads hv (by omega) hrest
    refine ⟨left', ?_, hskip'⟩
    have hskipped : skip left = some (':' :: (gap' ++ (valueText ++ rest))) := by
      rw [hskip, skip_blank_cons hgap (by decide)]
    have hskipped' : skip (gap' ++ (valueText ++ rest)) = some (valueText ++ rest) := by
      rw [skip_blank hgap', hvalue.skip_append hv]
    simp only [List.append_assoc, List.cons_append, entry, hleft, hskipped, hskipped', hleft', expect, bind,
      Option.bind_some, pure, if_pos]

/-! ## Records and tuples -/

/-- the text does not begin with a name and a colon; behind a name comes something else -/
def NoLabel (text : List Char) : Prop :=
  ∀ name left, name? text = some (name, left) → ∃ c tail, skip left = some (c :: tail) ∧ c ≠ ':'

/-- none of these texts is the name of a field -/
def Unlabeled (texts : Texts Value) : Prop :=
  ∀ v text, texts v text → ∀ sign rest, Follows sign rest → sign ≠ ':' → NoLabel (text ++ rest)

theorem noLabel_of_name? (h : name? text = none) : NoLabel text := by
  intro name left hname
  rw [h] at hname
  cases hname

theorem noLabel_of_not_start {c : Char} (h : isNameStart c = false) (rest : List Char) : NoLabel (c :: rest) :=
  noLabel_of_name? (name?_of_not_start h rest)

theorem noLabel_of_named {name : String} {c edge : Char} {tail left : List Char} (h : Named name text)
    (hedge : edge ∈ edges) (hskip : skip (edge :: tail) = some (c :: left)) (hc : c ≠ ':') :
    NoLabel (text ++ edge :: tail) := by
  intro name' left' hname
  rw [name?_named h hedge] at hname
  obtain ⟨-, rfl⟩ := Prod.mk.inj (Option.some.inj hname)
  exact ⟨c, left, hskip, hc⟩

/-- a name in front of round brackets is no label -/
theorem noLabel_of_round {name : String} {gap : List Char} (h : Named name text) (hgap : Blank gap) (body : List Char) :
    NoLabel (text ++ (gap ++ '(' :: body)) := by
  obtain ⟨edge, tail, htail, hedge⟩ := hgap.edge (c := '(') (by decide) body
  have hskip : skip (edge :: tail) = some ('(' :: body) := htail ▸ skip_blank_cons hgap (by decide) body
  rw [htail]
  exact noLabel_of_named h hedge hskip (by decide)

theorem noLabel_of_title {name : Option String} {title : List Char} (h : Title name title) (body : List Char) :
    NoLabel (title ++ '(' :: body) := by
  cases h with
  | none => exact noLabel_of_not_start (by decide) body
  | name hfree hgap =>
    rw [List.append_assoc]
    exact noLabel_of_round hfree.named hgap body

theorem startsRecord_fields {item : Texts Value} {fields : List (String × Value)}
    (h : Separated (Entry Named item) fields text) (hfields : fields ≠ []) (rest : List Char) :
    startsRecord (text ++ rest) = some true := by
  have hentry {field : String × Value} {gap entryText : List Char} (hgap : Blank gap)
      (h : Entry Named item field entryText) (rest : List Char) : startsRecord (gap ++ (entryText ++ rest)) = some true := by
    obtain @⟨k, v, keyText, inner, inner', valueText, hk, hinner, hinner', hv⟩ := h
    have hcolon : Follows ':' (inner ++ ':' :: (inner' ++ (valueText ++ rest))) :=
      (follows_cons (by decide) _).blank hinner
    obtain ⟨edge, tail, htail, hedge⟩ := hcolon.edge
    have hname : name? (keyText ++ (inner ++ ':' :: (inner' ++ (valueText ++ rest)))) =
        some (k, inner ++ ':' :: (inner' ++ (valueText ++ rest))) := by
      rw [htail]
      exact name?_named hk hedge tail
    have hskip : skip (keyText ++ (inner ++ ':' :: (inner' ++ (valueText ++ rest)))) =
        some (keyText ++ (inner ++ ':' :: (inner' ++ (valueText ++ rest)))) := (reads_name 0).skip_append hk _
    simp only [List.append_assoc, List.cons_append, startsRecord, skip_blank hgap, hskip, hname,
      skip_blank_cons hinner (show isSolid ':' by decide), bind, Option.bind_some, pure, decide_true]
  cases h with
  | nil _ => exact absurd rfl hfields
  | last hgap h _ =>
    simp only [List.append_assoc]
    exact hentry hgap h _
  | cons hgap h _ _ =>
    simp only [List.append_assoc]
    exact hentry hgap h _

theorem startsRecord_items {read : Reader Value} {item : Texts Value} {items : List Value} (h : Reads n read item)
    (hunlabeled : Unlabeled item) (hitems : Separated item items text) (rest : List Char) :
    startsRecord (text ++ ')' :: rest) = some false := by
  have hfirst {v : Value} {gap first : List Char} (hgap : Blank gap) (hv : item v first) {sign : Char}
      {rest : List Char} (hrest : Follows sign rest) (hsign : sign ≠ ':') :
      startsRecord (gap ++ (first ++ rest)) = some false := by
    have hskip : skip (gap ++ (first ++ rest)) = some (first ++ rest) := by rw [skip_blank hgap, h.skip_append hv]
    rw [startsRecord, hskip]
    cases hname : name? (first ++ rest) with
    | none => simp [hname]
    | some found =>
      obtain ⟨name, left⟩ := found
      obtain ⟨c, tail, hleft, hc⟩ := hunlabeled v first hv sign rest hrest hsign name left hname
      simp [hname, hleft, hc]
  cases hitems with
  | nil hgap =>
    have hname : name? (')' :: rest) = none := name?_of_not_start (by decide) rest
    simp [startsRecord, skip_blank_cons hgap (show isSolid ')' by decide), hname]
  | last hgap hv hgap' =>
    simp only [List.append_assoc]
    exact hfirst hgap hv ((follows_cons (by decide) rest).blank hgap') (by decide)
  | cons hgap hv hgap' _ =>
    simp only [List.append_assoc, List.cons_append]
    exact hfirst hgap hv ((follows_cons (by decide) _).blank hgap') (by decide)

end ScriptHost.Ron
