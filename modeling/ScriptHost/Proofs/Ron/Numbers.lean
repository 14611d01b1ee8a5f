/-
Numbers in a RON text: integers in four bases, with underscores among their digits, and decimals with a point or an exponent.
Which texts write one is said without a reader (`Numeral`). A number ends only at the edge of what comes next.

The reader first counts how far the text goes on as an integer and how far as a decimal. An exponent without a sign looks like
a hexadecimal digit, so a decimal can be tried as an integer before it is read (`number?_decimal`).

- `number?_numeral`: the reader reads any numeral.
-/
import Mathlib.Data.List.TakeWhile
import ScriptHost.Proofs.Ron.Lexemes

namespace ScriptHost.Ron

variable {c edge : Char} {text rest tail sign marker whole fraction exponent digits : List Char} {base : Nat}
  {values : List Nat}

/-! ## Texts of numbers -/

/-- the signs that a number can have -/
def signs : List (List Char) := [[], ['+'], ['-']]

/-- the bases of integers, and what stands in front of their digits -/
def bases : List (Nat × List Char) := [(10, []), (2, ['0', 'b']), (8, ['0', 'o']), (16, ['0', 'x'])]

/-- digits of a base and their values, with underscores anywhere among them -/
inductive Digits (base : Nat) : List Char → List Nat → Prop where
  | nil : Digits base [] []
  | digit {c : Char} {value : Nat} {text : List Char} {values : List Nat} (hc : hexValue? c = some value)
    (hvalue : value < base) : Digits base text values → Digits base (c :: text) (value :: values)
  | underscore {text : List Char} {values : List Nat} : Digits base text values → Digits base ('_' :: text) values

/-- the first number that does not fit into 63 bits -/
def numeralLimit : Nat := 0x8000000000000000

/-- the number that digits write -/
def ofDigits (base : Nat) (values : List Nat) : Nat := values.foldl (fun n value => n * base + value) 0

/-- a point and some digits, or nothing -/
inductive Fraction : List Char → Prop where
  | none : Fraction []
  | some {digits : List Char} (h : ∀ d ∈ digits, d.isDigit) : Fraction ('.' :: digits)

/-- an exponent, or nothing -/
inductive Exponent : List Char → Prop where
  | none : Exponent []
  | some {e : Char} {sign digits : List Char} (he : e = 'e' ∨ e = 'E') (hsign : sign ∈ signs) (hne : digits ≠ [])
    (h : ∀ d ∈ digits, d.isDigit) : Exponent (e :: (sign ++ digits))

/-- a text that writes a number: an integer of 63 bits at most, or a decimal -/
inductive Numeral : List Char → Prop where
  | integer {sign marker digits : List Char} {base : Nat} {values : List Nat} (hsign : sign ∈ signs)
    (hbase : (base, marker) ∈ bases) (hdigits : Digits base digits values) (hne : digits ≠ [])
    (hfirst : digits.head? ≠ some '_') (hfits : ofDigits base values < numeralLimit) : Numeral (sign ++ (marker ++ digits))
  | decimal {sign whole fraction exponent : List Char} (hsign : sign ∈ signs) (hwhole : ∀ d ∈ whole, d.isDigit)
    (hfraction : Fraction fraction) (hne : whole ≠ [] ∨ 1 < fraction.length) (hexponent : Exponent exponent) :
    Numeral (sign ++ (whole ++ (fraction ++ exponent)))

/-! ## Edges -/

theorem dropSign_append (h : text ≠ []) (rest : List Char) : dropSign (text ++ rest) = dropSign text ++ rest := by
  cases text with
  | nil => exact absurd rfl h
  | cons c text =>
    rw [List.cons_append, dropSign, dropSign]
    split <;> rfl

theorem splitBase_decimal {digits : List Char} (h : ∀ base ∈ ['x', 'b', 'o'], ¬ ['0', base] <+: digits) :
    splitBase digits = (10, digits) := by
  refine splitBase.eq_4 digits (fun tail heq => ?_) (fun tail heq => ?_) fun tail heq => ?_
  · exact h 'x' (by decide) ⟨tail, heq.symm⟩
  · exact h 'b' (by decide) ⟨tail, heq.symm⟩
  · exact h 'o' (by decide) ⟨tail, heq.symm⟩

theorem splitBase_edge (digits : List Char) (hedge : edge ∈ edges) (rest : List Char) :
    splitBase (digits ++ edge :: rest) = ((splitBase digits).1, (splitBase digits).2 ++ edge :: rest) := by
  by_cases hbase : ∃ base ∈ ['x', 'b', 'o'], ['0', base] <+: digits
  · obtain ⟨base, hmem, tail, rfl⟩ := hbase
    simp only [List.mem_cons, List.not_mem_nil, or_false] at hmem
    rcases hmem with rfl | rfl | rfl <;> rfl
  · have hdecimal : ∀ base ∈ ['x', 'b', 'o'], ¬ ['0', base] <+: digits := fun base hmem hprefix =>
      hbase ⟨base, hmem, hprefix⟩
    have hlonger : ∀ base ∈ ['x', 'b', 'o'], ¬ ['0', base] <+: digits ++ edge :: rest := by
      intro base hmem hprefix
      match digits with
      | [] =>
        have hzero := (List.cons_prefix_cons.1 hprefix).1
        exact absurd (hzero ▸ hedge) (by decide)
      | [c] =>
        have hletter := (List.cons_prefix_cons.1 (List.cons_prefix_cons.1 hprefix).2).1
        rw [← hletter] at hedge
        simp only [List.mem_cons, List.not_mem_nil, or_false] at hmem
        rcases hmem with rfl | rfl | rfl <;> exact absurd hedge (by decide)
      | c :: d :: digits =>
        obtain ⟨hc, hd⟩ := List.cons_prefix_cons.1 hprefix
        exact hdecimal base hmem (by rw [hc, (List.cons_prefix_cons.1 hd).1]; exact ⟨digits, rfl⟩)
    rw [splitBase_decimal hdecimal, splitBase_decimal hlonger]

theorem decimal?_edge (text : List Char) (hedge : edge ∈ edges) (rest : List Char) :
    decimal? (text ++ edge :: rest) = (decimal? text).map (· ++ edge :: rest) := by
  have hfloat : isFloatChar edge = false := false_of_mem (by decide) hedge
  rw [decimal?, decimal?, takeWhile_edge hfloat, dropWhile_edge hfloat]
  split <;> rfl

theorem integer?_edge (h : text ≠ []) (hedge : edge ∈ edges) (rest : List Char) :
    integer? (text ++ edge :: rest) = (integer? text).map (· ++ edge :: rest) := by
  have hinteger : isIntegerChar edge = false := false_of_mem (by decide) hedge
  have hhead : (text ++ edge :: rest).head? = text.head? := by
    cases text with
    | nil => exact absurd rfl h
    | cons c text => rfl
  simp only [integer?, dropSign_append h, splitBase_edge _ hedge, takeWhile_edge hinteger, dropWhile_edge hinteger, hhead,
    Option.map_bind, bind]
  cases ((splitBase (dropSign text)).2.takeWhile isIntegerChar).head? with
  | none => rfl
  | some first =>
    by_cases hfirst : first = '_'
    · simp [hfirst]
    · simp only [Option.bind_some, Function.comp_apply, if_neg hfirst]
      cases digitsValue? (splitBase (dropSign text)).1 0 ((splitBase (dropSign text)).2.takeWhile isIntegerChar) with
      | none => rfl
      | some value =>
        simp only [Option.bind_some]
        rw [apply_ite (Option.map _)]
        rfl

/-- a number is read up to its edge -/
theorem number?_edge (h : text ≠ []) (hedge : edge ∈ edges) (rest : List Char) :
    number? (text ++ edge :: rest) = (number? text).map (· ++ edge :: rest) := by
  have hinteger : isIntegerChar edge = false := false_of_mem (by decide) hedge
  have hfloat : isFloatChar edge = false := false_of_mem (by decide) hedge
  simp only [number?, dropSign_append h, takeWhile_edge hinteger, takeWhile_edge hfloat, integer?_edge h hedge,
    decimal?_edge text hedge]
  split
  · rfl
  · cases integer? text <;> rfl

/-! ## Signs and bases -/

theorem cases_signs (h : sign ∈ signs) : sign = [] ∨ sign = ['+'] ∨ sign = ['-'] := by
  simpa [signs] using h

theorem cases_bases (h : (base, marker) ∈ bases) : base = 10 ∧ marker = [] ∨ base = 2 ∧ marker = ['0', 'b'] ∨
    base = 8 ∧ marker = ['0', 'o'] ∨ base = 16 ∧ marker = ['0', 'x'] := by
  simpa [bases] using h

theorem dropSign_sign (hsign : sign ∈ signs) (h : text.head?.all fun c => !isSign c) : dropSign (sign ++ text) = text := by
  rcases cases_signs hsign with rfl | rfl | rfl
  · cases text with
    | nil => rfl
    | cons c text =>
      have hc : isSign c = false := by simpa using h
      rw [List.nil_append, dropSign, hc]
      rfl
  · rfl
  · rfl

theorem isSign_of_isDigit (h : c.isDigit) : isSign c = false := by
  rw [Bool.eq_false_iff]
  intro hsign
  have hc : c = '+' ∨ c = '-' := by simpa [isSign] using hsign
  rcases hc with rfl | rfl <;> cases h

/-! ## Integers -/

theorem isDigit_of_hexValue? {value : Nat} (h : hexValue? c = some value) (hvalue : value < 10) : c.isDigit := by
  unfold hexValue? at h
  split at h
  · assumption
  · exfalso
    split at h
    · rw [Option.some.injEq] at h
      omega
    · obtain ⟨-, h⟩ := Option.ite_none_right_eq_some.1 h
      rw [Option.some.injEq] at h
      omega

theorem Digits.isIntegerChar (h : Digits base digits values) : ∀ d ∈ digits, isIntegerChar d := by
  induction h with
  | nil => simp
  | digit hc _ _ ih => exact List.forall_mem_cons.2 ⟨by simp [Ron.isIntegerChar, hc], ih⟩
  | underscore _ ih => exact List.forall_mem_cons.2 ⟨rfl, ih⟩

/-- a number that grows too large stays at the limit -/
theorem digitsValue?_digits (hbase : 0 < base) (h : Digits base digits values) (n : Nat) :
    digitsValue? base (min n integerLimit) digits =
      some (min (values.foldl (fun n value => n * base + value) n) integerLimit) := by
  induction h generalizing n with
  | nil => rfl
  | @digit c value _ _ hc hvalue _ ih =>
    have hplain : c ≠ '_' := by
      rintro rfl
      cases hc
    have hsaturated : min (min n integerLimit * base + value) integerLimit = min (n * base + value) integerLimit := by
      rcases Nat.le_total n integerLimit with hn | hn
      · rw [Nat.min_eq_left hn]
      · have hlarge : integerLimit ≤ integerLimit * base := Nat.le_mul_of_pos_right _ hbase
        have hlarger : integerLimit * base ≤ n * base := Nat.mul_le_mul_right base hn
        rw [Nat.min_eq_right hn, Nat.min_eq_right (by omega), Nat.min_eq_right (by omega)]
    rw [digitsValue?, if_neg hplain, hc]
    dsimp only
    rw [if_pos hvalue, hsaturated, ih, List.foldl_cons]
  | underscore _ ih =>
    rw [digitsValue?, if_pos rfl]
    exact ih n

theorem splitBase_marker (hbase : (base, marker) ∈ bases) (h : Digits base digits values) :
    splitBase (marker ++ digits) = (base, digits) := by
  rcases cases_bases hbase with ⟨rfl, rfl⟩ | ⟨rfl, rfl⟩ | ⟨rfl, rfl⟩ | ⟨rfl, rfl⟩
  · refine splitBase_decimal fun letter hletter hprefix => ?_
    obtain ⟨tail, rfl⟩ := hprefix
    have hall := h.isIntegerChar letter (by simp)
    cases h with
    | digit _ _ h =>
      simp only [List.mem_cons, List.not_mem_nil, or_false] at hletter
      rcases hletter with rfl | rfl | rfl
      · cases hall
      · cases h with
        | digit hc hvalue =>
          cases hc
          exact absurd hvalue (by decide)
      · cases hall
  · rfl
  · rfl
  · rfl

/-- an integer begins with a digit -/
theorem head?_integer (hbase : (base, marker) ∈ bases) (hdigits : Digits base digits values) (hne : digits ≠ [])
    (hfirst : digits.head? ≠ some '_') : ∃ c tail, marker ++ digits = c :: tail ∧ c.isDigit := by
  rcases cases_bases hbase with ⟨rfl, rfl⟩ | ⟨rfl, rfl⟩ | ⟨rfl, rfl⟩ | ⟨rfl, rfl⟩
  · cases hdigits with
    | nil => exact absurd rfl hne
    | digit hc hvalue => exact ⟨_, _, rfl, isDigit_of_hexValue? hc hvalue⟩
    | underscore => exact absurd rfl hfirst
  · exact ⟨_, _, rfl, rfl⟩
  · exact ⟨_, _, rfl, rfl⟩
  · exact ⟨_, _, rfl, rfl⟩

theorem dropSign_integer (hsign : sign ∈ signs) (hbase : (base, marker) ∈ bases) (hdigits : Digits base digits values)
    (hne : digits ≠ []) (hfirst : digits.head? ≠ some '_') : dropSign (sign ++ (marker ++ digits)) = marker ++ digits := by
  obtain ⟨c, tail, hhead, hc⟩ := head?_integer hbase hdigits hne hfirst
  exact dropSign_sign hsign (by simp [hhead, isSign_of_isDigit hc])

theorem integer?_integer (hsign : sign ∈ signs) (hbase : (base, marker) ∈ bases) (hdigits : Digits base digits values)
    (hne : digits ≠ []) (hfirst : digits.head? ≠ some '_') (hfits : ofDigits base values < numeralLimit) :
    integer? (sign ++ (marker ++ digits)) = some [] := by
  have hbody := dropSign_integer hsign hbase hdigits hne hfirst
  have htake : digits.takeWhile isIntegerChar = digits := List.takeWhile_eq_self_iff.2 hdigits.isIntegerChar
  have hdrop : digits.dropWhile isIntegerChar = [] := List.dropWhile_eq_nil_iff.2 hdigits.isIntegerChar
  have hpositive : 0 < base := by
    rcases cases_bases hbase with ⟨rfl, -⟩ | ⟨rfl, -⟩ | ⟨rfl, -⟩ | ⟨rfl, -⟩ <;> decide
  have hvalue : digitsValue? base 0 digits = some (ofDigits base values) := by
    have hlimit : ofDigits base values ≤ integerLimit := Nat.le_trans (Nat.le_of_lt hfits) (by decide)
    have hread := digitsValue?_digits hpositive hdigits 0
    rwa [Nat.zero_min, ← ofDigits, Nat.min_eq_left hlimit] at hread
  obtain ⟨first, hfirst'⟩ : ∃ first, digits.head? = some first := by
    cases digits with
    | nil => exact absurd rfl hne
    | cons d _ => exact ⟨d, rfl⟩
  have hplain : first ≠ '_' := fun heq => hfirst (heq ▸ hfirst')
  simp only [integer?, hbody, splitBase_marker hbase hdigits, htake, hdrop, hfirst', hvalue, bind, Option.bind_some,
    if_neg hplain]
  refine if_pos ?_
  unfold numeralLimit at hfits
  split <;> omega

theorem number?_integer (hsign : sign ∈ signs) (hbase : (base, marker) ∈ bases) (hdigits : Digits base digits values)
    (hne : digits ≠ []) (hfirst : digits.head? ≠ some '_') (hfits : ofDigits base values < numeralLimit) :
    number? (sign ++ (marker ++ digits)) = some [] := by
  have hbody := dropSign_integer hsign hbase hdigits hne hfirst
  have htake : digits.takeWhile isIntegerChar = digits := List.takeWhile_eq_self_iff.2 hdigits.isIntegerChar
  have hlonger : ((marker ++ digits).takeWhile isFloatChar).length ≤
      ((marker ++ digits).takeWhile isIntegerChar).length := by
    rcases cases_bases hbase with ⟨rfl, rfl⟩ | ⟨rfl, rfl⟩ | ⟨rfl, rfl⟩ | ⟨rfl, rfl⟩
    · rw [List.nil_append, htake]
      exact (List.takeWhile_sublist _).length_le
    · exact Nat.succ_le_succ (Nat.zero_le _)
    · exact Nat.le_refl 1
    · exact Nat.le_refl 1
  rw [number?, hbody, if_neg (Nat.not_lt.2 hlonger), integer?_integer hsign hbase hdigits hne hfirst hfits]

/-! ## Decimals -/

theorem isFloatChar_of_isDigit (h : c.isDigit) : isFloatChar c := by
  rw [isFloatChar, h]
  rfl

theorem isFloatChar_sign (hsign : sign ∈ signs) : ∀ d ∈ sign, isFloatChar d := by
  rcases cases_signs hsign with rfl | rfl | rfl <;> simp [isFloatChar]

theorem Fraction.isFloatChar (h : Fraction fraction) : ∀ d ∈ fraction, isFloatChar d := by
  cases h with
  | none => simp
  | some h => exact List.forall_mem_cons.2 ⟨rfl, fun d hd => isFloatChar_of_isDigit (h d hd)⟩

theorem Exponent.isFloatChar (h : Exponent exponent) : ∀ d ∈ exponent, isFloatChar d := by
  cases h with
  | none => simp
  | some he hsign _ h =>
    refine List.forall_mem_cons.2 ⟨by rcases he with rfl | rfl <;> rfl, fun d hd => ?_⟩
    rcases List.mem_append.1 hd with hd | hd
    · exact isFloatChar_sign hsign d hd
    · exact isFloatChar_of_isDigit (h d hd)

/-- digits are taken up to the first character that is none -/
theorem takeWhile_digits (h : ∀ d ∈ digits, d.isDigit) (hrest : rest.head?.all fun c => !c.isDigit) :
    (digits ++ rest).takeWhile Char.isDigit = digits ∧ (digits ++ rest).dropWhile Char.isDigit = rest := by
  rw [List.takeWhile_append_of_pos h, List.dropWhile_append_of_pos h]
  cases rest with
  | nil => simp
  | cons c rest =>
    have hc : c.isDigit = false := by simpa using hrest
    simp [hc]

theorem Exponent.head? (h : Exponent exponent) : exponent.head?.all fun c => !c.isDigit := by
  cases h with
  | none => rfl
  | some he => rcases he with rfl | rfl <;> rfl

theorem dropSign_digits (hsign : sign ∈ signs) (hne : digits ≠ []) (h : ∀ d ∈ digits, d.isDigit) :
    dropSign (sign ++ digits) = digits := by
  cases digits with
  | nil => exact absurd rfl hne
  | cons d digits => exact dropSign_sign hsign (by simp [isSign_of_isDigit (h d List.mem_cons_self)])

/-- a decimal begins with a digit or with a point -/
theorem head?_decimal (hwhole : ∀ d ∈ whole, d.isDigit) (hfraction : Fraction fraction)
    (hne : whole ≠ [] ∨ 1 < fraction.length) (exponent : List Char) :
    ∃ c tail, whole ++ (fraction ++ exponent) = c :: tail ∧ (c.isDigit ∨ c = '.') := by
  cases whole with
  | nil =>
    cases hfraction with
    | none => simp at hne
    | some => exact ⟨_, _, rfl, .inr rfl⟩
  | cons d whole => exact ⟨_, _, rfl, .inl (hwhole d List.mem_cons_self)⟩

theorem isDecimal_decimal (hsign : sign ∈ signs) (hwhole : ∀ d ∈ whole, d.isDigit) (hfraction : Fraction fraction)
    (hne : whole ≠ [] ∨ 1 < fraction.length) (hexponent : Exponent exponent) :
    isDecimal (sign ++ (whole ++ (fraction ++ exponent))) := by
  have hbody : dropSign (sign ++ (whole ++ (fraction ++ exponent))) = whole ++ (fraction ++ exponent) := by
    obtain ⟨c, tail, hhead, hc⟩ := head?_decimal hwhole hfraction hne exponent
    refine dropSign_sign hsign ?_
    rcases hc with hc | rfl
    · simp [hhead, isSign_of_isDigit hc]
    · rw [hhead]
      rfl
  have hedge := hexponent.head?
  cases hfraction with
  | none =>
    obtain ⟨htake, hdrop⟩ := takeWhile_digits hwhole hedge
    have hsome : whole ≠ [] := by simpa using hne
    rw [List.nil_append] at hbody ⊢
    simp only [isDecimal, hbody, htake, hdrop]
    cases hexponent with
    | none => simp [hsome]
    | some he hsign' hne' h => rcases he with rfl | rfl <;> simpa [hsome, dropSign_digits hsign' hne' h, hne'] using h
  | @some digits h =>
    have hpoint : ('.' :: (digits ++ exponent)).head?.all fun c => !c.isDigit := rfl
    obtain ⟨htake, hdrop⟩ := takeWhile_digits hwhole hpoint
    obtain ⟨htake', hdrop'⟩ := takeWhile_digits h hedge
    have hsome : whole ≠ [] ∨ digits ≠ [] := by simpa [List.length_pos_iff] using hne
    rw [List.cons_append] at hbody ⊢
    simp only [isDecimal, hbody, htake, hdrop, htake', hdrop']
    cases hexponent with
    | none => simpa using hsome
    | some he hsign' hne' h =>
      rcases he with rfl | rfl <;> simpa [dropSign_digits hsign' hne' h, hne'] using And.intro hsome h

theorem isFloatChar_decimal (hsign : sign ∈ signs) (hwhole : ∀ d ∈ whole, d.isDigit) (hfraction : Fraction fraction)
    (hexponent : Exponent exponent) : ∀ d ∈ sign ++ (whole ++ (fraction ++ exponent)), isFloatChar d := by
  simp only [List.forall_mem_append]
  exact ⟨isFloatChar_sign hsign, fun d hd => isFloatChar_of_isDigit (hwhole d hd), hfraction.isFloatChar,
    hexponent.isFloatChar⟩

theorem decimal?_of_all (h : isDecimal text) (hall : ∀ d ∈ text, isFloatChar d) : decimal? text = some [] := by
  rw [decimal?, List.takeWhile_eq_self_iff.2 hall, List.dropWhile_eq_nil_iff.2 hall, if_pos h]

/-- where a decimal can be read as an integer, it is read to its end -/
theorem integer?_of_all (hfloat : ∀ d ∈ dropSign text, isFloatChar d) (hinteger : ∀ d ∈ dropSign text, isIntegerChar d)
    {left : List Char} (h : integer? text = some left) : left = [] := by
  have hbase : splitBase (dropSign text) = (10, dropSign text) := by
    refine splitBase_decimal fun letter hletter hbegins => ?_
    have hmem := hfloat letter (hbegins.subset (by simp))
    simp only [List.mem_cons, List.not_mem_nil, or_false] at hletter
    rcases hletter with rfl | rfl | rfl <;> cases hmem
  simp only [integer?, hbase, List.dropWhile_eq_nil_iff.2 hinteger, bind, Option.bind_eq_some_iff] at h
  obtain ⟨first, -, h⟩ := h
  split at h
  · cases h
  · obtain ⟨value, -, h⟩ := Option.bind_eq_some_iff.1 h
    exact (Option.some.inj (Option.ite_none_right_eq_some.1 h).2).symm

/-- a decimal is all that is read, as an integer or not -/
theorem number?_decimal (h : isDecimal text) (hall : ∀ d ∈ text, isFloatChar d) : number? text = some [] := by
  have hfloat : ∀ d ∈ dropSign text, isFloatChar d := by
    cases text with
    | nil => simp [dropSign]
    | cons c text =>
      rw [dropSign]
      split
      · exact fun d hd => hall d (List.mem_cons_of_mem c hd)
      · exact hall
  rw [number?, decimal?_of_all h hall, List.takeWhile_eq_self_iff.2 hfloat]
  split
  · rfl
  · rename_i hlonger
    have htake : (dropSign text).takeWhile isIntegerChar = dropSign text :=
      (List.takeWhile_prefix _).eq_of_length (Nat.le_antisymm (List.takeWhile_sublist _).length_le (Nat.not_lt.1 hlonger))
    cases hread : integer? text with
    | none => rfl
    | some left => rw [integer?_of_all hfloat (List.takeWhile_eq_self_iff.1 htake) hread]

/-! ## Numerals -/

/-- a numeral begins with a digit or a sign, or else it is a decimal that begins with its point -/
theorem Numeral.begins (h : Numeral text) : (∃ c tail, text = c :: tail ∧ (c.isDigit || isSign c)) ∨
    ∃ tail, text = '.' :: tail ∧ decimal? text = some [] := by
  have hsigned {sign : List Char} (hsign : sign ∈ signs) (body : List Char) :
      sign = [] ∨ ∃ c tail, sign ++ body = c :: tail ∧ (c.isDigit || isSign c) := by
    rcases cases_signs hsign with rfl | rfl | rfl
    · exact .inl rfl
    · exact .inr ⟨_, _, rfl, rfl⟩
    · exact .inr ⟨_, _, rfl, rfl⟩
  cases h with
  | integer hsign hbase hdigits hne hfirst =>
    rcases hsigned hsign _ with rfl | hfound
    · obtain ⟨c, tail, hbody, hc⟩ := head?_integer hbase hdigits hne hfirst
      exact .inl ⟨c, tail, hbody, by rw [hc, Bool.true_or]⟩
    · exact .inl hfound
  | decimal hsign hwhole hfraction hne hexponent =>
    rcases hsigned hsign _ with rfl | hfound
    · obtain ⟨c, tail, hbody, hc | rfl⟩ := head?_decimal hwhole hfraction hne _
      · exact .inl ⟨c, tail, hbody, by rw [hc, Bool.true_or]⟩
      · have hall := isFloatChar_decimal hsign hwhole hfraction hexponent
        exact .inr ⟨tail, hbody, decimal?_of_all (isDecimal_decimal hsign hwhole hfraction hne hexponent) hall⟩
    · exact .inl hfound

theorem number?_of_numeral (h : Numeral text) : number? text = some [] := by
  cases h with
  | integer hsign hbase hdigits hne hfirst hfits => exact number?_integer hsign hbase hdigits hne hfirst hfits
  | decimal hsign hwhole hfraction hne hexponent =>
    exact number?_decimal (isDecimal_decimal hsign hwhole hfraction hne hexponent)
      (isFloatChar_decimal hsign hwhole hfraction hexponent)

/-- what a value that begins with a digit, a sign or a point is read as -/
theorem number?_numeral (h : Numeral text) (hedge : edge ∈ edges) (rest : List Char) :
    (∃ c tail, text = c :: tail ∧ (c.isDigit || isSign c) ∧ number? (text ++ edge :: rest) = some (edge :: rest)) ∨
      (∃ tail, text = '.' :: tail ∧ decimal? (text ++ edge :: rest) = some (edge :: rest)) := by
  rcases h.begins with ⟨c, tail, htext, hc⟩ | ⟨tail, htext, hread⟩
  · refine .inl ⟨c, tail, htext, hc, ?_⟩
    rw [number?_edge (by simp [htext]) hedge, number?_of_numeral h]
    rfl
  · refine .inr ⟨tail, htext, ?_⟩
    rw [decimal?_edge _ hedge, hread]
    rfl

/-- behind the sign of a number comes a digit or a point -/
theorem number?_sign_letter {letter : Char} (hsign : isSign c) (hinteger : isIntegerChar letter = false)
    (hfloat : isFloatChar letter = false) (rest : List Char) : number? (c :: letter :: rest) = none := by
  have hbody : dropSign (c :: letter :: rest) = letter :: rest := by rw [dropSign, if_pos hsign]
  have hdigits : (letter :: rest).takeWhile isIntegerChar = [] := List.takeWhile_cons_of_neg (by simp [hinteger])
  have hfloats : (letter :: rest).takeWhile isFloatChar = [] := List.takeWhile_cons_of_neg (by simp [hfloat])
  have hbase : splitBase (letter :: rest) = (10, letter :: rest) := by
    refine splitBase_decimal fun base _ hprefix => ?_
    rw [← (List.cons_prefix_cons.1 hprefix).1] at hinteger
    exact absurd hinteger (by decide)
  have hnot : decimal? (c :: letter :: rest) = none := by
    have hc : c = '+' ∨ c = '-' := by simpa [isSign] using hsign
    have htake : (c :: letter :: rest).takeWhile isFloatChar = [c] := by
      rw [List.takeWhile_cons_of_pos (by rcases hc with rfl | rfl <;> rfl), hfloats]
    rw [decimal?, htake]
    rcases hc with rfl | rfl <;> rfl
  simp [number?, hbody, hdigits, hfloats, integer?, hbase, hnot]

end ScriptHost.Ron
