/-
Gaps between the parts of a RON text: spaces, comments to the end of a line, and block comments, which nest. What a gap is,
is said here without a reader (`Blank`), and the reader leaves out any of them (`skip_blank`).

What stands behind a value inside brackets begins with a gap or with one of five signs (`Follows`), and so with no character
that a name or a number could go on with (`Follows.edge`).
-/
import ScriptHost.Ron.Lexeme

namespace ScriptHost.Ron

variable {gap rest text : List Char} {c : Char}

/-! ## Texts of gaps -/

/-- the rest of a block comment, and of as many more around it as the depth says -/
inductive Closes : (depth : Nat) → List Char → Prop where
  | last : Closes 0 ['*', '/']
  | ends {depth : Nat} {text : List Char} : Closes depth text → Closes (depth + 1) ('*' :: '/' :: text)
  | begins {depth : Nat} {text : List Char} : Closes (depth + 1) text → Closes depth ('/' :: '*' :: text)
  | char {depth : Nat} {c : Char} {text : List Char} (hends : ¬(c = '*' ∧ text.head? = some '/'))
      (hbegins : ¬(c = '/' ∧ text.head? = some '*')) : Closes depth text → Closes depth (c :: text)

/-- a gap: spaces and comments, or nothing -/
inductive Blank : List Char → Prop where
  | nil : Blank []
  | space {c : Char} {gap : List Char} : isSpace c → Blank gap → Blank (c :: gap)
  | line {comment gap : List Char} : '\n' ∉ comment → Blank gap → Blank ('/' :: '/' :: (comment ++ '\n' :: gap))
  | block {comment gap : List Char} : Closes 0 comment → Blank gap → Blank ('/' :: '*' :: (comment ++ gap))

/-- a gap at the end of a text, where a last line need not be ended -/
inductive LastBlank : List Char → Prop where
  | blank {gap : List Char} : Blank gap → LastBlank gap
  | line {gap comment : List Char} : Blank gap → '\n' ∉ comment → LastBlank (gap ++ '/' :: '/' :: comment)

/-! ## Leaving them out -/

theorem ne_slash_of_isSpace (h : isSpace c) : c ≠ '/' := by
  rintro rfl
  exact absurd h (by decide)

/-- one character of a text that is not the beginning of a comment -/
theorem skip_cons (h : c ≠ '/') (rest : List Char) :
    skip (c :: rest) = if isSpace c then skip rest else some (c :: rest) := by
  rw [skip, skipGap.eq_5 c rest (fun _ hc _ => h hc) (fun _ hc _ => h hc) h]
  rfl

theorem skipGap_lineComment {comment : List Char} (h : '\n' ∉ comment) (rest : List Char) :
    skipGap .lineComment (comment ++ '\n' :: rest) = skip rest := by
  induction comment with
  | nil => simp [skipGap, skip]
  | cons c comment ih =>
    rw [List.mem_cons, not_or] at h
    rw [List.cons_append, skipGap, if_neg (Ne.symm h.1)]
    exact ih h.2

theorem skipGap_lastLine {comment : List Char} (h : '\n' ∉ comment) : skipGap .lineComment comment = some [] := by
  induction comment with
  | nil => rfl
  | cons c comment ih =>
    rw [List.mem_cons, not_or] at h
    rw [skipGap, if_neg (Ne.symm h.1)]
    exact ih h.2

theorem Closes.head?_append {depth : Nat} {comment : List Char} (h : Closes depth comment) (rest : List Char) :
    (comment ++ rest).head? = comment.head? := by
  cases h <;> rfl

theorem skipGap_blockComment {depth : Nat} {comment : List Char} (h : Closes depth comment) (rest : List Char) :
    skipGap (.blockComment depth) (comment ++ rest) = skip rest := by
  induction h with
  | last => simp [skipGap, skip]
  | ends _ ih => simpa [skipGap] using ih
  | begins _ ih => simpa [skipGap] using ih
  | @char depth c comment hends hbegins h ih =>
    rw [← h.head?_append rest] at hends hbegins
    rw [List.cons_append, skipGap.eq_12, ih]
    · exact fun _ hc hrest => hbegins ⟨hc, by rw [hrest]; rfl⟩
    · exact fun _ _ hc hrest => hends ⟨hc, by rw [hrest]; rfl⟩
    · exact fun _ _ _ hc hrest => hends ⟨hc, by rw [hrest]; rfl⟩

theorem skip_blank (h : Blank gap) (rest : List Char) : skip (gap ++ rest) = skip rest := by
  induction h with
  | nil => rfl
  | @space c gap hc _ ih => rw [List.cons_append, skip_cons (ne_slash_of_isSpace hc), if_pos hc, ih]
  | @line comment gap hcomment _ ih =>
    have hline : skip ('/' :: '/' :: (comment ++ '\n' :: (gap ++ rest))) = skip (gap ++ rest) :=
      skipGap_lineComment hcomment (gap ++ rest)
    simpa [ih] using hline
  | @block comment gap hcomment _ ih =>
    have hblock : skip ('/' :: '*' :: (comment ++ (gap ++ rest))) = skip (gap ++ rest) :=
      skipGap_blockComment hcomment (gap ++ rest)
    simpa [ih] using hblock

theorem skip_lastBlank (h : LastBlank gap) : skip gap = some [] := by
  cases h with
  | blank h =>
    have hgap := skip_blank h []
    rw [List.append_nil] at hgap
    exact hgap
  | @line gap comment h hcomment =>
    rw [skip_blank h]
    exact skipGap_lastLine hcomment

/-! ## Characters at the edge of a part -/

/-- a character that no gap begins with -/
def isSolid (c : Char) : Bool := !isSpace c && c ≠ '/'

theorem skip_of_isSolid (h : isSolid c) (rest : List Char) : skip (c :: rest) = some (c :: rest) := by
  simp only [isSolid, Bool.and_eq_true, Bool.not_eq_true', decide_eq_true_eq] at h
  rw [skip_cons h.2, h.1]
  rfl

theorem skip_blank_cons (hgap : Blank gap) (h : isSolid c) (rest : List Char) :
    skip (gap ++ c :: rest) = some (c :: rest) := by
  rw [skip_blank hgap, skip_of_isSolid h]

/-- behind a gap that was left out there is no other -/
theorem solid_of_skipGap {g : Gap} {left : List Char} (h : skipGap g text = some left) :
    left = [] ∨ ∃ c tail, left = c :: tail ∧ isSolid c := by
  fun_induction skipGap g text with
  | case1 => exact .inl (Option.some.inj h).symm
  | case4 => cases h
  | case6 c rest _ _ hslash hspace =>
    have hne : c ≠ '/' := hslash
    exact .inr ⟨c, rest, (Option.some.inj h).symm, by simp [isSolid, hspace, hne]⟩
  | case7 => exact .inl (Option.some.inj h).symm
  | case9 => cases h
  | case2 | case3 | case5 | case8 | case10 | case11 | case12 | case13 => rename_i ih; exact ih h

theorem skip_skip {left : List Char} (h : skip text = some left) : skip left = some left := by
  rcases solid_of_skipGap h with rfl | ⟨c, tail, rfl, hc⟩
  · rfl
  · exact skip_of_isSolid hc tail

/-- the signs that can stand behind a value -/
def closers : List Char := [',', ')', ']', '\x7d', ':']

/-- behind a gap comes one of the signs that can stand behind a value -/
def Follows (sign : Char) (rest : List Char) : Prop := sign ∈ closers ∧ ∃ tail, skip rest = some (sign :: tail)

/-- the characters that a gap or one of those signs begins with -/
def boundaries : List Char := [' ', '\t', '\n', '\r', '/'] ++ closers

/-- the characters that no name and no value begins with -/
def nonStarters : List Char := '#' :: boundaries

/-- the characters that a name, a number or a word ends before -/
def edges : List Char := '(' :: boundaries

theorem false_of_mem {p : Char → Bool} {chars : List Char} (hp : chars.all fun c => !p c) (h : c ∈ chars) :
    p c = false := by
  have hc := List.all_eq_true.1 hp c h
  exact Bool.eq_false_iff.2 fun htrue => absurd hc (by simp [htrue])

/-- a gap begins with one of them -/
theorem Blank.edge (h : Blank gap) (hc : c ∈ edges) (rest : List Char) :
    ∃ d tail, gap ++ c :: rest = d :: tail ∧ d ∈ edges := by
  cases h with
  | nil => exact ⟨c, rest, rfl, hc⟩
  | space hspace _ =>
    refine ⟨_, _, rfl, ?_⟩
    simp only [isSpace, Bool.or_eq_true, decide_eq_true_eq] at hspace
    rcases hspace with ((rfl | rfl) | rfl) | rfl <;> decide
  | line _ _ | block _ _ => exact ⟨'/', _, rfl, by decide⟩

theorem isSolid_of_closer (h : c ∈ closers) : isSolid c := by
  have hall : closers.all isSolid := by decide
  exact List.all_eq_true.1 hall c h

theorem follows_cons {sign : Char} (h : sign ∈ closers) (rest : List Char) : Follows sign (sign :: rest) :=
  ⟨h, rest, skip_of_isSolid (isSolid_of_closer h) rest⟩

theorem Follows.blank {sign : Char} (h : Follows sign rest) (hgap : Blank gap) : Follows sign (gap ++ rest) := by
  obtain ⟨hsign, tail, hskip⟩ := h
  exact ⟨hsign, tail, (skip_blank hgap rest).trans hskip⟩

/-- what follows a value begins with one of them -/
theorem Follows.edge {sign : Char} (h : Follows sign rest) : ∃ c tail, rest = c :: tail ∧ c ∈ edges := by
  obtain ⟨hsign, tail, hskip⟩ := h
  cases rest with
  | nil => cases hskip
  | cons c rest =>
    refine ⟨c, rest, rfl, ?_⟩
    by_cases hc : c = '/'
    · simp [hc, edges, boundaries]
    · rw [skip_cons hc] at hskip
      split at hskip
      · rename_i hspace
        simp only [isSpace, Bool.or_eq_true, decide_eq_true_eq] at hspace
        rcases hspace with ((rfl | rfl) | rfl) | rfl <;> decide
      · obtain ⟨rfl, -⟩ := List.cons.inj (Option.some.inj hskip)
        exact List.mem_cons_of_mem _ (List.mem_append_right _ hsign)

end ScriptHost.Ron
