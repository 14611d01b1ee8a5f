/-
Newlines at the end of a text. While a text is read, a draft stands for the characters that were read so far
(`Draft.chars_push`) and never writes a newline before a character that follows it (`Draft.trimmed_push`). So a text is
its trimmed text with some newlines behind it, and the trimmed text does not end in one.

- `trimNewlines_append`: the newlines that were left out.
- `getLast?_trimNewlines`: none is left at the end.
- `toList_trimNewlines`: no other text is that, so trimming is dropping from the right while there are newlines.
-/
import Mathlib.Data.List.DropRight
import ScriptHost.Text.Utf8

namespace ScriptHost.Text

theorem toList_pushn (text : String) (c : Char) (n : Nat) :
    (text.pushn c n).toList = text.toList ++ List.replicate n c := by
  rw [String.pushn_eq_repeat_push]
  induction n with
  | zero => rw [Nat.repeat, List.replicate_zero, List.append_nil]
  | succ n ih => rw [Nat.repeat, String.toList_push, ih, List.append_assoc, List.replicate_succ']

/-! ## Drafts -/

namespace Draft

/-- the characters that a draft stands for -/
def chars (d : Draft) : List Char := d.text.toList ++ List.replicate d.newlines '\n'

/-- the text that was written does not end in a newline -/
def Trimmed (d : Draft) : Prop := d.text.toList.getLast? ≠ some '\n'

theorem chars_push (d : Draft) (c : Char) : (d.push c).chars = d.chars ++ [c] := by
  unfold push
  split
  · rename_i hc
    subst hc
    rw [chars, chars, List.replicate_succ', List.append_assoc]
  · rw [chars, List.replicate_zero, List.append_nil, String.toList_push, toList_pushn, chars]

theorem trimmed_push {d : Draft} (h : d.Trimmed) (c : Char) : (d.push c).Trimmed := by
  unfold push
  split
  · exact h
  · rename_i hc
    rw [Trimmed, String.toList_push, List.getLast?_concat]
    exact fun hlast => hc (Option.some.inj hlast)

theorem chars_foldl (cs : List Char) (d : Draft) : (cs.foldl push d).chars = d.chars ++ cs := by
  induction cs generalizing d with
  | nil => rw [List.foldl_nil, List.append_nil]
  | cons c rest ih => rw [List.foldl_cons, ih, chars_push, List.append_assoc, List.singleton_append]

theorem trimmed_foldl (cs : List Char) {d : Draft} (h : d.Trimmed) : (cs.foldl push d).Trimmed := by
  induction cs generalizing d with
  | nil => exact h
  | cons c rest ih => exact ih (trimmed_push h c)

end Draft

/-! ## Texts -/

/-- behind the trimmed text stood newlines -/
theorem trimNewlines_append (text : String) : ∃ n, text = (trimNewlines text).pushn '\n' n := by
  have hchars := Draft.chars_foldl text.toList {}
  refine ⟨(text.toList.foldl Draft.push {}).newlines, ?_⟩
  rw [← String.toList_inj, toList_pushn, trimNewlines, String.foldl_eq_foldl_toList]
  exact hchars.symm

theorem getLast?_trimNewlines (text : String) : (trimNewlines text).toList.getLast? ≠ some '\n' := by
  have hempty : ({} : Draft).Trimmed := nofun
  rw [trimNewlines, String.foldl_eq_foldl_toList]
  exact Draft.trimmed_foldl text.toList hempty

/-- what stands before the newlines at the end of a list is found by dropping them -/
theorem rdropWhile_append_replicate {cs : List Char} (h : cs.getLast? ≠ some '\n') (n : Nat) :
    (cs ++ List.replicate n '\n').rdropWhile (· = '\n') = cs := by
  induction n with
  | zero =>
    rw [List.replicate_zero, List.append_nil, List.rdropWhile_eq_self_iff]
    intro hcs hlast
    rw [List.getLast?_eq_some_getLast hcs, of_decide_eq_true hlast] at h
    exact h rfl
  | succ n ih =>
    have hnewline : decide ('\n' = '\n') = true := decide_eq_true rfl
    rw [List.replicate_succ', ← List.append_assoc, List.rdropWhile_concat_pos (· = '\n') _ _ hnewline, ih]

theorem toList_trimNewlines (text : String) :
    (trimNewlines text).toList = text.toList.rdropWhile (· = '\n') := by
  obtain ⟨n, hn⟩ := trimNewlines_append text
  have hchars : text.toList = (trimNewlines text).toList ++ List.replicate n '\n' := by
    rw [← toList_pushn, ← hn]
  rw [hchars, rdropWhile_append_replicate (getLast?_trimNewlines text)]

end ScriptHost.Text
