/-
What a library that reads RON is documented to do (`Deserializer.Documented`): it reads the texts of the grammar as the values
that they write, and it reads values of the types that a program asks for, exactly those. A struct may leave its name out and
may write fields that nobody knows; a known field that is written twice is an error.

- `documented_deserializer`: the readers of this development are such a library.
-/
import ScriptHost.Proofs.Ron.Values

namespace ScriptHost.Ron

/-! ## Values of a type -/

/-- a list of texts as a value -/
def ofTexts (texts : List String) : Value := .list (texts.map .string)

/-- a list of pairs as a value -/
def ofPairs (pairs : List (String × String)) : Value := .map (pairs.map fun (key, value) => (.string key, .string value))

/-- a struct of some name and its fields; the name can be left out, and a struct without fields can be the unit -/
inductive Struct (name : String) : Value → List (String × Value) → Prop where
  | unit : Struct name .unit []
  | empty {title : Option String} (h : title.all (· = name)) : Struct name (.tuple title []) []
  | fields {title : Option String} {fields : List (String × Value)} (h : title.all (· = name)) :
    Struct name (.record title fields) fields

/-- the values of the fields of one name, in the order in which they are written -/
def written (fields : List (String × Value)) (name : String) : List Value := (fields.filter (·.1 = name)).map (·.2)

/-- the library reads RON as it is documented -/
structure Deserializer.Documented (r : Deserializer) : Prop where
  /-- a text of the grammar is read as the value that it writes -/
  document {v : Value} {text : List Char} (h : Document v text) : r.value (String.ofList text) = .ok v
  /-- strings are texts, and nothing else is -/
  text {v : Value} {s : String} : r.text v = .ok s ↔ v = .string s
  texts {v : Value} {texts : List String} : r.texts v = .ok texts ↔ v = ofTexts texts
  entries {v : Value} {pairs : List (String × String)} : r.entries v = .ok pairs ↔ v = ofPairs pairs
  /-- the known fields of a struct are read, each of them once at most, and the others are left out -/
  fields {name : String} {known : List String} {v : Value} {fields : List (String × Value)} :
    r.fields name known v = .ok fields ↔ ∃ all, Struct name v all ∧ (∀ k ∈ known, (written all k).length ≤ 1) ∧
      fields = all.filter (·.1 ∈ known)

/-! ## The library of this development -/

section

variable {v : Value}

theorem Value.text?_eq_some {s : String} : v.text? = some s ↔ v = .string s := by
  cases v <;> simp [text?]

/-- items that are read one by one are the written ones -/
theorem mapM_eq_some {α β : Type} {read : α → Option β} {write : β → α} (h : ∀ a b, read a = some b ↔ a = write b)
    {items : List α} {results : List β} : items.mapM read = some results ↔ items = results.map write := by
  induction items generalizing results with
  | nil => cases results <;> simp
  | cons a items ih =>
    cases results with
    | nil => simp [List.mapM_cons, Option.bind_eq_some_iff]
    | cons b results => simp [List.mapM_cons, Option.bind_eq_some_iff, h, ih]

theorem Value.texts?_eq_some {texts : List String} : v.texts? = some texts ↔ v = ofTexts texts := by
  cases v with
  | list items => rw [texts?, mapM_eq_some fun _ _ => text?_eq_some, ofTexts, Value.list.injEq]
  | _ => simp [texts?, ofTexts]

theorem Value.entries?_eq_some {pairs : List (String × String)} : v.entries? = some pairs ↔ v = ofPairs pairs := by
  cases v with
  | map entries =>
    have hpair (entry : Value × Value) (pair : String × String) :
        (do return (← entry.1.text?, ← entry.2.text?) : Option (String × String)) = some pair ↔
          entry = (.string pair.1, .string pair.2) := by
      simp [Option.bind_eq_some_iff, text?_eq_some, Prod.ext_iff]
    rw [ofPairs, Value.map.injEq]
    exact mapM_eq_some hpair
  | _ => simp [entries?, ofPairs]

theorem Value.allFields?_eq_some {name : String} {all : List (String × Value)} :
    v.allFields? name = some all ↔ Struct name v all := by
  constructor
  · intro h
    unfold allFields? at h
    split at h
    · cases h
      exact .unit
    · obtain ⟨htitle, h⟩ := Option.ite_none_right_eq_some.1 h
      cases h
      exact .empty htitle
    · obtain ⟨htitle, h⟩ := Option.ite_none_right_eq_some.1 h
      cases h
      exact .fields htitle
    · cases h
  · rintro (_ | htitle | htitle)
    · rfl
    · exact if_pos htitle
    · exact if_pos htitle

/-- a struct has one list of fields -/
theorem Struct.unique {name : String} {all all' : List (String × Value)} (h : Struct name v all) (h' : Struct name v all') :
    all = all' :=
  Option.some.inj ((Value.allFields?_eq_some.2 h).symm.trans (Value.allFields?_eq_some.2 h'))

theorem length_written (all : List (String × Value)) (name : String) :
    (written all name).length = all.countP (·.1 = name) := by
  rw [written, List.length_map, List.countP_eq_length_filter]

theorem Value.fields?_eq_some {name : String} {known : List String} {fields : List (String × Value)} :
    v.fields? name known = some fields ↔ ∃ all, Struct name v all ∧ (∀ k ∈ known, (written all k).length ≤ 1) ∧
      fields = all.filter (·.1 ∈ known) := by
  have hcount {all : List (String × Value)} {k : String} (hk : k ∈ known) :
      (all.filter (·.1 ∈ known)).countP (·.1 = k) = (written all k).length := by
    rw [length_written, List.countP_filter]
    refine List.countP_congr fun field _ => ?_
    simp only [Bool.and_eq_true, decide_eq_true_eq, and_iff_left_iff_imp]
    rintro rfl
    exact hk
  have honce (all : List (String × Value)) :
      (known.all fun k => (all.filter (·.1 ∈ known)).countP (·.1 = k) ≤ 1) ↔ ∀ k ∈ known, (written all k).length ≤ 1 := by
    simp only [List.all_eq_true, decide_eq_true_eq]
    exact forall₂_congr fun k hk => by rw [hcount hk]
  simp only [fields?, bind, Option.bind_eq_some_iff, allFields?_eq_some, Option.ite_none_right_eq_some, honce,
    Option.some.injEq, eq_comm (b := fields)]

theorem orElse_eq_ok {α : Type} {reason : String} {answer : Option α} {a : α} :
    orElse reason answer = .ok a ↔ answer = some a := by
  cases answer <;> simp [orElse]

end

/-- the readers of this development are a library that reads RON as it is documented -/
theorem documented_deserializer : deserializer.Documented where
  document h := orElse_eq_ok.2 (parse_document h)
  text := orElse_eq_ok.trans Value.text?_eq_some
  texts := orElse_eq_ok.trans Value.texts?_eq_some
  entries := orElse_eq_ok.trans Value.entries?_eq_some
  fields := orElse_eq_ok.trans Value.fields?_eq_some

end ScriptHost.Ron
