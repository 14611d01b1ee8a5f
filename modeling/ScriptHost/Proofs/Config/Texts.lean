/-
Texts of configurations, read with any library that does what it is documented to do. Whatever text writes some fields of a
configuration, in any order, with any gaps and commas and among any other fields, it is read as these fields and the defaults;
and there is such a text for every choice of fields and every way to write strings (`Config.print`). Whatever else the library
reads is refused, and so is a text that it cannot read at all.

- `texts_override`: all of this.
-/
import Mathlib.Data.List.Nodup
import ScriptHost.Proofs.Config.Fields

namespace ScriptHost

open Ron (Value Deserializer Struct written ofTexts ofPairs Document StringLiteral Spelled)

/-! ## Structs -/

/-- a struct with some fields, or the unit if it has none -/
def structOf (fields : List (String × Value)) : Value := if fields = [] then .unit else .record none fields

theorem struct_structOf (name : String) (fields : List (String × Value)) : Struct name (structOf fields) fields := by
  rw [structOf]
  split
  · rename_i hnone
    rw [hnone]
    exact .unit
  · exact .fields rfl

section

variable {F : Type} {fields : List F} {name : F → String} {value : F → Value} {print : F → List Char}

/-- fields in round brackets, with their names in front of them -/
def printStruct (name : F → String) (print : F → List Char) (fields : List F) : List Char :=
  '(' :: (Ron.listed (fun f => (name f).toList ++ ':' :: print f) fields ++ [')'])

theorem spelled_printStruct {budget : Nat} (hname : ∀ f, Ron.Named (name f) (name f).toList)
    (hvalue : ∀ f ∈ fields, Spelled budget (value f) (print f)) :
    Spelled (budget + 2) (structOf (fields.map fun f => (name f, value f))) (printStruct name print fields) := by
  rw [structOf]
  split
  · rename_i hnone
    rw [List.map_eq_nil_iff.1 hnone]
    exact .unit
  · rename_i hsome
    have hentries : ∀ f ∈ fields, Ron.Entry Ron.Named (Spelled budget) (name f, value f)
        ((name f).toList ++ ':' :: print f) := fun f hf => .of_texts (hname f) (hvalue f hf)
    exact .record rfl .none (Ron.separated_listed hentries) hsome

theorem document_printStruct (hname : ∀ f, Ron.Named (name f) (name f).toList)
    (hvalue : ∀ f ∈ fields, Spelled 126 (value f) (print f)) :
    Document (structOf (fields.map fun f => (name f, value f))) (printStruct name print fields) := by
  have hbracketed : (structOf (fields.map fun f => (name f, value f))).isBracketed := by
    rw [structOf]
    split <;> rfl
  have hdocument := Document.intro .nil (spelled_printStruct hname hvalue) hbracketed (.blank .nil)
  rwa [List.append_nil] at hdocument

theorem written_cons (first : String) (v : Value) (rest : List (String × Value)) (name : String) :
    written ((first, v) :: rest) name = if first = name then v :: written rest name else written rest name := by
  rw [written, List.filter_cons]
  split
  · rename_i h
    rw [if_pos (by simpa using h)]
    rfl
  · rename_i h
    rw [if_neg (by simpa using h)]
    rfl

/-- a field is written as often as it is listed -/
theorem written_fields [DecidableEq F] (hname : Function.Injective name) (f : F) :
    written (fields.map fun f => (name f, value f)) (name f) = List.replicate (fields.count f) (value f) := by
  induction fields with
  | nil => rfl
  | cons first rest ih =>
    rw [List.map_cons, written_cons, List.count_cons, ih]
    by_cases hfirst : first = f
    · rw [if_pos (congrArg name hfirst), if_pos (beq_iff_eq.2 hfirst), List.replicate_succ, hfirst]
    · rw [if_neg fun heq => hfirst (hname heq), if_neg (mt beq_iff_eq.1 hfirst), Nat.add_zero]

theorem written_once [DecidableEq F] (hname : Function.Injective name) (hnodup : fields.Nodup) (f : F) :
    written (fields.map fun f => (name f, value f)) (name f) = if f ∈ fields then [value f] else [] := by
  rw [written_fields hname]
  split
  · rename_i hmem
    rw [List.count_eq_one_of_mem hnodup hmem]
    rfl
  · rename_i hmem
    rw [List.count_eq_zero_of_not_mem hmem]
    rfl

end

/-! ## Printing -/

namespace ExportNames

theorem Field.name_injective : Function.Injective Field.name := by
  intro f f' h
  revert h
  cases f <;> cases f' <;> decide

theorem Field.named (f : Field) : Ron.Named f.name f.name.toList := by
  cases f <;> exact Ron.named_toList (by decide) (by decide)

variable (spell : String → List Char) (names : ExportNames) (fields : List Field)

/-- some names of exports as a value -/
def valueOf : Value := structOf (fields.map fun f => (f.name, .string (names.get f)))

/-- some names of exports as text -/
def print : List Char := printStruct Field.name (fun f => spell (names.get f)) fields

theorem writes_valueOf (hnodup : fields.Nodup) : names.Writes (fun f => decide (f ∈ fields)) (names.valueOf fields) := by
  refine ⟨_, struct_structOf _ _, fun f => ?_⟩
  rw [written_once Field.name_injective hnodup]
  simp only [decide_eq_true_eq]

theorem spelled_print (hspell : ∀ s, StringLiteral s (spell s)) (budget : Nat) :
    Spelled (budget + 2) (names.valueOf fields) (names.print spell fields) :=
  spelled_printStruct Field.named fun f _ => Ron.spelled_string (hspell (names.get f)) budget

end ExportNames

namespace Config

theorem Field.name_injective : Function.Injective Field.name := by
  intro f f' h
  revert h
  cases f <;> cases f' <;> decide

theorem Field.named (f : Field) : Ron.Named f.name f.name.toList := by
  cases f <;> exact Ron.named_toList (by decide) (by decide)

variable (spell : String → List Char) (c : Config) (fields : List Field) (exports : List ExportNames.Field)

/-- a field as a value, with some names of exports -/
def valueOfField : Field → Value
  | .args => ofTexts c.args
  | .env => ofPairs c.env.toList
  | .sceneNamespace => .string c.sceneNamespace
  | .exports => c.exports.valueOf exports

/-- a field as text -/
def printField : Field → List Char
  | .args => '[' :: (Ron.listed spell c.args ++ [']'])
  | .env => '\x7b' :: (Ron.listed (fun (key, value) => spell key ++ ':' :: spell value) c.env.toList ++ ['\x7d'])
  | .sceneNamespace => spell c.sceneNamespace
  | .exports => c.exports.print spell exports

/-- some fields as a value -/
def valueOf : Value := structOf (fields.map fun f => (f.name, c.valueOfField exports f))

/-- some fields as text, in the given order and with the given spelling of strings -/
def print : List Char := printStruct Field.name (c.printField spell exports) fields

theorem lookup_eq_some_iff {pairs : List (String × String)} (h : pairs.Pairwise fun a b => a.1 ≠ b.1)
    {key value : String} : pairs.lookup key = some value ↔ (key, value) ∈ pairs := by
  induction pairs with
  | nil => simp
  | cons pair rest ih =>
    obtain ⟨hfirst, hrest⟩ := List.pairwise_cons.1 h
    rw [List.lookup_cons, List.mem_cons, ← ih hrest, Prod.ext_iff]
    by_cases hkey : key = pair.1
    · have hlater : rest.lookup key ≠ some value := fun hlookup =>
        hfirst (key, value) ((ih hrest).1 hlookup) hkey.symm
      simp only [hkey, BEq.rfl, Option.some.injEq, true_and]
      rw [hkey] at hlater
      simp [hlater, eq_comm]
    · simp [hkey, beq_false_of_ne hkey]

theorem lastCounts_toList (map : Std.ExtTreeMap String String) : LastCounts map map.toList := by
  have hdistinct : map.toList.Pairwise fun a b => a.1 ≠ b.1 :=
    Std.ExtTreeMap.distinct_keys_toList.imp fun hcompare hkey => hcompare (Std.compare_eq_iff_eq.2 hkey)
  intro key
  refine Option.ext fun value => ?_
  rw [lookup_eq_some_iff (List.pairwise_reverse.2 (hdistinct.imp Ne.symm)), List.mem_reverse]
  exact Std.ExtTreeMap.mem_toList_iff_getElem?_eq_some.symm

theorem writes_valueOf (hfields : fields.Nodup) (hexports : exports.Nodup) :
    c.Writes (fun f => decide (f ∈ fields)) (fun f => decide (f ∈ exports)) (c.valueOf fields exports) := by
  have hfield (f : Field) : c.WritesField (fun f => decide (f ∈ exports)) (c.valueOfField exports f) f := by
    cases f with
    | args => rfl
    | env => exact ⟨c.env.toList, rfl, lastCounts_toList c.env⟩
    | sceneNamespace => rfl
    | exports => exact c.exports.writes_valueOf exports hexports
  refine ⟨_, struct_structOf _ _, fun f => ?_⟩
  rw [written_once Field.name_injective hfields]
  simp only [decide_eq_true_eq]
  split
  · exact ⟨_, rfl, hfield f⟩
  · rfl

theorem spelled_printField (hspell : ∀ s, StringLiteral s (spell s)) (f : Field) (budget : Nat) :
    Spelled (budget + 2) (c.valueOfField exports f) (c.printField spell exports f) := by
  cases f with
  | args => exact .list rfl (Ron.separated_listed fun s _ => Ron.spelled_string (hspell s) budget)
  | env =>
    refine .map rfl (Ron.separated_listed fun pair _ => ?_)
    exact .of_texts (Ron.spelled_string (hspell pair.1) budget) (Ron.spelled_string (hspell pair.2) budget)
  | sceneNamespace => exact Ron.spelled_string (hspell c.sceneNamespace) (budget + 2)
  | exports => exact c.exports.spelled_print spell exports hspell budget

/-- what is printed is the text of a value -/
theorem document_print (hspell : ∀ s, StringLiteral s (spell s)) :
    Document (c.valueOf fields exports) (c.print spell fields exports) :=
  document_printStruct Field.named fun f _ => c.spelled_printField spell exports hspell f 124

/-! ## Refusals -/

/-- the text is an error, with the reason that the library gives -/
def Refuses (r : Deserializer) (text : String) : Prop := ∃ reason, parse r text = .error (.badConfig reason)

section

variable {r : Deserializer} {text : String} {v x : Value} {outer inner : List (String × Value)}

theorem parse_eq_ok {c : Config} : parse r text = .ok c ↔ ∃ v, r.value text = .ok v ∧ ofValue r v = .ok c := by
  rw [← bind_eq_ok, parse]
  cases r.value text >>= ofValue r <;> simp [Except.mapError]

/-- a text is read, or it is refused -/
theorem refuses_of_ne_ok (h : ∀ c, parse r text ≠ .ok c) : Refuses r text := by
  unfold parse at h
  rw [Refuses, parse]
  cases hread : r.value text >>= ofValue r with
  | error reason => exact ⟨reason, rfl⟩
  | ok c => exact absurd (congrArg (Except.mapError _) hread) (h c)

theorem refuses_of_value (hv : r.value text = .ok v) (h : ∀ c, ofValue r v ≠ .ok c) : Refuses r text := by
  refine refuses_of_ne_ok fun c hc => ?_
  obtain ⟨v', hv', hc⟩ := parse_eq_ok.1 hc
  rw [hv, Except.ok.injEq] at hv'
  exact h c (hv' ▸ hc)

/-- a field that is written twice is refused -/
theorem refuses_of_twice (hr : r.Documented) (hv : r.value text = .ok v) (hstruct : Struct "ScriptConfig" v outer)
    {f : Field} (htwice : 2 ≤ (written outer f.name).length) : Refuses r text := by
  refine refuses_of_value hv fun c hc => ?_
  rcases fits_of_ofValue hr hc hstruct f with hnone | ⟨x, hone, -⟩
  · simp [hnone] at htwice
  · simp [hone] at htwice

/-- a field of another shape is refused -/
theorem refuses_of_unfit (hr : r.Documented) (hv : r.value text = .ok v) (hstruct : Struct "ScriptConfig" v outer)
    {f : Field} (hx : x ∈ written outer f.name) (hunfit : ¬ Fits x f) : Refuses r text := by
  refine refuses_of_value hv fun c hc => ?_
  rcases fits_of_ofValue hr hc hstruct f with hnone | ⟨x', hone, hfits⟩
  · rw [hnone] at hx
    cases hx
  · rw [hone, List.mem_singleton] at hx
    exact hunfit (hx ▸ hfits)

/-- a number is none of the values that a field can have -/
example (hr : r.Documented) (f : Field) :
    Refuses r (String.ofList (printStruct Field.name (fun _ => ['3']) [f])) := by
  have hdigit : ∀ d ∈ ['3'], d.isDigit := List.forall_mem_singleton.2 rfl
  have hthree : Ron.Numeral ([] ++ (['3'] ++ ([] ++ []))) := .decimal List.mem_cons_self hdigit .none (by simp) .none
  have hspelled : Spelled 126 .number ['3'] := .number hthree
  have hv := hr.document (document_printStruct Field.named fun g (_ : g ∈ [f]) => hspelled)
  refine refuses_of_unfit hr hv (struct_structOf _ _) (f := f) (x := .number) ?_ ?_
  · rw [written_fields Field.name_injective]
    simp
  · rintro ⟨c, exports, h⟩
    cases f with
    | args | sceneNamespace => cases h
    | env =>
      obtain ⟨pairs, h, -⟩ := h
      cases h
    | exports =>
      obtain ⟨fields, h, -⟩ := h
      cases h

/-- a name of an export that is written twice is refused -/
theorem refuses_of_twice_inside (hr : r.Documented) (hv : r.value text = .ok v)
    (hstruct : Struct "ScriptConfig" v outer) (hx : x ∈ written outer Field.exports.name)
    (hinner : Struct "ScriptExportNames" x inner) {f : ExportNames.Field}
    (htwice : 2 ≤ (written inner f.name).length) : Refuses r text :=
  refuses_of_unfit hr hv hstruct hx fun hfits => Nat.not_le.2 htwice (once_of_fits hfits hinner f)

end

/-- fields that are printed twice are refused -/
theorem refuses_print_of_twice {r : Deserializer} (hr : r.Documented) (hspell : ∀ s, StringLiteral s (spell s))
    (h : ¬ fields.Nodup ∨ .exports ∈ fields ∧ ¬ exports.Nodup) :
    Refuses r (String.ofList (c.print spell fields exports)) := by
  have hv := hr.document (c.document_print spell fields exports hspell)
  have htwice {F : Type} [DecidableEq F] {fields : List F} (h : ¬ fields.Nodup) : ∃ f, 2 ≤ fields.count f := by
    simpa [List.nodup_iff_count_le_one, Nat.not_le, Nat.lt_iff_add_one_le] using h
  rcases h with hfields | ⟨hmem, hexports⟩
  · obtain ⟨f, hf⟩ := htwice hfields
    refine refuses_of_twice hr hv (struct_structOf _ _) (f := f) ?_
    rwa [written_fields Field.name_injective, List.length_replicate]
  · obtain ⟨f, hf⟩ := htwice hexports
    have hx : c.exports.valueOf exports ∈
        written (fields.map fun f => (f.name, c.valueOfField exports f)) Field.exports.name := by
      rw [written_fields Field.name_injective, List.mem_replicate]
      exact ⟨Nat.ne_of_gt (List.count_pos_iff.2 hmem), rfl⟩
    refine refuses_of_twice_inside hr hv (struct_structOf _ _) hx (struct_structOf _ _) (f := f) ?_
    rwa [written_fields ExportNames.Field.name_injective, List.length_replicate]

/-! ## Reading -/

/-- how texts of configurations are read with a library -/
structure TextsOverride (r : Deserializer) : Prop where
  /-- a text that writes the chosen fields of a configuration gives them their values, and every other field its default -/
  overrides (c : Config) (chosen : Field → Bool) (exports : ExportNames.Field → Bool) (v : Value) (text : List Char)
    (hwrites : c.Writes chosen exports v) (htext : Document v text) :
    parse r (String.ofList text) = .ok (c.only chosen exports)
  /-- such texts are printed for any configuration, with any of its fields in any order and with any spelling of strings -/
  printed (c : Config) (fields : List Field) (exports : List ExportNames.Field) (spell : String → List Char)
    (hspell : ∀ s, StringLiteral s (spell s)) (hfields : fields.Nodup) (hexports : exports.Nodup) :
    parse r (String.ofList (c.print spell fields exports)) =
      .ok (c.only (fun f => decide (f ∈ fields)) fun f => decide (f ∈ exports))
  /-- every string has a spelling in double quotes and one that is raw -/
  spellings (s : String) : (∃ text, StringLiteral s ('"' :: text)) ∧ ∃ text, StringLiteral s ('r' :: text)
  /-- of the values that an environment gives a key, the last one counts -/
  lastCounts (pairs : List (String × String)) : ∃ env, environment r (ofPairs pairs) = .ok env ∧ LastCounts env pairs
  /-- no field of a configuration is written twice -/
  once (text : String) (v : Value) (fields : List (String × Value)) (f : Field) (hv : r.value text = .ok v)
    (hstruct : Struct "ScriptConfig" v fields) (htwice : 2 ≤ (written fields f.name).length) : Refuses r text
  /-- neither is one of the names of its exports -/
  onceInside (text : String) (v x : Value) (fields inner : List (String × Value)) (f : ExportNames.Field)
    (hv : r.value text = .ok v) (hstruct : Struct "ScriptConfig" v fields)
    (hx : x ∈ written fields Field.exports.name) (hinner : Struct "ScriptExportNames" x inner)
    (htwice : 2 ≤ (written inner f.name).length) : Refuses r text
  /-- what is printed with a field twice, at either level, is refused -/
  printedTwice (c : Config) (fields : List Field) (exports : List ExportNames.Field) (spell : String → List Char)
    (hspell : ∀ s, StringLiteral s (spell s)) (h : ¬ fields.Nodup ∨ .exports ∈ fields ∧ ¬ exports.Nodup) :
    Refuses r (String.ofList (c.print spell fields exports))
  /-- every field has the shape that it needs -/
  fits (text : String) (v x : Value) (fields : List (String × Value)) (f : Field) (hv : r.value text = .ok v)
    (hstruct : Struct "ScriptConfig" v fields) (hx : x ∈ written fields f.name) (hunfit : ¬ Fits x f) : Refuses r text
  /-- what is read is written whole -/
  whole (text : String) (c : Config) (h : parse r text = .ok c) :
    ∃ v chosen exports, r.value text = .ok v ∧ c.Writes chosen exports v ∧ c.only chosen exports = c
  /-- there is no other error -/
  refused (text : String) (h : ∀ c, parse r text ≠ .ok c) : Refuses r text

/-- **Partial configurations.** With a library that reads RON as documented, the fields that a text writes are overridden and no
others; and a text that writes a field twice, or in another shape, leaves no configuration. -/
theorem texts_override (r : Deserializer) (hr : r.Documented) : TextsOverride r where
  overrides c chosen exports v text hwrites htext :=
    parse_eq_ok.2 ⟨v, hr.document htext, ofValue_of_writes hr hwrites⟩
  printed c fields exports spell hspell hfields hexports :=
    parse_eq_ok.2 ⟨_, hr.document (c.document_print spell fields exports hspell),
      ofValue_of_writes hr (c.writes_valueOf fields exports hfields hexports)⟩
  spellings s := ⟨⟨_, Ron.stringLiteral_quoted s⟩, ⟨_, Ron.stringLiteral_raw s⟩⟩
  lastCounts pairs :=
    have hlast := lastCounts_ofEntries pairs
    ⟨_, (environment_eq_ok hr).2 ⟨pairs, rfl, hlast⟩, hlast⟩
  once _ _ _ _ hv hstruct htwice := refuses_of_twice hr hv hstruct htwice
  onceInside _ _ _ _ _ _ hv hstruct hx hinner htwice := refuses_of_twice_inside hr hv hstruct hx hinner htwice
  printedTwice c fields exports spell hspell h := c.refuses_print_of_twice spell fields exports hr hspell h
  fits _ _ _ _ _ hv hstruct hx hunfit := refuses_of_unfit hr hv hstruct hx hunfit
  whole text c h := by
    obtain ⟨v, hv, hc⟩ := parse_eq_ok.1 h
    obtain ⟨chosen, exports, hwrites, honly⟩ := writes_of_ofValue hr hc
    exact ⟨v, chosen, exports, hv, hwrites, honly⟩
  refused _ h := refuses_of_ne_ok h

/-- a text with two fields of five, and one with the same field twice -/
theorem texts_override_scene :
    parse Ron.deserializer "(abi_namespace:\"scene\",exports:(on_update:\"tick\",),)" =
      .ok { sceneNamespace := "scene", exports := { onUpdate := "tick" } } ∧
    Refuses Ron.deserializer "(args:[],args:[],)" := by
  have hread := (texts_override Ron.deserializer Ron.documented_deserializer).printed
    { sceneNamespace := "scene", exports := { onUpdate := "tick" } } [.sceneNamespace, .exports] [.onUpdate] Ron.quoted
    Ron.stringLiteral_quoted (by decide) (by decide)
  have htwice := (texts_override Ron.deserializer Ron.documented_deserializer).printedTwice {} [.args, .args] []
    Ron.quoted Ron.stringLiteral_quoted (.inl (by decide))
  exact ⟨hread, htwice⟩

end Config

end ScriptHost
