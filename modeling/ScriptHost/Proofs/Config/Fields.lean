/-
Configurations that are written in part. A configuration is read from the value that a text writes, field by field, and each
field is looked up by its name alone (`written`); so neither the order of the fields nor what else is written matters. What
each field can be written as is said here without a reader (`Config.Writes`), and a library that does what it is documented
to do reads a value as a configuration exactly if it writes one. There is nothing between: a field that is written twice or in
another shape leaves no configuration at all.

- `ofValue_of_writes`: a value that writes some fields is read as these, with the default for every other field.
- `writes_of_ofValue`: whatever is read as a configuration writes some of its fields, and the others have their defaults.
-/
import Std.Data.ExtTreeMap.Lemmas
import ScriptHost.Config
import ScriptHost.Proofs.Ron.Documented

namespace ScriptHost

open Ron (Value Deserializer Struct written ofTexts ofPairs)

/-! ## Fields -/

inductive ExportNames.Field where
  | entryPoint | onStart | onUpdate | onSelect | onEvent
deriving DecidableEq

inductive Config.Field where
  | args | env | sceneNamespace | exports
deriving DecidableEq

namespace ExportNames

/-- the name under which a field is written -/
def Field.name : Field → String
  | entryPoint => "entry_point"
  | onStart => "on_start"
  | onUpdate => "on_update"
  | onSelect => "on_select"
  | onEvent => "on_event"

theorem Field.name_mem_known (f : Field) : f.name ∈ known := by
  cases f <;> decide

theorem exists_field {name : String} (h : name ∈ known) : ∃ f : Field, f.name = name := by
  simp only [known, List.mem_cons, List.not_mem_nil, or_false] at h
  rcases h with rfl | rfl | rfl | rfl | rfl
  · exact ⟨.entryPoint, rfl⟩
  · exact ⟨.onStart, rfl⟩
  · exact ⟨.onUpdate, rfl⟩
  · exact ⟨.onSelect, rfl⟩
  · exact ⟨.onEvent, rfl⟩

def get (names : ExportNames) : Field → String
  | .entryPoint => names.entryPoint
  | .onStart => names.onStart
  | .onUpdate => names.onUpdate
  | .onSelect => names.onSelect
  | .onEvent => names.onEvent

/-- the names that are chosen, and the default for the others -/
def only (names : ExportNames) (chosen : Field → Bool) : ExportNames :=
  let pick (f : Field) := if chosen f then names.get f else get {} f
  { entryPoint := pick .entryPoint, onStart := pick .onStart, onUpdate := pick .onUpdate, onSelect := pick .onSelect,
    onEvent := pick .onEvent }

/-- the value writes the chosen names, each of them once, and none of the others -/
def Writes (names : ExportNames) (chosen : Field → Bool) (v : Value) : Prop :=
  ∃ fields, Struct "ScriptExportNames" v fields ∧
    ∀ f : Field, written fields f.name = if chosen f then [.string (names.get f)] else []

end ExportNames

namespace Config

/-- the name under which a field is written -/
def Field.name : Field → String
  | args => "args"
  | env => "env"
  | sceneNamespace => "abi_namespace"
  | exports => "exports"

theorem Field.name_mem_known (f : Field) : f.name ∈ known := by
  cases f <;> decide

theorem exists_field {name : String} (h : name ∈ known) : ∃ f : Field, f.name = name := by
  simp only [known, List.mem_cons, List.not_mem_nil, or_false] at h
  rcases h with rfl | rfl | rfl | rfl
  · exact ⟨.args, rfl⟩
  · exact ⟨.env, rfl⟩
  · exact ⟨.sceneNamespace, rfl⟩
  · exact ⟨.exports, rfl⟩

/-- the fields that are chosen, of the exports those that are chosen there, and the default for the others -/
def only (c : Config) (chosen : Field → Bool) (exports : ExportNames.Field → Bool) : Config where
  args := if chosen .args then c.args else ({} : Config).args
  env := if chosen .env then c.env else ({} : Config).env
  sceneNamespace := if chosen .sceneNamespace then c.sceneNamespace else ({} : Config).sceneNamespace
  exports := if chosen .exports then c.exports.only exports else ({} : Config).exports

/-- the map has for each key the value of the last pair with this key -/
def LastCounts (map : Std.ExtTreeMap String String) (pairs : List (String × String)) : Prop :=
  ∀ key : String, map[key]? = pairs.reverse.lookup key

/-- the value writes a field of the configuration -/
def WritesField (c : Config) (exports : ExportNames.Field → Bool) (v : Value) : Field → Prop
  | .args => v = ofTexts c.args
  | .env => ∃ pairs, v = ofPairs pairs ∧ LastCounts c.env pairs
  | .sceneNamespace => v = .string c.sceneNamespace
  | .exports => c.exports.Writes exports v

/-- the value writes the chosen fields, each of them once, and none of the others -/
def Writes (c : Config) (chosen : Field → Bool) (exports : ExportNames.Field → Bool) (v : Value) : Prop :=
  ∃ fields, Struct "ScriptConfig" v fields ∧
    ∀ f : Field, if chosen f then ∃ x, written fields f.name = [x] ∧ c.WritesField exports x f
      else written fields f.name = []

/-- the value has the shape that a field needs, whatever it writes there -/
def Fits (v : Value) (f : Field) : Prop := ∃ c exports, WritesField c exports v f

/-! ## Reading fields -/

theorem bind_eq_ok {ε α β : Type} {x : Except ε α} {f : α → Except ε β} {b : β} :
    x >>= f = .ok b ↔ ∃ a, x = .ok a ∧ f a = .ok b := by
  cases x <;> simp [bind, Except.bind]

/-- among the known fields, the first of a name is the first that is written -/
theorem lookup_known {known : List String} {name : String} (hname : name ∈ known) (all : List (String × Value)) :
    (all.filter (·.1 ∈ known)).lookup name = (written all name).head? := by
  induction all with
  | nil => rfl
  | cons field rest ih =>
    obtain ⟨k, v⟩ := field
    by_cases hk : k = name
    · subst hk
      simp [written, hname]
    · have hlookup : ((k, v) :: rest.filter (·.1 ∈ known)).lookup name = (rest.filter (·.1 ∈ known)).lookup name := by
        rw [List.lookup_cons, beq_false_of_ne (Ne.symm hk)]
      have hwritten : written ((k, v) :: rest) name = written rest name := by simp [written, hk]
      rw [hwritten, ← ih, List.filter_cons]
      split
      · exact hlookup
      · rfl

theorem field_eq_ok {α : Type} {all : List (String × Value)} {known : List String} {name : String}
    {read : Value → Except String α} {default a : α} (hname : name ∈ known) (honce : (written all name).length ≤ 1) :
    field (all.filter (·.1 ∈ known)) name read default = .ok a ↔
      (written all name = [] ∧ a = default) ∨ ∃ v, written all name = [v] ∧ read v = .ok a := by
  rw [field, lookup_known hname]
  match hwritten : written all name with
  | [] => simp [eq_comm]
  | [v] => simp
  | _ :: _ :: _ => simp [hwritten] at honce

theorem lookup_insert {map : Std.ExtTreeMap String String} (key value other : String) :
    (map.insert key value)[other]? = if key = other then some value else map[other]? := by
  rw [Std.ExtTreeMap.getElem?_insert]
  simp only [Std.LawfulEqCmp.compare_eq_iff_eq]

/-- of entries with the same key the last one counts -/
theorem lastCounts_ofEntries (pairs : List (String × String)) : LastCounts (ofEntries pairs) pairs := by
  have hall : ∀ (map : Std.ExtTreeMap String String) (key : String),
      (pairs.foldl (fun map pair => map.insert pair.1 pair.2) map)[key]? = (pairs.reverse.lookup key).or map[key]? := by
    induction pairs with
    | nil => exact fun map key => rfl
    | cons pair rest ih =>
      intro map key
      rw [List.foldl_cons, ih, lookup_insert, List.reverse_cons, List.lookup_append, List.lookup_cons, Option.or_assoc]
      by_cases hkey : key = pair.1
      · simp [hkey]
      · simp [Ne.symm hkey, beq_false_of_ne hkey]
  intro key
  rw [ofEntries, hall, Std.ExtTreeMap.getElem?_empty, Option.or_none]

theorem eq_of_lastCounts {map map' : Std.ExtTreeMap String String} {pairs : List (String × String)}
    (h : LastCounts map pairs) (h' : LastCounts map' pairs) : map = map' :=
  Std.ExtTreeMap.ext_getElem? fun key => (h key).trans (h' key).symm

variable {r : Deserializer}

theorem environment_eq_ok (h : r.Documented) {v : Value} {map : Std.ExtTreeMap String String} :
    environment r v = .ok map ↔ ∃ pairs, v = ofPairs pairs ∧ LastCounts map pairs := by
  simp only [environment, bind_eq_ok, h.entries, pure, Except.pure, Except.ok.injEq]
  constructor
  · rintro ⟨pairs, hv, rfl⟩
    exact ⟨pairs, hv, lastCounts_ofEntries pairs⟩
  · rintro ⟨pairs, hv, hlast⟩
    exact ⟨pairs, hv, eq_of_lastCounts (lastCounts_ofEntries pairs) hlast⟩

end Config

namespace ExportNames

theorem get_only (names : ExportNames) (chosen : Field → Bool) (f : Field) :
    (names.only chosen).get f = if chosen f then names.get f else get {} f := by
  cases f <;> rfl

theorem ext_get {names names' : ExportNames} (h : ∀ f, names.get f = names'.get f) : names = names' := by
  obtain ⟨entryPoint, onStart, onUpdate, onSelect, onEvent⟩ := names
  obtain ⟨entryPoint', onStart', onUpdate', onSelect', onEvent'⟩ := names'
  have hentryPoint : entryPoint = entryPoint' := h .entryPoint
  have honStart : onStart = onStart' := h .onStart
  have honUpdate : onUpdate = onUpdate' := h .onUpdate
  have honSelect : onSelect = onSelect' := h .onSelect
  have honEvent : onEvent = onEvent' := h .onEvent
  rw [hentryPoint, honStart, honUpdate, honSelect, honEvent]

end ExportNames

namespace Config

open ExportNames (get)

variable {r : Deserializer}

theorem exportNames_iff (h : r.Documented) {v : Value} {names : ExportNames} : exportNames r v = .ok names ↔
    ∃ fields, Struct "ScriptExportNames" v fields ∧ ∀ f : ExportNames.Field,
      (written fields f.name = [] ∧ names.get f = get {} f) ∨ written fields f.name = [.string (names.get f)] := by
  simp only [exportNames, bind_eq_ok, pure, Except.pure, Except.ok.injEq, h.fields]
  constructor
  · rintro ⟨_, ⟨all, hstruct, honce, rfl⟩, entryPoint, hentryPoint, onStart, honStart, onUpdate, honUpdate, onSelect,
      honSelect, onEvent, honEvent, rfl⟩
    have hread {name s default : String} (hname : name ∈ ExportNames.known)
        (hs : field (all.filter (·.1 ∈ ExportNames.known)) name r.text default = .ok s) :
        (written all name = [] ∧ s = default) ∨ written all name = [.string s] := by
      simpa only [h.text, exists_eq_right] using (field_eq_ok hname (honce name hname)).1 hs
    refine ⟨all, hstruct, fun f => ?_⟩
    cases f
    · exact hread (by decide) hentryPoint
    · exact hread (by decide) honStart
    · exact hread (by decide) honUpdate
    · exact hread (by decide) honSelect
    · exact hread (by decide) honEvent
  · rintro ⟨all, hstruct, hfields⟩
    have honce (f : ExportNames.Field) : (written all f.name).length ≤ 1 := by
      rcases hfields f with ⟨hnone, -⟩ | hone
      · simp [hnone]
      · simp [hone]
    have hread (f : ExportNames.Field) :
        field (all.filter (·.1 ∈ ExportNames.known)) f.name r.text (get {} f) = .ok (names.get f) := by
      simpa only [field_eq_ok f.name_mem_known (honce f), h.text, exists_eq_right] using hfields f
    refine ⟨_, ⟨all, hstruct, fun k hk => ?_, rfl⟩, _, hread .entryPoint, _, hread .onStart, _, hread .onUpdate, _,
      hread .onSelect, _, hread .onEvent, rfl⟩
    obtain ⟨f, rfl⟩ := ExportNames.exists_field hk
    exact honce f

theorem exportNames_of_writes (hr : r.Documented) {v : Value} {names : ExportNames} {chosen : ExportNames.Field → Bool}
    (h : names.Writes chosen v) : exportNames r v = .ok (names.only chosen) := by
  obtain ⟨fields, hstruct, h⟩ := h
  refine (exportNames_iff hr).2 ⟨fields, hstruct, fun f => ?_⟩
  rw [ExportNames.get_only, h f]
  cases chosen f
  · exact .inl ⟨rfl, rfl⟩
  · exact .inr rfl

theorem writes_of_exportNames (hr : r.Documented) {v : Value} {names : ExportNames} (h : exportNames r v = .ok names) :
    ∃ chosen, names.Writes chosen v ∧ names.only chosen = names := by
  obtain ⟨fields, hstruct, h⟩ := (exportNames_iff hr).1 h
  refine ⟨fun f => !(written fields f.name).isEmpty, ⟨fields, hstruct, fun f => ?_⟩, ExportNames.ext_get fun f => ?_⟩
  · rcases h f with ⟨hnone, -⟩ | hone
    · simp [hnone]
    · simp [hone]
  · rw [ExportNames.get_only]
    rcases h f with ⟨hnone, hdefault⟩ | hone
    · simp [hnone, hdefault]
    · simp [hone]

/-- the field is what the value is read as -/
def ReadsField (r : Deserializer) (c : Config) (v : Value) : Field → Prop
  | .args => r.texts v = .ok c.args
  | .env => environment r v = .ok c.env
  | .sceneNamespace => r.text v = .ok c.sceneNamespace
  | .exports => exportNames r v = .ok c.exports

/-- the field has its default -/
def IsDefault (c : Config) : Field → Prop
  | .args => c.args = ({} : Config).args
  | .env => c.env = ({} : Config).env
  | .sceneNamespace => c.sceneNamespace = ({} : Config).sceneNamespace
  | .exports => c.exports = ({} : Config).exports

theorem ofValue_iff (h : r.Documented) {v : Value} {c : Config} : ofValue r v = .ok c ↔
    ∃ fields, Struct "ScriptConfig" v fields ∧ ∀ f : Field,
      (written fields f.name = [] ∧ c.IsDefault f) ∨ ∃ x, written fields f.name = [x] ∧ c.ReadsField r x f := by
  simp only [ofValue, bind_eq_ok, pure, Except.pure, Except.ok.injEq, h.fields]
  constructor
  · rintro ⟨_, ⟨all, hstruct, honce, rfl⟩, args, hargs, env, henv, sceneNamespace, hnamespace, exports, hexports, rfl⟩
    refine ⟨all, hstruct, fun f => ?_⟩
    have hf := honce f.name f.name_mem_known
    cases f
    · exact (field_eq_ok (by decide) hf).1 hargs
    · exact (field_eq_ok (by decide) hf).1 henv
    · exact (field_eq_ok (by decide) hf).1 hnamespace
    · exact (field_eq_ok (by decide) hf).1 hexports
  · rintro ⟨all, hstruct, hfields⟩
    have honce (f : Field) : (written all f.name).length ≤ 1 := by
      rcases hfields f with ⟨hnone, -⟩ | ⟨x, hone, -⟩
      · simp [hnone]
      · simp [hone]
    have hread {α : Type} {read : Value → Except String α} {default a : α} (f : Field)
        (hf : (written all f.name = [] ∧ a = default) ∨ ∃ x, written all f.name = [x] ∧ read x = .ok a) :
        field (all.filter (·.1 ∈ known)) f.name read default = .ok a := (field_eq_ok f.name_mem_known (honce f)).2 hf
    refine ⟨_, ⟨all, hstruct, fun k hk => ?_, rfl⟩, _, hread .args (hfields .args), _, hread .env (hfields .env), _,
      hread .sceneNamespace (hfields .sceneNamespace), _, hread .exports (hfields .exports), rfl⟩
    obtain ⟨f, rfl⟩ := exists_field hk
    exact honce f

/-- a value that writes some fields is read as these and the defaults -/
theorem ofValue_of_writes (hr : r.Documented) {v : Value} {c : Config} {chosen : Field → Bool}
    {exports : ExportNames.Field → Bool} (h : c.Writes chosen exports v) :
    ofValue r v = .ok (c.only chosen exports) := by
  obtain ⟨fields, hstruct, h⟩ := h
  refine (ofValue_iff hr).2 ⟨fields, hstruct, fun f => ?_⟩
  have hf := h f
  cases hchosen : chosen f with
  | false =>
    rw [hchosen] at hf
    refine .inl ⟨hf, ?_⟩
    cases f <;> simp [IsDefault, only, hchosen]
  | true =>
    rw [hchosen] at hf
    obtain ⟨x, hone, hwrites⟩ := hf
    refine .inr ⟨x, hone, ?_⟩
    cases f with
    | args => simpa [ReadsField, only, hchosen] using hr.texts.2 hwrites
    | env => simpa [ReadsField, only, hchosen] using (environment_eq_ok hr).2 hwrites
    | sceneNamespace => simpa [ReadsField, only, hchosen] using hr.text.2 hwrites
    | exports => simpa [ReadsField, only, hchosen] using exportNames_of_writes hr hwrites

theorem only_eq {c : Config} {chosen : Field → Bool} {exports : ExportNames.Field → Bool}
    (hothers : ∀ f, chosen f = false → c.IsDefault f) (hexports : chosen .exports → c.exports.only exports = c.exports) :
    c.only chosen exports = c := by
  have hpick {α : Type} {f : Field} {value default : α} (h : chosen f = false → value = default) :
      (if chosen f then value else default) = value := by
    cases hf : chosen f with
    | false => exact (h hf).symm
    | true => rfl
  have hargs := hpick (hothers .args)
  have henv := hpick (hothers .env)
  have hnamespace := hpick (hothers .sceneNamespace)
  have hnames : (if chosen .exports then c.exports.only exports else ({} : Config).exports) = c.exports := by
    cases hf : chosen .exports with
    | false => exact (hothers .exports hf).symm
    | true => exact hexports hf
  rw [only, hargs, henv, hnamespace, hnames]

/-- a value that is read as a configuration writes some of its fields, and the others have their defaults -/
theorem writes_of_ofValue (hr : r.Documented) {v : Value} {c : Config} (h : ofValue r v = .ok c) :
    ∃ chosen exports, c.Writes chosen exports v ∧ c.only chosen exports = c := by
  obtain ⟨fields, hstruct, h⟩ := (ofValue_iff hr).1 h
  obtain ⟨exports, hexports⟩ : ∃ exports, ∀ x, written fields Field.exports.name = [x] →
      c.exports.Writes exports x ∧ c.exports.only exports = c.exports := by
    rcases h .exports with ⟨hnone, -⟩ | ⟨x, hone, hread⟩
    · exact ⟨fun _ => false, fun x hx => by rw [hnone] at hx; cases hx⟩
    · obtain ⟨exports, hexports⟩ := writes_of_exportNames hr hread
      exact ⟨exports, fun x' hx' => by rw [hone] at hx'; cases hx'; exact hexports⟩
  refine ⟨fun f => !(written fields f.name).isEmpty, exports, ⟨fields, hstruct, fun f => ?_⟩,
    only_eq (fun f hf => ?_) fun hf => ?_⟩
  · rcases h f with ⟨hnone, -⟩ | ⟨x, hone, hread⟩
    · simp [hnone]
    · simp only [hone, List.isEmpty_cons, Bool.not_false, if_true]
      refine ⟨x, rfl, ?_⟩
      cases f with
      | args => exact hr.texts.1 hread
      | env => exact (environment_eq_ok hr).1 hread
      | sceneNamespace => exact hr.text.1 hread
      | exports => exact (hexports x hone).1
  · rcases h f with ⟨-, hdefault⟩ | ⟨x, hone, -⟩
    · exact hdefault
    · simp [hone] at hf
  · rcases h .exports with ⟨hnone, -⟩ | ⟨x, hone, -⟩
    · simp [hnone] at hf
    · exact (hexports x hone).2

/-! ## Refusals -/

/-- what is read of a struct has each field once at most, and in the shape that it needs -/
theorem fits_of_ofValue (hr : r.Documented) {v : Value} {c : Config} {fields : List (String × Value)}
    (h : ofValue r v = .ok c) (hstruct : Struct "ScriptConfig" v fields) (f : Field) :
    written fields f.name = [] ∨ ∃ x, written fields f.name = [x] ∧ Fits x f := by
  obtain ⟨chosen, exports, ⟨fields', hstruct', hwrites⟩, -⟩ := writes_of_ofValue hr h
  rw [hstruct'.unique hstruct] at hwrites
  have hf := hwrites f
  cases hchosen : chosen f with
  | false => exact .inl (by simpa [hchosen] using hf)
  | true =>
    rw [hchosen] at hf
    obtain ⟨x, hone, hx⟩ := hf
    exact .inr ⟨x, hone, c, exports, hx⟩

/-- a value that is read as the names of exports has each field once at most -/
theorem once_of_fits {x : Value} {fields : List (String × Value)} (h : Fits x .exports)
    (hstruct : Struct "ScriptExportNames" x fields) (f : ExportNames.Field) : (written fields f.name).length ≤ 1 := by
  obtain ⟨c, exports, fields', hstruct', hwrites⟩ := h
  rw [hstruct.unique hstruct', hwrites f]
  split
  · exact Nat.le_refl 1
  · exact Nat.zero_le 1

end Config

end ScriptHost
