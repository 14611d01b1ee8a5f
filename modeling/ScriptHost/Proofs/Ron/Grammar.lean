/-
The texts of RON values, said without a reader. The grammar has levels as the reader has (`Spelled`): with what can stand
inside a value given, `Spelling` says which texts write one, and a level takes what stands inside from the levels below.

Gaps may stand wherever two parts meet, and a comma behind the last item of any brackets. Two texts need care. Round brackets
with nothing at all in them are the unit, so a tuple without a name and without items has a gap in it. And some words are
values of their own, so a name that is one of them is written raw.
-/
import ScriptHost.Proofs.Ron.Numbers

namespace ScriptHost.Ron

/-- the texts that write something -/
abbrev Texts (α : Type) := α → List Char → Prop

/-! ## Items -/

/-- items with commas between them, perhaps one behind the last, and gaps around them -/
inductive Separated {α : Type} (item : Texts α) : Texts (List α) where
  | nil {gap : List Char} : Blank gap → Separated item [] gap
  | last {a : α} {gap text gap' : List Char} : Blank gap → item a text → Blank gap' →
    Separated item [a] (gap ++ (text ++ gap'))
  | cons {a : α} {items : List α} {gap text gap' more : List Char} : Blank gap → item a text → Blank gap' →
    Separated item items more → Separated item (a :: items) (gap ++ (text ++ (gap' ++ ',' :: more)))

/-- a key and a value with a colon between them -/
inductive Entry {α β : Type} (key : Texts α) (value : Texts β) : Texts (α × β) where
  | intro {k : α} {v : β} {keyText gap gap' valueText : List Char} : key k keyText → Blank gap → Blank gap' →
    value v valueText → Entry key value (k, v) (keyText ++ (gap ++ ':' :: (gap' ++ valueText)))

/-! ## Values -/

/-- the words that are values, or that begin one -/
def reservedWords : List String := ["true", "false", "None", "Some", "inf", "NaN"]

/-- a name that stands for itself -/
structure FreeName (name : String) (text : List Char) : Prop where
  named : Named name text
  free : String.ofList text ∉ reservedWords

/-- what stands in front of round brackets: nothing, or a name -/
inductive Title : Texts (Option String) where
  | none : Title none []
  | name {name : String} {text gap : List Char} : FreeName name text → Blank gap → Title (some name) (text ++ gap)

/-- the texts of a value, given those of the items inside it and of what is present in it -/
inductive Spelling (brackets : Bool) (item content : Texts Value) : Texts Value where
  | yes : Spelling brackets item content (.bool true) "true".toList
  | no : Spelling brackets item content (.bool false) "false".toList
  | absent : Spelling brackets item content .absent "None".toList
  | numberWord {word : String} (h : word ∈ numberWords) : Spelling brackets item content .number word.toList
  | number {text : List Char} : Numeral text → Spelling brackets item content .number text
  | char {c : Char} {text : List Char} : CharLiteral c text → Spelling brackets item content (.char c) text
  | string {s : String} {text : List Char} : StringLiteral s text → Spelling brackets item content (.string s) text
  | named {name : String} {text : List Char} : FreeName name text → Spelling brackets item content (.named name) text
  | present {v : Value} {gap text : List Char} : Blank gap → Separated content [v] text →
    Spelling brackets item content (.present v) ("Some".toList ++ (gap ++ '(' :: (text ++ [')'])))
  | unit : Spelling brackets item content .unit ['(', ')']
  | list {items : List Value} {text : List Char} (h : brackets) : Separated item items text →
    Spelling brackets item content (.list items) ('[' :: (text ++ [']']))
  | map {entries : List (Value × Value)} {text : List Char} (h : brackets) : Separated (Entry item item) entries text →
    Spelling brackets item content (.map entries) ('\x7b' :: (text ++ ['\x7d']))
  | tuple {name : Option String} {items : List Value} {title text : List Char} (h : brackets) : Title name title →
    Separated item items text → (name = none → text ≠ []) →
    Spelling brackets item content (.tuple name items) (title ++ '(' :: (text ++ [')']))
  | record {name : Option String} {fields : List (String × Value)} {title text : List Char} (h : brackets) :
    Title name title → Separated (Entry Named item) fields text → fields ≠ [] →
    Spelling brackets item content (.record name fields) (title ++ '(' :: (text ++ [')']))

/-- the texts of values that nest as deep as a budget allows -/
def Spelled : (budget : Nat) → Texts Value
  | 0 => Spelling false (fun _ _ => False) fun _ _ => False
  | 1 => Spelling true (fun _ _ => False) (Spelled 0)
  | budget + 2 => Spelling true (Spelled budget) (Spelled (budget + 1))

/-- does a text of the value end with a bracket that the value itself has? -/
def Value.isBracketed : Value → Bool
  | .unit | .list _ | .map _ | .tuple .. | .record .. => true
  | _ => false

/-- a whole text that writes one value in brackets, with gaps around it -/
inductive Document : Texts Value where
  | intro {v : Value} {gap text gap' : List Char} : Blank gap → Spelled nestingLimit v text → v.isBracketed →
    LastBlank gap' → Document v (gap ++ (text ++ gap'))

/-! ## Some texts -/

variable {α : Type} {text : List Char}

/-- items with a comma behind each of them -/
def listed (write : α → List Char) (items : List α) : List Char := items.flatMap fun a => write a ++ [',']

theorem separated_listed {β : Type} {item : Texts β} {make : α → β} {write : α → List Char} {items : List α}
    (h : ∀ a ∈ items, item (make a) (write a)) : Separated item (items.map make) (listed write items) := by
  induction items with
  | nil => exact .nil .nil
  | cons a items ih =>
    have hrest := ih fun b hb => h b (List.mem_cons_of_mem a hb)
    have hall := Separated.cons .nil (h a List.mem_cons_self) .nil hrest
    rw [listed, List.flatMap_cons, List.append_assoc]
    exact hall

theorem Entry.of_texts {β : Type} {key : Texts α} {value : Texts β} {k : α} {v : β} {keyText valueText : List Char}
    (hk : key k keyText) (hv : value v valueText) : Entry key value (k, v) (keyText ++ ':' :: valueText) :=
  .intro hk .nil .nil hv

theorem named_toList {name : String} (hstart : name.toList.head?.any isNameStart) (h : name.toList.all isNameChar) :
    Named name name.toList := by
  cases hname : name.toList with
  | nil => simp [hname] at hstart
  | cons c rest =>
    rw [hname] at hstart h
    have hplain := Named.plain (c := c) hstart fun d hd => List.all_eq_true.1 h d (List.mem_cons_of_mem c hd)
    rw [← hname, String.ofList_toList] at hplain
    rwa [← hname]

theorem spelled_string {s : String} (h : StringLiteral s text) : ∀ budget, Spelled budget (.string s) text
  | 0 | 1 | _ + 2 => .string h

end ScriptHost.Ron
