/-
A reader of RON, a library for hosts that have no other. The text of a value says its shape: lists in square brackets, maps in braces, tuples and records in round
brackets with a name in front of them or without one. The fields of a struct are those of a record, each of them once.

Values nest. Every bracket and every item inside it takes one from a budget of 128 levels, and a value that nests deeper
is not read.
-/
import ScriptHost.Ron.Lexeme
import ScriptHost.Ron.Value

namespace ScriptHost.Ron

/-- reads items with commas between them, up to the closing bracket, which is left in place -/
def separated {α : Type} (item : Reader α) (close : Char) : (fuel : Nat) → Reader (List α)
  | 0, _ => none
  | fuel + 1, text => do
    match ← skip text with
    | [] => none
    | c :: rest =>
      if c = close then return ([], c :: rest)
      else
        let (first, rest) ← item (c :: rest)
        let (more, rest) ← comma rest
        if more then
          let (items, rest) ← separated item close fuel rest
          return (first :: items, rest)
        else return ([first], rest)

/-- reads items, fewer than `fuel`, and the closing bracket -/
def enclosed {α : Type} (fuel : Nat) (item : Reader α) (close : Char) : Reader (List α) := fun text => do
  let (items, rest) ← separated item close fuel text
  return (items, ← expect close (← skip rest))

/-- reads a key and its value, with a colon between them -/
def entry {α : Type} (key : Reader α) (value : Reader Value) : Reader (α × Value) := fun text => do
  let (k, rest) ← key text
  let rest ← expect ':' (← skip rest)
  let (v, rest) ← value (← skip rest)
  return ((k, v), rest)

/-- do the contents of round brackets start as a record: with a name and a colon? -/
def startsRecord (text : List Char) : Option Bool := do
  match name? (← skip text) with
  | none => return false
  | some (_, rest) =>
    match ← skip rest with
    | [] => none
    | c :: _ => return c = ':'

/-- what can stand inside a value -/
structure Inside where
  /-- a number above that of the items between any two brackets -/
  fuel : Nat
  /-- are brackets allowed? -/
  brackets : Bool
  /-- items of lists, tuples, records and maps -/
  item : Reader Value
  /-- the value after `Some` -/
  content : Reader Value

/-- reads the rest of round brackets -/
def inRoundBrackets (inside : Inside) (name : Option String) : Reader Value := fun text => do
  if !inside.brackets then none
  else if ← startsRecord text then
    let (fields, rest) ← enclosed inside.fuel (entry name? inside.item) ')' text
    return (.record name fields, rest)
  else
    let (items, rest) ← enclosed inside.fuel inside.item ')' text
    return (.tuple name items, rest)

/-- reads what follows `Some`: a value in round brackets or, where the text says so at its start, without them -/
def presentRest (implicitSome : Bool) (inside : Inside) : Reader Value := fun text => do
  match ← skip text with
  | '(' :: rest =>
    let (value, rest) ← inside.content (← skip rest)
    let (_, rest) ← comma rest
    return (.present value, ← expect ')' rest)
  | rest =>
    if implicitSome then
      let (value, rest) ← inside.content rest
      return (.present value, rest)
    else none

/-- the words that are numbers -/
def numberWords : List String := ["inf", "+inf", "-inf", "NaN", "+NaN", "-NaN"]

/-- reads a value that is one word -/
def wordValue : Reader Value := fun text =>
  ((word? "true" text).map fun rest => (.bool true, rest)) <|>
  ((word? "false" text).map fun rest => (.bool false, rest)) <|>
  ((word? "None" text).map fun rest => (.absent, rest)) <|>
  ((stripWord ['(', ')'] text).map fun rest => (.unit, rest)) <|>
  ((numberWords.findSome? (word? · text)).map fun rest => (.number, rest))

/-- reads a value that starts with no name, by its first character -/
def plainValue (inside : Inside) : Reader Value
  | [] => none
  | c :: rest =>
    if c = '(' then inRoundBrackets inside none rest
    else if c = '[' then do
      let (items, rest) ← if inside.brackets then enclosed inside.fuel inside.item ']' rest else none
      return (.list items, rest)
    else if c = '\x7b' then do
      let pair := entry inside.item inside.item
      let (entries, rest) ← if inside.brackets then enclosed inside.fuel pair '\x7d' rest else none
      return (.map entries, rest)
    else if c.isDigit || isSign c then (number? (c :: rest)).map fun rest => (.number, rest)
    else if c = '.' then (decimal? (c :: rest)).map fun rest => (.number, rest)
    else if c = '"' || c = 'r' then (string? (c :: rest)).map fun (text, rest) => (.string text, rest)
    else if c = '\'' then (char? (c :: rest)).map fun (c, rest) => (.char c, rest)
    else none

/-- reads a value, given what can stand inside it -/
def valueWith (implicitSome : Bool) (inside : Inside) : Reader Value := fun text =>
  match wordValue text with
  | some result => some result
  | none =>
    match word? "Some" text with
    | some rest => presentRest implicitSome inside rest
    | none =>
      match name? text with
      | none => plainValue inside text
      | some (name, rest) => do
        match ← skip rest with
        | '(' :: rest => inRoundBrackets inside (some name) rest
        | rest => return (.named name, rest)

/-- reads a value that may nest as deep as a budget allows -/
def value (implicitSome : Bool) (fuel : Nat) : (budget : Nat) → Reader Value
  | 0 => valueWith implicitSome { fuel, brackets := false, item := fun _ => none, content := fun _ => none }
  | 1 => valueWith implicitSome { fuel, brackets := true, item := fun _ => none, content := value implicitSome fuel 0 }
  | budget + 2 =>
    valueWith implicitSome {
      fuel
      brackets := true
      item := value implicitSome fuel budget
      content := value implicitSome fuel (budget + 1) }

/-- how deep values may nest -/
def nestingLimit : Nat := 128

/-- the extensions that a text can enable at its start -/
def extensions : List String := ["unwrap_newtypes", "implicit_some", "unwrap_variant_newtypes"]

/-- reads parts of one character each, with gaps after them -/
def expectAll : List Char → List Char → Option (List Char)
  | [], text => some text
  | c :: rest, text => do expectAll rest (← skip (← expect c text))

/-- reads an attribute that enables extensions -/
def enabling (fuel : Nat) : Reader (List String) := fun text => do
  let rest ← expectAll ['#', '!', '['] text
  let rest ← skip (← stripWord "enable".toList rest)
  let rest ← skip (← expect '(' rest)
  let (names, rest) ← separated name? ')' fuel rest
  if names.isEmpty || names.any (· ∉ extensions) then none
  else return (names, ← expectAll [')', ']'] (← skip rest))

/-- reads the attributes at the start of a text, each with fewer than `items` names -/
def attributes (items : Nat) : (fuel : Nat) → Reader (List String)
  | 0, _ => none
  | fuel + 1, text =>
    match text with
    | '#' :: _ => do
      let (names, rest) ← enabling items text
      let (more, rest) ← attributes items fuel rest
      return (names ++ more, rest)
    | _ => some ([], text)

/-- the value that a text writes -/
def parse (text : String) : Option Value := do
  let fuel := text.length + 1
  let rest ← skip text.toList
  let (enabled, rest) ← attributes fuel fuel rest
  let (result, rest) ← value (enabled.contains "implicit_some") fuel nestingLimit rest
  match ← skip rest with
  | [] => return result
  | _ => none

/-! ## Values of a type -/

namespace Value

def text? : Value → Option String
  | string text => some text
  | _ => none

def texts? : Value → Option (List String)
  | list items => items.mapM text?
  | _ => none

def entries? : Value → Option (List (String × String))
  | map entries => entries.mapM fun (key, value) => do return (← key.text?, ← value.text?)
  | _ => none

/-- the fields of a record whose name, where it is written, must be the given one -/
def allFields? (name : String) : Value → Option (List (String × Value))
  | unit => some []
  | tuple written [] => if written.all (· = name) then some [] else none
  | record written fields => if written.all (· = name) then some fields else none
  | _ => none

/-- the known fields of a struct, none of them written twice; others are left out -/
def fields? (name : String) (known : List String) (v : Value) : Option (List (String × Value)) := do
  let fields := (← v.allFields? name).filter (·.1 ∈ known)
  if known.all fun k => fields.countP (·.1 = k) ≤ 1 then some fields else none

end Value

/-- an answer, or the error with a text -/
def orElse {α : Type} (reason : String) : Option α → Except String α
  | some a => .ok a
  | none => .error reason

/-- the readers of this file as a library -/
def deserializer : Deserializer where
  value text := orElse "no value" (parse text)
  text v := orElse "no text" v.text?
  texts v := orElse "no list of texts" v.texts?
  entries v := orElse "no map from text to text" v.entries?
  fields name known v := orElse ("no fields of " ++ name) (v.fields? name known)

end ScriptHost.Ron
