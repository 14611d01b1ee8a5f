/-
The smallest parts of RON text: the gaps between other parts, names, strings, characters and numbers.

A reader takes its part from the front of a text and hands back the rest; `none` means that no such part stands there.
-/
namespace ScriptHost.Ron

/-- reads a part from the front of a text -/
abbrev Reader (α : Type) := List Char → Option (α × List Char)

/-! ## Gaps -/

def isSpace (c : Char) : Bool := c = ' ' || c = '\t' || c = '\n' || c = '\r'

/-- where a reader of gaps stands -/
inductive Gap where
  | between
  | lineComment
  /-- inside a block comment, and inside `depth` more around it -/
  | blockComment (depth : Nat)

/-- leaves out spaces and comments; a lone slash and a comment that does not end are errors -/
def skipGap : Gap → List Char → Option (List Char)
  | .between, [] => some []
  | .between, '/' :: '/' :: rest => skipGap .lineComment rest
  | .between, '/' :: '*' :: rest => skipGap (.blockComment 0) rest
  | .between, '/' :: _ => none
  | .between, c :: rest => if isSpace c then skipGap .between rest else some (c :: rest)
  | .lineComment, [] => some []
  | .lineComment, c :: rest => skipGap (if c = '\n' then .between else .lineComment) rest
  | .blockComment _, [] => none
  | .blockComment depth, '/' :: '*' :: rest => skipGap (.blockComment (depth + 1)) rest
  | .blockComment 0, '*' :: '/' :: rest => skipGap .between rest
  | .blockComment (depth + 1), '*' :: '/' :: rest => skipGap (.blockComment depth) rest
  | .blockComment depth, _ :: rest => skipGap (.blockComment depth) rest

/-- leaves out spaces and comments -/
def skip (text : List Char) : Option (List Char) := skipGap .between text

/-- reads one character that must stand there -/
def expect (c : Char) : List Char → Option (List Char)
  | d :: rest => if d = c then some rest else none
  | [] => none

/-- reads an optional comma with the gaps around it; tells whether there was one -/
def comma (text : List Char) : Option (Bool × List Char) := do
  match ← skip text with
  | ',' :: rest => return (true, ← skip rest)
  | rest => return (false, rest)

/-! ## Names -/

def isNameStart (c : Char) : Bool := c.isAlpha || c = '_'

def isNameChar (c : Char) : Bool := isNameStart c || c.isDigit

/-- the characters of a name that is written raw, after `r#` -/
def isRawNameChar (c : Char) : Bool := isNameChar c || c = '.' || c = '+' || c = '-'

/-- reads a name; one that would go on as a raw name must be written raw -/
def name? : Reader String
  | 'r' :: '"' :: _ => none
  | ['r'] => none
  | 'r' :: '#' :: rest =>
    let name := rest.takeWhile isRawNameChar
    if name.isEmpty then none else some (String.ofList name, rest.dropWhile isRawNameChar)
  | [] => none
  | c :: rest =>
    let name := (c :: rest).takeWhile isNameChar
    if isNameStart c && name.length = ((c :: rest).takeWhile isRawNameChar).length then
      some (String.ofList name, (c :: rest).dropWhile isNameChar)
    else none

/-- reads the characters of a word -/
def stripWord : (word text : List Char) → Option (List Char)
  | [], text => some text
  | c :: word, d :: text => if c = d then stripWord word text else none
  | _ :: _, [] => none

/-- reads a word, which must not go on as a name -/
def word? (word : String) (text : List Char) : Option (List Char) :=
  match stripWord word.toList text with
  | some [] => some []
  | some (c :: rest) => if isNameChar c then none else some (c :: rest)
  | none => none

/-! ## Strings and characters -/

/-- the value of a hexadecimal digit -/
def hexValue? (c : Char) : Option Nat :=
  if c.isDigit then some (c.toNat - '0'.toNat)
  else if 'a' ≤ c ∧ c ≤ 'f' then some (c.toNat - 'a'.toNat + 10)
  else if 'A' ≤ c ∧ c ≤ 'F' then some (c.toNat - 'A'.toNat + 10)
  else none

/-- the character with a number, if there is one -/
def scalar? (n : Nat) : Option Char :=
  if n.isValidChar then some (Char.ofNat n) else none

/-- where a reader stands inside an escape -/
inductive Escape where
  /-- after the backslash -/
  | start
  /-- after the first digit of a character below 256 -/
  | byte (digits : List Nat)
  /-- after `u` -/
  | brace
  /-- among the at most six digits of a character -/
  | scalar (value count : Nat)

/-- reads one character of an escape: the escape goes on, or it is complete and stands for a character -/
def Escape.feed : Escape → Char → Option (Escape ⊕ Char)
  | start, c =>
    if c = '\'' || c = '"' || c = '\\' then some (.inr c)
    else if c = 'n' then some (.inr '\n')
    else if c = 'r' then some (.inr '\r')
    else if c = 't' then some (.inr '\t')
    else if c = '0' then some (.inr '\x00')
    else if c = 'x' then some (.inl (byte []))
    else if c = 'u' then some (.inl brace)
    else none
  | byte [], c => (hexValue? c).map fun high => .inl (byte [high])
  | byte (high :: _), c => (hexValue? c).map fun low => .inr (Char.ofNat (16 * high + low))
  | brace, c => if c = '\x7b' then some (.inl (scalar 0 0)) else none
  | scalar value count, c =>
    if c = '\x7d' then if count = 0 then none else (scalar? value).map .inr
    else if count = 6 then none
    else (hexValue? c).map fun digit => .inl (scalar (16 * value + digit) (count + 1))

/-- reads the rest of an escape -/
def escape? : Escape → Reader Char
  | _, [] => none
  | escape, c :: rest =>
    match escape.feed c with
    | some (.inr char) => some (char, rest)
    | some (.inl escape) => escape? escape rest
    | none => none

/-- reads the rest of a string in double quotes -/
def quotedRest : Option Escape → Reader (List Char)
  | _, [] => none
  | none, c :: rest =>
    if c = '"' then some ([], rest)
    else if c = '\\' then quotedRest (some .start) rest
    else do
      let (chars, rest) ← quotedRest none rest
      return (c :: chars, rest)
  | some escape, c :: rest =>
    match escape.feed c with
    | some (.inr char) => do
      let (chars, rest) ← quotedRest none rest
      return (char :: chars, rest)
    | some (.inl escape) => quotedRest (some escape) rest
    | none => none

/-- reads a number of hash marks -/
def hashes? : Nat → List Char → Option (List Char)
  | 0, text => some text
  | _ + 1, [] => none
  | n + 1, c :: rest => if c = '#' then hashes? n rest else none

/-- reads the end of a raw string: a quote that `hashes` hash marks follow -/
def rawEnd? (hashes : Nat) : List Char → Option (List Char)
  | '"' :: rest => hashes? hashes rest
  | _ => none

/-- reads the rest of a raw string -/
def rawRest (hashes : Nat) : Reader (List Char)
  | [] => none
  | c :: rest =>
    match rawEnd? hashes (c :: rest) with
    | some rest => some ([], rest)
    | none => do
      let (chars, rest) ← rawRest hashes rest
      return (c :: chars, rest)

/-- reads a string: in double quotes, or raw -/
def string? : Reader String
  | '"' :: rest => do
    let (chars, rest) ← quotedRest none rest
    return (String.ofList chars, rest)
  | 'r' :: rest => do
    let rest' ← expect '"' (rest.dropWhile (· = '#'))
    let (chars, rest') ← rawRest (rest.takeWhile (· = '#')).length rest'
    return (String.ofList chars, rest')
  | _ => none

/-- reads a character in single quotes -/
def char? : Reader Char
  | '\'' :: '\\' :: rest => do
    let (c, rest) ← escape? .start rest
    return (c, ← expect '\'' rest)
  | '\'' :: c :: rest => if c = '\'' then none else do return (c, ← expect '\'' rest)
  | _ => none

/-! ## Numbers -/

def isIntegerChar (c : Char) : Bool := (hexValue? c).isSome || c = '_'

def isFloatChar (c : Char) : Bool := c.isDigit || c = 'e' || c = 'E' || c = '.' || c = '+' || c = '-'

def isSign (c : Char) : Bool := c = '+' || c = '-'

/-- a text without the sign in front of it -/
def dropSign : List Char → List Char
  | c :: rest => if isSign c then rest else c :: rest
  | [] => []

/-- the base of an integer and its digits -/
def splitBase : List Char → Nat × List Char
  | '0' :: 'x' :: digits => (16, digits)
  | '0' :: 'b' :: digits => (2, digits)
  | '0' :: 'o' :: digits => (8, digits)
  | digits => (10, digits)

/-- the first number that does not fit into 64 bits -/
def integerLimit : Nat := 0x10000000000000000

/-- the number that some digits write, or the limit if it is larger; underscores between the digits are left out -/
def digitsValue? (base : Nat) : (value : Nat) → List Char → Option Nat
  | value, [] => some value
  | value, c :: rest =>
    if c = '_' then digitsValue? base value rest
    else match hexValue? c with
      | some digit => if digit < base then digitsValue? base (min (value * base + digit) integerLimit) rest else none
      | none => none

/-- reads an integer that fits into 64 bits, signed if it has a sign -/
def integer? (text : List Char) : Option (List Char) := do
  let (base, body) := splitBase (dropSign text)
  let digits := body.takeWhile isIntegerChar
  let first ← digits.head?
  let value ← if first = '_' then none else digitsValue? base 0 digits
  let limit := match text.head? with
    | some '-' => 0x8000000000000000
    | some '+' => 0x7FFFFFFFFFFFFFFF
    | _ => 0xFFFFFFFFFFFFFFFF
  if value ≤ limit then some (body.dropWhile isIntegerChar) else none

/-- is a text digits, with a point among or beside them, and perhaps an exponent? -/
def isDecimal (text : List Char) : Bool :=
  let body := dropSign text
  let whole := body.takeWhile Char.isDigit
  let afterWhole := body.dropWhile Char.isDigit
  let (fraction, rest) := match afterWhole with
    | '.' :: rest => (rest.takeWhile Char.isDigit, rest.dropWhile Char.isDigit)
    | rest => ([], rest)
  (!whole.isEmpty || !fraction.isEmpty) &&
    match rest with
    | [] => true
    | e :: exponent =>
      (e = 'e' || e = 'E') && !(dropSign exponent).isEmpty && (dropSign exponent).all Char.isDigit

/-- reads a decimal number -/
def decimal? (text : List Char) : Option (List Char) :=
  if isDecimal (text.takeWhile isFloatChar) then some (text.dropWhile isFloatChar) else none

/-- reads a number: a decimal where the text goes on as one, otherwise an integer or else a decimal -/
def number? (text : List Char) : Option (List Char) :=
  let body := dropSign text
  if (body.takeWhile isIntegerChar).length < (body.takeWhile isFloatChar).length then decimal? text
  else match integer? text with
    | some rest => some rest
    | none => decimal? text

end ScriptHost.Ron
