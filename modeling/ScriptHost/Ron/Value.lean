/-
RON values, and the library that reads them. A text is read as a value, and a value as what a program asks for: a text, a list
of texts, a map from text to text, or the fields of a struct. The library is not part of this development. What it offers is
`Deserializer`, and what is read of a text is said for any of them.
-/
namespace ScriptHost.Ron

/-- a value; the digits of numbers are not kept -/
inductive Value where
  | bool (b : Bool)
  | number
  | char (c : Char)
  | string (text : String)
  | unit
  | absent
  | present (value : Value)
  /-- a name that stands by itself -/
  | named (name : String)
  | list (items : List Value)
  | map (entries : List (Value × Value))
  | tuple (name : Option String) (items : List Value)
  | record (name : Option String) (fields : List (String × Value))

/-- a library that reads RON; what it cannot read is an error with a text of its own -/
structure Deserializer where
  /-- the value that a text writes -/
  value (text : String) : Except String Value
  text (v : Value) : Except String String
  texts (v : Value) : Except String (List String)
  /-- the entries of a map from text to text, in the order in which they are written -/
  entries (v : Value) : Except String (List (String × String))
  /-- the fields that a struct of the given name writes, of those that are known -/
  fields (name : String) (known : List String) (v : Value) : Except String (List (String × Value))

end ScriptHost.Ron
