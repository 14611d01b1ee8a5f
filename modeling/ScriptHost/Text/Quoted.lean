/-
Quoted text, as it stands in messages about ids: in double quotes, with escapes for the quote, the backslash, the usual
control characters, and, by number, for every other character that does not print.
-/
import ScriptHost.Text.Printable

namespace ScriptHost.Text

/-- the lower-case hexadecimal digits of a number -/
def hexDigits (n : Nat) : List Char := Nat.toDigits 16 n

/-- a character inside double quotes -/
def escapeChar (c : Char) : List Char :=
  if c = '\x00' then ['\\', '0']
  else if c = '\t' then ['\\', 't']
  else if c = '\r' then ['\\', 'r']
  else if c = '\n' then ['\\', 'n']
  else if c = '"' then ['\\', '"']
  else if c = '\\' then ['\\', '\\']
  else if isPrintable c then [c]
  else "\\u\x7b".toList ++ hexDigits c.toNat ++ ['\x7d']

/-- a text in double quotes -/
def quoted (text : String) : String :=
  String.ofList ('"' :: text.toList.flatMap escapeChar ++ ['"'])

/-- an id that may be absent -/
def quotedId : Option String → String
  | some id => "Some(" ++ quoted id ++ ")"
  | none => "None"

end ScriptHost.Text
