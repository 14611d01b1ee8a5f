/-
Text as bytes. Any bytes at all can be read as text: well-formed sequences become their characters, and each longest run
of bytes that starts a sequence but cannot finish it becomes one U+FFFD.

Bytes that are well-formed throughout are the text that they write. All others are read by a machine over single bytes.
Between characters it is at `ground`; inside a sequence its state says how many bytes are to come and in which range the
next one must lie. A byte outside the range ends the unfinished sequence and is then read afresh.
-/
namespace ScriptHost.Text

/-- the UTF-8 bytes of a text -/
def utf8 (text : String) : List UInt8 := text.toUTF8.data.toList

/-- stands for bytes that are no text -/
def replacement : Char := '\uFFFD'

/-! ## Reading -/

/-- where the reader stands between two bytes -/
inductive State where
  /-- between characters -/
  | ground
  /-- inside a sequence, with as many bytes to come -/
  | one | two | three
  /-- after a first byte that narrows the range of the second -/
  | afterE0 | afterED | afterF0 | afterF4
deriving DecidableEq, Repr

namespace State

/-- where a sequence of several bytes starts that has a given first byte; `ground` if there is none -/
def ofLead (b : UInt8) : State :=
  if b < 0xC2 then ground
  else if b < 0xE0 then one
  else if b = 0xE0 then afterE0
  else if b = 0xED then afterED
  else if b < 0xF0 then two
  else if b = 0xF0 then afterF0
  else if b < 0xF4 then three
  else if b = 0xF4 then afterF4
  else ground

/-- can a byte come next inside a sequence? -/
def accepts : State → UInt8 → Bool
  | ground, _ => false
  | one, b | two, b | three, b => 0x80 ≤ b && b ≤ 0xBF
  | afterE0, b => 0xA0 ≤ b && b ≤ 0xBF
  | afterED, b => 0x80 ≤ b && b ≤ 0x9F
  | afterF0, b => 0x90 ≤ b && b ≤ 0xBF
  | afterF4, b => 0x80 ≤ b && b ≤ 0x8F

/-- the state one byte later inside a sequence -/
def rest : State → State
  | ground | one => ground
  | two | afterE0 | afterED => one
  | three | afterF0 | afterF4 => two

end State

/-- what was read so far -/
structure Reader where
  text : String := ""
  state : State := .ground
  /-- the bits of the character whose sequence is being read -/
  bits : UInt32 := 0
deriving DecidableEq, Repr

namespace Reader

/-- the bits of a character in the first byte of a sequence of several bytes -/
def leadBits (b : UInt8) : UInt32 :=
  if b < 0xE0 then (b &&& 0x1F).toUInt32 else if b < 0xF0 then (b &&& 0x0F).toUInt32 else (b &&& 0x07).toUInt32

/-- reads a byte between characters -/
def lead (text : String) (b : UInt8) : Reader :=
  if b < 0x80 then { text := text.push (Char.ofNat b.toNat) }
  else
    match State.ofLead b with
    | .ground => { text := text.push replacement }
    | state => { text, state, bits := leadBits b }

/-- reads one byte -/
def next (r : Reader) (b : UInt8) : Reader :=
  if r.state = .ground then lead r.text b
  else if r.state.accepts b then
    let bits := 64 * r.bits + (b &&& 0x3F).toUInt32
    match r.state.rest with
    | .ground => { text := r.text.push (Char.ofNat bits.toNat) }
    | state => { r with state, bits }
  else lead (r.text.push replacement) b

/-- the text at the end of the input; a sequence that the input cuts short becomes one U+FFFD -/
def finish (r : Reader) : String := if r.state = .ground then r.text else r.text.push replacement

/-- reads all bytes -/
def readAll (bytes : ByteArray) : Reader := bytes.size.fold (fun i _ r => r.next bytes[i]) {}

end Reader

/-- the text that some bytes hold, with U+FFFD for what is no text -/
def decodeLossy (bytes : ByteArray) : String :=
  match String.fromUTF8? bytes with
  | some text => text
  | none => (Reader.readAll bytes).finish

/-! ## Newlines at the end -/

/-- a text that grows at its end: the newlines at the end are counted and not yet written -/
structure Draft where
  text : String := ""
  newlines : Nat := 0
deriving DecidableEq, Repr

/-- writes a character; newlines are written when another character follows them -/
def Draft.push (d : Draft) (c : Char) : Draft :=
  if c = '\n' then { d with newlines := d.newlines + 1 } else { text := (d.text.pushn '\n' d.newlines).push c }

/-- a text without the newlines at its end -/
def trimNewlines (text : String) : String := (text.foldl Draft.push {}).text

end ScriptHost.Text
