/-
Guests written down as lists of statements. A `Listing` says what a module declares and gives the bodies of its
functions; `Listing.compile` translates the bodies to code, checks the whole and yields the module.

A listing is refused if two exports have one name, if a name or a signature is too long, if its memory is larger than it
may become or filled in too many pieces, or if the code of a body is not accepted: because it needs a memory and there
is none, because it refers to an import or a parameter that is not there, or because the words that it puts on the stack
do not fit.
-/
import ScriptHost.Guest.Code
import Std.Data.ExtTreeSet.Basic

namespace ScriptHost

/-- a number that a statement works on -/
inductive Operand where
  | const (v : Int)
  /-- the word at an address -/
  | load (addr : Pointer)
  /-- a parameter of the function -/
  | param (position : Nat)
deriving DecidableEq, Repr

/-- a step of a guest -/
inductive Statement where
  /-- calls an import, and stores its answer if an address for it is given -/
  | call (position : Nat) (args : List Operand) (out : Option Pointer)
  | store (addr : Pointer) (value : Operand)
  /-- stores bytes one after another -/
  | bytes (addr : Pointer) (content : List UInt8)
  /-- fills a region, all of it or nothing -/
  | fill (addr : Pointer) (value : UInt8) (length : UInt32)
  /-- stores a word at the cursor and moves the cursor behind it -/
  | append (value : Operand)
  /-- adds one to the word at an address -/
  | increment (addr : Pointer)
  /-- asks for more pages, and stores how many there were before, or -1 if there cannot be so many -/
  | grow (pages : UInt32) (addr : Pointer)
  | trap
  /-- traps if two numbers are equal -/
  | trapIf (left right : Operand)
deriving DecidableEq, Repr

/-- something that a listing exports besides its memory -/
inductive ListingExport where
  /-- a function with some 32-bit parameters that answers with one 32-bit word or with none -/
  | function (params : Nat) (hasResult : Bool) (body : List Statement)
  /-- the memory, under another name -/
  | memory
  /-- the cursor -/
  | global
deriving DecidableEq, Repr

/-- a guest as it is written down -/
structure Listing where
  /-- the number of pages that the memory has at first, if there is a memory -/
  pages : Option Nat
  /-- how many pages the memory may have at most -/
  pageLimit : Option Nat := none
  /-- the name under which the memory is exported; with an empty one it is not -/
  memoryName : String := "memory"
  imports : Array Import := #[]
  data : List DataSegment := []
  start : Option (List Statement) := none
  exports : List (String × ListingExport) := []

/-! ## Translating -/

/-- puts a 32-bit word -/
def Instruction.word (v : UInt32) : Instruction := .const (.i32 v)

/-- code that puts an operand; a constant is as wide as is asked for, and all else is 32 bits wide -/
def Operand.code (type : WordType) : Operand → List Instruction
  | const v =>
    match type with
    | .i32 => [.word (UInt32.ofInt v)]
    | .i64 => [.const (.i64 (UInt64.ofInt v))]
  | load addr => [.word addr, .load]
  | param position => [.param position]

/-- code that puts the arguments of a call, one for each parameter; what is given beyond the parameters counts for
nothing, and a parameter without an argument gets no word -/
def argumentCode (types : List WordType) (args : List Operand) : List Instruction :=
  (types.zip args).flatMap fun (type, arg) => arg.code type

/-- code that stores bytes one after another -/
def byteCode (addr : Pointer) (content : List UInt8) : List Instruction :=
  content.zipIdx.flatMap fun (b, i) => [.word (addr + UInt32.ofNat i), .word b.toUInt32, .storeByte]

namespace Statement

/-- code that calls an import and stores or drops its answer, if it has one -/
def callCode (position : Nat) (i : Import) (args : List Operand) (out : Option Pointer) : List Instruction :=
  match i.results, out with
  | [], _ => argumentCode i.params args ++ [.call position]
  | _, some addr => .word addr :: argumentCode i.params args ++ [.call position, .store]
  | _, none => argumentCode i.params args ++ [.call position, .drop]

/-- the code of a statement -/
def code (imports : Array Import) : Statement → List Instruction
  | call position args out =>
    match imports[position]? with
    | some i => callCode position i args out
    | none => [.call position]
  | store addr value => .word addr :: value.code .i32 ++ [.store]
  | bytes addr content => byteCode addr content
  | fill addr value length => [.word addr, .word value.toUInt32, .word length, .fill]
  | append value => .cursor :: value.code .i32 ++ [.store, .cursor, .word 4, .add, .setCursor]
  | increment addr => [.word addr, .word addr, .load, .word 1, .add, .store]
  | grow n addr => [.word addr, .word n, .grow, .store]
  | trap => [.trap]
  | trapIf left right => left.code .i32 ++ right.code .i32 ++ [.equal, .trapIf]

end Statement

/-- how many parameters, and how many results, a function can have -/
def signatureLimit : Nat := 1000

/-- how many bytes a name can have -/
def nameLimit : Nat := 100000

/-- how many regions of its memory a guest can fill at first -/
def dataLimit : Nat := 100000

/-- is a name short enough? -/
def nameIsValid (name : String) : Bool := name.utf8ByteSize ≤ nameLimit

/-- do all names differ from each other? -/
def areDistinct (names : List String) : Bool :=
  (names.foldl (fun (seen : Std.ExtTreeSet String) name => seen.insert name) ∅).size = names.length

def Import.isValid (i : Import) : Bool :=
  nameIsValid i.space && nameIsValid i.name &&
    i.params.length ≤ signatureLimit && i.results.length ≤ signatureLimit

namespace Listing

def hasMemory (l : Listing) : Bool := l.pages.isSome

/-- the number of pages beyond which the memory cannot grow -/
def limit (l : Listing) : Nat := l.pageLimit.getD maxPages

/-- can the memory have the size that it is to have at first? -/
def memoryIsValid (l : Listing) : Bool :=
  match l.pages with
  | none => l.data.isEmpty
  | some pages => decide (pages ≤ l.limit) && decide (l.limit ≤ maxPages) && decide (l.data.length ≤ dataLimit)

/-- what the code of a function with some parameters can refer to -/
def scope (l : Listing) (params : Nat) : Scope := { imports := l.imports, hasMemory := l.hasMemory, params }

/-- the code of a body; a function that has a result answers 0 -/
def code (l : Listing) (hasResult : Bool) (body : List Statement) : List Instruction :=
  body.flatMap (Statement.code l.imports) ++ (if hasResult then [.word 0] else [])

def resultTypes (hasResult : Bool) : List WordType := if hasResult then [.i32] else []

/-- can there be a function with such parameters and such a body? -/
def functionIsValid (l : Listing) (params : Nat) (hasResult : Bool) (body : List Statement) : Bool :=
  params ≤ signatureLimit && (l.scope params).accepts (resultTypes hasResult) (l.code hasResult body)

def exportIsValid (l : Listing) : ListingExport → Bool
  | .function params hasResult body => l.functionIsValid params hasResult body
  | .memory => l.hasMemory
  | .global => true

/-- the behaviour of code that is called with some words -/
def behaviour (l : Listing) (code : List Instruction) (params : List UInt32) : Program :=
  Frame.program { imports := l.imports, pageLimit := l.limit, params } code []

/-- an export with the behaviour of its body -/
def item (l : Listing) : ListingExport → ExportItem
  | .function params hasResult body =>
    let code := l.code hasResult body
    .function (List.replicate params .i32) (resultTypes hasResult) fun words =>
      l.behaviour code (words.filterMap Word.i32?)
  | .memory => .memory
  | .global => .global

/-- the memory as an export -/
def memoryExport (l : Listing) : List (String × ExportItem) :=
  if l.hasMemory && l.memoryName ≠ "" then [(l.memoryName, .memory)] else []

/-- what the listing exports, the memory first -/
def items (l : Listing) : List (String × ExportItem) :=
  l.memoryExport ++ l.exports.map fun (name, e) => (name, l.item e)

/-- the module that a listing describes -/
def module (l : Listing) : Module where
  imports := l.imports.toList
  pages := l.pages
  data := l.data
  start := l.behaviour (l.code false (l.start.getD [])) []
  exports := l.items

/-- checks a listing and yields its module -/
def compile (l : Listing) : Except String Module :=
  if !areDistinct (l.items.map Prod.fst) then .error "two exports have the same name"
  else if !(l.items.all (nameIsValid ·.1) && l.imports.all Import.isValid) then
    .error "a name or a signature is too long"
  else if !l.memoryIsValid then .error "the memory is not valid"
  else if !(l.functionIsValid 0 false (l.start.getD []) && l.exports.all (l.exportIsValid ·.2)) then
    .error "a function is not valid"
  else .ok l.module

end Listing

end ScriptHost
