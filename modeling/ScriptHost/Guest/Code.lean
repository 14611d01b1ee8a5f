/-
Code of guests. The body of a function is a list of instructions, which take words from the top of a stack and put words
there.

1. Code is checked before it ever runs. The check (`accepts`) follows the types of the words on the stack. What stands
   behind a trap is not reached: there the stack counts as empty, and a word that is missing counts as one of the right
   type.
2. Each access to the memory happens whole, or traps and changes nothing. What the instructions before it did stays
   done.
-/
import ScriptHost.Guest.Module
import ScriptHost.Wire.Value

namespace ScriptHost

open Wire

/-- a step of a function -/
inductive Instruction where
  | const (w : Word)
  /-- puts a parameter of the function -/
  | param (position : Nat)
  /-- takes an address and puts the word at it -/
  | load
  /-- takes an address and then a word, and stores the word -/
  | store
  /-- takes an address and then a word, and stores the lowest byte of the word -/
  | storeByte
  /-- takes an address, a word and a length, and fills so many bytes with the lowest byte of the word -/
  | fill
  /-- takes a number of pages to add; puts how many there were before, or -1 if there cannot be so many -/
  | grow
  /-- puts the cursor -/
  | cursor
  | setCursor
  | add
  /-- puts 1 for equal words and 0 for others -/
  | equal
  /-- calls an import with the words that it declares as parameters, the last one on top -/
  | call (position : Nat)
  /-- takes a word of any type away -/
  | drop
  | trap
  /-- takes a word, and traps unless it is 0 -/
  | trapIf
deriving DecidableEq, Repr

/-! ## Checking -/

/-- what code can refer to -/
structure Scope where
  imports : Array Import
  hasMemory : Bool
  /-- the number of parameters; all of them are 32 bits wide -/
  params : Nat

/-- what is known of the stack while code is checked -/
structure StackShape where
  /-- the types of the words, the top first -/
  types : List WordType := []
  /-- is the code reached? -/
  reached : Bool := true
deriving DecidableEq, Repr

namespace StackShape

/-- takes a word of some type away -/
def take? (shape : StackShape) (type : WordType) : Option StackShape :=
  match shape.types with
  | [] => if shape.reached then none else some shape
  | top :: types => if top = type then some { shape with types } else none

/-- takes a word of any type away -/
def drop? (shape : StackShape) : Option StackShape :=
  match shape.types with
  | [] => if shape.reached then none else some shape
  | _ :: types => some { shape with types }

end StackShape

namespace Instruction

/-- the types of the words that an instruction takes and of those that it puts, each from the top of the stack; `none`
if the scope does not have what it refers to -/
def signature? (scope : Scope) : Instruction → Option (List WordType × List WordType)
  | const w => some ([], [w.type])
  | param position => if position < scope.params then some ([], [.i32]) else none
  | load => if scope.hasMemory then some ([.i32], [.i32]) else none
  | store | storeByte => if scope.hasMemory then some ([.i32, .i32], []) else none
  | fill => if scope.hasMemory then some ([.i32, .i32, .i32], []) else none
  | grow => if scope.hasMemory then some ([.i32], [.i32]) else none
  | cursor => some ([], [.i32])
  | setCursor | trapIf => some ([.i32], [])
  | add | equal => some ([.i32, .i32], [.i32])
  | call position => (scope.imports[position]?).map fun i => (i.params.reverse, i.results.reverse)
  | drop | trap => some ([], [])

/-- the shape of the stack behind an instruction, if the instruction fits onto the shape before it -/
def check? (scope : Scope) (shape : StackShape) : Instruction → Option StackShape
  | drop => shape.drop?
  | trap => some { types := [], reached := false }
  | i => do
    let (takes, puts) ← i.signature? scope
    let shape ← takes.foldlM StackShape.take? shape
    return { shape with types := puts ++ shape.types }

end Instruction

/-- is code fit to be the body of a function with some results? It must leave exactly those on the stack. -/
def Scope.accepts (scope : Scope) (results : List WordType) (code : List Instruction) : Bool :=
  match code.foldlM (Instruction.check? scope) {} with
  | none => false
  | some shape =>
    match results.reverse.foldlM StackShape.take? shape with
    | none => false
    | some shape => shape.types.isEmpty

/-! ## The state of a guest -/

namespace GuestState

/-- do `n` bytes from an address on lie inside the memory? -/
def holds (s : GuestState) (addr : Pointer) (n : Nat) : Bool := addr.toNat + n ≤ LinearMemory.size s.memory

/-- the word at an address -/
def word? (s : GuestState) (addr : Pointer) : Option UInt32 := do
  decode? (← LinearMemory.copyOut s.memory addr.toNat 4).data.toList

/-- the state with bytes written into the memory -/
def write (s : GuestState) (addr : Pointer) (bytes : List UInt8) : GuestState :=
  { s with memory := s.memory.write addr.toNat bytes.toByteArray }

/-- the state with `n` bytes of the memory filled -/
def fill (s : GuestState) (addr : Pointer) (b : UInt8) (n : Nat) : GuestState :=
  { s with memory := s.memory.fill addr.toNat n b }

/-- the number of pages of the memory -/
def pages (s : GuestState) : Nat := s.memory.pages.size

/-- the state with more pages -/
def grow (s : GuestState) (n : Nat) : GuestState := { s with memory := s.memory.grow n }

end GuestState

/-! ## Running -/

/-- what a running function knows besides the guest's state -/
structure Frame where
  imports : Array Import
  /-- the number of pages beyond which the memory cannot grow -/
  pageLimit : Nat
  /-- the words of the call -/
  params : List UInt32

/-- the behaviour of code with some words on the stack, the top first; code that was checked finds the words that it
takes -/
def Frame.program (frame : Frame) : (code : List Instruction) → (stack : List Word) → Program
  | [], _ => .done
  | i :: code, stack =>
    match i, stack with
    | .const w, stack => frame.program code (w :: stack)
    | .param position, stack => frame.program code (.i32 (frame.params.getD position 0) :: stack)
    | .load, .i32 addr :: stack =>
      .look fun s =>
        match s.word? addr with
        | some w => frame.program code (.i32 w :: stack)
        | none => .trap .outOfBounds
    | .store, .i32 w :: .i32 addr :: stack =>
      .look fun s =>
        if s.holds addr 4 then .change (·.write addr (encode w)) (frame.program code stack) else .trap .outOfBounds
    | .storeByte, .i32 w :: .i32 addr :: stack =>
      .look fun s =>
        if s.holds addr 1 then .change (·.write addr [w.toUInt8]) (frame.program code stack) else .trap .outOfBounds
    | .fill, .i32 n :: .i32 w :: .i32 addr :: stack =>
      .look fun s =>
        if s.holds addr n.toNat then .change (·.fill addr w.toUInt8 n.toNat) (frame.program code stack)
        else .trap .outOfBounds
    | .grow, .i32 n :: stack =>
      .look fun s =>
        if s.pages + n.toNat ≤ frame.pageLimit then
          .change (·.grow n.toNat) (frame.program code (.i32 (UInt32.ofNat s.pages) :: stack))
        else frame.program code (.i32 (UInt32.ofInt (-1)) :: stack)
    | .cursor, stack => .look fun s => frame.program code (.i32 s.cursor :: stack)
    | .setCursor, .i32 w :: stack => .change (fun s => { s with cursor := w }) (frame.program code stack)
    | .add, .i32 b :: .i32 a :: stack => frame.program code (.i32 (a + b) :: stack)
    | .equal, .i32 b :: .i32 a :: stack => frame.program code (.i32 (if a = b then 1 else 0) :: stack)
    | .call position, stack =>
      match frame.imports[position]? with
      | none => .trap .unreachable
      | some i =>
        .call position (stack.take i.params.length).reverse fun answer =>
          let rest := stack.drop i.params.length
          frame.program code (if i.results.isEmpty then rest else .i32 answer :: rest)
    | .drop, _ :: stack => frame.program code stack
    | .trapIf, .i32 w :: stack => if w = 0 then frame.program code stack else .trap .unreachable
    | _, _ => .trap .unreachable

end ScriptHost
