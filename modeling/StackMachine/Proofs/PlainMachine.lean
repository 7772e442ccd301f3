import Mathlib.Logic.Function.Basic
import StackMachine.Heap
import StackMachine.Program

/-! A plain stack machine, which takes its operands off the stack one by one and pushes its results.
Its variables and objects are functions of names and ids. -/
namespace StackMachine

/-- The top of the stack comes first. The names are in the order in which they were first assigned,
and each kind of object has the id of the next one. -/
structure Plain where
  stack : List Value
  names : List String
  memory : String → Option Value
  arrays : Int → Option (Slot (Array Value))
  nextArray : Int
  strings : Int → Option (Slot String)
  nextString : Int
  output : List String
  pc : Int
  halted : Bool
  steps : Nat

namespace Plain

abbrev Action := StateT Plain Option

def pop : Action Value := fun s =>
  match s.stack with
  | [] => none
  | v :: rest => some (v, { s with stack := rest })

def push (v : Value) : Action Unit := modify fun s => { s with stack := v :: s.stack }

def popNumber : Action Int := do
  match ← pop with
  | .number n => return n.toInt
  | _ => failure

/-- Pushes a number, wrapped to 64 bits. -/
def pushNumber (n : Int) : Action Unit := push (.number (Int64.ofInt n))

def pushTruth (b : Bool) : Action Unit := pushNumber (if b then 1 else 0)

/-- The left operand is under the right one. -/
def binary (f : Int → Int → Action Unit) : Action Unit := do
  let b ← popNumber
  let a ← popNumber
  f a b

def arithmetic (f : Int → Int → Int) : Action Unit := binary fun a b => pushNumber (f a b)

def comparison (f : Int → Int → Bool) : Action Unit := binary fun a b => pushTruth (f a b)

def quotient (a b : Int) : Action Unit := do
  guard (b ≠ 0)
  pushNumber (a.tdiv b)

/-- A new name comes last. -/
def assign (name : String) (v : Value) : Action Unit := modify fun s =>
  { s with
    names := if name ∈ s.names then s.names else s.names ++ [name]
    memory := Function.update s.memory name (some v) }

def pushVariable (name : String) : Action Unit := do push (← (← get).memory name)

def jumpIf (p : Bool) (target : Int) : Action Unit := modify fun s =>
  { s with pc := if p then target else s.pc }

def write (text : String) : Action Unit := modify fun s => { s with output := s.output ++ [text] }

def writeChar (code : Int) : Action Unit := do
  guard (0 ≤ code ∧ code.toNat.isValidChar)
  write (String.singleton (Char.ofNat code.toNat))

def halt : Action Unit := modify fun s => { s with halted := true, pc := s.pc - 1 }

/-- The id and the elements of a live array. -/
def array : Value → Action (Int × Array Value)
  | .array id => do
      match (← get).arrays id with
      | some ⟨cells, true⟩ => return (id, cells)
      | _ => failure
  | _ => failure

def putArray (id : Int) (slot : Slot (Array Value)) : Action Unit :=
  modify fun s => { s with arrays := Function.update s.arrays id (some slot) }

def newArray (size : Int) : Action Unit := do
  guard (0 ≤ size)
  let id := (← get).nextArray
  putArray id { payload := Array.replicate size.toNat (.number 0) }
  modify fun s => { s with nextArray := id + 1 }
  push (.array id)

def setCell (handle : Value) (index : Int) (v : Value) : Action Unit := do
  let (id, cells) ← array handle
  guard (0 ≤ index ∧ index < cells.size)
  putArray id { payload := cells.setIfInBounds index.toNat v }

def pushCell (handle : Value) (index : Int) : Action Unit := do
  let (_, cells) ← array handle
  guard (0 ≤ index)
  push (← cells[index.toNat]?)

def pushSize (handle : Value) : Action Unit := do
  let (_, cells) ← array handle
  pushNumber cells.size

def freeArray (handle : Value) : Action Unit := do
  let (id, cells) ← array handle
  putArray id { payload := cells, live := false }

/-- The id and the text of a live string. -/
def string : Value → Action (Int × String)
  | .string id => do
      match (← get).strings id with
      | some ⟨text, true⟩ => return (id, text)
      | _ => failure
  | _ => failure

def putString (id : Int) (slot : Slot String) : Action Unit :=
  modify fun s => { s with strings := Function.update s.strings id (some slot) }

def newString (text : String) : Action Unit := do
  let id := (← get).nextString
  putString id { payload := text }
  modify fun s => { s with nextString := id + 1 }
  push (.string id)

def join (a b : Value) : Action Unit := do
  let (_, left) ← string a
  let (_, right) ← string b
  newString (left ++ right)

/-- The length counts code points. -/
def pushLength (handle : Value) : Action Unit := do
  let (_, text) ← string handle
  pushNumber text.length

def freeString (handle : Value) : Action Unit := do
  let (id, text) ← string handle
  putString id { payload := text, live := false }

def writeLine : Value → Action Unit
  | .number n => write (toString n.toInt ++ "\n")
  | v => do
      let (_, text) ← string v
      write (text ++ "\n")

/-- What an instruction does when the program counter is already past it. -/
def perform (i : Instruction) : Action Unit :=
  match i.opcode, i.operand with
  | .push, .int n => pushNumber n
  | .pop, _ => do let _ ← pop
  | .dup, _ => do
      let v ← pop
      push v
      push v
  | .swap, _ => do
      let b ← pop
      let a ← pop
      push b
      push a
  | .add, _ => arithmetic fun a b => a + b
  | .sub, _ => arithmetic fun a b => a - b
  | .mul, _ => arithmetic fun a b => a * b
  | .div, _ => binary quotient
  | .lt, _ => comparison fun a b => a < b
  | .le, _ => comparison fun a b => a ≤ b
  | .gt, _ => comparison fun a b => b < a
  | .ge, _ => comparison fun a b => b ≤ a
  | .eq, _ => comparison fun a b => a = b
  | .ne, _ => comparison fun a b => a ≠ b
  | .and, _ => comparison fun a b => a ≠ 0 ∧ b ≠ 0
  | .or, _ => comparison fun a b => a ≠ 0 ∨ b ≠ 0
  | .not, _ => do pushTruth ((← popNumber) = 0)
  | .store, .text name => do assign name (← pop)
  | .load, .text name => pushVariable name
  | .jump, .int target => jumpIf true target
  | .jumpZero, .int target => do jumpIf ((← popNumber) = 0) target
  | .jumpNonzero, .int target => do jumpIf ((← popNumber) ≠ 0) target
  | .newArray, _ => do newArray (← popNumber)
  | .arraySet, _ => do
      let v ← pop
      let index ← popNumber
      setCell (← pop) index v
  | .arrayGet, _ => do
      let index ← popNumber
      pushCell (← pop) index
  | .arrayLen, _ => do pushSize (← pop)
  | .freeArray, _ => do freeArray (← pop)
  | .newString, .text text => newString text
  | .concat, _ => do
      let b ← pop
      let a ← pop
      join a b
  | .stringLen, _ => do pushLength (← pop)
  | .freeString, _ => do freeString (← pop)
  | .print, _ => do writeLine (← pop)
  | .printChar, _ => do writeChar (← popNumber)
  | .printString, .text text => write text
  | .halt, _ => halt
  | _, _ => failure

/-- A halted machine makes no step, nor does one that is past its program. -/
def step (p : Program) (s : Plain) : Option Plain :=
  if s.halted ∨ (p.size : Int) ≤ s.pc then none
  else match p.at? s.pc with
    | none => none
    | some i => (perform i { s with pc := s.pc + 1, steps := s.steps + 1 }).map (·.2)

/-- The plain machine after so many steps. -/
def run (p : Program) : Nat → Plain → Option Plain
  | 0, s => some s
  | n + 1, s => step p s >>= run p n

/-- No object has an id that is still to be given. -/
structure Fresh (s : Plain) : Prop where
  arrays : ∀ id, s.nextArray ≤ id → s.arrays id = none
  strings : ∀ id, s.nextString ≤ id → s.strings id = none

section Binds
variable {α : Type} {s : Plain} {id : Int}

theorem guard_bind {p : Prop} [Decidable p] (h : p) (k : Unit → Action α) :
    (guard p >>= k) s = k () s := by
  have hg : (guard p : Action Unit) = pure () := if_pos h
  rw [hg]
  rfl

theorem some_bind {o : Option α} {a : α} {β : Type} (h : o = some a) (k : α → Action β) :
    ((o : Action α) >>= k) s = k a s := by
  rw [h]
  rfl

theorem array_bind {cells : Array Value} (h : s.arrays id = some { payload := cells })
    (k : Int × Array Value → Action α) : (array (.array id) >>= k) s = k (id, cells) s := by
  change ((match s.arrays id with
    | some ⟨cells, true⟩ => pure (id, cells)
    | _ => failure : Action (Int × Array Value)) >>= k) s = _
  rw [h]
  rfl

theorem string_bind {text : String} (h : s.strings id = some { payload := text })
    (k : Int × String → Action α) : (string (.string id) >>= k) s = k (id, text) s := by
  change ((match s.strings id with
    | some ⟨text, true⟩ => pure (id, text)
    | _ => failure : Action (Int × String)) >>= k) s = _
  rw [h]
  rfl

end Binds

end Plain

end StackMachine
