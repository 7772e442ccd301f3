import StackMachine.Machine

/-! One step of the machine. An instruction reads operands from the top of the stack without
removing them. Stack, program counter and output change together once the instruction has succeeded,
while a variable or the heap changes at once. -/
namespace StackMachine

/-- Apart from faults, a step fails at an instruction whose operand is no number where one is
needed, at a position before the start of the program, and at one that no index of 64 bits reaches.
-/
inductive StepError where
  | fault (e : RuntimeError)
  | noTarget (op : Opcode)
  | beforeStart
  | noIndex
  deriving DecidableEq, Repr

namespace StepError

/-- Names the failing instruction in a fault that has no place yet. -/
def locate (pc : Int) (instruction : String) : StepError → StepError
  | fault ⟨f, none, _⟩ => fault ⟨f, some pc, some instruction⟩
  | e => e

def report? : StepError → Option Report
  | fault e => some e.report
  | _ => none

def message : StepError → String
  | fault e => e.report.text
  | noTarget op => op.mnemonic ++ " has no resolved target"
  | beforeStart => "tuple index out of range"
  | noIndex => "cannot fit 'int' into an index-sized integer"

end StepError

/-- The effects of an instruction that wait for its success: how many values it has taken from the
stack, those it pushes with the last one first, where the program goes on, and what is printed. -/
structure Frame where
  machine : Machine
  taken : Nat := 0
  pushed : List Value := []
  next : Int
  halts : Bool := false
  printed : Array String := #[]

namespace Frame

def start (m : Machine) : Frame := { machine := m, next := m.pc + 1 }

/-- A machine that halts stays at its instruction. -/
def commit (f : Frame) : Machine :=
  { f.machine with
    stack := f.pushed ++ f.machine.stack.drop f.taken
    output := f.machine.output ++ f.printed
    halted := f.machine.halted || f.halts
    pc := if f.halts then f.machine.pc else f.next
    steps := f.machine.steps + 1 }

end Frame

/-- An effect of an instruction. What it has written to variables and to the heap stays if it
fails. -/
abbrev Effect := EStateM StepError Frame

namespace Effect

def fail {α : Type} (f : Fault) : Effect α := throw (.fault { fault := f })

def pop : Effect Value := fun f =>
  match f.machine.stack[f.taken]? with
  | some v => .ok v { f with taken := f.taken + 1 }
  | none => .error (.fault { fault := .stackTooShort f.machine.stack.length }) f

def popNumber : Effect Int := do
  match ← pop with
  | .number n => return n.toInt
  | v => fail (.notNumber v)

def push (v : Value) : Effect Unit := modify fun f => { f with pushed := v :: f.pushed }

def jump (target : Int) : Effect Unit := modify fun f => { f with next := target }

def halt : Effect Unit := modify fun f => { f with halts := true }

def emit (text : String) : Effect Unit := modify fun f => { f with printed := f.printed.push text }

def storeVariable (name : String) (v : Value) : Effect Unit :=
  modify fun f => { f with machine := { f.machine with memory := f.machine.memory.store name v } }

def loadVariable (name : String) : Effect Value := do
  match (← get).machine.memory.get? name with
  | some v => return v
  | none => fail (.variableUnset name)

/-- Runs an operation on the heap of the machine. -/
def onHeap {α : Type} (action : Heap.Action α) : Effect α := fun f =>
  match action f.machine.heap with
  | .ok a h => .ok a { f with machine := { f.machine with heap := h } }
  | .error e h => .error (.fault { fault := e }) { f with machine := { f.machine with heap := h } }

def target (i : Instruction) : Effect Int :=
  match i.target? with
  | some n => return n
  | none => throw (.noTarget i.opcode)

end Effect

namespace Instruction
open Effect

/-- An operation on integers, of which the operand on top is the right one. What it gives is
wrapped. -/
def binary (f : Int → Int → Except Fault Int) : Effect Unit := do
  let b ← popNumber
  let a ← popNumber
  match f a b with
  | .ok n => push (.ofInt (wrap n))
  | .error e => fail e

def arithmetic (f : Int → Int → Int) : Effect Unit := binary fun a b => .ok (f a b)

def comparison (f : Int → Int → Bool) : Effect Unit :=
  binary fun a b => .ok (if f a b then 1 else 0)

/-- Divides the absolute values; the quotient is negative if one operand alone is. -/
def quotient (a b : Int) : Except Fault Int :=
  if b = 0 then .error .divisionByZero
  else
    let q : Int := (a.natAbs / b.natAbs : Nat)
    .ok (if a < 0 ↔ b < 0 then q else -q)

def printValue : Value → Effect Unit
  | .number n => emit (toString n.toInt ++ "\n")
  | .string id => do emit ((← onHeap (Heap.getString (.string id))) ++ "\n")
  | .array _ => fail .arrayNotPrintable

/-- Any code point but a surrogate. -/
def isScalar (code : Int) : Bool :=
  0 ≤ code && code ≤ 0x10FFFF && !(0xD800 ≤ code && code ≤ 0xDFFF)

def perform (i : Instruction) : Effect Unit :=
  match i.opcode with
  | .push => do push (.ofInt (← target i))
  | .pop => do let _ ← pop
  | .dup => do
      let top ← pop
      push top
      push top
  | .swap => do
      let b ← pop
      let a ← pop
      push b
      push a
  | .add => arithmetic (· + ·)
  | .sub => arithmetic (· - ·)
  | .mul => arithmetic (· * ·)
  | .div => binary quotient
  | .lt => comparison fun a b => a < b
  | .le => comparison fun a b => a ≤ b
  | .gt => comparison fun a b => b < a
  | .ge => comparison fun a b => b ≤ a
  | .eq => comparison fun a b => a = b
  | .ne => comparison fun a b => a ≠ b
  | .and => comparison fun a b => a ≠ 0 ∧ b ≠ 0
  | .or => comparison fun a b => a ≠ 0 ∨ b ≠ 0
  | .not => do push (.ofBool ((← popNumber) == 0))
  | .store => do storeVariable i.operand.asText (← pop)
  | .load => do push (← loadVariable i.operand.asText)
  | .jump => do jump (← target i)
  | .jumpZero => do if (← popNumber) = 0 then jump (← target i)
  | .jumpNonzero => do if (← popNumber) ≠ 0 then jump (← target i)
  | .newArray => do
      let size ← popNumber
      push (← onHeap (Heap.allocateArray size))
  | .arraySet => do
      let v ← pop
      let index ← popNumber
      let handle ← pop
      onHeap (Heap.writeCell handle index v)
  | .arrayGet => do
      let index ← popNumber
      let handle ← pop
      push (← onHeap (Heap.readCell handle index))
  | .arrayLen => do
      let handle ← pop
      push (.ofInt (← onHeap (Heap.arrayLength handle)))
  | .freeArray => do onHeap (Heap.freeArray (← pop))
  | .newString => do push (← onHeap (Heap.allocateString i.operand.asText))
  | .concat => do
      let b ← pop
      let a ← pop
      push (← onHeap (Heap.concat a b))
  | .stringLen => do
      let handle ← pop
      push (.ofInt (← onHeap (Heap.stringLength handle)))
  | .freeString => do onHeap (Heap.freeString (← pop))
  | .print => do printValue (← pop)
  | .printChar => do
      let code ← popNumber
      if isScalar code then emit (String.singleton (Char.ofNat code.toNat))
      else fail (.notCodePoint code)
  | .printString => emit i.operand.asText
  | .halt => halt

end Instruction

namespace Machine

/-- Executes the instruction at the program counter. -/
def step : EStateM StepError Machine Unit := fun m =>
  if m.halted then .error (.fault ⟨.halted, some m.pc, none⟩) m
  else if (m.program.size : Int) ≤ m.pc then .error (.fault ⟨.pastEnd, some m.pc, none⟩) m
  else match m.program.at? m.pc with
    | none => .error (if m.pc < Int64.minValue.toInt then .noIndex else .beforeStart) m
    | some i =>
        match i.perform (Frame.start m) with
        | .ok _ f => .ok () f.commit
        | .error e f => .error (e.locate m.pc i.render) f.machine

end Machine

end StackMachine
