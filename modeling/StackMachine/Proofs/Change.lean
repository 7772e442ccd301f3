import StackMachine.Proofs.HeapAction
import StackMachine.Step

/-! What an instruction does once its operands are known: one change, which depends on the operands,
the variables and the heap alone. -/
namespace StackMachine

theorem Instruction.isScalar_iff {code : Int} :
    isScalar code = true ↔ 0 ≤ code ∧ code.toNat.isValidChar := by
  simp only [isScalar, Bool.and_eq_true, Bool.not_eq_true', Bool.and_eq_false_iff,
    decide_eq_true_eq, decide_eq_false_iff_not]
  unfold Nat.isValidChar
  omega

/-- What an instruction asks of an operand. -/
inductive Demand where
  | any | number
  deriving DecidableEq, Repr

namespace Demand

abbrev Reading : Demand → Type
  | any => Value
  | number => Int64

/-- An operand of the demanded kind, or the fault of a value that is none. -/
def accept : (d : Demand) → Value → Except Fault d.Reading
  | any, v => .ok v
  | number, .number n => .ok n
  | number, v => .error (.notNumber v)

end Demand

/-- Operands, the one on top first. -/
def Operands : List Demand → Type
  | [] => Unit
  | d :: ds => d.Reading × Operands ds

namespace Operands

/-- Reads the operands from a stack, in which a fault reports its full depth. -/
def read (depth : Nat) : (ds : List Demand) → List Value → Except Fault (Operands ds)
  | [], _ => .ok ()
  | _ :: _, [] => .error (.stackTooShort depth)
  | d :: ds, v :: stack => do return (← d.accept v, ← read depth ds stack)

end Operands

/-- What an instruction does apart from taking its operands. Without a target the program goes on
with the next instruction. -/
structure Change where
  memory : Memory
  heap : Heap
  pushed : List Value := []
  target? : Option Int := none
  halts : Bool := false
  printed? : Option String := none

def raise {α : Type} (f : Fault) : Except StepError α := .error (.fault { fault := f })

/-- An operation on the heap, and what the change is once it has succeeded. -/
def operate {α : Type} (a : Heap.Action α) (heap : Heap) (finish : α → Heap → Change) :
    Except StepError Change :=
  match a.attempt heap with
  | .ok (x, heap) => .ok (finish x heap)
  | .error f => raise f

namespace Opcode

def demands : Opcode → List Demand
  | push | load | jump | newString | printString | halt => []
  | pop | dup | store | arrayLen | freeArray | stringLen | freeString | print => [.any]
  | not | jumpZero | jumpNonzero | newArray | printChar => [.number]
  | swap | concat => [.any, .any]
  | add | sub | mul | div | lt | le | gt | ge | eq | ne | and | or => [.number, .number]
  | arraySet => [.any, .number, .any]
  | arrayGet => [.number, .any]

def target (op : Opcode) : Operand → Except StepError Int
  | .int n => .ok n
  | _ => .error (.noTarget op)

def change (operand : Operand) (memory : Memory) (heap : Heap) :
    (op : Opcode) → Operands op.demands → Except StepError Change
  | .push, () => do
      return { memory, heap, pushed := [.number (Int64.ofInt (← target push operand))] }
  | .pop, (_, ()) => .ok { memory, heap }
  | .dup, (top, ()) => .ok { memory, heap, pushed := [top, top] }
  | .swap, (b, a, ()) => .ok { memory, heap, pushed := [a, b] }
  | .add, (b, a, ()) => .ok { memory, heap, pushed := [.number (a + b)] }
  | .sub, (b, a, ()) => .ok { memory, heap, pushed := [.number (a - b)] }
  | .mul, (b, a, ()) => .ok { memory, heap, pushed := [.number (a * b)] }
  | .div, (b, a, ()) =>
      if b = 0 then raise .divisionByZero else .ok { memory, heap, pushed := [.number (a / b)] }
  | .lt, (b, a, ()) => .ok { memory, heap, pushed := [.ofBool (a < b)] }
  | .le, (b, a, ()) => .ok { memory, heap, pushed := [.ofBool (a ≤ b)] }
  | .gt, (b, a, ()) => .ok { memory, heap, pushed := [.ofBool (b < a)] }
  | .ge, (b, a, ()) => .ok { memory, heap, pushed := [.ofBool (b ≤ a)] }
  | .eq, (b, a, ()) => .ok { memory, heap, pushed := [.ofBool (a = b)] }
  | .ne, (b, a, ()) => .ok { memory, heap, pushed := [.ofBool (a ≠ b)] }
  | .and, (b, a, ()) => .ok { memory, heap, pushed := [.ofBool (a ≠ 0 ∧ b ≠ 0)] }
  | .or, (b, a, ()) => .ok { memory, heap, pushed := [.ofBool (a ≠ 0 ∨ b ≠ 0)] }
  | .not, (n, ()) => .ok { memory, heap, pushed := [.ofBool (n = 0)] }
  | .store, (v, ()) => .ok { memory := memory.store operand.asText v, heap }
  | .load, () =>
      match memory.get? operand.asText with
      | some v => .ok { memory, heap, pushed := [v] }
      | none => raise (.variableUnset operand.asText)
  | .jump, () => do return { memory, heap, target? := some (← target jump operand) }
  | .jumpZero, (n, ()) =>
      if n = 0 then do return { memory, heap, target? := some (← target jumpZero operand) }
      else .ok { memory, heap }
  | .jumpNonzero, (n, ()) =>
      if n ≠ 0 then do return { memory, heap, target? := some (← target jumpNonzero operand) }
      else .ok { memory, heap }
  | .newArray, (size, ()) =>
      operate (Heap.allocateArray size.toInt) heap fun v heap => { memory, heap, pushed := [v] }
  | .arraySet, (v, index, handle, ()) =>
      operate (Heap.writeCell handle index.toInt v) heap fun _ heap => { memory, heap }
  | .arrayGet, (index, handle, ()) =>
      operate (Heap.readCell handle index.toInt) heap fun v heap => { memory, heap, pushed := [v] }
  | .arrayLen, (handle, ()) =>
      operate (Heap.arrayLength handle) heap fun n heap =>
        { memory, heap, pushed := [.number (Int64.ofNat n)] }
  | .freeArray, (handle, ()) =>
      operate (Heap.freeArray handle) heap fun _ heap => { memory, heap }
  | .newString, () =>
      operate (Heap.allocateString operand.asText) heap fun v heap =>
        { memory, heap, pushed := [v] }
  | .concat, (b, a, ()) =>
      operate (Heap.concat a b) heap fun v heap => { memory, heap, pushed := [v] }
  | .stringLen, (handle, ()) =>
      operate (Heap.stringLength handle) heap fun n heap =>
        { memory, heap, pushed := [.number (Int64.ofNat n)] }
  | .freeString, (handle, ()) =>
      operate (Heap.freeString handle) heap fun _ heap => { memory, heap }
  | .print, (.number n, ()) => .ok { memory, heap, printed? := some (toString n.toInt ++ "\n") }
  | .print, (.string id, ()) =>
      operate (Heap.getString (.string id)) heap fun text heap =>
        { memory, heap, printed? := some (text ++ "\n") }
  | .print, (.array _, ()) => raise .arrayNotPrintable
  | .printChar, (code, ()) =>
      if Instruction.isScalar code.toInt then
        .ok { memory, heap, printed? := some (String.singleton (Char.ofNat code.toInt.toNat)) }
      else raise (.notCodePoint code.toInt)
  | .printString, () => .ok { memory, heap, printed? := some operand.asText }
  | .halt, () => .ok { memory, heap, halts := true }

end Opcode

end StackMachine
