import StackMachine.Proofs.Failure

/-! The few ways in which an instruction that succeeds can change a machine. What a run keeps is
proved from these, and not from the instructions one by one. -/
namespace StackMachine

/-- A change of an instruction on these operands. -/
inductive Change.Shape (i : Instruction) (memory : Memory) (heap : Heap) (operands : List Value) :
    Change → Prop
  | plain {pushed : List Value} {printed? : Option String}
      (hp : ∀ v ∈ pushed, v ∈ operands ∨ ∃ n, v = .number n) :
      Shape i memory heap operands { memory, heap, pushed, printed? }
  | loaded {v : Value} (ho : i.opcode = .load) (hv : memory.get? i.operand.asText = some v) :
      Shape i memory heap operands { memory, heap, pushed := [v] }
  | stored {v : Value} (ho : i.opcode = .store) (hv : operands = [v]) :
      Shape i memory heap operands { memory := memory.store i.operand.asText v, heap }
  | jumped {n : Int} (hk : i.opcode.operandKind = .label) (hn : i.operand = .int n) :
      Shape i memory heap operands { memory, heap, target? := some n }
  | halted (ho : i.opcode = .halt) : Shape i memory heap operands { memory, heap, halts := true }
  | newArray (size : Nat) : Shape i memory heap operands
      { memory
        heap := { heap with arrays := heap.arrays.allocate (Array.replicate size (.number 0)) }
        pushed := [.array heap.arrays.nextId] }
  | readCell {id : Int} {cells : Array Value} {k : Nat} {v : Value}
      (hs : heap.arrays.slot? id = some { payload := cells }) (hv : cells[k]? = some v) :
      Shape i memory heap operands { memory, heap, pushed := [v] }
  | wroteCell {id : Int} {cells : Array Value} (k : Nat) {v : Value} (ho : i.opcode = .arraySet)
      (hs : heap.arrays.slot? id = some { payload := cells }) (hv : v ∈ operands) :
      Shape i memory heap operands
        { memory
          heap := { heap with
            arrays := heap.arrays.setSlot id { payload := cells.setIfInBounds k v } } }
  | freedArray {id : Int} {cells : Array Value}
      (hs : heap.arrays.slot? id = some { payload := cells }) :
      Shape i memory heap operands
        { memory
          heap := { heap with
            arrays := heap.arrays.setSlot id { payload := cells, live := false } } }
  | newString (text : String) : Shape i memory heap operands
      { memory
        heap := { heap with strings := heap.strings.allocate text }
        pushed := [.string heap.strings.nextId] }
  | freedString {id : Int} {text : String}
      (hs : heap.strings.slot? id = some { payload := text }) :
      Shape i memory heap operands
        { memory
          heap := { heap with
            strings := heap.strings.setSlot id { payload := text, live := false } } }

namespace Change.Shape
open Opcode
variable {i : Instruction} {memory : Memory} {heap : Heap} {operands : List Value} {c : Change}

theorem number (n : Int64) : Shape i memory heap operands { memory, heap, pushed := [.number n] } :=
  .plain fun _ hv => .inr ⟨n, List.mem_singleton.mp hv⟩

theorem nothing {printed? : Option String} :
    Shape i memory heap operands { memory, heap, printed? } :=
  .plain fun _ hv => absurd hv List.not_mem_nil

theorem of_jump (hk : i.opcode.operandKind = .label)
    (hc : (target i.opcode i.operand >>= fun n =>
      (.ok { memory, heap, target? := some n } : Except StepError Change)) = .ok c) :
    Shape i memory heap operands c := by
  obtain ⟨n, hn, hc⟩ := bind_eq_ok_iff.mp hc
  cases hc
  exact .jumped hk (target_eq_ok_iff.mp hn)

theorem of_operate {α : Type} {a : Heap.Action α} {finish : α → Heap → Change}
    (hf : ∀ {r}, a.attempt heap = .ok r → Shape i memory heap operands (finish r.1 r.2))
    (hc : operate a heap finish = .ok c) : Shape i memory heap operands c := by
  obtain ⟨r, hr, rfl⟩ := operate_eq_ok_iff.mp hc
  exact hf hr

/-- Only one instruction halts. -/
theorem opcode_eq_halt (hs : Shape i memory heap operands c) (hh : c.halts = true) :
    i.opcode = .halt := by
  cases hs with
  | halted ho => exact ho
  | _ => cases hh

/-- Only a jump goes elsewhere than to the next instruction. -/
theorem operand_eq_target {n : Int} (hs : Shape i memory heap operands c)
    (hn : c.target? = some n) : i.opcode.operandKind = .label ∧ i.operand = .int n := by
  cases hs with
  | jumped hk ho =>
    cases hn
    exact ⟨hk, ho⟩
  | _ => cases hn

end Change.Shape

namespace Instruction
open Opcode Change.Shape

theorem shape_of_change {i : Instruction} {memory : Memory} {heap : Heap}
    {operands : Operands i.opcode.demands} {c : Change}
    (h : i.opcode.change i.operand memory heap operands = .ok c) :
    c.Shape i memory heap (Operands.values _ operands) := by
  obtain ⟨op, operand, line⟩ := i
  cases op with
  | push =>
    obtain ⟨n, -, h⟩ := bind_eq_ok_iff.mp h
    cases h
    exact .number _
  | pop | printString =>
    cases h
    exact .nothing
  | dup =>
    cases h
    refine .plain fun v hv => .inl ?_
    obtain rfl | hv := List.mem_cons.mp hv
    · exact .head _
    · exact hv
  | swap =>
    cases h
    refine .plain fun v hv => .inl ?_
    obtain rfl | hv := List.mem_cons.mp hv
    · exact .tail _ (.head _)
    · rw [List.mem_singleton.mp hv]
      exact .head _
  | add | sub | mul | lt | le | gt | ge | eq | ne | and | or | not =>
    cases h
    exact .number _
  | div =>
    obtain ⟨b, a, ⟨⟩⟩ := operands
    simp only [change] at h
    split at h <;> cases h
    exact .number _
  | store =>
    cases h
    exact .stored rfl rfl
  | load =>
    obtain ⟨⟩ := operands
    simp only [change] at h
    split at h <;> cases h
    exact .loaded rfl ‹_›
  | jump => exact of_jump rfl h
  | jumpZero =>
    obtain ⟨n, ⟨⟩⟩ := operands
    simp only [change] at h
    split at h
    · exact of_jump rfl h
    · cases h
      exact .nothing
  | jumpNonzero =>
    obtain ⟨n, ⟨⟩⟩ := operands
    simp only [change] at h
    split at h
    · exact of_jump rfl h
    · cases h
      exact .nothing
  | newArray =>
    refine of_operate (fun hr => ?_) h
    obtain ⟨-, -, rfl⟩ := Heap.allocateArray_ok hr
    exact .newArray _
  | arraySet =>
    refine of_operate (fun hr => ?_) h
    obtain ⟨id, cells, k, -, hs, -, -, rfl⟩ := Heap.writeCell_ok hr
    exact .wroteCell k rfl hs (.head _)
  | arrayGet =>
    refine of_operate (fun hr => ?_) h
    obtain ⟨id, cells, k, -, hs, -, hv, hr⟩ := Heap.readCell_ok hr
    rw [hr]
    exact .readCell hs hv
  | arrayLen =>
    refine of_operate (fun hr => ?_) h
    obtain ⟨id, cells, -, -, rfl⟩ := Heap.arrayLength_ok hr
    exact .number _
  | freeArray =>
    refine of_operate (fun hr => ?_) h
    obtain ⟨id, cells, -, hs, rfl⟩ := Heap.freeArray_ok hr
    exact .freedArray hs
  | newString =>
    obtain ⟨⟩ := operands
    simp only [change] at h
    refine of_operate (fun hr => ?_) h
    cases hr
    exact .newString _
  | concat =>
    refine of_operate (fun hr => ?_) h
    obtain ⟨left, right, -, -, rfl⟩ := Heap.concat_ok hr
    exact .newString _
  | stringLen =>
    refine of_operate (fun hr => ?_) h
    obtain ⟨id, text, -, -, rfl⟩ := Heap.stringLength_ok hr
    exact .number _
  | freeString =>
    refine of_operate (fun hr => ?_) h
    obtain ⟨id, text, -, hs, rfl⟩ := Heap.freeString_ok hr
    exact .freedString hs
  | print =>
    obtain ⟨v, ⟨⟩⟩ := operands
    cases v with
    | number n =>
      cases h
      exact .nothing
    | string id =>
      refine of_operate (fun hr => ?_) h
      obtain ⟨_, -, -, hr⟩ := Heap.getString_ok hr
      rw [hr]
      exact .nothing
    | array id => cases h
  | printChar =>
    obtain ⟨code, ⟨⟩⟩ := operands
    simp only [change] at h
    split at h <;> cases h
    exact .nothing
  | halt =>
    cases h
    exact .halted rfl

end Instruction

end StackMachine
