import StackMachine.Proofs.AssembledProgram
import StackMachine.Proofs.ChangeShape
import StackMachine.Proofs.Lockstep
import StackMachine.Proofs.PlainMachine

/-! The machine beside the plain one. Every step of an assembled program that succeeds is a step of
the plain machine, and so is every run of such steps. -/
namespace StackMachine

theorem Memory.get?_store_eq_update (memory : Memory) (name : String) (v : Value) :
    (memory.store name v).get? = Function.update memory.get? name (some v) := by
  funext other
  simp [Function.update_apply]

namespace Arena
variable {α : Type} {a : Arena α} {id : Int} {s t : Slot α}

theorem slot?_setSlot_eq_update (a : Arena α) (id : Int) (s : Slot α) :
    (a.setSlot id s).slot? = Function.update a.slot? id (some s) := by
  funext other
  simp [Function.update_apply]

theorem slot?_allocate_eq_update (a : Arena α) (payload : α) :
    (a.allocate payload).slot? = Function.update a.slot? a.nextId (some { payload }) := by
  funext other
  simp [Function.update_apply]

def Fresh (a : Arena α) : Prop := ∀ id, a.nextId ≤ id → a.slot? id = none

theorem Fresh.allocate (h : a.Fresh) (payload : α) : (a.allocate payload).Fresh := by
  intro id hid
  rw [nextId_allocate] at hid
  rw [slot?_allocate, if_neg (by omega)]
  exact h id (by omega)

theorem Fresh.setSlot (h : a.Fresh) (hs : a.slot? id = some s) : (a.setSlot id t).Fresh := by
  intro other ho
  rw [slot?_setSlot, if_neg, h other ho]
  rintro rfl
  rw [h other ho] at hs
  cases hs

end Arena

namespace Machine
variable {m : Machine} {rest : List Value} {c : Change}

/-- The machine as a plain one. -/
def view (m : Machine) : Plain where
  stack := m.stack
  names := m.memory.names
  memory := m.memory.get?
  arrays := m.heap.arrays.slot?
  nextArray := m.heap.arrays.nextId
  strings := m.heap.strings.slot?
  nextString := m.heap.strings.nextId
  output := m.output.toList
  pc := m.pc
  halted := m.halted
  steps := m.steps

/-- The plain machine with such a stack when the next instruction has been fetched. -/
def fetched (m : Machine) (stack : List Value) : Plain :=
  { m.view with stack, pc := m.pc + 1, steps := m.steps + 1 }

/-- The plain machine after a change, with the rest of the stack under what is pushed. -/
def performed (m : Machine) (rest : List Value) (c : Change) : Plain where
  stack := c.pushed ++ rest
  names := c.memory.names
  memory := c.memory.get?
  arrays := c.heap.arrays.slot?
  nextArray := c.heap.arrays.nextId
  strings := c.heap.strings.slot?
  nextString := c.heap.strings.nextId
  output := match c.printed? with
    | none => m.output.toList
    | some text => m.output.toList ++ [text]
  pc := if c.halts then m.pc else c.target?.getD (m.pc + 1)
  halted := c.halts || m.halted
  steps := m.steps + 1

theorem view_apply (m : Machine) (taken : Nat) (c : Change) :
    (m.apply taken c).view = m.performed (m.stack.drop taken) c := by
  unfold apply view performed
  cases c.printed? <;> simp [Bool.or_comm]

/-- After the fetch, and with its operands off the stack, the action comes to the change. -/
def Performs (m : Machine) (rest : List Value) (x : Plain.Action Unit) (c : Change) : Prop :=
  x (m.fetched rest) = some ((), m.performed rest c)

section Numbers

theorem performs_pushNumber {n : Int} {x : Int64} (h : Int64.ofInt n = x) :
    m.Performs rest (Plain.pushNumber n)
      { memory := m.memory, heap := m.heap, pushed := [.number x] } := by
  subst h
  rfl

theorem performs_pushTruth {p q : Bool} (h : p = q) : m.Performs rest (Plain.pushTruth p)
    { memory := m.memory, heap := m.heap, pushed := [.ofBool q] } := by
  subst h
  cases p <;> rfl

theorem performs_quotient {a b : Int64} (hb : b ≠ 0) :
    m.Performs rest (Plain.quotient a.toInt b.toInt)
      { memory := m.memory, heap := m.heap, pushed := [.number (a / b)] } := by
  have hn : b.toInt ≠ 0 := by simpa [← Int64.toInt_inj] using hb
  have hq : Int64.ofInt (a.toInt.tdiv b.toInt) = a / b := by
    rw [← Int64.toInt_inj, Int64.toInt_ofInt, Int64.toInt_div]
  exact (Plain.guard_bind hn _).trans (performs_pushNumber hq)

theorem performs_writeChar {code : Int} (h : Instruction.isScalar code = true) :
    m.Performs rest (Plain.writeChar code)
      { memory := m.memory
        heap := m.heap
        printed? := some (String.singleton (Char.ofNat code.toNat)) } :=
  Plain.guard_bind (Instruction.isScalar_iff.mp h) _

end Numbers

section Objects
variable {handle : Value}

theorem performs_putArray (id : Int) (slot : Slot (Array Value)) :
    m.Performs rest (Plain.putArray id slot)
      { memory := m.memory, heap := { m.heap with arrays := m.heap.arrays.setSlot id slot } } := by
  unfold Performs performed
  rw [Arena.slot?_setSlot_eq_update]
  rfl

theorem performs_newArray {size : Int} {r : Value × Heap}
    (h : (Heap.allocateArray size).attempt m.heap = .ok r) :
    m.Performs rest (Plain.newArray size)
      { memory := m.memory, heap := r.2, pushed := [r.1] } := by
  obtain ⟨hn, -, rfl⟩ := Heap.allocateArray_ok h
  refine (Plain.guard_bind hn _).trans ?_
  unfold performed
  rw [Arena.slot?_allocate_eq_update]
  rfl

theorem performs_setCell {index : Int} {v : Value} {r : Unit × Heap}
    (h : (Heap.writeCell handle index v).attempt m.heap = .ok r) :
    m.Performs rest (Plain.setCell handle index v) { memory := m.memory, heap := r.2 } := by
  obtain ⟨id, cells, k, rfl, hs, rfl, hk, rfl⟩ := Heap.writeCell_ok h
  have hbounds : 0 ≤ (k : Int) ∧ (k : Int) < cells.size := by omega
  exact (Plain.array_bind (s := m.fetched rest) hs _).trans
    ((Plain.guard_bind hbounds _).trans (performs_putArray id _))

theorem performs_pushCell {index : Int} {r : Value × Heap}
    (h : (Heap.readCell handle index).attempt m.heap = .ok r) :
    m.Performs rest (Plain.pushCell handle index)
      { memory := m.memory, heap := r.2, pushed := [r.1] } := by
  obtain ⟨v, heap⟩ := r
  obtain ⟨id, cells, k, rfl, hs, rfl, hv, rfl⟩ := Heap.readCell_ok h
  refine (Plain.array_bind (s := m.fetched rest) hs _).trans ?_
  refine (Plain.guard_bind (Int.natCast_nonneg k) _).trans ?_
  exact Plain.some_bind (by rwa [Int.toNat_natCast]) _

theorem performs_pushSize {r : Nat × Heap}
    (h : (Heap.arrayLength handle).attempt m.heap = .ok r) :
    m.Performs rest (Plain.pushSize handle)
      { memory := m.memory, heap := r.2, pushed := [.number (Int64.ofNat r.1)] } := by
  obtain ⟨id, cells, rfl, hs, rfl⟩ := Heap.arrayLength_ok h
  exact (Plain.array_bind (s := m.fetched rest) hs _).trans (performs_pushNumber rfl)

theorem performs_freeArray {r : Unit × Heap} (h : (Heap.freeArray handle).attempt m.heap = .ok r) :
    m.Performs rest (Plain.freeArray handle) { memory := m.memory, heap := r.2 } := by
  obtain ⟨id, cells, rfl, hs, rfl⟩ := Heap.freeArray_ok h
  exact (Plain.array_bind (s := m.fetched rest) hs _).trans (performs_putArray id _)

theorem performs_newString (text : String) :
    m.Performs rest (Plain.newString text)
      { memory := m.memory
        heap := { m.heap with strings := m.heap.strings.allocate text }
        pushed := [.string m.heap.strings.nextId] } := by
  unfold Performs performed
  rw [Arena.slot?_allocate_eq_update]
  rfl

theorem performs_join {a b : Value} {r : Value × Heap}
    (h : (Heap.concat a b).attempt m.heap = .ok r) :
    m.Performs rest (Plain.join a b) { memory := m.memory, heap := r.2, pushed := [r.1] } := by
  obtain ⟨left, right, hl, hr, rfl⟩ := Heap.concat_ok h
  obtain ⟨first, rfl, ha⟩ := Heap.liveString_eq_ok_iff.mp hl
  obtain ⟨second, rfl, hb⟩ := Heap.liveString_eq_ok_iff.mp hr
  exact (Plain.string_bind (s := m.fetched rest) ha _).trans
    ((Plain.string_bind (s := m.fetched rest) hb _).trans (performs_newString _))

theorem performs_pushLength {r : Nat × Heap}
    (h : (Heap.stringLength handle).attempt m.heap = .ok r) :
    m.Performs rest (Plain.pushLength handle)
      { memory := m.memory, heap := r.2, pushed := [.number (Int64.ofNat r.1)] } := by
  obtain ⟨id, text, rfl, hs, rfl⟩ := Heap.stringLength_ok h
  exact (Plain.string_bind (s := m.fetched rest) hs _).trans (performs_pushNumber rfl)

theorem performs_freeString {r : Unit × Heap}
    (h : (Heap.freeString handle).attempt m.heap = .ok r) :
    m.Performs rest (Plain.freeString handle) { memory := m.memory, heap := r.2 } := by
  obtain ⟨id, text, rfl, hs, rfl⟩ := Heap.freeString_ok h
  refine (Plain.string_bind (s := m.fetched rest) hs _).trans ?_
  unfold performed
  rw [Arena.slot?_setSlot_eq_update]
  rfl

theorem performs_writeLine {id : Int} {r : String × Heap}
    (h : (Heap.getString (.string id)).attempt m.heap = .ok r) :
    m.Performs rest (Plain.writeLine (.string id))
      { memory := m.memory, heap := r.2, printed? := some (r.1 ++ "\n") } := by
  obtain ⟨text, heap⟩ := r
  obtain ⟨_, ⟨⟩, hs, rfl⟩ := Heap.getString_ok h
  exact Plain.string_bind (s := m.fetched rest) hs _

end Objects

theorem performs_assign (name : String) (v : Value) :
    m.Performs rest (Plain.assign name v)
      { memory := m.memory.store name v, heap := m.heap } := by
  unfold Performs performed
  rw [Memory.names_store, Memory.get?_store_eq_update]
  rfl

theorem performs_pushVariable {name : String} {v : Value} (h : m.memory.get? name = some v) :
    m.Performs rest (Plain.pushVariable name)
      { memory := m.memory, heap := m.heap, pushed := [v] } :=
  Plain.some_bind (s := m.fetched rest) h _

/-- A jump that is not taken goes on with the next instruction. -/
theorem performs_jumpIf {p : Bool} {target : Int} {target? : Option Int}
    (h : target? = if p then some target else none) :
    m.Performs rest (Plain.jumpIf p target) { memory := m.memory, heap := m.heap, target? } := by
  subst h
  cases p <;> rfl

theorem performs_halt : m.Performs rest Plain.halt
    { memory := m.memory, heap := m.heap, halts := true } := by
  have hpc : m.pc + 1 - 1 = m.pc := by omega
  show some ((), { m.fetched rest with halted := true, pc := m.pc + 1 - 1 }) = _
  rw [hpc]
  rfl

theorem performs_of_operate {α : Type} {a : Heap.Action α} {finish : α → Heap → Change}
    {x : Plain.Action Unit}
    (hx : ∀ {r}, a.attempt m.heap = .ok r → m.Performs rest x (finish r.1 r.2))
    (hc : operate a m.heap finish = .ok c) : m.Performs rest x c := by
  obtain ⟨r, hr, rfl⟩ := operate_eq_ok_iff.mp hc
  exact hx hr

end Machine

namespace Instruction
open Opcode Machine

/-- The plain machine does with the operands on its stack what the instruction does. -/
theorem perform_of_change {size : Nat} {i : Instruction} {m : Machine}
    {operands : Operands i.opcode.demands} {c : Change}
    (hi : i.operand.Fits size i.opcode.operandKind)
    (hc : i.opcode.change i.operand m.memory m.heap operands = .ok c) (rest : List Value) :
    Plain.perform i (m.fetched (Operands.values _ operands ++ rest)) =
      some ((), m.performed rest c) := by
  obtain ⟨op, operand, line⟩ := i
  -- On operands that are written out the pops compute. What is left is the action behind them.
  cases op with
  | push =>
    obtain ⟨n, rfl⟩ := hi.exists_int (.inl rfl)
    cases hc
    rfl
  | pop | dup | swap =>
    cases hc
    rfl
  | add | sub | mul =>
    obtain ⟨b, a, ⟨⟩⟩ := operands
    cases hc
    exact performs_pushNumber (by simp [Int64.ofInt_add, Int64.ofInt_sub, Int64.ofInt_mul])
  | div =>
    obtain ⟨b, a, ⟨⟩⟩ := operands
    simp only [change] at hc
    split at hc <;> cases hc
    exact performs_quotient ‹_›
  | lt | gt =>
    obtain ⟨b, a, ⟨⟩⟩ := operands
    cases hc
    exact performs_pushTruth (by simp [Int64.lt_iff_toInt_lt])
  | le | ge =>
    obtain ⟨b, a, ⟨⟩⟩ := operands
    cases hc
    exact performs_pushTruth (by simp [Int64.le_iff_toInt_le])
  | eq | ne | and | or =>
    obtain ⟨b, a, ⟨⟩⟩ := operands
    cases hc
    exact performs_pushTruth (by simp [← Int64.toInt_inj])
  | not =>
    obtain ⟨n, ⟨⟩⟩ := operands
    cases hc
    exact performs_pushTruth (by simp [← Int64.toInt_inj])
  | store =>
    obtain ⟨name, rfl⟩ := hi.exists_text (.inr rfl)
    cases hc
    exact performs_assign name _
  | load =>
    obtain ⟨name, rfl⟩ := hi.exists_text (.inr rfl)
    obtain ⟨⟩ := operands
    simp only [change] at hc
    split at hc <;> cases hc
    exact performs_pushVariable ‹_›
  | jump =>
    obtain ⟨target, rfl⟩ := hi.exists_int (.inr rfl)
    cases hc
    exact performs_jumpIf rfl
  | jumpZero | jumpNonzero =>
    obtain ⟨target, rfl⟩ := hi.exists_int (.inr rfl)
    obtain ⟨n, ⟨⟩⟩ := operands
    simp only [change] at hc
    split at hc <;> rename_i hn <;> cases hc
    all_goals exact performs_jumpIf (by simpa [← Int64.toInt_inj] using hn)
  | newArray =>
    obtain ⟨size, ⟨⟩⟩ := operands
    exact performs_of_operate (fun hr => performs_newArray hr) hc
  | arraySet =>
    obtain ⟨v, index, handle, ⟨⟩⟩ := operands
    exact performs_of_operate (fun hr => performs_setCell hr) hc
  | arrayGet =>
    obtain ⟨index, handle, ⟨⟩⟩ := operands
    exact performs_of_operate (fun hr => performs_pushCell hr) hc
  | arrayLen =>
    obtain ⟨handle, ⟨⟩⟩ := operands
    exact performs_of_operate (fun hr => performs_pushSize hr) hc
  | freeArray =>
    obtain ⟨handle, ⟨⟩⟩ := operands
    exact performs_of_operate (fun hr => performs_freeArray hr) hc
  | newString =>
    obtain ⟨text, rfl⟩ := hi.exists_text (.inl rfl)
    cases hc
    exact performs_newString text
  | concat =>
    obtain ⟨b, a, ⟨⟩⟩ := operands
    exact performs_of_operate (fun hr => performs_join hr) hc
  | stringLen =>
    obtain ⟨handle, ⟨⟩⟩ := operands
    exact performs_of_operate (fun hr => performs_pushLength hr) hc
  | freeString =>
    obtain ⟨handle, ⟨⟩⟩ := operands
    exact performs_of_operate (fun hr => performs_freeString hr) hc
  | print =>
    obtain ⟨v, ⟨⟩⟩ := operands
    cases v with
    | number n =>
      cases hc
      rfl
    | string id => exact performs_of_operate (fun hr => performs_writeLine hr) hc
    | array id => cases hc
  | printChar =>
    obtain ⟨code, ⟨⟩⟩ := operands
    simp only [change] at hc
    split at hc <;> cases hc
    exact performs_writeChar ‹_›
  | printString =>
    obtain ⟨text, rfl⟩ := hi.exists_text (.inl rfl)
    cases hc
    rfl
  | halt =>
    cases hc
    exact performs_halt

end Instruction

namespace Machine
variable {m m' : Machine} {i : Instruction} {n : Nat}

theorem program_of_next (h : m.next = .ok m') : m'.program = m.program := by
  obtain ⟨i, operands, c, -, -, -, -, rfl⟩ := exists_change_of_next h
  rfl

/-- A step that succeeds is a step of the plain machine. -/
theorem view_step (hp : m.program.WellFormed) (h : m.next = .ok m') :
    m.view.step m.program = some m'.view := by
  obtain ⟨i, operands, c, hf, hi, hr, hc, rfl⟩ := exists_change_of_next h
  have hstack := Operands.append_of_read hr
  have hperform := Instruction.perform_of_change (hp.operands i (Program.mem_of_at? hi)) hc
    (m.stack.drop i.opcode.demands.length)
  rw [← hstack] at hperform
  have hrun : ¬ (m.view.halted = true ∨ (m.program.size : Int) ≤ m.view.pc) := by
    simpa [finished, view] using hf
  unfold Plain.step
  rw [if_neg hrun, show m.program.at? m.view.pc = some i from hi, view_apply]
  exact congrArg (Option.map (·.2)) hperform

/-- A run in which every step succeeds is one of the plain machine. -/
theorem view_run (hp : m.program.WellFormed) (h : m.after? n = some m') :
    m.view.run m.program n = some m'.view := by
  induction n generalizing m with
  | zero =>
    cases h
    rfl
  | succ n ih =>
    obtain ⟨m₁, hm, h⟩ := exists_next_of_after? h
    have hprogram : m₁.program = m.program := program_of_next hm
    rw [Plain.run, view_step hp hm, ← hprogram]
    exact ih (hprogram ▸ hp) h

theorem fresh_ofProgram (p : Program) : (ofProgram p).view.Fresh :=
  ⟨fun _ _ => rfl, fun _ _ => rfl⟩

theorem fresh_of_next (h : m.next = .ok m') (hf : m.view.Fresh) : m'.view.Fresh := by
  obtain ⟨i, operands, c, -, -, -, hc, rfl⟩ := exists_change_of_next h
  have harrays : m.heap.arrays.Fresh := hf.arrays
  have hstrings : m.heap.strings.Fresh := hf.strings
  suffices hh : c.heap.arrays.Fresh ∧ c.heap.strings.Fresh from ⟨hh.1, hh.2⟩
  cases Instruction.shape_of_change hc with
  | plain | loaded | stored | jumped | halted | readCell => exact ⟨harrays, hstrings⟩
  | newArray => exact ⟨harrays.allocate _, hstrings⟩
  | wroteCell _ _ hs | freedArray hs => exact ⟨harrays.setSlot hs, hstrings⟩
  | newString => exact ⟨harrays, hstrings.allocate _⟩
  | freedString hs => exact ⟨harrays, hstrings.setSlot hs⟩

/-- The joined text is a new string, so that every string of before stays as it was. -/
theorem strings_of_concat (h : m.next = .ok m') (hi : m.program.at? m.pc = some i)
    (ho : i.opcode = .concat) (hf : m.view.Fresh) {id : Int} {t : Slot String}
    (ht : m.view.strings id = some t) : m'.view.strings id = some t := by
  obtain ⟨j, operands, c, -, hj, -, hc, rfl⟩ := exists_change_of_next h
  cases hj.symm.trans hi
  obtain ⟨op, operand, line⟩ := i
  subst ho
  obtain ⟨r, hr, rfl⟩ := operate_eq_ok_iff.mp hc
  obtain ⟨left, right, -, -, rfl⟩ := Heap.concat_ok hr
  show (m.heap.strings.allocate (left ++ right)).slot? id = some t
  -- The id of the new string is none of those that have a slot.
  rw [Arena.slot?_allocate, if_neg]
  · exact ht
  · rintro rfl
    cases ht.symm.trans (hf.strings _ (Int.le_refl _))

end Machine

/-- A step of an assembled program that succeeds, from whatever state, leaves what a step of the
plain machine leaves. The objects of a run are new when they are made, so that strings that are
joined stay as they were. -/
theorem step_refines_plain {text : String} {p : Program} (h : assemble text = .ok p) :
    (Machine.ofProgram p).view.Fresh ∧
    ∀ m m' : Machine, m.program = p → m.step = .ok () m' →
      m.view.step p = some m'.view ∧ m'.program = p ∧
      (m.view.Fresh → m'.view.Fresh ∧
        ∀ i, p.at? m.pc = some i → i.opcode = .concat →
          ∀ id t, m.view.strings id = some t → m'.view.strings id = some t) := by
  refine ⟨Machine.fresh_ofProgram p, ?_⟩
  rintro m m' rfl hm
  have hn := Machine.step_eq_ok_iff.mp hm
  refine ⟨Machine.view_step (assemble_wellFormed h) hn, Machine.program_of_next hn, fun hf => ?_⟩
  exact ⟨Machine.fresh_of_next hn hf, fun i hi ho id t => Machine.strings_of_concat hn hi ho hf⟩

def pasting : String := "NEWSTR \"é\"\nNEWSTR \"b\"\nSTRCAT"

def pastingProgram : Program where
  instructions := #[⟨.newString, .text "é", some 1⟩, ⟨.newString, .text "b", some 2⟩,
    ⟨.concat, .none, some 3⟩]

/-- Two strings have been made. -/
def unpasted : Machine where
  program := pastingProgram
  stack := [.string 2, .string 1]
  heap := { strings := ⟨[(1, { payload := "é" }), (2, { payload := "b" })], 3⟩ }
  pc := 2
  steps := 2

def pasted : Machine where
  program := pastingProgram
  stack := [.string 3]
  heap := { strings :=
    ⟨[(1, { payload := "é" }), (2, { payload := "b" }), (3, { payload := "éb" })], 4⟩ }
  pc := 3
  steps := 3

theorem unpasted_step_refines_plain : assemble pasting = .ok pastingProgram ∧
    unpasted.step = .ok () pasted ∧ unpasted.view.step pastingProgram = some pasted.view ∧
    unpasted.view.Fresh ∧ pasted.view.Fresh ∧
    pasted.view.strings 1 = some { payload := "é" } ∧
    pasted.view.strings 2 = some { payload := "b" } := by
  have hp : (assemble pasting).toOption = some pastingProgram := by decide +kernel
  have hp := toOption_eq_some_iff.mp hp
  have hs : unpasted.step = .ok () pasted := rfl
  have hf : unpasted.view.Fresh := by
    refine ⟨fun _ _ => rfl, ?_⟩
    intro id hid
    have hid : 3 ≤ id := hid
    have h1 : (id == 1) = false := beq_false_of_ne (by omega)
    have h2 : (id == 2) = false := beq_false_of_ne (by omega)
    simp [Machine.view, unpasted, Arena.slot?, List.lookup_cons, h1, h2]
  obtain ⟨hplain, -, hkept⟩ := (step_refines_plain hp).2 unpasted pasted rfl hs
  obtain ⟨hfresh, hstrings⟩ := hkept hf
  exact ⟨hp, hs, hplain, hf, hfresh, hstrings _ rfl rfl 1 _ rfl, hstrings _ rfl rfl 2 _ rfl⟩

end StackMachine
