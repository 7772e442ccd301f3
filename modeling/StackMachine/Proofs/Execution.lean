import StackMachine.Proofs.Change
import StackMachine.Proofs.Wrapping

/-! A step in two parts: the operands are read from the top of the stack, and then the instruction
makes its change. The main statement is `step_eq`: a step that succeeds makes the whole change, and
one that fails makes none. -/
namespace StackMachine

namespace Machine

/-- The machine after a change that has taken so many operands. -/
def apply (m : Machine) (taken : Nat) (c : Change) : Machine :=
  { m with
    stack := c.pushed ++ m.stack.drop taken
    memory := c.memory
    heap := c.heap
    output := m.output ++ c.printed?.toArray
    halted := m.halted || c.halts
    pc := if c.halts then m.pc else c.target?.getD (m.pc + 1)
    steps := m.steps + 1 }

/-- The machine after an instruction that puts a value in the place of its operands. -/
def replace (m : Machine) (taken : Nat) (v : Value) : Machine :=
  m.apply taken { memory := m.memory, heap := m.heap, pushed := [v] }

/-- Goes on with the operands under those that have been taken already. -/
def withOperands (m : Machine) (taken : Nat) (ds : List Demand)
    (k : Operands ds → Except StepError Machine) : Except StepError Machine :=
  match Operands.read m.stack.length ds (m.stack.drop taken) with
  | .ok operands => k operands
  | .error f => raise f

/-- The machine that an instruction leaves if it succeeds. -/
def execute (m : Machine) (i : Instruction) : Except StepError Machine :=
  m.withOperands 0 i.opcode.demands fun operands => do
    return m.apply i.opcode.demands.length (← i.opcode.change i.operand m.memory m.heap operands)

/-- The machine that a step leaves if it succeeds. -/
def next (m : Machine) : Except StepError Machine :=
  if m.halted then .error (.fault ⟨.halted, some m.pc, none⟩)
  else if (m.program.size : Int) ≤ m.pc then .error (.fault ⟨.pastEnd, some m.pc, none⟩)
  else match m.program.at? m.pc with
    | none => .error (if m.pc < Int64.minValue.toInt then .noIndex else .beforeStart)
    | some i => (m.execute i).mapError (StepError.locate m.pc i.render)

/-- A result that leaves the machine as it was if it is an error. -/
def settle (m : Machine) : Except StepError Machine → EStateM.Result StepError Machine Unit
  | .ok m' => .ok () m'
  | .error e => .error e m

theorem settle_eq_ok_iff {m m' : Machine} {r : Except StepError Machine} :
    m.settle r = .ok () m' ↔ r = .ok m' := by
  cases r <;> simp [settle]

theorem settle_eq_error_iff {m m' : Machine} {r : Except StepError Machine} {e : StepError} :
    m.settle r = .error e m' ↔ r = .error e ∧ m' = m := by
  cases r <;> simp [settle, eq_comm]

end Machine

namespace Frame

/-- A frame in which nothing has happened but that operands were taken. -/
def reading (m : Machine) (taken : Nat) : Frame := { Frame.start m with taken }

/-- What the instruction leaves: pending effects count only if it succeeds. -/
def conclude : EStateM.Result StepError Frame Unit → EStateM.Result StepError Machine Unit
  | .ok _ f => .ok () f.commit
  | .error e f => .error e f.machine

end Frame

namespace Effect
variable {α β : Type} {m : Machine} {taken : Nat} {ds : List Demand}

theorem bind_apply (x : Effect α) (k : α → Effect β) (f : Frame) :
    (x >>= k) f = match x f with
      | .ok a f' => k a f'
      | .error e f' => .error e f' := by
  cases hx : x f <;> simp only [bind, EStateM.bind, hx]

theorem pop_reading (m : Machine) (taken : Nat) :
    pop (Frame.reading m taken) = match m.stack.drop taken with
      | [] => .error (.fault { fault := .stackTooShort m.stack.length }) (Frame.reading m taken)
      | v :: _ => .ok v (Frame.reading m (taken + 1)) := by
  have hv : (Frame.reading m taken).machine.stack[(Frame.reading m taken).taken]? =
      (m.stack.drop taken).head? := List.head?_drop.symm
  unfold pop
  rw [hv]
  cases m.stack.drop taken <;> rfl

theorem withOperands_cons (d : Demand) (r : Operands (d :: ds) → Except StepError Machine) :
    m.withOperands taken (d :: ds) r = match m.stack.drop taken with
      | [] => raise (.stackTooShort m.stack.length)
      | v :: _ =>
          match d.accept v with
          | .ok x => m.withOperands (taken + 1) ds fun operands => r (x, operands)
          | .error f => raise f := by
  have ht : m.stack.drop (taken + 1) = (m.stack.drop taken).tail := List.tail_drop.symm
  unfold Machine.withOperands
  rw [ht]
  cases m.stack.drop taken with
  | nil => rfl
  | cons v rest =>
    cases hx : d.accept v with
    | error f => simp only [Operands.read, hx]; rfl
    | ok x =>
      cases hr : Operands.read m.stack.length ds rest <;>
        simp only [Operands.read, hx, ok_bind, List.tail_cons, hr] <;> rfl

theorem conclude_pop {k : Value → Effect Unit}
    {r : Operands (.any :: ds) → Except StepError Machine}
    (hk : ∀ v, Frame.conclude (k v (Frame.reading m (taken + 1))) =
      m.settle (m.withOperands (taken + 1) ds fun operands => r (v, operands))) :
    Frame.conclude ((pop >>= k) (Frame.reading m taken)) =
      m.settle (m.withOperands taken (.any :: ds) r) := by
  rw [bind_apply, pop_reading, withOperands_cons]
  cases m.stack.drop taken with
  | nil => rfl
  | cons v _ => exact hk v

theorem conclude_popNumber {k : Int → Effect Unit}
    {r : Operands (.number :: ds) → Except StepError Machine}
    (hk : ∀ n : Int64, Frame.conclude (k n.toInt (Frame.reading m (taken + 1))) =
      m.settle (m.withOperands (taken + 1) ds fun operands => r (n, operands))) :
    Frame.conclude ((popNumber >>= k) (Frame.reading m taken)) =
      m.settle (m.withOperands taken (.number :: ds) r) := by
  unfold popNumber
  rw [bind_assoc, bind_apply, pop_reading, withOperands_cons]
  cases m.stack.drop taken with
  | nil => rfl
  | cons v _ =>
    cases v with
    | number n => exact hk n
    | array _ | string _ => rfl

theorem loadVariable_reading (m : Machine) (taken : Nat) (name : String) :
    loadVariable name (Frame.reading m taken) = match m.memory.get? name with
      | some v => .ok v (Frame.reading m taken)
      | none => .error (.fault { fault := .variableUnset name }) (Frame.reading m taken) := by
  unfold loadVariable
  rw [bind_apply]
  show (match m.memory.get? name with
    | some v => pure v
    | none => fail (.variableUnset name) : Effect Value) (Frame.reading m taken) = _
  cases m.memory.get? name <;> rfl

/-- What is computed from two numbers is wrapped before a number is made of it, which wraps it
again. -/
theorem conclude_binary {f : Int → Int → Except Fault Int}
    {r : Operands [.number, .number] → Except StepError Machine}
    (hr : ∀ a b : Int64, r (b, a, ()) = match f a.toInt b.toInt with
      | .ok n => .ok (m.replace 2 (.ofInt n))
      | .error e => raise e) :
    Frame.conclude (Instruction.binary f (Frame.reading m 0)) =
      m.settle (m.withOperands 0 [.number, .number] r) := by
  refine conclude_popNumber fun b => conclude_popNumber fun a => ?_
  show Frame.conclude ((match f a.toInt b.toInt with
    | .ok n => push (.ofInt (wrap n))
    | .error e => fail e : Effect Unit) (Frame.reading m 2)) = m.settle (r (b, a, ()))
  rw [hr a b]
  cases f a.toInt b.toInt with
  | ok n => exact congrArg (fun v => EStateM.Result.ok () (m.replace 2 v)) (Value.ofInt_wrap n)
  | error e => rfl

theorem conclude_arithmetic {f : Int → Int → Int} (g : Int64 → Int64 → Value)
    (hg : ∀ a b, Value.ofInt (f a.toInt b.toInt) = g a b) :
    Frame.conclude (Instruction.arithmetic f (Frame.reading m 0)) =
      m.settle (m.withOperands 0 [.number, .number] fun (b, a, ()) =>
        .ok (m.replace 2 (g a b))) :=
  conclude_binary fun a b => congrArg (fun v => Except.ok (m.replace 2 v)) (hg a b).symm

theorem conclude_comparison {f : Int → Int → Bool} (g : Int64 → Int64 → Bool)
    (hg : ∀ a b, f a.toInt b.toInt = g a b) :
    Frame.conclude (Instruction.comparison f (Frame.reading m 0)) =
      m.settle (m.withOperands 0 [.number, .number] fun (b, a, ()) =>
        .ok (m.replace 2 (.ofBool (g a b)))) := by
  refine conclude_binary fun a b => congrArg (fun v => Except.ok (m.replace 2 v)) ?_
  rw [← hg a b, Value.ofInt_one_or_zero]

theorem conclude_onHeap {a : Heap.Action α} (ha : a.Atomic) (k : α → Effect Unit)
    (finish : α → Heap → Change)
    (hk : ∀ x heap, Frame.conclude (k x (Frame.reading { m with heap } taken)) =
      .ok () (m.apply taken (finish x heap))) :
    Frame.conclude ((onHeap a >>= k) (Frame.reading m taken)) =
      m.settle (operate a m.heap finish >>= fun c => .ok (m.apply taken c)) := by
  rw [bind_apply]
  cases hr : a m.heap with
  | ok x heap =>
    have ho : onHeap a (Frame.reading m taken) = .ok x (Frame.reading { m with heap } taken) := by
      simp only [onHeap, Frame.reading, Frame.start, hr]
    have hc : operate a m.heap finish = .ok (finish x heap) := by
      simp only [operate, Heap.Action.attempt, hr]
    rw [ho, hc]
    exact hk x heap
  | error f heap =>
    have hh : heap = m.heap := ha hr
    have ho : onHeap a (Frame.reading m taken) = .error (.fault { fault := f })
        (Frame.reading m taken) := by
      simp only [onHeap, Frame.reading, Frame.start, hr, hh]
    have hc : operate a m.heap finish = raise f := by
      simp only [operate, Heap.Action.attempt, hr]
    rw [ho, hc]
    rfl

theorem conclude_onHeap_last {a : Heap.Action Unit} (ha : a.Atomic) (finish : Unit → Heap → Change)
    (hk : ∀ heap, Frame.conclude (.ok () (Frame.reading { m with heap } taken)) =
      .ok () (m.apply taken (finish () heap))) :
    Frame.conclude (onHeap a (Frame.reading m taken)) =
      m.settle (operate a m.heap finish >>= fun c => .ok (m.apply taken c)) := by
  rw [← bind_pure (onHeap a)]
  exact conclude_onHeap ha pure finish fun _ heap => hk heap

end Effect

namespace Instruction
open Effect

theorem conclude_perform (i : Instruction) (m : Machine) :
    Frame.conclude (i.perform (Frame.start m)) = m.settle (m.execute i) := by
  obtain ⟨op, operand, line⟩ := i
  cases op with
  | push =>
    cases operand with
    | int n =>
      show m.settle (.ok (m.replace 0 (.ofInt n))) = _
      rw [Value.ofInt_eq]
      rfl
    | none | text => rfl
  | jump => cases operand <;> rfl
  | pop | dup | store => exact conclude_pop fun _ => rfl
  | swap => exact conclude_pop fun _ => conclude_pop fun _ => rfl
  | add => exact conclude_arithmetic _ Value.ofInt_add
  | sub => exact conclude_arithmetic _ Value.ofInt_sub
  | mul => exact conclude_arithmetic _ Value.ofInt_mul
  | div =>
    refine conclude_binary fun a b => ?_
    rw [quotient_eq]
    show (if b = 0 then _ else _ : Except StepError Change) >>= _ = _
    by_cases hb : b = 0
    · rw [if_pos hb, if_pos (toInt_eq_zero_iff.mpr hb)]
      rfl
    · rw [if_neg hb, if_neg fun h => hb (toInt_eq_zero_iff.mp h), ← Value.ofInt_tdiv]
      rfl
  | lt =>
    exact conclude_comparison (fun a b => a < b) fun _ _ =>
      decide_eq_decide.mpr Int64.lt_iff_toInt_lt.symm
  | le =>
    exact conclude_comparison (fun a b => a ≤ b) fun _ _ =>
      decide_eq_decide.mpr Int64.le_iff_toInt_le.symm
  | gt =>
    exact conclude_comparison (fun a b => b < a) fun _ _ =>
      decide_eq_decide.mpr Int64.lt_iff_toInt_lt.symm
  | ge =>
    exact conclude_comparison (fun a b => b ≤ a) fun _ _ =>
      decide_eq_decide.mpr Int64.le_iff_toInt_le.symm
  | eq =>
    exact conclude_comparison (fun a b => a = b) fun _ _ =>
      decide_eq_decide.mpr Int64.toInt_inj
  | ne =>
    exact conclude_comparison (fun a b => a ≠ b) fun _ _ =>
      decide_eq_decide.mpr (not_congr Int64.toInt_inj)
  | and =>
    exact conclude_comparison (fun a b => a ≠ 0 ∧ b ≠ 0) fun _ _ =>
      decide_eq_decide.mpr (and_congr (not_congr toInt_eq_zero_iff) (not_congr toInt_eq_zero_iff))
  | or =>
    exact conclude_comparison (fun a b => a ≠ 0 ∨ b ≠ 0) fun _ _ =>
      decide_eq_decide.mpr (or_congr (not_congr toInt_eq_zero_iff) (not_congr toInt_eq_zero_iff))
  | not =>
    refine conclude_popNumber fun n => ?_
    have hn : (n.toInt == 0) = decide (n = 0) := decide_eq_decide.mpr toInt_eq_zero_iff
    show Frame.conclude (push (.ofBool (n.toInt == 0)) (Frame.reading m 1)) = _
    rw [hn]
    rfl
  | load =>
    show Frame.conclude ((loadVariable operand.asText >>= push) (Frame.reading m 0)) =
      m.settle (Opcode.change operand m.memory m.heap .load () >>= fun c => .ok (m.apply 0 c))
    rw [bind_apply, loadVariable_reading, Opcode.change]
    cases m.memory.get? operand.asText <;> rfl
  | jumpZero =>
    refine conclude_popNumber fun n => ?_
    show Frame.conclude ((if n.toInt = 0 then _ else _ : Effect Unit) _) =
      m.settle ((if n = 0 then _ else _ : Except StepError Change) >>= _)
    simp only [toInt_eq_zero_iff]
    split
    · cases operand <;> rfl
    · rfl
  | jumpNonzero =>
    refine conclude_popNumber fun n => ?_
    show Frame.conclude ((if n.toInt ≠ 0 then _ else _ : Effect Unit) _) =
      m.settle ((if n ≠ 0 then _ else _ : Except StepError Change) >>= _)
    simp only [ne_eq, toInt_eq_zero_iff]
    split
    · cases operand <;> rfl
    · rfl
  | newArray =>
    exact conclude_popNumber fun size =>
      conclude_onHeap (Heap.allocateArray_atomic size.toInt) push _ fun _ _ => rfl
  | arraySet =>
    exact conclude_pop fun v => conclude_popNumber fun index => conclude_pop fun handle =>
      conclude_onHeap_last (Heap.writeCell_atomic handle index.toInt v) _ fun _ => rfl
  | arrayGet =>
    exact conclude_popNumber fun index => conclude_pop fun handle =>
      conclude_onHeap (Heap.readCell_readOnly handle index.toInt).atomic push _ fun _ _ => rfl
  | arrayLen =>
    exact conclude_pop fun handle => conclude_onHeap (Heap.arrayLength_readOnly handle).atomic
      (fun n => push (.ofInt n)) _ fun n _ => by rw [Value.ofInt_natCast n]; rfl
  | freeArray =>
    exact conclude_pop fun handle =>
      conclude_onHeap_last (Heap.freeArray_atomic handle) _ fun _ => rfl
  | newString =>
    -- No operand was taken, so that unification has nothing to find the change from.
    exact @conclude_onHeap _ m 0 _ (Heap.allocateString_atomic operand.asText) push
      (fun v heap => { memory := m.memory, heap, pushed := [v] }) fun _ _ => rfl
  | concat =>
    exact conclude_pop fun b => conclude_pop fun a =>
      conclude_onHeap (Heap.concat_atomic a b) push _ fun _ _ => rfl
  | stringLen =>
    exact conclude_pop fun handle => conclude_onHeap (Heap.stringLength_readOnly handle).atomic
      (fun n => push (.ofInt n)) _ fun n _ => by rw [Value.ofInt_natCast n]; rfl
  | freeString =>
    exact conclude_pop fun handle =>
      conclude_onHeap_last (Heap.freeString_atomic handle) _ fun _ => rfl
  | print =>
    refine conclude_pop fun v => ?_
    cases v with
    | number n => rfl
    | string id =>
      exact conclude_onHeap (Heap.getString_readOnly (.string id)).atomic
        (fun text => emit (text ++ "\n")) _ fun _ _ => rfl
    | array id => rfl
  | printChar =>
    refine conclude_popNumber fun code => ?_
    show Frame.conclude ((if isScalar code.toInt then _ else _ : Effect Unit) _) =
      m.settle ((if isScalar code.toInt then _ else _ : Except StepError Change) >>= _)
    split <;> rfl
  | printString | halt => rfl

end Instruction

namespace Machine

/-- A step makes the change of its instruction, or fails and makes none. -/
theorem step_eq (m : Machine) : m.step = m.settle m.next := by
  unfold step next
  split
  · rfl
  · split
    · rfl
    · cases m.program.at? m.pc with
      | none => rfl
      | some i =>
        have hp := Instruction.conclude_perform i m
        show (match i.perform (Frame.start m) with
          | .ok _ f => EStateM.Result.ok () f.commit
          | .error e f => .error (e.locate m.pc i.render) f.machine) =
            m.settle ((m.execute i).mapError (StepError.locate m.pc i.render))
        cases hr : i.perform (Frame.start m) with
        | ok _ f =>
          rw [hr] at hp
          rw [settle_eq_ok_iff.mp hp.symm]
          rfl
        | error e f =>
          rw [hr] at hp
          obtain ⟨he, hm⟩ := settle_eq_error_iff.mp hp.symm
          rw [he, ← hm]
          rfl

theorem execute_of_read {m : Machine} {i : Instruction} {operands : Operands i.opcode.demands}
    (h : Operands.read m.stack.length i.opcode.demands m.stack = .ok operands) :
    m.execute i = i.opcode.change i.operand m.memory m.heap operands >>= fun c =>
      .ok (m.apply i.opcode.demands.length c) := by
  unfold execute withOperands
  rw [List.drop_zero, h]
  rfl

theorem execute_of_read_error {m : Machine} {i : Instruction} {f : Fault}
    (h : Operands.read m.stack.length i.opcode.demands m.stack = .error f) :
    m.execute i = raise f := by
  unfold execute withOperands
  rw [List.drop_zero, h]

/-- The instruction that is next, if there is one. This does not depend on what the machine holds.
-/
def fetch (m : Machine) : Except StepError Instruction :=
  if m.halted then .error (.fault ⟨.halted, some m.pc, none⟩)
  else if (m.program.size : Int) ≤ m.pc then .error (.fault ⟨.pastEnd, some m.pc, none⟩)
  else match m.program.at? m.pc with
    | none => .error (if m.pc < Int64.minValue.toInt then .noIndex else .beforeStart)
    | some i => .ok i

theorem next_eq (m : Machine) :
    m.next = m.fetch >>= fun i => (m.execute i).mapError (StepError.locate m.pc i.render) := by
  unfold next fetch
  split
  · rfl
  · split
    · rfl
    · cases m.program.at? m.pc <;> rfl

theorem fetch_eq_ok_iff {m : Machine} {i : Instruction} :
    m.fetch = .ok i ↔ m.finished = false ∧ m.program.at? m.pc = some i := by
  unfold fetch finished
  by_cases hh : m.halted = true
  · simp [hh]
  · by_cases hp : (m.program.size : Int) ≤ m.pc
    · simp [hh, hp]
    · cases m.program.at? m.pc <;> simp [hh, hp]

/-- The instruction of a step that succeeds, its operands and its change. -/
theorem exists_change_of_next {m m' : Machine} (h : m.next = .ok m') :
    ∃ i operands c, m.finished = false ∧ m.program.at? m.pc = some i ∧
      Operands.read m.stack.length i.opcode.demands m.stack = .ok operands ∧
      i.opcode.change i.operand m.memory m.heap operands = .ok c ∧
      m' = m.apply i.opcode.demands.length c := by
  rw [next_eq] at h
  obtain ⟨i, hi, h⟩ := bind_eq_ok_iff.mp h
  obtain ⟨hf, hi⟩ := fetch_eq_ok_iff.mp hi
  have he : m.execute i = .ok m' := mapError_eq_ok_iff.mp h
  cases hr : Operands.read m.stack.length i.opcode.demands m.stack with
  | error f =>
    rw [execute_of_read_error hr] at he
    cases he
  | ok operands =>
    rw [execute_of_read hr] at he
    obtain ⟨c, hc, he⟩ := bind_eq_ok_iff.mp he
    cases he
    exact ⟨i, operands, c, hf, hi, hr, hc, rfl⟩

theorem next_of_change {m : Machine} {i : Instruction} {operands : Operands i.opcode.demands}
    {c : Change} (hi : m.fetch = .ok i)
    (hr : Operands.read m.stack.length i.opcode.demands m.stack = .ok operands)
    (hc : i.opcode.change i.operand m.memory m.heap operands = .ok c) :
    m.next = .ok (m.apply i.opcode.demands.length c) := by
  rw [next_eq, hi, ok_bind, execute_of_read hr, hc]
  rfl

/-- The machine whose instruction has pushed these values on such a stack and done nothing else. -/
def pushing (m : Machine) (pushed rest : List Value) : Machine :=
  { m with stack := pushed ++ rest, pc := m.pc + 1, steps := m.steps + 1 }

theorem apply_pushed (m : Machine) (taken : Nat) (pushed : List Value) :
    m.apply taken { memory := m.memory, heap := m.heap, pushed } =
      m.pushing pushed (m.stack.drop taken) := by
  simp [apply, pushing]

theorem step_eq_ok_iff {m m' : Machine} : m.step = .ok () m' ↔ m.next = .ok m' := by
  rw [step_eq, settle_eq_ok_iff]

theorem step_eq_error_iff {m m' : Machine} {e : StepError} :
    m.step = .error e m' ↔ m.next = .error e ∧ m' = m := by
  rw [step_eq, settle_eq_error_iff]

end Machine

end StackMachine
