import StackMachine.Proofs.AssembledProgram
import StackMachine.Proofs.Failure

/-! The checks of a step in their order. A step of an assembled program fails exactly if one of the
checks of its instruction does, and the first one that does gives the kind of the error. -/
namespace StackMachine

/-- A condition of a step, and the kind of error if it does not hold. -/
structure Check where
  kind : ErrorKind
  holds : Bool
  deriving DecidableEq, Repr

namespace Check

/-- The first check that fails. -/
def first? (checks : List Check) : Option Check := checks.find? fun c => !c.holds

def refusal? (checks : List Check) : Option ErrorKind := (first? checks).map (·.kind)

variable {checks : List Check}

@[simp] theorem refusal?_nil : refusal? [] = none := rfl

@[simp] theorem refusal?_cons (kind : ErrorKind) (holds : Bool) (checks : List Check) :
    refusal? (⟨kind, holds⟩ :: checks) = if holds then refusal? checks else some kind := by
  cases holds <;> simp [refusal?, first?]

theorem refusal?_append (checks later : List Check) :
    refusal? (checks ++ later) = (refusal? checks).or (refusal? later) := by
  unfold refusal? first?
  rw [List.find?_append]
  cases checks.find? fun c => !c.holds <;> rfl

theorem refusal?_eq_none_iff : refusal? checks = none ↔ ∀ c ∈ checks, c.holds = true := by
  simp [refusal?, first?]

end Check

/-! ### The checks of an instruction -/

/-- An operand must be there, and it must be a number if that is demanded. -/
def Demand.checks : Demand → Option Value → List Check
  | any, v => [⟨.stackUnderflow, v.isSome⟩]
  | number, v => [⟨.stackUnderflow, v.isSome⟩, ⟨.typeMismatch, v matches some (.number _)⟩]

/-- Operands are read from the top of the stack downward. -/
def Operands.checks : List Demand → List Value → List Check
  | [], _ => []
  | d :: ds, stack => d.checks stack.head? ++ checks ds stack.tail

def Value.idIn? : ArenaName → Value → Option Int
  | .array, .array id => some id
  | .string, .string id => some id
  | _, _ => none

/-- Whether the object is live, if one of that id was made. -/
def Heap.live? (heap : Heap) : ArenaName → Int → Option Bool
  | .array, id => (heap.arrays.slot? id).map (·.live)
  | .string, id => (heap.strings.slot? id).map (·.live)

/-- A handle must be of the right arena, issued, and live. -/
def Heap.handleChecks (heap : Heap) (freed : ErrorKind) (arena : ArenaName) (v : Option Value) :
    List Check :=
  let id? := v.bind (Value.idIn? arena)
  let live? := id?.bind (heap.live? arena)
  [⟨.typeMismatch, id?.isSome⟩, ⟨.invalidHandle, live?.isSome⟩, ⟨freed, live? = some true⟩]

/-- The places of the operands that must be handles, in the order in which they are looked up. Only
a number can be printed without one. -/
def Opcode.handles (stack : List Value) : Opcode → List (Nat × ArenaName)
  | arraySet => [(2, .array)]
  | arrayGet => [(1, .array)]
  | arrayLen | freeArray => [(0, .array)]
  | concat => [(1, .string), (0, .string)]
  | stringLen | freeString => [(0, .string)]
  | print => if stack.head? matches some (.number _) then [] else [(0, .string)]
  | _ => []

/-- How an object that was freed before is refused. -/
def Opcode.refusalOfFreed : Opcode → ErrorKind
  | freeArray | freeString => .doubleFree
  | _ => .useAfterFree

namespace Machine

/-- The number in that place of the stack, if there is one. -/
def numberAt (m : Machine) (k : Nat) : Int :=
  match m.stack[k]? with
  | some (.number n) => n.toInt
  | _ => 0

/-- The length of the array whose handle is in that place of the stack, if there is one. -/
def lengthAt (m : Machine) (k : Nat) : Nat :=
  match m.stack[k]? with
  | some (.array id) => ((m.heap.arrays.slot? id).map (·.payload.size)).getD 0
  | _ => 0

/-- What is asked of numbers and names when the operands have been found to be of their kinds. -/
def rangeChecks (m : Machine) (i : Instruction) : List Check :=
  match i.opcode with
  | .arraySet => [⟨.outOfBounds, 0 ≤ m.numberAt 1 ∧ m.numberAt 1 < m.lengthAt 2⟩]
  | .arrayGet => [⟨.outOfBounds, 0 ≤ m.numberAt 0 ∧ m.numberAt 0 < m.lengthAt 1⟩]
  | .newArray => [⟨.outOfBounds, 0 ≤ m.numberAt 0⟩, ⟨.outOfBounds, m.numberAt 0 < Heap.sizeBound⟩]
  | .div => [⟨.divisionByZero, m.numberAt 0 ≠ 0⟩]
  | .printChar =>
      [⟨.invalidCharacter, 0 ≤ m.numberAt 0 ∧ (m.numberAt 0).toNat.isValidChar⟩]
  | .load => [⟨.unknownVariable, i.operand.asText ∈ m.memory.names⟩]
  | _ => []

def handleChecks (m : Machine) (i : Instruction) : List Check :=
  (i.opcode.handles m.stack).flatMap fun (k, arena) =>
    m.heap.handleChecks i.opcode.refusalOfFreed arena m.stack[k]?

/-- All checks of the instruction in their order. -/
def checks (m : Machine) (i : Instruction) : List Check :=
  Operands.checks i.opcode.demands m.stack ++ (m.handleChecks i ++ m.rangeChecks i)

end Machine

/-! ### Results that the checks decide -/

/-- The result is a value if all checks hold. Otherwise it is a fault of the kind that the first
failing check has, raised as an error. -/
inductive Judged {ε α : Type} (raised : Fault → ε) (checks : List Check) : Except ε α → Prop
  | passes {a : α} (h : Check.refusal? checks = none) : Judged raised checks (.ok a)
  | fails {f : Fault} (h : Check.refusal? checks = some f.kind) :
      Judged raised checks (.error (raised f))

namespace Judged
variable {ε ε' α β : Type} {raised : Fault → ε} {checks later : List Check} {x : Except ε α}

theorem bind {k : α → Except ε β} (h : Judged raised checks x)
    (hk : ∀ {a}, x = .ok a → Judged raised later (k a)) :
    Judged raised (checks ++ later) (x >>= k) := by
  cases h with
  | fails h =>
    refine .fails ?_
    rw [Check.refusal?_append, h]
    rfl
  | @passes a h =>
    have happend : Check.refusal? (checks ++ later) = Check.refusal? later := by
      rw [Check.refusal?_append, h]
      rfl
    have hlater := hk rfl
    rw [ok_bind]
    generalize k a = y at hlater
    cases hlater with
    | passes h => exact .passes (happend.trans h)
    | fails h => exact .fails (happend.trans h)

theorem andThen {k : α → β} (h : Judged raised checks x) :
    Judged raised checks (x >>= fun a => .ok (k a)) := by
  cases h with
  | passes h => exact .passes h
  | fails h => exact .fails h

theorem mapError {f : ε → ε'} (h : Judged raised checks x) :
    Judged (fun fault => f (raised fault)) checks (x.mapError f) := by
  cases h with
  | passes h => exact .passes h
  | fails h => exact .fails h

end Judged

/-! ### Every instruction is decided by its checks -/

namespace Heap
variable {heap : Heap} {handle : Value}

theorem judged_slot {α : Type} {a : Arena α} {refusal : ArenaName → Int → Fault}
    {name : ArenaName} {freed : ErrorKind} (hf : ∀ id, (refusal name id).kind = freed) (id : Int) :
    Judged (fun f => f)
      [⟨.invalidHandle, ((a.slot? id).map (·.live)).isSome⟩,
        ⟨freed, (a.slot? id).map (·.live) = some true⟩] (a.liveSlot refusal name id) := by
  unfold Arena.liveSlot
  cases a.slot? id with
  | none => exact .fails rfl
  | some s =>
    obtain ⟨payload, live⟩ := s
    cases live with
    | true => exact .passes rfl
    | false => exact .fails (congrArg some (hf id).symm)

theorem judged_array {β : Type} {refusal : ArenaName → Int → Fault} {freed : ErrorKind}
    (hf : ∀ id, (refusal .array id).kind = freed) (k : Int → Slot (Array Value) → β) :
    Judged (fun f => f) (heap.handleChecks freed .array (some handle))
      (arrayId handle >>= fun id =>
        heap.arrays.liveSlot refusal .array id >>= fun s => .ok (k id s)) := by
  cases handle with
  | number | string => exact .fails rfl
  | array id =>
    have hid : Judged (fun f => f) [⟨.typeMismatch, true⟩] (arrayId (.array id)) := .passes rfl
    refine hid.bind fun ha => ?_
    cases ha
    exact (judged_slot hf id).andThen

theorem judged_string {β : Type} {refusal : ArenaName → Int → Fault} {freed : ErrorKind}
    (hf : ∀ id, (refusal .string id).kind = freed) (k : Int → Slot String → β) :
    Judged (fun f => f) (heap.handleChecks freed .string (some handle))
      (stringId handle >>= fun id =>
        heap.strings.liveSlot refusal .string id >>= fun s => .ok (k id s)) := by
  cases handle with
  | number | array => exact .fails rfl
  | string id =>
    have hid : Judged (fun f => f) [⟨.typeMismatch, true⟩] (stringId (.string id)) := .passes rfl
    refine hid.bind fun ha => ?_
    cases ha
    exact (judged_slot hf id).andThen

theorem judged_liveArray (heap : Heap) (handle : Value) :
    Judged (fun f => f) (heap.handleChecks .useAfterFree .array (some handle))
      (liveArray handle heap) :=
  judged_array (fun _ => rfl) fun id s => (id, s.payload)

theorem judged_liveString (heap : Heap) (handle : Value) :
    Judged (fun f => f) (heap.handleChecks .useAfterFree .string (some handle))
      (liveString handle heap) :=
  judged_string (fun _ => rfl) fun _ s => s.payload

theorem judged_freeArray (heap : Heap) (handle : Value) :
    Judged (fun f => f) (heap.handleChecks .doubleFree .array (some handle))
      ((freeArray handle).attempt heap) := by
  rw [attempt_freeArray]
  exact judged_array (fun _ => rfl) _

theorem judged_freeString (heap : Heap) (handle : Value) :
    Judged (fun f => f) (heap.handleChecks .doubleFree .string (some handle))
      ((freeString handle).attempt heap) := by
  rw [attempt_freeString]
  exact judged_string (fun _ => rfl) _

theorem judged_checkIndex (index : Int) (length : Nat) :
    Judged (fun f => f) [⟨.outOfBounds, 0 ≤ index ∧ index < length⟩] (checkIndex index length) := by
  unfold checkIndex
  by_cases h : 0 ≤ index ∧ index < length
  · rw [if_pos h]
    exact .passes (by simp [h])
  · rw [if_neg h]
    exact .fails (by simp [h, Fault.kind])

theorem judged_allocateArray (heap : Heap) (size : Int) :
    Judged (fun f => f) [⟨.outOfBounds, 0 ≤ size⟩, ⟨.outOfBounds, size < sizeBound⟩]
      ((allocateArray size).attempt heap) := by
  rw [attempt_allocateArray]
  by_cases hn : size < 0
  · rw [if_pos hn]
    exact .fails (by simp [Int.not_le.mpr hn, Fault.kind])
  · by_cases hb : size ≥ sizeBound
    · rw [if_neg hn, if_pos hb]
      exact .fails (by simp [Int.not_lt.mpr hb, Int.not_lt.mp hn, Fault.kind])
    · rw [if_neg hn, if_neg hb]
      exact .passes (by simp [Int.not_le.mp hb, Int.not_lt.mp hn])

/-- An index is checked against the length of the array that has been found. -/
theorem judged_cell {β : Type} (heap : Heap) (handle : Value) (index : Int) {length : Nat}
    (hlength : ∀ {id cells}, handle = .array id →
      heap.arrays.slot? id = some { payload := cells } → length = cells.size)
    (k : Int × Array Value → Nat → β) :
    Judged (fun f => f) (heap.handleChecks .useAfterFree .array (some handle) ++
        [⟨.outOfBounds, 0 ≤ index ∧ index < length⟩])
      (liveArray handle heap >>= fun r => checkIndex index r.2.size >>= fun n => .ok (k r n)) := by
  refine (judged_liveArray heap handle).bind fun hr => ?_
  obtain ⟨rfl, hs⟩ := liveArray_eq_ok_iff.mp hr
  rw [hlength rfl hs]
  exact (judged_checkIndex index _).andThen

theorem judged_concat (heap : Heap) (a b : Value) :
    Judged (fun f => f) (heap.handleChecks .useAfterFree .string (some a) ++
      heap.handleChecks .useAfterFree .string (some b)) ((concat a b).attempt heap) := by
  rw [attempt_concat]
  exact (judged_liveString heap a).bind fun _ => (judged_liveString heap b).andThen

end Heap

/-- A fault of an instruction, which has no place yet. -/
def StepError.raised (f : Fault) : StepError := .fault { fault := f }

namespace Operands

theorem judged_read (depth : Nat) (ds : List Demand) (stack : List Value) :
    Judged (fun f => f) (checks ds stack) (read depth ds stack) := by
  induction ds generalizing stack with
  | nil => exact .passes rfl
  | cons d ds ih =>
    cases stack with
    | nil => cases d <;> exact .fails rfl
    | cons v stack =>
      have haccept : Judged (fun f => f) (d.checks (some v)) (d.accept v) := by
        cases d with
        | any => exact .passes rfl
        | number => cases v with
          | number n => exact .passes rfl
          | array | string => exact .fails rfl
      exact haccept.bind fun _ => (ih stack).andThen

end Operands

namespace Judged
open StepError
variable {checks : List Check}

theorem operate {α : Type} {a : Heap.Action α} {heap : Heap} {finish : α → Heap → Change}
    (h : Judged (fun f => f) checks (a.attempt heap)) :
    Judged raised checks (operate a heap finish) := by
  unfold StackMachine.operate
  generalize a.attempt heap = result at h
  cases h with
  | passes h => exact .passes h
  | fails h => exact .fails h

theorem of_condition {p : Prop} [Decidable p] {holds : Bool} {kind : ErrorKind} {f : Fault}
    {c : Change} (hp : holds = true ↔ p) (hf : f.kind = kind) :
    Judged raised [⟨kind, holds⟩] (if p then .ok c else raise f) := by
  by_cases h : p
  · rw [if_pos h]
    exact .passes (by simp [hp.mpr h])
  · rw [if_neg h]
    exact .fails (by simp [mt hp.mp h, hf])

end Judged

theorem Machine.lengthAt_eq {m : Machine} {k : Nat} {id : Int} {cells : Array Value}
    (hk : m.stack[k]? = some (.array id))
    (hs : m.heap.arrays.slot? id = some { payload := cells }) : m.lengthAt k = cells.size := by
  simp [lengthAt, hk, hs]

namespace Instruction
open Opcode

theorem judged_change {size : Nat} {i : Instruction} {m : Machine}
    {operands : Operands i.opcode.demands} {rest : List Value}
    (hi : i.operand.Fits size i.opcode.operandKind)
    (hs : m.stack = Operands.values _ operands ++ rest) :
    Judged StepError.raised (m.handleChecks i ++ m.rangeChecks i)
      (i.opcode.change i.operand m.memory m.heap operands) := by
  obtain ⟨op, operand, line⟩ := i
  obtain ⟨program, stack, memory, heap, pc, halted, output, steps⟩ := m
  cases hs
  cases op with
  | push =>
    obtain ⟨n, rfl⟩ := hi.exists_int (.inl rfl)
    exact .passes rfl
  | jump =>
    obtain ⟨n, rfl⟩ := hi.exists_int (.inr rfl)
    exact .passes rfl
  | jumpZero | jumpNonzero =>
    obtain ⟨target, rfl⟩ := hi.exists_int (.inr rfl)
    obtain ⟨n, ⟨⟩⟩ := operands
    simp only [change]
    split <;> exact .passes rfl
  | pop | dup | swap | add | sub | mul | lt | le | gt | ge | eq | ne | and | or | not | store
  | newString | printString | halt => exact .passes rfl
  | div =>
    obtain ⟨b, a, ⟨⟩⟩ := operands
    show Judged _ [⟨.divisionByZero, b.toInt ≠ 0⟩] (if b = 0 then _ else _)
    rw [← ite_not]
    exact .of_condition (by simp [← Int64.toInt_inj]) rfl
  | load =>
    show Judged _ [⟨.unknownVariable, operand.asText ∈ memory.names⟩] (change _ _ _ .load ())
    simp only [change]
    cases hv : memory.get? operand.asText with
    | none =>
      have hn : operand.asText ∉ memory.names := by simp [Memory.mem_names_iff, hv]
      exact .fails (by simp [hn, Fault.kind])
    | some v =>
      have hn : operand.asText ∈ memory.names := Memory.mem_names_iff.mpr ⟨v, hv⟩
      exact .passes (by simp [hn])
  | newArray =>
    exact (Heap.judged_allocateArray heap _).operate
  | arraySet =>
    obtain ⟨v, index, handle, ⟨⟩⟩ := operands
    refine Judged.operate ?_
    rw [Heap.attempt_writeCell]
    exact Heap.judged_cell heap handle index.toInt
      (fun hh hc => Machine.lengthAt_eq (congrArg some hh) hc) _
  | arrayGet =>
    obtain ⟨index, handle, ⟨⟩⟩ := operands
    refine Judged.operate ?_
    rw [Heap.attempt_readCell]
    exact Heap.judged_cell heap handle index.toInt
      (fun hh hc => Machine.lengthAt_eq (congrArg some hh) hc) _
  | arrayLen =>
    refine Judged.operate ?_
    rw [Heap.attempt_arrayLength]
    exact (Heap.judged_liveArray heap _).andThen
  | freeArray => exact (Heap.judged_freeArray heap _).operate
  | concat => exact (Heap.judged_concat heap _ _).operate
  | stringLen =>
    refine Judged.operate ?_
    rw [Heap.attempt_stringLength]
    exact (Heap.judged_liveString heap _).andThen
  | freeString => exact (Heap.judged_freeString heap _).operate
  | print =>
    obtain ⟨v, ⟨⟩⟩ := operands
    cases v with
    | number n => exact .passes rfl
    | array id => exact .fails rfl
    | string id =>
      refine Judged.operate ?_
      rw [Heap.attempt_getString]
      exact (Heap.judged_liveString heap _).andThen
  | printChar =>
    obtain ⟨code, ⟨⟩⟩ := operands
    exact .of_condition (by rw [decide_eq_true_iff, isScalar_iff]; rfl) rfl

end Instruction

namespace Machine
variable {m : Machine} {i : Instruction}

theorem execute_eq (m : Machine) (i : Instruction) :
    m.execute i =
      (Operands.read m.stack.length i.opcode.demands m.stack).mapError StepError.raised >>=
        fun operands => i.opcode.change i.operand m.memory m.heap operands >>= fun c =>
          .ok (m.apply i.opcode.demands.length c) := by
  cases hr : Operands.read m.stack.length i.opcode.demands m.stack with
  | ok operands => exact execute_of_read hr
  | error f => exact execute_of_read_error hr

theorem judged_execute {size : Nat} (hi : i.operand.Fits size i.opcode.operandKind) :
    Judged StepError.raised (m.checks i) (m.execute i) := by
  rw [execute_eq]
  refine (Operands.judged_read _ _ _).mapError.bind fun hr => ?_
  have hstack := Operands.append_of_read (mapError_eq_ok_iff.mp hr)
  exact (Instruction.judged_change hi hstack).andThen

theorem judged_next (hp : m.program.WellFormed) (hf : m.finished = false)
    (hi : m.program.at? m.pc = some i) :
    Judged (fun f => .fault ⟨f, some m.pc, some i.render⟩) (m.checks i) m.next := by
  rw [next_eq, fetch_eq_ok_iff.mpr ⟨hf, hi⟩, ok_bind]
  have hexecute : Judged StepError.raised (m.checks i) (m.execute i) :=
    judged_execute (hp.operands i (Program.mem_of_at? hi))
  exact hexecute.mapError (f := StepError.locate m.pc i.render)

/-- A step of an assembled program, from whatever state that is at an instruction, fails exactly if
one of its checks does, with a fault of the kind of the first one that does. A position before the
start counts from the end. -/
theorem step_checked {text : String} {p : Program} (h : assemble text = .ok p) {m : Machine}
    (hm : m.program = p) (hf : m.finished = false) :
    ((∃ i, p.at? m.pc = some i) ↔ -(p.size : Int) ≤ m.pc) ∧
    ∀ i, p.at? m.pc = some i →
      ((∃ e m', m.step = .error e m') ↔ ∃ c ∈ m.checks i, c.holds = false) ∧
      ∀ e m', m.step = .error e m' → ∃ r c, e = .fault r ∧
        Check.first? (m.checks i) = some c ∧ r.fault.kind = c.kind := by
  subst hm
  have hlt : m.pc < m.program.size := by
    have hend := (Bool.or_eq_false_iff.mp hf).2
    simpa using hend
  constructor
  · rw [Program.exists_at?_iff]
    exact and_iff_left hlt
  intro i hi
  have hjudged := judged_next (assemble_wellFormed h) hf hi
  constructor
  · generalize hn : m.next = result at hjudged
    cases hjudged with
    | passes hpass =>
      have hall := Check.refusal?_eq_none_iff.mp hpass
      constructor
      · rintro ⟨e, m', hs⟩
        cases hn.symm.trans (step_eq_error_iff.mp hs).1
      · rintro ⟨c, hc, hfails⟩
        exact absurd (hall c hc) (by simp [hfails])
    | @fails f hfails =>
      obtain ⟨c, hc, -⟩ := Option.map_eq_some_iff.mp hfails
      constructor
      · intro _
        exact ⟨c, List.mem_of_find?_eq_some hc, by simpa using List.find?_some hc⟩
      · intro _
        exact ⟨_, m, step_eq_error_iff.mpr ⟨hn, rfl⟩⟩
  · intro e m' hs
    rw [(step_eq_error_iff.mp hs).1] at hjudged
    cases hjudged with
    | fails hfails =>
      obtain ⟨c, hc, hkind⟩ := Option.map_eq_some_iff.mp hfails
      exact ⟨_, c, rfl, hc, hkind.symm⟩

/-- A machine that is about to read past the end of an array that has been freed. -/
def staleRead : Machine where
  program := { instructions := #[⟨.arrayGet, .none, some 1⟩] }
  stack := [.number 9, .array 1]
  heap := { arrays := ⟨[(1, { payload := #[.number 0], live := false })], 2⟩ }

theorem staleRead_checked : assemble "ARRAYGET" = .ok staleRead.program ∧
    staleRead.checks ⟨.arrayGet, .none, some 1⟩ =
      [⟨.stackUnderflow, true⟩, ⟨.typeMismatch, true⟩, ⟨.stackUnderflow, true⟩,
        ⟨.typeMismatch, true⟩, ⟨.invalidHandle, true⟩, ⟨.useAfterFree, false⟩,
        ⟨.outOfBounds, false⟩] ∧
    ∃ r m', staleRead.step = .error (.fault r) m' ∧ r.fault.kind = .useAfterFree := by
  have hp : (assemble "ARRAYGET").toOption = some staleRead.program := by decide +kernel
  have hp := toOption_eq_some_iff.mp hp
  obtain ⟨hfails, hkind⟩ := (step_checked hp rfl rfl).2 _ rfl
  obtain ⟨e, m', hs⟩ := hfails.mpr ⟨⟨.useAfterFree, false⟩, by decide, rfl⟩
  obtain ⟨r, c, rfl, hfirst, hk⟩ := hkind e m' hs
  have hc : some ⟨.useAfterFree, false⟩ = some c := hfirst
  cases hc
  exact ⟨hp, by decide, r, m', hs, hk⟩

end Machine

end StackMachine
