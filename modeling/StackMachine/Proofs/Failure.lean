import StackMachine.Proofs.Execution

/-! Which faults an instruction can raise. A handle that was never issued is refused only if it is
itself among the operands, and no instruction reports that the program is complete. -/
namespace StackMachine

/-- Whether the fault can come of an instruction on these operands. -/
def Fault.ArisesFrom (heap : Heap) (operands : List Value) : Fault → Prop
  | .neverAllocated .array id => .array id ∈ operands ∧ heap.arrays.slot? id = none
  | .neverAllocated .string id => .string id ∈ operands ∧ heap.strings.slot? id = none
  | .halted | .pastEnd | .nothingLoaded | .stepLimit _ => False
  | _ => True

namespace Fault.ArisesFrom
variable {heap : Heap} {operands others : List Value} {f : Fault}

theorem mono (h : f.ArisesFrom heap operands) (hs : operands ⊆ others) :
    f.ArisesFrom heap others := by
  cases f with
  | neverAllocated arena id => cases arena with
    | array => exact ⟨hs h.1, h.2⟩
    | string => exact ⟨hs h.1, h.2⟩
  | halted | pastEnd | nothingLoaded | stepLimit => exact h
  | _ => trivial

theorem kind_ne_programComplete (h : f.ArisesFrom heap operands) : f.kind ≠ .programComplete := by
  cases f with
  | halted | pastEnd => exact h.elim
  | _ => intro hk; cases hk

theorem exists_unissued (h : f.ArisesFrom heap operands) (hk : f.kind = .invalidHandle) :
    ∃ id, .array id ∈ operands ∧ heap.arrays.slot? id = none ∨
      .string id ∈ operands ∧ heap.strings.slot? id = none := by
  cases f with
  | neverAllocated arena id => cases arena with
    | array => exact ⟨id, .inl h⟩
    | string => exact ⟨id, .inr h⟩
  | _ => cases hk

end Fault.ArisesFrom

namespace Heap
variable {h : Heap} {handle : Value} {f : Fault}

theorem arrayId_error (hf : arrayId handle = .error f) : f.ArisesFrom h [handle] := by
  cases handle <;> cases hf <;> trivial

theorem stringId_error (hf : stringId handle = .error f) : f.ArisesFrom h [handle] := by
  cases handle <;> cases hf <;> trivial

theorem liveSlot_error {α : Type} {a : Arena α} {refusal : ArenaName → Int → Fault}
    {name : ArenaName} {id : Int} {operands : List Value}
    (hf : a.liveSlot refusal name id = .error f)
    (hn : a.slot? id = none → (Fault.neverAllocated name id).ArisesFrom h operands)
    (hr : (refusal name id).ArisesFrom h operands) : f.ArisesFrom h operands := by
  obtain ⟨hs, rfl⟩ | ⟨s, -, -, rfl⟩ := Arena.liveSlot_eq_error_iff.mp hf
  · exact hn hs
  · exact hr

theorem liveArray_error (hf : liveArray handle h = .error f) : f.ArisesFrom h [handle] := by
  obtain hid | ⟨id, hid, hk⟩ := bind_eq_error_iff.mp hf
  · exact arrayId_error hid
  · cases arrayId_eq_ok_iff.mp hid
    obtain hs | ⟨s, -, hp⟩ := bind_eq_error_iff.mp hk
    · exact liveSlot_error hs (fun hn => ⟨List.mem_singleton_self _, hn⟩) trivial
    · cases hp

theorem liveString_error (hf : liveString handle h = .error f) : f.ArisesFrom h [handle] := by
  obtain hid | ⟨id, hid, hk⟩ := bind_eq_error_iff.mp hf
  · exact stringId_error hid
  · cases stringId_eq_ok_iff.mp hid
    obtain hs | ⟨s, -, hp⟩ := bind_eq_error_iff.mp hk
    · exact liveSlot_error hs (fun hn => ⟨List.mem_singleton_self _, hn⟩) trivial
    · cases hp

theorem checkIndex_error {index : Int} {length : Nat} {operands : List Value}
    (hf : checkIndex index length = .error f) : f.ArisesFrom h operands := by
  unfold checkIndex at hf
  split at hf <;> cases hf
  trivial

theorem allocateArray_error {size : Int} {operands : List Value}
    (hf : (allocateArray size).attempt h = .error f) : f.ArisesFrom h operands := by
  rw [attempt_allocateArray] at hf
  split at hf
  · cases hf
    trivial
  · split at hf <;> cases hf
    trivial

theorem arrayLength_error (hf : (arrayLength handle).attempt h = .error f) :
    f.ArisesFrom h [handle] := by
  rw [attempt_arrayLength] at hf
  obtain hl | ⟨_, -, hk⟩ := bind_eq_error_iff.mp hf
  · exact liveArray_error hl
  · cases hk

theorem readCell_error {index : Int} (hf : (readCell handle index).attempt h = .error f) :
    f.ArisesFrom h [handle] := by
  rw [attempt_readCell] at hf
  obtain hl | ⟨_, -, hk⟩ := bind_eq_error_iff.mp hf
  · exact liveArray_error hl
  · obtain hi | ⟨_, -, hk⟩ := bind_eq_error_iff.mp hk
    · exact checkIndex_error hi
    · cases hk

theorem writeCell_error {index : Int} {v : Value}
    (hf : (writeCell handle index v).attempt h = .error f) : f.ArisesFrom h [handle] := by
  rw [attempt_writeCell] at hf
  obtain hl | ⟨_, -, hk⟩ := bind_eq_error_iff.mp hf
  · exact liveArray_error hl
  · obtain hi | ⟨_, -, hk⟩ := bind_eq_error_iff.mp hk
    · exact checkIndex_error hi
    · cases hk

theorem freeArray_error (hf : (freeArray handle).attempt h = .error f) :
    f.ArisesFrom h [handle] := by
  rw [attempt_freeArray] at hf
  obtain hid | ⟨id, hid, hk⟩ := bind_eq_error_iff.mp hf
  · exact arrayId_error hid
  · cases arrayId_eq_ok_iff.mp hid
    obtain hs | ⟨s, -, hp⟩ := bind_eq_error_iff.mp hk
    · exact liveSlot_error hs (fun hn => ⟨List.mem_singleton_self _, hn⟩) trivial
    · cases hp

theorem getString_error (hf : (getString handle).attempt h = .error f) :
    f.ArisesFrom h [handle] := by
  rw [attempt_getString] at hf
  obtain hl | ⟨_, -, hk⟩ := bind_eq_error_iff.mp hf
  · exact liveString_error hl
  · cases hk

theorem stringLength_error (hf : (stringLength handle).attempt h = .error f) :
    f.ArisesFrom h [handle] := by
  rw [attempt_stringLength] at hf
  obtain hl | ⟨_, -, hk⟩ := bind_eq_error_iff.mp hf
  · exact liveString_error hl
  · cases hk

theorem freeString_error (hf : (freeString handle).attempt h = .error f) :
    f.ArisesFrom h [handle] := by
  rw [attempt_freeString] at hf
  obtain hid | ⟨id, hid, hk⟩ := bind_eq_error_iff.mp hf
  · exact stringId_error hid
  · cases stringId_eq_ok_iff.mp hid
    obtain hs | ⟨s, -, hp⟩ := bind_eq_error_iff.mp hk
    · exact liveSlot_error hs (fun hn => ⟨List.mem_singleton_self _, hn⟩) trivial
    · cases hp

theorem concat_error {a b : Value} (hf : (concat a b).attempt h = .error f) :
    f.ArisesFrom h [b, a] := by
  rw [attempt_concat] at hf
  obtain hl | ⟨_, -, hk⟩ := bind_eq_error_iff.mp hf
  · exact (liveString_error hl).mono (by simp)
  · obtain hb | ⟨_, -, hk⟩ := bind_eq_error_iff.mp hk
    · exact (liveString_error hb).mono (by simp)
    · cases hk

end Heap

/-! ### The operands and the change -/

def Demand.value : (d : Demand) → d.Reading → Value
  | .any, v => v
  | .number, n => .number n

theorem Demand.value_of_accept {d : Demand} {v : Value} {x : d.Reading}
    (h : d.accept v = .ok x) : d.value x = v := by
  cases d with
  | any => cases h; rfl
  | number => cases v <;> cases h; rfl

namespace Operands

/-- The operands as the values that they were on the stack. -/
def values : (ds : List Demand) → Operands ds → List Value
  | [], _ => []
  | d :: ds, operands => d.value operands.1 :: values ds operands.2

theorem values_of_read {depth : Nat} {ds : List Demand} {stack : List Value}
    {operands : Operands ds} (h : read depth ds stack = .ok operands) :
    values ds operands = stack.take ds.length ∧ ds.length ≤ stack.length := by
  induction ds generalizing stack with
  | nil => exact ⟨rfl, Nat.zero_le _⟩
  | cons d ds ih =>
    cases stack with
    | nil => cases h
    | cons v stack =>
      obtain ⟨x, hx, h⟩ := bind_eq_ok_iff.mp h
      obtain ⟨rest, hr, h⟩ := bind_eq_ok_iff.mp h
      cases h
      obtain ⟨hv, hl⟩ := ih hr
      refine ⟨?_, Nat.succ_le_succ hl⟩
      show d.value x :: values ds rest = v :: stack.take ds.length
      rw [Demand.value_of_accept hx, hv]

/-- The operands lie on top of the rest of the stack. -/
theorem append_of_read {depth : Nat} {ds : List Demand} {stack : List Value}
    {operands : Operands ds} (h : read depth ds stack = .ok operands) :
    stack = values ds operands ++ stack.drop ds.length := by
  rw [(values_of_read h).1, List.take_append_drop]

theorem read_error {depth : Nat} {ds : List Demand} {stack : List Value} {f : Fault} {heap : Heap}
    {operands : List Value} (h : read depth ds stack = .error f) : f.ArisesFrom heap operands := by
  induction ds generalizing stack with
  | nil => cases h
  | cons d ds ih =>
    cases stack with
    | nil =>
      cases h
      trivial
    | cons v stack =>
      obtain ha | ⟨x, -, h⟩ := bind_eq_error_iff.mp h
      · cases d with
        | any => cases ha
        | number => cases v <;> cases ha <;> trivial
      · obtain hr | ⟨_, -, h⟩ := bind_eq_error_iff.mp h
        · exact ih hr
        · cases h

end Operands

theorem operate_eq_ok_iff {α : Type} {a : Heap.Action α} {heap : Heap} {finish : α → Heap → Change}
    {c : Change} :
    operate a heap finish = .ok c ↔ ∃ r, a.attempt heap = .ok r ∧ c = finish r.1 r.2 := by
  unfold operate
  cases a.attempt heap with
  | ok r => simp [eq_comm]
  | error f => simp [raise]

theorem operate_eq_error_iff {α : Type} {a : Heap.Action α} {heap : Heap}
    {finish : α → Heap → Change} {e : StepError} :
    operate a heap finish = .error e ↔
      ∃ f, a.attempt heap = .error f ∧ e = .fault { fault := f } := by
  unfold operate
  cases a.attempt heap with
  | ok r => simp
  | error f => simp [raise, eq_comm]

/-- Why an instruction with this operand can fail on these values. -/
def StepError.ArisesIn (i : Instruction) (heap : Heap) (operands : List Value) (e : StepError) :
    Prop :=
  (e = .noTarget i.opcode ∧ i.target? = none ∧
    (i.opcode.operandKind = .int ∨ i.opcode.operandKind = .label)) ∨
  ∃ f, e = .fault { fault := f } ∧ f.ArisesFrom heap operands

namespace Opcode
variable {heap : Heap} {e : StepError}

theorem target_eq_ok_iff {op : Opcode} {operand : Operand} {n : Int} :
    target op operand = .ok n ↔ operand = .int n := by
  cases operand <;> simp [target]

theorem target_error {i : Instruction} {operands : List Value} {f : Int → Except StepError Change}
    (hk : i.opcode.operandKind = .int ∨ i.opcode.operandKind = .label)
    (hf : ∀ n, ∃ c, f n = .ok c) (h : (target i.opcode i.operand >>= f) = .error e) :
    e.ArisesIn i heap operands := by
  obtain ⟨op, operand, line⟩ := i
  cases operand with
  | int n =>
    obtain ⟨c, hc⟩ := hf n
    cases hc.symm.trans h
  | none | text =>
    cases h
    exact .inl ⟨rfl, rfl, hk⟩

theorem raise_error {α : Type} {i : Instruction} {operands : List Value} {f : Fault}
    (h : (raise f : Except StepError α) = .error e) (hf : f.ArisesFrom heap operands) :
    e.ArisesIn i heap operands := by
  cases h
  exact .inr ⟨f, rfl, hf⟩

theorem operate_error {α : Type} {a : Heap.Action α} {finish : α → Heap → Change}
    {i : Instruction} {operands : List Value}
    (ha : ∀ {f}, a.attempt heap = .error f → f.ArisesFrom heap operands)
    (h : operate a heap finish = .error e) : e.ArisesIn i heap operands := by
  obtain ⟨f, hf, rfl⟩ := operate_eq_error_iff.mp h
  exact .inr ⟨f, rfl, ha hf⟩

end Opcode

namespace Instruction
open Opcode

theorem change_error {i : Instruction} {memory : Memory} {heap : Heap}
    {operands : Operands i.opcode.demands} {e : StepError}
    (h : i.opcode.change i.operand memory heap operands = .error e) :
    e.ArisesIn i heap (Operands.values _ operands) := by
  obtain ⟨op, operand, line⟩ := i
  cases op with
  | push => exact target_error (.inl rfl) (fun _ => ⟨_, rfl⟩) h
  | jump => exact target_error (.inr rfl) (fun _ => ⟨_, rfl⟩) h
  | jumpZero =>
    obtain ⟨n, ⟨⟩⟩ := operands
    simp only [change] at h
    split at h
    · exact target_error (.inr rfl) (fun _ => ⟨_, rfl⟩) h
    · cases h
  | jumpNonzero =>
    obtain ⟨n, ⟨⟩⟩ := operands
    simp only [change] at h
    split at h
    · exact target_error (.inr rfl) (fun _ => ⟨_, rfl⟩) h
    · cases h
  | pop | dup | swap | add | sub | mul | lt | le | gt | ge | eq | ne | and | or | not | store
  | printString | halt => cases h
  | div =>
    obtain ⟨b, a, ⟨⟩⟩ := operands
    simp only [change] at h
    split at h
    · exact raise_error h trivial
    · cases h
  | load =>
    obtain ⟨⟩ := operands
    simp only [change] at h
    split at h
    · cases h
    · exact raise_error h trivial
  | newArray => exact operate_error (fun hf => Heap.allocateArray_error hf) h
  | arraySet =>
    refine operate_error (fun hf => (Heap.writeCell_error hf).mono ?_) h
    exact List.cons_subset.mpr ⟨.tail _ (.tail _ (.head _)), List.nil_subset _⟩
  | arrayGet =>
    refine operate_error (fun hf => (Heap.readCell_error hf).mono ?_) h
    exact List.cons_subset.mpr ⟨.tail _ (.head _), List.nil_subset _⟩
  | arrayLen => exact operate_error (fun hf => Heap.arrayLength_error hf) h
  | freeArray => exact operate_error (fun hf => Heap.freeArray_error hf) h
  | newString =>
    obtain ⟨⟩ := operands
    simp only [change] at h
    refine operate_error (fun hf => ?_) h
    cases hf
  | concat => exact operate_error (fun hf => Heap.concat_error hf) h
  | stringLen => exact operate_error (fun hf => Heap.stringLength_error hf) h
  | freeString => exact operate_error (fun hf => Heap.freeString_error hf) h
  | print =>
    obtain ⟨v, ⟨⟩⟩ := operands
    cases v with
    | number n => cases h
    | string id => exact operate_error (fun hf => Heap.getString_error hf) h
    | array id => exact raise_error h trivial
  | printChar =>
    obtain ⟨code, ⟨⟩⟩ := operands
    simp only [change] at h
    split at h
    · cases h
    · exact raise_error h trivial

end Instruction

namespace Machine
variable {m : Machine} {i : Instruction} {e : StepError}

theorem execute_error (h : m.execute i = .error e) :
    ∃ operands, operands ⊆ m.stack ∧ e.ArisesIn i m.heap operands := by
  cases hr : Operands.read m.stack.length i.opcode.demands m.stack with
  | error f =>
    rw [execute_of_read_error hr] at h
    cases h
    exact ⟨[], List.nil_subset _, .inr ⟨f, rfl, Operands.read_error hr⟩⟩
  | ok operands =>
    rw [execute_of_read hr] at h
    obtain hc | ⟨_, -, h⟩ := bind_eq_error_iff.mp h
    · refine ⟨_, ?_, Instruction.change_error hc⟩
      rw [(Operands.values_of_read hr).1]
      exact List.take_subset _ _
    · cases h

theorem fetch_of_finished (h : m.finished = true) :
    ∃ f, (f = .halted ∨ f = .pastEnd) ∧ m.fetch = .error (.fault ⟨f, some m.pc, none⟩) := by
  unfold fetch
  by_cases hh : m.halted = true
  · exact ⟨.halted, .inl rfl, by simp only [hh, ↓reduceIte]⟩
  · have hp : (m.program.size : Int) ≤ m.pc := by simpa [finished, hh] using h
    exact ⟨.pastEnd, .inr rfl, by simp only [hh, hp, Bool.false_eq_true, ↓reduceIte]⟩

/-- An unfinished machine has no instruction only before the program. -/
theorem fetch_error (hf : m.finished = false) (h : m.fetch = .error e) :
    m.program.at? m.pc = none ∧ (e = .noIndex ∨ e = .beforeStart) := by
  obtain ⟨hh, hp⟩ := Bool.or_eq_false_iff.mp hf
  rw [decide_eq_false_iff_not] at hp
  unfold fetch at h
  simp only [hh, hp, Bool.false_eq_true, ↓reduceIte] at h
  cases hi : m.program.at? m.pc with
  | some i =>
    rw [hi] at h
    cases h
  | none =>
    rw [hi] at h
    cases h
    refine ⟨rfl, ?_⟩
    split
    · exact .inl rfl
    · exact .inr rfl

/-- Why a step fails: the machine is finished, its program counter is before the program, or its
instruction fails on values from the stack. -/
theorem next_error (h : m.next = .error e) :
    (m.finished = true ∧ ∃ f, (f = .halted ∨ f = .pastEnd) ∧ e = .fault ⟨f, some m.pc, none⟩) ∨
    (m.finished = false ∧ m.program.at? m.pc = none ∧ (e = .noIndex ∨ e = .beforeStart)) ∨
    (m.finished = false ∧ ∃ i operands, ∃ d : StepError,
      m.program.at? m.pc = some i ∧ operands ⊆ m.stack ∧ d.ArisesIn i m.heap operands ∧
        e = d.locate m.pc i.render) := by
  rw [next_eq] at h
  rcases bind_eq_error_iff.mp h with hfetch | ⟨i, hi, h⟩
  · cases hf : m.finished with
    | true =>
      obtain ⟨f, hkind, hfault⟩ := fetch_of_finished hf
      cases hfetch.symm.trans hfault
      exact .inl ⟨rfl, f, hkind, rfl⟩
    | false => exact .inr (.inl ⟨rfl, fetch_error hf hfetch⟩)
  · obtain ⟨hf, hi⟩ := fetch_eq_ok_iff.mp hi
    obtain ⟨d, hd, rfl⟩ := mapError_eq_error_iff.mp h
    obtain ⟨operands, hs, hd⟩ := execute_error hd
    exact .inr (.inr ⟨hf, i, operands, d, hi, hs, hd, rfl⟩)

theorem next_of_finished (h : m.finished = true) :
    ∃ f, f.kind = .programComplete ∧ m.next = .error (.fault ⟨f, some m.pc, none⟩) := by
  obtain ⟨f, hkind, hfetch⟩ := fetch_of_finished h
  refine ⟨f, ?_, ?_⟩
  · rcases hkind with rfl | rfl <;> rfl
  · rw [next_eq, hfetch]
    rfl

end Machine

end StackMachine
