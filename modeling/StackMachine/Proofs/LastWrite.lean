import StackMachine.Proofs.Arena
import StackMachine.Proofs.Calls
import StackMachine.Proofs.ChangeShape

/-! Every read sees the last write. What a machine holds in its variables and arrays is told by the
steps that have succeeded since it was new, whatever failed between them, and by nothing else. -/
namespace StackMachine

/-! ### Logs of writes -/

section Latest
variable {κ α : Type} [BEq κ]

/-- The value of the last entry of the key. -/
def latest (key : κ) (log : List (κ × α)) : Option α := log.reverse.lookup key

/-- The keys of a log in the order of their first entries. -/
def keys (log : List (κ × α)) : List κ := (log.map (·.1)).eraseDups

variable [LawfulBEq κ]

theorem latest_snoc [DecidableEq κ] (key other : κ) (v : α) (log : List (κ × α)) :
    latest other (log ++ [(key, v)]) = if other = key then some v else latest other log := by
  simp only [latest, List.reverse_append, List.reverse_singleton, List.singleton_append]
  by_cases h : other = key
  · simp [h]
  · simp [List.lookup_cons, beq_false_of_ne h, h]

theorem latest_eq_none_iff {key : κ} {log : List (κ × α)} :
    latest key log = none ↔ ∀ e ∈ log, key ≠ e.1 := by
  simp [latest, List.lookup_eq_none_iff]

theorem keys_snoc (key : κ) (v : α) (log : List (κ × α)) :
    keys (log ++ [(key, v)]) = if key ∈ keys log then keys log else keys log ++ [key] := by
  unfold keys
  rw [List.map_append, List.eraseDups_append]
  by_cases h : key ∈ log.map (·.1)
  · simp [List.removeAll, h]
  · simp [List.removeAll, h, List.eraseDups_cons]

theorem filterMap_snoc {β : Type} (f : α → Option β) (log : List α) (x : α) :
    (log ++ [x]).filterMap f = log.filterMap f ++ (f x).toList := by
  rw [List.filterMap_append]
  cases h : f x <;> simp [h]

end Latest

/-! ### Cells -/

namespace Arena
variable {a : Arena (Array Value)} {id other : Int} {s : Slot (Array Value)} {cells : Array Value}
  {j k : Nat}

/-- What an array holds at an index, also if it has been freed. -/
def cell? (a : Arena (Array Value)) (id : Int) (k : Nat) : Option Value :=
  (a.slot? id).bind (·.payload[k]?)

theorem cell?_of_slot? (hid : a.slot? id = some s) : a.cell? id k = s.payload[k]? := by
  simp [cell?, hid]

theorem cell?_allocate (cells : Array Value) :
    (a.allocate cells).cell? id k = if id = a.nextId then cells[k]? else a.cell? id k := by
  unfold cell?
  rw [slot?_allocate]
  split <;> rfl

theorem cell?_setSlot (s : Slot (Array Value)) :
    (a.setSlot id s).cell? other k = if other = id then s.payload[k]? else a.cell? other k := by
  unfold cell?
  rw [slot?_setSlot]
  split <;> rfl

theorem cell?_free (hid : a.slot? id = some { payload := cells }) :
    (a.setSlot id { payload := cells, live := false }).cell? other k = a.cell? other k := by
  rw [cell?_setSlot]
  by_cases h : other = id
  · rw [if_pos h, h, cell?_of_slot? hid]
  · rw [if_neg h]

theorem cell?_write (hid : a.slot? id = some { payload := cells }) (hj : j < cells.size)
    (v : Value) :
    (a.setSlot id { payload := cells.setIfInBounds j v }).cell? other k =
      if other = id ∧ k = j then some v else a.cell? other k := by
  rw [cell?_setSlot]
  by_cases h : other = id
  · by_cases hk : k = j
    · rw [if_pos h, if_pos ⟨h, hk⟩, hk, Array.getElem?_setIfInBounds_self_of_lt hj]
    · rw [if_pos h, if_neg fun he => hk he.2, Array.getElem?_setIfInBounds_ne (Ne.symm hk), h,
        cell?_of_slot? hid]
  · rw [if_neg h, if_neg fun he => h he.1]

end Arena

/-! ### What a step writes -/

namespace Machine
variable {m m' : Machine} {i : Instruction} {log : List Machine}

/-- The name and the value of the store that is next. -/
def stored? (m : Machine) : Option (String × Value) :=
  match m.program.at? m.pc, m.stack with
  | some ⟨.store, operand, _⟩, v :: _ => some (operand.asText, v)
  | _, _ => none

/-- The array, the index and the value of the array write that is next. -/
def written? (m : Machine) : Option ((Int × Int) × Value) :=
  match m.program.at? m.pc, m.stack with
  | some ⟨.arraySet, _, _⟩, v :: .number index :: .array id :: _ => some ((id, index.toInt), v)
  | _, _ => none

theorem stored?_eq_none (hi : m.program.at? m.pc = some i) (ho : i.opcode ≠ .store) :
    m.stored? = none := by
  unfold stored?
  split
  · rename_i hj _
    cases hi.symm.trans hj
    exact absurd rfl ho
  · rfl

theorem written?_eq_none (hi : m.program.at? m.pc = some i) (ho : i.opcode ≠ .arraySet) :
    m.written? = none := by
  unfold written?
  split
  · rename_i hj _
    cases hi.symm.trans hj
    exact absurd rfl ho
  · rfl

theorem memory_of_next (h : m.next = .ok m') :
    m'.memory = m.stored?.elim m.memory fun e => m.memory.store e.1 e.2 := by
  obtain ⟨i, operands, c, -, hi, hr, hc, rfl⟩ := exists_change_of_next h
  by_cases ho : i.opcode = .store
  · obtain ⟨op, operand, line⟩ := i
    cases ho
    obtain ⟨v, ⟨⟩⟩ := operands
    cases hc
    have hs : m.stack = v :: m.stack.drop 1 := Operands.append_of_read hr
    have hstored : m.stored? = some (operand.asText, v) := by
      unfold stored?
      rw [hi, hs]
    rw [hstored]
    rfl
  · rw [stored?_eq_none hi ho]
    cases Instruction.shape_of_change hc with
    | stored hop => exact absurd hop ho
    | _ => rfl

/-- The ways in which a step can leave the arrays, by what it writes to a cell. -/
inductive ArrayStep (a : Arena (Array Value)) :
    Option ((Int × Int) × Value) → Arena (Array Value) → Prop
  | kept : ArrayStep a none a
  | created (size : Nat) : ArrayStep a none (a.allocate (Array.replicate size (.number 0)))
  | freed {id : Int} {cells : Array Value} (hs : a.slot? id = some { payload := cells }) :
      ArrayStep a none (a.setSlot id { payload := cells, live := false })
  | wrote {id : Int} {cells : Array Value} {k : Nat} {v : Value}
      (hs : a.slot? id = some { payload := cells }) (hk : k < cells.size) :
      ArrayStep a (some ((id, (k : Int)), v)) (a.setSlot id { payload := cells.setIfInBounds k v })

theorem arrayStep_of_next (h : m.next = .ok m') :
    ArrayStep m.heap.arrays m.written? m'.heap.arrays := by
  obtain ⟨i, operands, c, -, hi, hr, hc, rfl⟩ := exists_change_of_next h
  by_cases ho : i.opcode = .arraySet
  · obtain ⟨op, operand, line⟩ := i
    cases ho
    obtain ⟨v, index, handle, ⟨⟩⟩ := operands
    obtain ⟨r, hw, rfl⟩ := operate_eq_ok_iff.mp hc
    obtain ⟨id, cells, k, rfl, hs, hindex, hk, rfl⟩ := Heap.writeCell_ok hw
    have hstack : m.stack = v :: .number index :: .array id :: m.stack.drop 3 :=
      Operands.append_of_read hr
    have hwritten : m.written? = some ((id, (k : Int)), v) := by
      unfold written?
      rw [hi, hstack, ← hindex]
    rw [hwritten]
    exact .wrote hs hk
  · rw [written?_eq_none hi ho]
    cases Instruction.shape_of_change hc with
    | wroteCell k hop => exact absurd hop ho
    | newArray size => exact .created size
    | freedArray hs => exact .freed hs
    | _ => exact .kept

/-! ### What the writes so far tell -/

/-- Variables that are told by a log of stores. -/
structure Stored (log : List (String × Value)) (memory : Memory) : Prop where
  value : ∀ name, memory.get? name = latest name log
  names : memory.names = keys log

theorem Stored.step {memory : Memory} {log : List (String × Value)} (h : Stored log memory)
    (w : Option (String × Value)) :
    Stored (log ++ w.toList) (w.elim memory fun e => memory.store e.1 e.2) := by
  cases w with
  | none => simpa using h
  | some e =>
    constructor
    · intro other
      rw [Option.toList_some, latest_snoc, Option.elim_some, Memory.get?_store, h.value]
    · rw [Option.toList_some, keys_snoc, Option.elim_some, Memory.names_store, h.names]

/-- Arrays that are told by a log of writes. The writes are to issued ids, so that there is none for
the next array. -/
structure Written (log : List ((Int × Int) × Value)) (a : Arena (Array Value)) : Prop where
  numbered : a.Numbered
  issued : ∀ e ∈ log, e.1.1 < a.nextId
  cell : ∀ id (k : Nat) v, a.cell? id k = some v →
    v = (latest (id, (k : Int)) log).getD (.number 0)

section
variable {a a' : Arena (Array Value)} {w : Option ((Int × Int) × Value)}
  {log : List ((Int × Int) × Value)} {id : Int} {cells : Array Value} {j k : Nat} {v : Value}

theorem Written.create (h : Written log a) (size : Nat) :
    Written log (a.allocate (Array.replicate size (.number 0))) := by
  refine ⟨h.numbered.allocate _, ?_, ?_⟩
  · intro e he
    have hlt := h.issued e he
    rw [Arena.nextId_allocate]
    omega
  · intro other k v hv
    rw [Arena.cell?_allocate] at hv
    by_cases hnew : other = a.nextId
    · rw [if_pos hnew] at hv
      have hnone : latest (other, (k : Int)) log = none := by
        refine latest_eq_none_iff.mpr fun e he hkey => ?_
        have hlt := h.issued e he
        rw [← hkey, hnew] at hlt
        exact Int.lt_irrefl _ hlt
      rw [hnone]
      exact (Array.mem_replicate.mp (Array.mem_of_getElem? hv)).2
    · rw [if_neg hnew] at hv
      exact h.cell other k v hv

theorem Written.free (h : Written log a) (hid : a.slot? id = some { payload := cells }) :
    Written log (a.setSlot id { payload := cells, live := false }) := by
  refine ⟨h.numbered.setSlot hid, h.issued, ?_⟩
  intro other k v hv
  rw [Arena.cell?_free hid] at hv
  exact h.cell other k v hv

theorem Written.write (h : Written log a) (hid : a.slot? id = some { payload := cells })
    (hj : j < cells.size) (v : Value) :
    Written (log ++ [((id, (j : Int)), v)])
      (a.setSlot id { payload := cells.setIfInBounds j v }) := by
  refine ⟨h.numbered.setSlot hid, ?_, ?_⟩
  · refine List.forall_mem_append.mpr ⟨h.issued, List.forall_mem_singleton.mpr ?_⟩
    exact ((h.numbered.slot_iff id).mp ⟨_, hid⟩).2
  · intro other k x hx
    have hkey : (other, (k : Int)) = (id, (j : Int)) ↔ other = id ∧ k = j := by
      rw [Prod.mk.injEq, Int.natCast_inj]
    rw [Arena.cell?_write hid hj] at hx
    simp only [latest_snoc, hkey]
    by_cases hsame : other = id ∧ k = j
    · rw [if_pos hsame] at hx ⊢
      exact (Option.some.inj hx).symm
    · rw [if_neg hsame] at hx ⊢
      exact h.cell other k x hx

theorem Written.step (h : Written log a) (hs : ArrayStep a w a') :
    Written (log ++ w.toList) a' := by
  cases hs with
  | kept => simpa using h
  | created size => simpa using h.create size
  | freed hid => simpa using h.free hid
  | wrote hid hj => exact h.write hid hj _

/-- A cell stays as it is until it is written. -/
theorem ArrayStep.cell (h : ArrayStep a w a') (ha : a.Numbered) (hv : a.cell? id k = some v)
    (hw : ∀ x, w ≠ some ((id, (k : Int)), x)) : a'.cell? id k = some v := by
  cases h with
  | kept => exact hv
  | created size =>
    obtain ⟨s, hs, -⟩ := Option.bind_eq_some_iff.mp hv
    have hlt := ((ha.slot_iff id).mp ⟨s, hs⟩).2
    rw [Arena.cell?_allocate, if_neg (Int.ne_of_lt hlt)]
    exact hv
  | freed hid =>
    rw [Arena.cell?_free hid]
    exact hv
  | wrote hid hj =>
    rw [Arena.cell?_write hid hj, if_neg]
    · exact hv
    · rintro ⟨rfl, rfl⟩
      exact hw _ rfl

end

/-! ### Runs -/

/-- The stores among the steps that were made at these machines. -/
def stores (log : List Machine) : List (String × Value) := log.filterMap stored?

def writes (log : List Machine) : List ((Int × Int) × Value) := log.filterMap written?

/-- A machine that is told by the steps that succeeded, each given by the machine before it. -/
structure Recorded (log : List Machine) (m : Machine) : Prop where
  memory : Stored (stores log) m.memory
  arrays : Written (writes log) m.heap.arrays

theorem recorded_ofProgram (p : Program) : Recorded [] (ofProgram p) where
  memory := ⟨fun _ => rfl, rfl⟩
  arrays := ⟨Arena.Issued.empty.numbered, fun _ he => absurd he List.not_mem_nil,
    fun _ _ _ hv => by cases hv⟩

theorem Recorded.next (hr : Recorded log m) (h : m.next = .ok m') : Recorded (log ++ [m]) m' := by
  constructor
  · rw [memory_of_next h, stores, filterMap_snoc]
    exact hr.memory.step m.stored?
  · rw [writes, filterMap_snoc]
    exact hr.arrays.step (arrayStep_of_next h)

/-- The machines at which so many calls made a step that succeeded, in their order. -/
def history : Nat → Machine → List Machine
  | 0, _ => []
  | n + 1, m =>
      match m.step with
      | .ok _ m' => m :: history n m'
      | .error _ m' => history n m'

theorem history_of_ok (h : m.next = .ok m') (n : Nat) :
    m.history (n + 1) = m :: m'.history n := by
  have hs : m.step = .ok () m' := step_eq_ok_iff.mpr h
  simp only [history, hs]

theorem history_of_error {e : StepError} (h : m.next = .error e) (n : Nat) :
    m.history (n + 1) = m.history n := by
  have hs : m.step = .error e m := step_eq_error_iff.mpr ⟨h, rfl⟩
  simp only [history, hs]

theorem Recorded.calls (hr : Recorded log m) (n : Nat) :
    Recorded (log ++ m.history n) (m.calls n).2 := by
  induction n generalizing m log with
  | zero =>
    rw [history, List.append_nil]
    exact hr
  | succ n ih =>
    cases h : m.next with
    | ok m' =>
      rw [calls_of_ok h, history_of_ok h, ← List.singleton_append, ← List.append_assoc]
      exact ih (hr.next h)
    | error e =>
      rw [calls_of_error h, history_of_error h]
      exact ih hr

/-! ### Reads -/

theorem step_of_load (hi : m.fetch = .ok i) (ho : i.opcode = .load) :
    m.step = match m.memory.get? i.operand.asText with
      | some v => .ok () (m.pushing [v] m.stack)
      | none =>
        .error (.fault ⟨.variableUnset i.operand.asText, some m.pc, some i.render⟩) m := by
  obtain ⟨op, operand, line⟩ := i
  cases ho
  have hr : Operands.read m.stack.length Opcode.load.demands m.stack = .ok () := rfl
  rw [step_eq, next_eq, hi, ok_bind, execute_of_read hr]
  simp only [Opcode.change]
  cases m.memory.get? operand.asText with
  | none => rfl
  | some v =>
    rw [ok_bind, apply_pushed]
    rfl

theorem step_of_arrayGet {id : Int} {index : Int64} {rest : List Value} {cells : Array Value}
    {k : Nat} {v : Value} (hi : m.fetch = .ok i) (ho : i.opcode = .arrayGet)
    (hs : m.stack = .number index :: .array id :: rest)
    (hid : m.heap.arrays.slot? id = some { payload := cells }) (hk : index.toInt = k)
    (hv : cells[k]? = some v) : m.step = .ok () (m.pushing [v] rest) := by
  obtain ⟨op, operand, line⟩ := i
  cases ho
  have hr : Operands.read m.stack.length Opcode.arrayGet.demands m.stack =
      .ok (index, .array id, ()) := by
    rw [hs]
    rfl
  have hrest : m.stack.drop 2 = rest := by rw [hs]; rfl
  have hcell : (Heap.readCell (.array id) k).attempt m.heap = .ok (v, m.heap) := by
    have hl : Heap.liveArray (.array id) m.heap = .ok (id, cells) :=
      Heap.liveArray_eq_ok_iff.mpr ⟨rfl, hid⟩
    have hlt : k < cells.size := (Array.getElem?_eq_some_iff.mp hv).1
    have hx : Heap.checkIndex k cells.size = .ok k := Heap.checkIndex_eq_ok_iff.mpr ⟨rfl, hlt⟩
    rw [Heap.attempt_readCell, hl, ok_bind, hx, ok_bind, Array.getD_eq_getD_getElem?, hv]
    rfl
  rw [step_eq_ok_iff, ← hrest, ← apply_pushed]
  refine next_of_change hi hr (operate_eq_ok_iff.mpr ⟨(v, m.heap), ?_, rfl⟩)
  rw [hk]
  exact hcell

/-- What is promised of a machine after the steps that succeeded at these. -/
structure Remembers (log : List Machine) (m : Machine) : Prop where
  held : ∀ name, name ∈ m.memory.names ↔ ∃ v, (name, v) ∈ stores log
  value : ∀ name, m.memory.get? name = latest name (stores log)
  names : m.memory.names = keys (stores log)
  loaded : ∀ i v, m.fetch = .ok i → i.opcode = .load →
    (m.step = .ok () (m.pushing [v] m.stack) ↔ latest i.operand.asText (stores log) = some v)
  unset : ∀ i, m.fetch = .ok i → i.opcode = .load →
    ((∃ e, m.step = .error (.fault e) m ∧ e.fault.kind = .unknownVariable) ↔
      latest i.operand.asText (stores log) = none)
  read : ∀ i id index rest cells, m.fetch = .ok i → i.opcode = .arrayGet →
    m.stack = .number index :: .array id :: rest →
    m.heap.arrays.slot? id = some { payload := cells } → 0 ≤ index.toInt →
    index.toInt < cells.size →
    m.step = .ok () (m.pushing [(latest (id, index.toInt) (writes log)).getD (.number 0)] rest)
  kept : ∀ m' id (k : Nat) v, m.step = .ok () m' → m.heap.arrays.cell? id k = some v →
    (∀ x, m.written? ≠ some ((id, (k : Int)), x)) → m'.heap.arrays.cell? id k = some v
  failed : ∀ e m', m.step = .error e m' → m' = m

theorem Recorded.remembers (h : Recorded log m) : Remembers log m where
  held name := by
    rw [h.memory.names]
    simp [keys]
  value := h.memory.value
  names := h.memory.names
  loaded i v hi ho := by
    rw [step_of_load hi ho, ← h.memory.value]
    cases m.memory.get? i.operand.asText with
    | none => simp
    | some w => simp [pushing]
  unset i hi ho := by
    rw [step_of_load hi ho, ← h.memory.value]
    cases m.memory.get? i.operand.asText with
    | none => simp [Fault.kind]
    | some w => simp
  read i id index rest cells hi ho hs hid hlo hhi := by
    obtain ⟨k, hk⟩ := Int.eq_ofNat_of_zero_le hlo
    have hlt : k < cells.size := by omega
    have hv : m.heap.arrays.cell? id k = some cells[k] :=
      (Arena.cell?_of_slot? hid).trans (Array.getElem?_eq_getElem hlt)
    rw [hk, ← h.arrays.cell id k _ hv]
    exact step_of_arrayGet hi ho hs hid hk (Array.getElem?_eq_getElem hlt)
  kept m' id k v hn hv hw :=
    (arrayStep_of_next (step_eq_ok_iff.mp hn)).cell h.arrays.numbered hv hw
  failed e m' he := (step_eq_error_iff.mp he).2

/-- In every run a variable and a cell hold what was last written to them. -/
theorem run_remembers (p : Program) (n : Nat) :
    Remembers ((ofProgram p).history n) ((ofProgram p).calls n).2 :=
  ((recorded_ofProgram p).calls n).remembers

/-- The second store has nothing to take, so that the first one stays the last. -/
example : stores ((ofProgram ⟨#[⟨.push, .int 5, none⟩, ⟨.store, .text "x", none⟩,
    ⟨.store, .text "x", none⟩], []⟩).history 4) = [("x", .number 5)] := by decide

end Machine

end StackMachine
