import StackMachine.Proofs.Arena
import StackMachine.Proofs.Calls
import StackMachine.Proofs.ChangeShape

/-! No program can make up a handle. Every handle on the stack, in a variable or in an array cell
was issued by the arena that it belongs to, whatever the program and however long it has run. -/
namespace StackMachine

/-- A number of 64 bits, or a handle with an id that its own arena has issued. -/
def Value.IssuedIn (heap : Heap) : Value → Prop
  | .number n => -Int.pow 2 63 ≤ n.toInt ∧ n.toInt < Int.pow 2 63
  | .array id => 1 ≤ id ∧ id < heap.arrays.nextId
  | .string id => 1 ≤ id ∧ id < heap.strings.nextId

theorem Value.issuedIn_number {heap : Heap} (n : Int64) : (Value.number n).IssuedIn heap :=
  ⟨n.le_toInt, n.toInt_lt⟩

/-- The slots of a heap are those of its issued ids, and its cells hold no other handles. -/
structure Heap.Closed (heap : Heap) : Prop where
  arrays : ∃ n, heap.arrays.Issued n
  strings : ∃ n, heap.strings.Issued n
  cells : ∀ e ∈ heap.arrays.slots, ∀ v ∈ e.2.payload, v.IssuedIn heap

structure Memory.Closed (heap : Heap) (memory : Memory) : Prop where
  values : ∀ e ∈ memory.entries, e.2.IssuedIn heap

structure Machine.Closed (m : Machine) : Prop where
  heap : m.heap.Closed
  stack : ∀ v ∈ m.stack, v.IssuedIn m.heap
  memory : m.memory.Closed m.heap

/-- A heap that has issued at least the same ids. -/
structure Heap.Grows (h h' : Heap) : Prop where
  arrays : h.arrays.nextId ≤ h'.arrays.nextId
  strings : h.strings.nextId ≤ h'.strings.nextId

theorem Heap.Grows.refl (h : Heap) : h.Grows h := ⟨Int.le_refl _, Int.le_refl _⟩

theorem Value.IssuedIn.grow {h h' : Heap} {v : Value} (hv : v.IssuedIn h) (hg : h.Grows h') :
    v.IssuedIn h' := by
  cases v with
  | number n => exact hv
  | array id => exact ⟨hv.1, Int.lt_of_lt_of_le hv.2 hg.arrays⟩
  | string id => exact ⟨hv.1, Int.lt_of_lt_of_le hv.2 hg.strings⟩

namespace Memory.Closed
variable {h h' : Heap} {memory : Memory}

theorem grow (hm : memory.Closed h) (hg : h.Grows h') : memory.Closed h' :=
  ⟨fun e he => (hm.values e he).grow hg⟩

theorem store {name : String} {v : Value} (hm : memory.Closed h) (hv : v.IssuedIn h) :
    (memory.store name v).Closed h := by
  constructor
  intro e he
  obtain rfl | he := Entries.mem_put he
  · exact hv
  · exact hm.values e he

theorem get? {name : String} {v : Value} (hm : memory.Closed h) (hv : memory.get? name = some v) :
    v.IssuedIn h := by
  obtain ⟨before, after, he, -⟩ := List.lookup_eq_some_iff.mp hv
  exact hm.values (name, v) (by simp [he])

end Memory.Closed

namespace Heap.Closed
variable {h : Heap}

theorem empty : Closed {} := by
  refine ⟨⟨0, .empty⟩, ⟨0, .empty⟩, ?_⟩
  intro e he
  cases he

/-- The invariant says what an array holds by its slot. -/
theorem issuedIn_of_slot? {id : Int} {s : Slot (Array Value)} {v : Value} (hh : h.Closed)
    (hs : h.arrays.slot? id = some s) (hv : v ∈ s.payload) : v.IssuedIn h := by
  obtain ⟨before, after, he, -⟩ := List.lookup_eq_some_iff.mp hs
  exact hh.cells (id, s) (by simp [he]) v hv

theorem allocateArray {cells : Array Value} (hh : h.Closed) (hc : ∀ v ∈ cells, v.IssuedIn h) :
    Closed { h with arrays := h.arrays.allocate cells } ∧
      h.Grows { h with arrays := h.arrays.allocate cells } := by
  have hg : h.Grows { h with arrays := h.arrays.allocate cells } :=
    ⟨Int.le_add_of_nonneg_right (by decide), Int.le_refl _⟩
  obtain ⟨n, hn⟩ := hh.arrays
  refine ⟨⟨⟨n + 1, hn.allocate cells⟩, hh.strings, ?_⟩, hg⟩
  intro e he v hv
  obtain rfl | he := Entries.mem_put he
  · exact (hc v hv).grow hg
  · exact (hh.cells e he v hv).grow hg

theorem setArray {id : Int} {s t : Slot (Array Value)} (hh : h.Closed)
    (hs : h.arrays.slot? id = some s) (ht : ∀ v ∈ t.payload, v.IssuedIn h) :
    Closed { h with arrays := h.arrays.setSlot id t } ∧
      h.Grows { h with arrays := h.arrays.setSlot id t } := by
  have hg : h.Grows { h with arrays := h.arrays.setSlot id t } := ⟨Int.le_refl _, Int.le_refl _⟩
  obtain ⟨n, hn⟩ := hh.arrays
  refine ⟨⟨⟨n, hn.setSlot hs⟩, hh.strings, ?_⟩, hg⟩
  intro e he v hv
  obtain rfl | he := Entries.mem_put he
  · exact (ht v hv).grow hg
  · exact (hh.cells e he v hv).grow hg

theorem allocateString (text : String) (hh : h.Closed) :
    Closed { h with strings := h.strings.allocate text } ∧
      h.Grows { h with strings := h.strings.allocate text } := by
  have hg : h.Grows { h with strings := h.strings.allocate text } :=
    ⟨Int.le_refl _, Int.le_add_of_nonneg_right (by decide)⟩
  obtain ⟨n, hn⟩ := hh.strings
  exact ⟨⟨hh.arrays, ⟨n + 1, hn.allocate text⟩, fun e he v hv => (hh.cells e he v hv).grow hg⟩, hg⟩

theorem setString {id : Int} {s t : Slot String} (hh : h.Closed)
    (hs : h.strings.slot? id = some s) :
    Closed { h with strings := h.strings.setSlot id t } ∧
      h.Grows { h with strings := h.strings.setSlot id t } := by
  have hg : h.Grows { h with strings := h.strings.setSlot id t } := ⟨Int.le_refl _, Int.le_refl _⟩
  obtain ⟨n, hn⟩ := hh.strings
  exact ⟨⟨hh.arrays, ⟨n, hn.setSlot hs⟩, fun e he v hv => (hh.cells e he v hv).grow hg⟩, hg⟩

theorem issuedIn_newArray (cells : Array Value) (hh : h.Closed) :
    (Value.array h.arrays.nextId).IssuedIn { h with arrays := h.arrays.allocate cells } := by
  obtain ⟨n, hn⟩ := hh.arrays
  refine ⟨?_, Int.lt_succ _⟩
  rw [hn.nextId]
  omega

theorem issuedIn_newString (text : String) (hh : h.Closed) :
    (Value.string h.strings.nextId).IssuedIn
      { h with strings := h.strings.allocate text } := by
  obtain ⟨n, hn⟩ := hh.strings
  refine ⟨?_, Int.lt_succ _⟩
  rw [hn.nextId]
  omega

end Heap.Closed

/-- A change that brings in no handle but issued ones. -/
structure Change.Closed (h : Heap) (c : Change) : Prop where
  heap : c.heap.Closed
  grows : h.Grows c.heap
  pushed : ∀ v ∈ c.pushed, v.IssuedIn c.heap
  memory : c.memory.Closed c.heap

namespace Change
variable {h h' : Heap} {memory : Memory} {pushed : List Value}

theorem closed_of_same {target? : Option Int} {halts : Bool} {printed? : Option String}
    (hh : h.Closed) (hm : memory.Closed h) (hp : ∀ v ∈ pushed, v.IssuedIn h) :
    Change.Closed h { memory, heap := h, pushed, target?, halts, printed? } :=
  ⟨hh, .refl h, hp, hm⟩

theorem closed_of_heap (hm : memory.Closed h) (hh : h'.Closed ∧ h.Grows h')
    (hp : ∀ v ∈ pushed, v.IssuedIn h') : Change.Closed h { memory, heap := h', pushed } :=
  ⟨hh.1, hh.2, hp, hm.grow hh.2⟩

theorem Shape.closed {i : Instruction} {operands : List Value} {c : Change}
    (hs : c.Shape i memory h operands) (hh : h.Closed) (hm : memory.Closed h)
    (ho : ∀ v ∈ operands, v.IssuedIn h) : c.Closed h := by
  have empty {h' : Heap} : ∀ v ∈ ([] : List Value), v.IssuedIn h' :=
    fun _ hv => absurd hv List.not_mem_nil
  have single {h' : Heap} {v : Value} (hv : v.IssuedIn h') : ∀ w ∈ [v], w.IssuedIn h' := by
    intro w hw
    rw [List.mem_singleton.mp hw]
    exact hv
  cases hs with
  | plain hp =>
    refine closed_of_same hh hm fun v hv => ?_
    obtain hv | ⟨n, rfl⟩ := hp v hv
    · exact ho v hv
    · exact Value.issuedIn_number n
  | loaded _ hv => exact closed_of_same hh hm (single (hm.get? hv))
  | stored _ hv => exact ⟨hh, .refl h, empty, hm.store (ho _ (hv ▸ .head _))⟩
  | jumped | halted => exact closed_of_same hh hm empty
  | newArray size =>
    have hz : ∀ v ∈ Array.replicate size (Value.number 0), v.IssuedIn h := by
      intro v hv
      rw [(Array.mem_replicate.mp hv).2]
      exact Value.issuedIn_number 0
    exact closed_of_heap hm (hh.allocateArray hz) (single (hh.issuedIn_newArray _))
  | readCell hs hv =>
    exact closed_of_same hh hm (single (hh.issuedIn_of_slot? hs (Array.mem_of_getElem? hv)))
  | wroteCell k _ hs hv =>
    refine closed_of_heap hm (hh.setArray hs fun w hw => ?_) empty
    obtain hw | rfl := Array.mem_or_eq_of_mem_setIfInBounds hw
    · exact hh.issuedIn_of_slot? hs hw
    · exact ho _ hv
  | freedArray hs =>
    exact closed_of_heap hm (hh.setArray hs fun v hv => hh.issuedIn_of_slot? hs hv) empty
  | newString text =>
    exact closed_of_heap hm (hh.allocateString text) (single (hh.issuedIn_newString text))
  | freedString hs => exact closed_of_heap hm (hh.setString hs) empty

end Change

namespace Machine
variable {m m' : Machine} {e : StepError}

theorem Closed.next (hm : m.Closed) (h : m.next = .ok m') : m'.Closed := by
  obtain ⟨i, operands, c, -, -, hr, hc, rfl⟩ := exists_change_of_next h
  have ho : ∀ v ∈ Operands.values _ operands, v.IssuedIn m.heap := by
    rw [(Operands.values_of_read hr).1]
    intro v hv
    exact hm.stack v (List.mem_of_mem_take hv)
  have hcl := (Instruction.shape_of_change hc).closed hm.heap hm.memory ho
  refine ⟨hcl.heap, ?_, hcl.memory⟩
  intro v hv
  -- What was on the stack before was issued by the old heap, which the new one has outgrown.
  obtain hv | hv := List.mem_append.mp hv
  · exact hcl.pushed v hv
  · exact (hm.stack v (List.mem_of_mem_drop hv)).grow hcl.grows

theorem closed_ofProgram (p : Program) : (ofProgram p).Closed :=
  ⟨.empty, fun _ hv => absurd hv List.not_mem_nil, ⟨fun _ he => absurd he List.not_mem_nil⟩⟩

/-- An issued handle has a slot, so that no operand of a step can be refused as never issued. -/
theorem Closed.kind_ne_invalidHandle {r : RuntimeError} (hm : m.Closed)
    (h : m.step = .error (.fault r) m') : r.fault.kind ≠ .invalidHandle := by
  intro hk
  obtain ⟨-, f, hf, he⟩ | ⟨-, -, he⟩ | ⟨-, i, operands, d, -, hs, hd, he⟩ :=
    next_error (step_eq_error_iff.mp h).1
  · cases he
    obtain rfl | rfl := hf <;> cases hk
  · obtain he | he := he <;> cases he
  · obtain ⟨rfl, -, -⟩ | ⟨f, rfl, ha⟩ := hd
    · cases he
    · cases he
      obtain ⟨id, ⟨hid, hn⟩ | ⟨hid, hn⟩⟩ := ha.exists_unissued hk
      · obtain ⟨n, hi⟩ := hm.heap.arrays
        obtain ⟨s, hs⟩ := hi.exists_slot (hm.stack _ (hs hid))
        rw [hn] at hs
        cases hs
      · obtain ⟨n, hi⟩ := hm.heap.strings
        obtain ⟨s, hs⟩ := hi.exists_slot (hm.stack _ (hs hid))
        rw [hn] at hs
        cases hs

theorem handles_unforgeable (p : Program) (n : Nat) :
    ((ofProgram p).calls n).2.Closed ∧
      ∀ (r : RuntimeError) (m' : Machine), ((ofProgram p).calls n).2.step = .error (.fault r) m' →
        r.fault.kind ≠ .invalidHandle := by
  have hm : ((ofProgram p).calls n).2.Closed :=
    calls_invariant (fun hm hs => hm.next hs) (closed_ofProgram p) n
  exact ⟨hm, fun _ _ h => hm.kind_ne_invalidHandle h⟩

end Machine

end StackMachine
