import StackMachine.Proofs.Failure
import StackMachine.Proofs.Lockstep
import StackMachine.Proofs.RenamedHeap

/-! The ids of handles mean nothing to a program. Two machines that differ in them alone, and in
objects that nothing refers to, take the same steps, print the same and fail alike. -/
namespace StackMachine

/-! ### Variables -/

namespace Entries
variable {κ α β : Type} [BEq κ] {R : α → β → Prop} {entries : List (κ × α)}
  {others : List (κ × β)}

theorem lookup_rel (h : List.Forall₂ (fun e d => e.1 = d.1 ∧ R e.2 d.2) entries others)
    (key : κ) : Option.Rel R (entries.lookup key) (others.lookup key) := by
  induction h with
  | nil => exact .none
  | @cons e d l l' hd _ ih =>
    obtain ⟨k, v⟩ := e
    obtain ⟨k', v'⟩ := d
    obtain ⟨rfl, hv⟩ := hd
    rw [List.lookup_cons, List.lookup_cons]
    cases key == k with
    | true => exact .some hv
    | false => exact ih

theorem put_rel (h : List.Forall₂ (fun e d => e.1 = d.1 ∧ R e.2 d.2) entries others) (key : κ)
    {v : α} {v' : β} (hv : R v v') :
    List.Forall₂ (fun e d => e.1 = d.1 ∧ R e.2 d.2) (put key v entries) (put key v' others) := by
  induction h with
  | nil => exact .cons ⟨rfl, hv⟩ .nil
  | @cons e d l l' hd hr ih =>
    obtain ⟨k, u⟩ := e
    obtain ⟨k', u'⟩ := d
    obtain ⟨rfl, hu⟩ := hd
    unfold put
    by_cases hk : (k == key) = true
    · rw [if_pos hk, if_pos hk]
      exact .cons ⟨rfl, hv⟩ hr
    · rw [if_neg hk, if_neg hk]
      exact .cons ⟨rfl, hu⟩ ih

end Entries

/-- The same names in the same order, with values that stand for each other. -/
def Memory.Renamed (ρ : Renaming) (m w : Memory) : Prop :=
  List.Forall₂ (fun e d => e.1 = d.1 ∧ ρ.Maps e.2 d.2) m.entries w.entries

namespace Memory.Renamed
variable {ρ σ : Renaming} {m w : Memory}

theorem extend (h : m.Renamed ρ w) (he : ρ.ExtendedBy σ) : m.Renamed σ w :=
  h.imp fun _ _ hd => ⟨hd.1, hd.2.extend he⟩

theorem get? (h : m.Renamed ρ w) (name : String) :
    Option.Rel ρ.Maps (m.get? name) (w.get? name) := Entries.lookup_rel h name

theorem store (h : m.Renamed ρ w) (name : String) {v v' : Value} (hv : ρ.Maps v v') :
    (m.store name v).Renamed ρ (w.store name v') := Entries.put_rel h name hv

end Memory.Renamed

/-! ### Operands -/

def Demand.Renamed (ρ : Renaming) : (d : Demand) → d.Reading → d.Reading → Prop
  | any => ρ.Maps
  | number => Eq

theorem Demand.accept_renamed {ρ : Renaming} {v w : Value} (d : Demand) (h : ρ.Maps v w) :
    Agree Fault.Alike (d.Renamed ρ) (d.accept v) (d.accept w) := by
  cases d with
  | any => exact .ok h
  | number =>
    cases h with
    | number n => exact .ok rfl
    | array h => exact .error rfl
    | string h => exact .error rfl

namespace Operands

def Renamed (ρ : Renaming) : (ds : List Demand) → Operands ds → Operands ds → Prop
  | [], _, _ => True
  | d :: ds, xs, ys => d.Renamed ρ xs.1 ys.1 ∧ Renamed ρ ds xs.2 ys.2

theorem read_renamed {ρ : Renaming} {stack stack' : List Value} (ds : List Demand)
    (depth depth' : Nat) (h : List.Forall₂ ρ.Maps stack stack') :
    Agree Fault.Alike (Renamed ρ ds) (read depth ds stack) (read depth' ds stack') := by
  induction ds generalizing stack stack' with
  | nil => exact .ok trivial
  | cons d ds ih =>
    cases h with
    | nil => exact .error rfl
    | cons hv hr =>
      refine (d.accept_renamed hv).bind fun hx => ?_
      exact (ih hr).bind fun hxs => .ok ⟨hx, hxs⟩

end Operands

/-! ### Changes -/

/-- Errors of one class at one place. -/
inductive StepError.Alike : StepError → StepError → Prop
  | fault {r s : RuntimeError} (kind : r.fault.Alike s.fault) (pc : r.pc = s.pc)
      (instruction : r.instruction = s.instruction) : Alike (.fault r) (.fault s)
  | same (e : StepError) : Alike e e

theorem StepError.Alike.locate {e d : StepError} (h : e.Alike d) (pc : Int) (instruction : String) :
    (e.locate pc instruction).Alike (d.locate pc instruction) := by
  cases h with
  | @fault r s kind hpc hi =>
    obtain ⟨f, rpc, ri⟩ := r
    obtain ⟨g, spc, si⟩ := s
    cases hpc
    cases hi
    cases rpc with
    | none => exact .fault kind rfl rfl
    | some n => exact .fault kind rfl rfl
  | same e => exact .same _

structure Change.Renamed (ρ : Renaming) (c d : Change) : Prop where
  memory : c.memory.Renamed ρ d.memory
  heap : c.heap.Renamed ρ d.heap
  pushed : List.Forall₂ ρ.Maps c.pushed d.pushed
  target : c.target? = d.target?
  halts : c.halts = d.halts
  printed : c.printed? = d.printed?

/-- What one instruction does in two machines: it fails alike, or it makes changes that stay the
same once the ids of new objects are mapped. -/
def Renaming.Changes (ρ : Renaming) : Except StepError Change → Except StepError Change → Prop :=
  Agree StepError.Alike fun c d => ∃ σ, ρ.ExtendedBy σ ∧ c.Renamed σ d

namespace Renaming
variable {ρ : Renaming} {memory memory' : Memory} {heap heap' : Heap} {vs ws : List Value}

theorem changes_raise {f g : Fault} (h : f.Alike g) : ρ.Changes (raise f) (raise g) :=
  .error (.fault h rfl rfl)

theorem changes_ok (hm : memory.Renamed ρ memory') (hh : heap.Renamed ρ heap')
    (hv : List.Forall₂ ρ.Maps vs ws) (target? : Option Int) (halts : Bool)
    (printed? : Option String) :
    ρ.Changes (.ok { memory, heap, pushed := vs, target?, halts, printed? })
      (.ok { memory := memory', heap := heap', pushed := ws, target?, halts, printed? }) :=
  .ok ⟨ρ, .refl ρ, hm, hh, hv, rfl, rfl, rfl⟩

/-- An instruction that needs a number in its operand finds the same one or none. -/
theorem changes_target (op : Opcode) (operand : Operand) {f g : Int → Change}
    (h : ∀ n, ρ.Changes (.ok (f n)) (.ok (g n))) :
    ρ.Changes (Opcode.target op operand >>= fun n => .ok (f n))
      (Opcode.target op operand >>= fun n => .ok (g n)) := by
  cases operand with
  | int n => exact h n
  | none => exact .error (.same _)
  | text s => exact .error (.same _)

theorem changes_operate {α : Type} {a b : Heap.Action α} {same : Renaming → α → α → Prop}
    {finish finish' : α → Heap → Change} (h : ρ.Yields same (a.attempt heap) (b.attempt heap'))
    (hf : ∀ σ x y k k', ρ.ExtendedBy σ → same σ x y → Heap.Renamed σ k k' →
      (finish x k).Renamed σ (finish' y k')) :
    ρ.Changes (operate a heap finish) (operate b heap' finish') := by
  unfold operate
  generalize a.attempt heap = r at h
  generalize b.attempt heap' = s at h
  cases h with
  | ok h =>
    obtain ⟨σ, he, hxy, hk⟩ := h
    exact .ok ⟨σ, he, hf σ _ _ _ _ he hxy hk⟩
  | error h => exact changes_raise h

end Renaming

namespace Opcode
open Renaming

theorem change_renamed {ρ : Renaming} {memory memory' : Memory} {heap heap' : Heap} (op : Opcode)
    (operand : Operand) {xs ys : Operands op.demands} (hm : memory.Renamed ρ memory')
    (hh : heap.Renamed ρ heap') (ho : Operands.Renamed ρ op.demands xs ys) :
    ρ.Changes (op.change operand memory heap xs) (op.change operand memory' heap' ys) := by
  have single {σ : Renaming} {v w : Value} (h : σ.Maps v w) : List.Forall₂ σ.Maps [v] [w] :=
    .cons h .nil
  have number (n : Int64) : ρ.Changes (.ok { memory, heap, pushed := [.number n] })
      (.ok { memory := memory', heap := heap', pushed := [.number n] }) :=
    changes_ok hm hh (single (.number n)) none false none
  have nothing : ρ.Changes (.ok { memory, heap }) (.ok { memory := memory', heap := heap' }) :=
    changes_ok hm hh .nil none false none
  have jump (op : Opcode) : ρ.Changes
      (target op operand >>= fun n => .ok { memory, heap, target? := some n })
      (target op operand >>= fun n =>
        .ok { memory := memory', heap := heap', target? := some n }) :=
    changes_target op operand fun n => changes_ok hm hh .nil (some n) false none
  have value {σ : Renaming} {x y : Value} {k k' : Heap} (he : ρ.ExtendedBy σ) (hv : σ.Maps x y)
      (hk : k.Renamed σ k') : Change.Renamed σ { memory, heap := k, pushed := [x] }
        { memory := memory', heap := k', pushed := [y] } :=
    ⟨hm.extend he, hk, single hv, rfl, rfl, rfl⟩
  have only {σ : Renaming} {k k' : Heap} (he : ρ.ExtendedBy σ) (hk : k.Renamed σ k') :
      Change.Renamed σ { memory, heap := k } { memory := memory', heap := k' } :=
    ⟨hm.extend he, hk, .nil, rfl, rfl, rfl⟩
  -- An operand that has to be a number is the same one in both machines, so that only instructions
  -- that pass handles on, or give them to the heap, need more than to compute.
  cases op with
  | push =>
    exact changes_target .push operand fun n => number (Int64.ofInt n)
  | pop => exact nothing
  | dup =>
    obtain ⟨hv, -⟩ := ho
    exact changes_ok hm hh (.cons hv (single hv)) none false none
  | swap =>
    obtain ⟨hb, ha, -⟩ := ho
    exact changes_ok hm hh (.cons ha (single hb)) none false none
  | add | sub | mul | lt | le | gt | ge | eq | ne | and | or =>
    obtain ⟨b, a, ⟨⟩⟩ := xs
    obtain ⟨_, _, ⟨⟩⟩ := ys
    obtain ⟨rfl, rfl, -⟩ := ho
    exact number _
  | div =>
    obtain ⟨b, a, ⟨⟩⟩ := xs
    obtain ⟨_, _, ⟨⟩⟩ := ys
    obtain ⟨rfl, rfl, -⟩ := ho
    simp only [change]
    split
    · exact changes_raise (.refl _)
    · exact number _
  | not =>
    obtain ⟨n, ⟨⟩⟩ := xs
    obtain ⟨_, ⟨⟩⟩ := ys
    obtain ⟨rfl, -⟩ := ho
    exact number _
  | store =>
    obtain ⟨hv, -⟩ := ho
    exact changes_ok (hm.store operand.asText hv) hh .nil none false none
  | load =>
    have hv := hm.get? operand.asText
    simp only [change]
    generalize memory.get? operand.asText = x at hv
    generalize memory'.get? operand.asText = y at hv
    cases hv with
    | none => exact changes_raise (.refl _)
    | some hv => exact changes_ok hm hh (single hv) none false none
  | jump => exact jump .jump
  | jumpZero =>
    obtain ⟨n, ⟨⟩⟩ := xs
    obtain ⟨_, ⟨⟩⟩ := ys
    obtain ⟨rfl, -⟩ := ho
    simp only [change]
    split
    · exact jump .jumpZero
    · exact nothing
  | jumpNonzero =>
    obtain ⟨n, ⟨⟩⟩ := xs
    obtain ⟨_, ⟨⟩⟩ := ys
    obtain ⟨rfl, -⟩ := ho
    simp only [change]
    split
    · exact jump .jumpNonzero
    · exact nothing
  | newArray =>
    obtain ⟨n, ⟨⟩⟩ := xs
    obtain ⟨_, ⟨⟩⟩ := ys
    obtain ⟨rfl, -⟩ := ho
    exact changes_operate (Heap.allocateArray_renamed hh _) fun _ _ _ _ _ => value
  | arraySet =>
    obtain ⟨v, index, handle, ⟨⟩⟩ := xs
    obtain ⟨_, _, _, ⟨⟩⟩ := ys
    obtain ⟨hv, rfl, ha, -⟩ := ho
    exact changes_operate (Heap.writeCell_renamed hh hv ha _) fun _ _ _ _ _ he _ => only he
  | arrayGet =>
    obtain ⟨index, handle, ⟨⟩⟩ := xs
    obtain ⟨_, _, ⟨⟩⟩ := ys
    obtain ⟨rfl, ha, -⟩ := ho
    exact changes_operate (Heap.readCell_renamed hh ha _) fun _ _ _ _ _ => value
  | arrayLen =>
    obtain ⟨ha, -⟩ := ho
    refine changes_operate (Heap.arrayLength_renamed hh ha) fun σ x y k k' he hxy hk => ?_
    rw [hxy]
    exact value he (.number _) hk
  | freeArray =>
    obtain ⟨ha, -⟩ := ho
    exact changes_operate (Heap.freeArray_renamed hh ha) fun _ _ _ _ _ he _ => only he
  | newString =>
    exact changes_operate (Heap.allocateString_renamed hh operand.asText) fun _ _ _ _ _ => value
  | concat =>
    obtain ⟨hb, ha, -⟩ := ho
    exact changes_operate (Heap.concat_renamed hh ha hb) fun _ _ _ _ _ => value
  | stringLen =>
    obtain ⟨ha, -⟩ := ho
    refine changes_operate (Heap.stringLength_renamed hh ha) fun σ x y k k' he hxy hk => ?_
    rw [hxy]
    exact value he (.number _) hk
  | freeString =>
    obtain ⟨ha, -⟩ := ho
    exact changes_operate (Heap.freeString_renamed hh ha) fun _ _ _ _ _ he _ => only he
  | print =>
    obtain ⟨v, ⟨⟩⟩ := xs
    obtain ⟨w, ⟨⟩⟩ := ys
    obtain ⟨hv, -⟩ := ho
    cases hv with
    | number n => exact changes_ok hm hh .nil none false _
    | array ht => exact changes_raise (.refl _)
    | string ht =>
      refine changes_operate (Heap.getString_renamed hh (.string ht)) fun σ x y k k' he hxy hk => ?_
      rw [hxy]
      exact ⟨hm.extend he, hk, .nil, rfl, rfl, rfl⟩
  | printChar =>
    obtain ⟨n, ⟨⟩⟩ := xs
    obtain ⟨_, ⟨⟩⟩ := ys
    obtain ⟨rfl, -⟩ := ho
    simp only [change]
    split
    · exact changes_ok hm hh .nil none false _
    · exact changes_raise (.refl _)
  | printString => exact changes_ok hm hh .nil none false _
  | halt => exact changes_ok hm hh .nil none true none

end Opcode

/-! ### Machines -/

/-- Machines that differ in the ids of handles alone, and in objects that nothing refers to. -/
structure Machine.Renamed (ρ : Renaming) (m w : Machine) : Prop where
  program : m.program = w.program
  pc : m.pc = w.pc
  halted : m.halted = w.halted
  steps : m.steps = w.steps
  output : m.output = w.output
  stack : List.Forall₂ ρ.Maps m.stack w.stack
  memory : m.memory.Renamed ρ w.memory
  heap : m.heap.Renamed ρ w.heap

namespace Machine
variable {ρ σ : Renaming} {m w : Machine}

theorem Renamed.apply {c d : Change} (h : m.Renamed ρ w) (he : ρ.ExtendedBy σ)
    (hc : c.Renamed σ d) (taken : Nat) : (m.apply taken c).Renamed σ (w.apply taken d) := by
  have hstack := Renaming.maps_extend (List.forall₂_drop taken h.stack) he
  constructor
  case program => exact h.program
  case stack => exact List.rel_append hc.pushed hstack
  case memory => exact hc.memory
  case heap => exact hc.heap
  case steps => exact congrArg (· + 1) h.steps
  case output => simp only [Machine.apply, h.output, hc.printed]
  case halted => simp only [Machine.apply, h.halted, hc.halts]
  case pc => simp only [Machine.apply, h.pc, hc.halts, hc.target]

theorem Renamed.execute (h : m.Renamed ρ w) (i : Instruction) :
    Agree StepError.Alike (fun m' w' => ∃ σ, ρ.ExtendedBy σ ∧ m'.Renamed σ w') (m.execute i)
      (w.execute i) := by
  have hread := Operands.read_renamed i.opcode.demands m.stack.length w.stack.length h.stack
  generalize hm : Operands.read m.stack.length i.opcode.demands m.stack = x at hread
  generalize hw : Operands.read w.stack.length i.opcode.demands w.stack = y at hread
  cases hread with
  | error hf =>
    rw [execute_of_read_error hm, execute_of_read_error hw]
    exact .error (.fault hf rfl rfl)
  | ok ho =>
    rw [execute_of_read hm, execute_of_read hw]
    refine (Opcode.change_renamed i.opcode i.operand h.memory h.heap ho).bind fun hc => ?_
    obtain ⟨σ, he, hc⟩ := hc
    exact .ok ⟨σ, he, h.apply he hc _⟩

theorem Renamed.fetch_eq (h : m.Renamed ρ w) : m.fetch = w.fetch := by
  simp only [fetch, h.program, h.pc, h.halted]

theorem Renamed.next (h : m.Renamed ρ w) :
    Agree StepError.Alike (fun m' w' => ∃ σ, ρ.ExtendedBy σ ∧ m'.Renamed σ w') m.next w.next := by
  rw [next_eq, next_eq, h.fetch_eq, h.pc]
  cases w.fetch with
  | error e => exact .error (.same e)
  | ok i => exact (h.execute i).mapError fun he => he.locate w.pc i.render

/-- A program cannot tell how its objects are numbered, nor see those to which it has no handle. -/
theorem handle_ids_opaque (h : m.Renamed ρ w) (n : Nat) :
    (∃ σ m' w', m.after? n = some m' ∧ w.after? n = some w' ∧ ρ.ExtendedBy σ ∧ m'.Renamed σ w') ∨
      ∃ k < n, ∃ m' w' e d, m.after? k = some m' ∧ w.after? k = some w' ∧
        m'.step = .error e m' ∧ w'.step = .error d w' ∧ e.Alike d := by
  have hstep {m₁ w₁ : Machine} (h₁ : ∃ σ, ρ.ExtendedBy σ ∧ m₁.Renamed σ w₁) :
      Agree StepError.Alike (fun m' w' => ∃ σ, ρ.ExtendedBy σ ∧ m'.Renamed σ w') m₁.next
        w₁.next := by
    obtain ⟨σ, he, hr⟩ := h₁
    exact hr.next.mono fun ⟨τ, he', hr'⟩ => ⟨τ, he.trans he', hr'⟩
  rcases lockstep hstep ⟨ρ, .refl ρ, h⟩ n with ⟨m', w', hm, hw, σ, he, hr⟩ | ⟨k, hk, h'⟩
  · exact .inl ⟨σ, m', w', hm, hw, he, hr⟩
  · obtain ⟨m', w', e, d, hm, hw, -, hem, hew, hed⟩ := h'
    exact .inr ⟨k, hk, m', w', e, d, hm, hw, hem, hew, hed⟩

/-- A machine that appends a letter to the string on its stack and prints the result. -/
def appending (strings : Arena String) (id : Int) : Machine where
  program.instructions :=
    #[⟨.newString, .text "b", none⟩, ⟨.concat, .none, none⟩, ⟨.print, .none, none⟩]
  stack := [.string id]
  heap.strings := strings

/-- Its string is the first one, or comes after one that has been freed. -/
theorem appending_opaque :
    let first : Arena String := Arena.allocate {} "a"
    let second : Arena String := ((Arena.allocate {} "x").setSlot 1 ⟨"x", false⟩).allocate "a"
    (∃ ρ, (appending first 1).Renamed ρ (appending second 2)) ∧
      ∃ σ m' w', (appending first 1).after? 3 = some m' ∧ (appending second 2).after? 3 = some w' ∧
        m'.Renamed σ w' ∧ w'.output = #["ab\n"] := by
  intro first second
  have hnew : Arena.Numbered ({} : Arena String) := Arena.Issued.empty.numbered
  have hused : ((Arena.allocate {} "x").setSlot 1 ⟨"x", false⟩).Numbered :=
    (hnew.allocate "x").setSlot (s := ⟨"x", true⟩) rfl
  have hbefore : Arena.Renamed ⊥ Eq {} ((Arena.allocate {} "x").setSlot 1 ⟨"x", false⟩) :=
    .of_numbered hnew hused
  have hid := hbefore.nextId_unmapped
  have ht := hbefore.nextId_unused
  have hstrings : first.Renamed (Renaming.withPair ⊥ 1 2 hid ht) Eq second :=
    hbefore.allocate rfl
  have hrel : (appending first 1).Renamed ⟨⊥, Renaming.withPair ⊥ 1 2 hid ht⟩
      (appending second 2) :=
    ⟨rfl, rfl, rfl, rfl, rfl, .cons (.string (Renaming.mem_withPair ⊥ hid ht)) .nil, .nil,
      .of_numbered Arena.Issued.empty.numbered Arena.Issued.empty.numbered, hstrings⟩
  have hrun : ((appending first 1).after? 3).map (·.output) = some #["ab\n"] := by decide +kernel
  obtain ⟨m, hm, ho⟩ := Option.map_eq_some_iff.mp hrun
  refine ⟨⟨_, hrel⟩, ?_⟩
  rcases handle_ids_opaque hrel 3 with ⟨σ, m', w', hm', hw', -, hr⟩ | ⟨k, hk, h⟩
  · have heq : m' = m := Option.some.inj (hm'.symm.trans hm)
    exact ⟨σ, m', w', hm', hw', hr, hr.output.symm.trans (heq ▸ ho)⟩
  · obtain ⟨m', w', e, d, hm', -, hs, -⟩ := h
    obtain ⟨m₁, hn⟩ := exists_next_of_after?_of_lt hm hk hm'
    rw [(step_eq_error_iff.mp hs).1] at hn
    cases hn

end Machine

end StackMachine
