import StackMachine.Proofs.AssembledRun
import StackMachine.Proofs.Concatenation
import StackMachine.Proofs.Lockstep

/-! Programs one behind the other. A machine whose program stands further on in another program runs
there as it does in its own, and so the joined program runs as the first program, and at the end of
that as the second one. -/
namespace StackMachine

/-- The instructions of the program stand in the other one from that position on, with their jumps
moved along. -/
def Program.Embeds (offset : Nat) (p q : Program) : Prop :=
  ∀ (j : Nat) i, p.instructions[j]? = some i →
    ∃ lines, q.instructions[j + offset]? = some (i.shift offset lines)

theorem Operand.shift_zero (kind : OperandKind) (operand : Operand) :
    operand.shift 0 kind = operand := by
  unfold Operand.shift
  split
  · rw [Int.natCast_zero, Int.add_zero]
  · rfl

theorem Operand.shift_of_ne {kind : OperandKind} (h : kind ≠ .label) (offset : Nat)
    (operand : Operand) : operand.shift offset kind = operand := by
  unfold Operand.shift
  split
  · exact absurd rfl h
  · rfl

namespace Program

@[simp] theorem size_join (a b : Program) (lines : Nat) :
    (a.join b lines).size = a.size + b.size := by
  simp [size, join]

theorem embeds_join_first (a b : Program) (lines : Nat) : a.Embeds 0 (a.join b lines) := by
  intro j i hi
  refine ⟨0, ?_⟩
  have hj : j < a.instructions.size := (Array.getElem?_eq_some_iff.mp hi).1
  have hs : i.shift 0 0 = i := by
    obtain ⟨op, operand, line⟩ := i
    cases line <;> simp [Instruction.shift, Operand.shift_zero]
  rw [hs, Nat.add_zero, ← hi]
  exact Array.getElem?_append_left hj

theorem embeds_join_second (a b : Program) (lines : Nat) : b.Embeds a.size (a.join b lines) := by
  intro j i hi
  refine ⟨lines, ?_⟩
  have hle : a.instructions.size ≤ j + a.size := Nat.le_add_left ..
  rw [join, Array.getElem?_append_right hle, size, Nat.add_sub_cancel, Array.getElem?_map, hi]
  rfl

end Program

/-- A fault and the same fault so many positions further on. -/
inductive StepError.Displaced (offset : Nat) : StepError → StepError → Prop
  | fault {f : Fault} {pc : Int} {instruction? instruction?' : Option String} :
      Displaced offset (.fault ⟨f, some pc, instruction?⟩)
        (.fault ⟨f, some (pc + offset), instruction?'⟩)

def Change.shift (offset : Nat) (c : Change) : Change :=
  { c with target? := c.target?.map (· + (offset : Int)) }

theorem Change.shift_of_none {c : Change} (h : c.target? = none) (offset : Nat) :
    c.shift offset = c := by
  unfold shift
  rw [h, Option.map_none, ← h]

open Opcode in
/-- Only the target of a jump changes. -/
theorem Instruction.change_shift {i : Instruction} {size : Nat}
    (hi : i.operand.Fits size i.opcode.operandKind) (offset lines : Nat) (memory : Memory)
    (heap : Heap) (operands : Operands i.opcode.demands) :
    i.opcode.change (i.shift offset lines).operand memory heap operands =
      (i.opcode.change i.operand memory heap operands).map (.shift offset) := by
  by_cases hk : i.opcode.operandKind = .label
  · obtain ⟨op, operand, line⟩ := i
    cases op with
    | jump =>
      cases operand with
      | int n => rfl
      | none | text => exact hi.elim
    | jumpZero | jumpNonzero =>
      cases operand with
      | int n =>
        obtain ⟨k, ⟨⟩⟩ := operands
        simp only [change]
        split <;> rfl
      | none | text => exact hi.elim
    | _ => cases hk
  · rw [Instruction.shift, Operand.shift_of_ne hk]
    cases hc : i.opcode.change i.operand memory heap operands with
    | error e => rfl
    | ok c =>
      have ht : c.target? = none := by
        refine Option.eq_none_iff_forall_ne_some.mpr fun n ht => ?_
        exact hk ((shape_of_change hc).operand_eq_target ht).1
      exact congrArg Except.ok (Change.shift_of_none ht offset).symm

namespace Machine
variable {p q : Program} {m m' : Machine} {offset n : Nat}

/-- The machine so many positions further on in another program. -/
def moved (q : Program) (offset : Nat) (m : Machine) : Machine :=
  { m with program := q, pc := m.pc + offset }

theorem apply_moved (m : Machine) (taken : Nat) (c : Change) :
    (m.moved q offset).apply taken (c.shift offset) = (m.apply taken c).moved q offset := by
  have hpc : (if c.halts then m.pc + offset
      else (c.target?.map (· + (offset : Int))).getD (m.pc + offset + 1)) =
      (if c.halts then m.pc else c.target?.getD (m.pc + 1)) + offset := by
    split
    · rfl
    · cases c.target? with
      | none => exact Int.add_right_comm ..
      | some n => rfl
  unfold apply moved Change.shift
  rw [hpc]

theorem execute_moved {i : Instruction} {size : Nat}
    (hi : i.operand.Fits size i.opcode.operandKind) (m : Machine) (lines : Nat) :
    (m.moved q offset).execute (i.shift offset lines) =
      (m.execute i).map (moved q offset) := by
  cases hr : Operands.read m.stack.length i.opcode.demands m.stack with
  | error f =>
    have hr' : (m.moved q offset).execute (i.shift offset lines) = raise f :=
      execute_of_read_error hr
    rw [hr', execute_of_read_error hr]
    rfl
  | ok operands =>
    have hr' := execute_of_read (m := m.moved q offset) (i := i.shift offset lines) hr
    have hc := Instruction.change_shift hi offset lines m.memory m.heap operands
    rw [hr', execute_of_read hr]
    show i.opcode.change (i.shift offset lines).operand m.memory m.heap operands >>= _ = _
    rw [hc]
    cases i.opcode.change i.operand m.memory m.heap operands with
    | error e => rfl
    | ok c => exact congrArg Except.ok (apply_moved m _ c)

theorem fetch_moved {i : Instruction} (hq : p.Embeds offset q) (hm : m.Within p)
    (hf : m.finished = false) (hi : p.at? m.pc = some i) :
    ∃ lines, (m.moved q offset).fetch = .ok (i.shift offset lines) := by
  obtain ⟨j, hj⟩ := Int.eq_ofNat_of_zero_le hm.nonneg
  rw [hj, Program.at?_nat] at hi
  obtain ⟨lines, hi⟩ := hq j i hi
  have hpc : (m.moved q offset).pc = ((j + offset : Nat) : Int) := by
    rw [Int.natCast_add, ← hj]
    rfl
  rw [← Program.at?_nat, ← hpc] at hi
  have hlt : (m.moved q offset).pc < q.size :=
    (lt_size_of_at? (hpc ▸ Int.natCast_nonneg _) hi).1
  refine ⟨lines, fetch_eq_ok_iff.mpr ⟨Bool.or_eq_false_iff.mpr ⟨?_, ?_⟩, hi⟩⟩
  · exact (Bool.or_eq_false_iff.mp hf).1
  · exact decide_eq_false (Int.not_le.mpr hlt)

theorem next_moved_of_unfinished (hp : p.WellFormed) (hq : p.Embeds offset q) (hm : m.Within p)
    (hf : m.finished = false) :
    Agree (StepError.Displaced offset) (fun w w' => w' = w.moved q offset)
      m.next (m.moved q offset).next := by
  obtain ⟨i, hi⟩ := hm.exists_instruction hf
  have hfits := hp.operands i (lt_size_of_at? hm.nonneg hi).2
  have hfetch : m.fetch = .ok i := fetch_eq_ok_iff.mpr ⟨hf, hm.program ▸ hi⟩
  obtain ⟨lines, hfetch'⟩ := fetch_moved hq hm hf hi
  rw [next_eq, next_eq, hfetch, hfetch', ok_bind, ok_bind, execute_moved hfits]
  cases he : m.execute i with
  | ok w => exact .ok rfl
  | error e =>
    obtain ⟨operands, -, ha⟩ := execute_error he
    obtain ⟨f, rfl, -⟩ := fault_of_arisesIn hfits ha
    exact .error .fault

/-- The machine runs further on as it does in its own program, to the end of both. -/
theorem next_moved (hp : p.WellFormed) (hq : p.Embeds offset q) (hs : q.size = offset + p.size)
    (hm : m.Within p) :
    Agree (StepError.Displaced offset) (fun w w' => w.Within p ∧ w' = w.moved q offset)
      m.next (m.moved q offset).next := by
  cases hf : m.finished with
  | false =>
    have h := next_moved_of_unfinished hp hq hm hf
    generalize hx : m.next = x at h
    generalize hy : (m.moved q offset).next = y at h
    cases h with
    | ok hw => exact .ok ⟨hm.next hp hx, hw⟩
    | error he => exact .error he
  | true =>
    have hend : ((m.moved q offset).program.size : Int) ≤ (m.moved q offset).pc ↔
        (m.program.size : Int) ≤ m.pc := by
      show (q.size : Int) ≤ m.pc + offset ↔ _
      rw [hs, hm.program]
      omega
    rw [next_eq, next_eq]
    unfold fetch
    by_cases hh : m.halted = true
    · have hh' : (m.moved q offset).halted = true := hh
      rw [if_pos hh, if_pos hh']
      exact .error .fault
    · have hh' : ¬ (m.moved q offset).halted = true := hh
      have hle : (m.program.size : Int) ≤ m.pc := by simpa [finished, hh] using hf
      rw [if_neg hh, if_neg hh', if_pos hle, if_pos (hend.mpr hle)]
      exact .error .fault

/-- A run that succeeds does so further on, even if there is more of the other program. -/
theorem after?_moved (hp : p.WellFormed) (hq : p.Embeds offset q) (hm : m.Within p)
    (h : m.after? n = some m') : (m.moved q offset).after? n = some (m'.moved q offset) := by
  induction n generalizing m with
  | zero =>
    cases h
    rfl
  | succ n ih =>
    obtain ⟨m₁, hn, h⟩ := exists_next_of_after? h
    obtain ⟨_, _, _, hf, -⟩ := exists_change_of_next hn
    have hmoved := next_moved_of_unfinished hp hq hm hf
    rw [hn] at hmoved
    generalize hy : (m.moved q offset).next = y at hmoved
    cases hmoved with
    | ok hw =>
      cases hw
      rw [after?_succ hy]
      exact ih (hm.next hp hn) h

/-- So many steps of `w` are those of `m`, further on in the program `q`: all of them succeed, or
the same one fails in both with the same fault. -/
def Follows (q : Program) (offset n : Nat) (m w : Machine) : Prop :=
  (∃ m', m.after? n = some m' ∧ w.after? n = some (m'.moved q offset)) ∨
    ∃ k < n, ∃ m' e d, m.after? k = some m' ∧ w.after? k = some (m'.moved q offset) ∧
      m'.step = .error e m' ∧ (m'.moved q offset).step = .error d (m'.moved q offset) ∧
      e.Displaced offset d

theorem follows_moved (hp : p.WellFormed) (hq : p.Embeds offset q) (hs : q.size = offset + p.size)
    (hm : m.Within p) (n : Nat) : Follows q offset n m (m.moved q offset) := by
  have hstep {w w' : Machine} (h : w.Within p ∧ w' = w.moved q offset) :
      Agree (StepError.Displaced offset) (fun w w' => w.Within p ∧ w' = w.moved q offset)
        w.next w'.next := by
    obtain ⟨hw, rfl⟩ := h
    exact next_moved hp hq hs hw
  obtain ⟨w, _, hw, hw', -, rfl⟩ | ⟨k, hk, w, _, e, d, hw, hw', ⟨-, rfl⟩, he, hd, hed⟩ :=
    lockstep hstep ⟨hm, rfl⟩ n
  · exact .inl ⟨w, hw, hw'⟩
  · exact .inr ⟨k, hk, w, e, d, hw, hw', he, hd, hed⟩

end Machine

open Machine

/-- Of two texts that assemble and share no label, the one behind the other assembles. A run of the
first that succeeds and ends behind its last instruction is a run of the joined program, which from
there on follows the second program, started with all that the machine then holds. -/
theorem joined_runs {first second : String} {a b : Program} (ha : assemble first = .ok a)
    (hb : assemble second = .ok b)
    (hd : ∀ name ∈ a.labels.map (·.1), name ∉ b.labels.map (·.1)) :
    ∃ c, assemble (first ++ "\n" ++ second) = .ok c ∧
      ∀ n m, (ofProgram a).after? n = some m → m.pc = a.size → m.halted = false →
        (ofProgram c).after? n = some { m with program := c } ∧
        ∀ k, Follows c a.size k { m with program := b, pc := 0 } { m with program := c } := by
  obtain ⟨lines, hc⟩ := assemble_join ha hb hd
  refine ⟨_, hc, ?_⟩
  intro n m hn hpc hh
  have hstart : moved (a.join b lines) 0 m = { m with program := a.join b lines } := by
    rw [moved, Int.natCast_zero, Int.add_zero]
  have hfirst := after?_moved (assemble_wellFormed ha) (Program.embeds_join_first a b lines)
    (within_ofProgram a) hn
  rw [hstart] at hfirst
  refine ⟨hfirst, fun k => ?_⟩
  have hwithin : Within b { m with program := b, pc := 0 } :=
    ⟨rfl, Int.le_refl 0, Int.natCast_nonneg _, fun h => absurd (hh.symm.trans h) Bool.false_ne_true⟩
  have hmoved : ({ m with program := a.join b lines } : Machine) =
      moved (a.join b lines) a.size { m with program := b, pc := 0 } := by
    rw [moved, Int.zero_add, ← hpc]
  rw [hmoved]
  exact follows_moved (assemble_wellFormed hb) (Program.embeds_join_second a b lines)
    (Program.size_join a b lines) hwithin k

/-- A program that jumps over its last instruction. -/
def skipsPop : Program where
  instructions := #[⟨.push, .int 6, some 1⟩, ⟨.jump, .int 3, some 2⟩, ⟨.pop, .none, some 3⟩]
  labels := [("out", 3)]

/-- A program that takes values off the stack as long as there are any. -/
def drains : Program where
  instructions := #[⟨.pop, .none, some 1⟩, ⟨.jump, .int 0, some 2⟩]
  labels := [("again", 0)]

def skipsPopDrains : Program where
  instructions := #[⟨.push, .int 6, some 1⟩, ⟨.jump, .int 3, some 2⟩, ⟨.pop, .none, some 3⟩,
    ⟨.pop, .none, some 5⟩, ⟨.jump, .int 3, some 6⟩]
  labels := [("out", 3), ("again", 3)]

theorem skipsPop_drains_runs :
    assemble "PUSH 6\nJMP out\nPOP\nout:" = .ok skipsPop ∧
    assemble "again: POP\nJMP again" = .ok drains ∧
    (∀ name ∈ skipsPop.labels.map (·.1), name ∉ drains.labels.map (·.1)) ∧
    (ofProgram skipsPop).after? 2 =
      some { program := skipsPop, stack := [.number 6], pc := 3, steps := 2 } ∧
    (ofProgram skipsPopDrains).after? 2 =
      some { program := skipsPopDrains, stack := [.number 6], pc := 3, steps := 2 } ∧
    Follows skipsPopDrains 3 3 { program := drains, stack := [.number 6], steps := 2 }
      { program := skipsPopDrains, stack := [.number 6], pc := 3, steps := 2 } := by
  have ha : (assemble "PUSH 6\nJMP out\nPOP\nout:").toOption = some skipsPop := by
    decide +kernel
  have hb : (assemble "again: POP\nJMP again").toOption = some drains := by decide +kernel
  have hj : (assemble ("PUSH 6\nJMP out\nPOP\nout:" ++ "\n" ++ "again: POP\nJMP again")).toOption =
      some skipsPopDrains := by decide +kernel
  have ha := toOption_eq_some_iff.mp ha
  have hb := toOption_eq_some_iff.mp hb
  obtain ⟨c, hc, hrun⟩ := joined_runs ha hb (by decide)
  cases hc.symm.trans (toOption_eq_some_iff.mp hj)
  have hn : (ofProgram skipsPop).after? 2 =
      some { program := skipsPop, stack := [.number 6], pc := 3, steps := 2 } := rfl
  obtain ⟨hfirst, hsecond⟩ := hrun 2 _ hn rfl rfl
  exact ⟨ha, hb, by decide, hn, hfirst, hsecond 3⟩

end StackMachine
