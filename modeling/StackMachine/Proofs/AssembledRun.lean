import StackMachine.Proofs.AssembledProgram
import StackMachine.Proofs.Calls
import StackMachine.Proofs.ChangeShape
import StackMachine.Snapshot

/-! Runs of assembled programs. The program counter stays in the program or at its end, and no step
fails but with a fault. -/
namespace StackMachine

namespace Machine
variable {p : Program} {m m' : Machine}

/-- What holds all along a run of the program. -/
structure Within (p : Program) (m : Machine) : Prop where
  program : m.program = p
  nonneg : 0 ≤ m.pc
  le_size : m.pc ≤ p.size
  halt : m.halted = true → ∃ i, p.at? m.pc = some i ∧ i.opcode = .halt

theorem lt_size_of_at? {pc : Int} {i : Instruction} (h0 : 0 ≤ pc) (h : p.at? pc = some i) :
    pc < p.size ∧ i ∈ p.instructions := by
  obtain ⟨k, rfl⟩ := Int.eq_ofNat_of_zero_le h0
  rw [Program.at?_nat] at h
  obtain ⟨hk, -⟩ := Array.getElem?_eq_some_iff.mp h
  exact ⟨Int.ofNat_lt.mpr hk, Array.mem_of_getElem? h⟩

theorem Within.exists_instruction (hm : m.Within p) (hf : m.finished = false) :
    ∃ i, p.at? m.pc = some i := by
  have hlt : m.pc < p.size := by
    rw [finished, Bool.or_eq_false_iff, decide_eq_false_iff_not, hm.program] at hf
    exact Int.not_le.mp hf.2
  obtain ⟨k, hk⟩ := Int.eq_ofNat_of_zero_le hm.nonneg
  have hk' : k < p.instructions.size := Int.ofNat_lt.mp (hk ▸ hlt)
  rw [hk, Program.at?_nat]
  exact ⟨_, Array.getElem?_eq_getElem hk'⟩

theorem Within.next (hp : p.WellFormed) (hm : m.Within p) (h : m.next = .ok m') : m'.Within p := by
  obtain ⟨i, operands, c, hf, hi, -, hc, rfl⟩ := exists_change_of_next h
  have hs := Instruction.shape_of_change hc
  rw [hm.program] at hi
  obtain ⟨hlt, hmem⟩ := lt_size_of_at? hm.nonneg hi
  have hrun : m.halted = false := (Bool.or_eq_false_iff.mp hf).1
  -- A machine that halts stays at its instruction. Any other goes on below, at most to the end.
  cases hh : c.halts with
  | true =>
    have hpc : (m.apply i.opcode.demands.length c).pc = m.pc := by simp [apply, hh]
    refine ⟨hm.program, hpc ▸ hm.nonneg, hpc ▸ hm.le_size, fun _ => ⟨i, ?_, hs.opcode_eq_halt hh⟩⟩
    rw [hpc, hi]
  | false =>
    have hpc : (m.apply i.opcode.demands.length c).pc = c.target?.getD (m.pc + 1) := by
      simp [apply, hh]
    have hstop : (m.apply i.opcode.demands.length c).halted = false := by simp [apply, hh, hrun]
    have hbounds : 0 ≤ c.target?.getD (m.pc + 1) ∧ c.target?.getD (m.pc + 1) ≤ p.size := by
      cases ht : c.target? with
      | none =>
        have h0 := hm.nonneg
        simp only [Option.getD_none]
        omega
      | some n =>
        obtain ⟨hk, ho⟩ := hs.operand_eq_target ht
        have hfits := hp.operands i hmem
        rw [hk, ho] at hfits
        exact hfits
    rw [← hpc] at hbounds
    refine ⟨hm.program, hbounds.1, hbounds.2, fun hh => ?_⟩
    rw [hstop] at hh
    cases hh

theorem within_ofProgram (p : Program) : (ofProgram p).Within p :=
  ⟨rfl, Int.le_refl 0, Int.natCast_nonneg _, fun h => nomatch h⟩

theorem steps_calls (m : Machine) (n : Nat) :
    (m.calls n).2.steps = m.steps + (m.calls n).1.countP Except.isOk := by
  induction n generalizing m with
  | zero => rfl
  | succ n ih =>
    cases h : m.next with
    | ok m' =>
      obtain ⟨i, operands, c, -, -, -, -, rfl⟩ := exists_change_of_next h
      rw [calls_of_ok h, ih, List.countP_cons_of_pos rfl]
      show m.steps + 1 + _ = _
      omega
    | error e =>
      rw [calls_of_error h, ih, List.countP_cons_of_neg (by simp [Except.isOk, Except.toBool])]

/-- No instruction of a well-formed program lacks the number that it needs. -/
theorem fault_of_arisesIn {i : Instruction} {size : Nat} {heap : Heap} {operands : List Value}
    {e : StepError} (hi : i.operand.Fits size i.opcode.operandKind)
    (h : e.ArisesIn i heap operands) : ∃ f, e = .fault { fault := f } ∧
      f.ArisesFrom heap operands := by
  obtain ⟨-, ht, hk⟩ | h := h
  · obtain hk | hk := hk <;> rw [hk] at hi <;>
      cases ho : i.operand <;> simp [Instruction.target?, Operand.Fits, ho] at ht hi
  · exact h

theorem Within.next_error {e : StepError} (hp : p.WellFormed) (hm : m.Within p)
    (h : m.next = .error e) :
    ∃ r : RuntimeError, e = .fault r ∧ (r.fault.kind = .programComplete ↔ m.finished = true) := by
  obtain ⟨hf, f, hk, rfl⟩ | ⟨hf, hn, -⟩ | ⟨hf, i, operands, d, hi, -, hd, rfl⟩ :=
    Machine.next_error h
  · refine ⟨_, rfl, ?_⟩
    obtain rfl | rfl := hk <;> simp [hf, Fault.kind]
  · obtain ⟨i, hi⟩ := hm.exists_instruction hf
    rw [hm.program, hi] at hn
    cases hn
  · rw [hm.program] at hi
    have hfits := hp.operands i (lt_size_of_at? hm.nonneg hi).2
    obtain ⟨f, rfl, ha⟩ := fault_of_arisesIn hfits hd
    refine ⟨_, rfl, ?_⟩
    simp [hf, ha.kind_ne_programComplete]

theorem Within.complete_iff {r : RuntimeError} (hp : p.WellFormed) (hm : m.Within p)
    (h : m.step = .error (.fault r) m') :
    r.fault.kind = .programComplete ↔ m.finished = true := by
  obtain ⟨r', he, hk⟩ := hm.next_error hp (step_eq_error_iff.mp h).1
  cases he
  exact hk

end Machine

/-- What is promised of a run of a program, from its results in order and the machine after them. -/
structure SafeRun (p : Program) (results : List (Except StepError Unit)) (m : Machine) : Prop where
  program : m.program = p
  pc : 0 ≤ m.pc ∧ m.pc ≤ p.size
  halted : m.halted = true → m.pc < p.size ∧ ∃ i, p.at? m.pc = some i ∧ i.opcode = .halt
  steps : m.steps = results.countP Except.isOk
  complete : (∃ (r : RuntimeError) (m' : Machine), m.step = .error (.fault r) m' ∧
    r.fault.kind = .programComplete) ↔ m.finished = true
  faults : ∀ e m', m.step = .error e m' → ∃ r, e = .fault r
  snapshot : Snapshot.ofMachine? m = some (Snapshot.ofMachine m)
  snapshot_halted : (Snapshot.ofMachine m).halted = true ↔
    ∃ r : RuntimeError, r.fault.kind = .programComplete ∧
      ∀ k, m.calls k = (List.replicate k (.error (.fault r)), m)

open Machine

/-- No run of an assembled program fails but with a fault, however long it is and whatever came of
its steps. -/
theorem assembled_run_safe {text : String} {p : Program} (h : assemble text = .ok p) (n : Nat) :
    SafeRun p ((ofProgram p).calls n).1 ((ofProgram p).calls n).2 := by
  have hp := assemble_wellFormed h
  have hm : Within p ((ofProgram p).calls n).2 :=
    calls_invariant (fun hm hs => hm.next hp hs) (within_ofProgram p) n
  have hsteps := steps_calls (ofProgram p) n
  generalize (ofProgram p).calls n = run at hm hsteps ⊢
  obtain ⟨results, m⟩ := run
  have hdone : m.finished = true → ∃ r : RuntimeError, r.fault.kind = .programComplete ∧
      m.next = .error (.fault r) := by
    intro hf
    obtain ⟨f, hk, hn⟩ := next_of_finished hf
    exact ⟨_, hk, hn⟩
  refine ⟨hm.program, ⟨hm.nonneg, hm.le_size⟩, ?_, ?_, ?_, ?_, ?_, ?_⟩
  · intro hh
    obtain ⟨i, hi, ho⟩ := hm.halt hh
    exact ⟨(lt_size_of_at? hm.nonneg hi).1, i, hi, ho⟩
  · rw [hsteps]
    exact Nat.zero_add _
  · constructor
    · rintro ⟨r, m', hs, hk⟩
      exact (hm.complete_iff hp hs).mp hk
    · intro hf
      obtain ⟨r, hk, hn⟩ := hdone hf
      exact ⟨r, m, step_eq_error_iff.mpr ⟨hn, rfl⟩, hk⟩
  · intro e m' he
    obtain ⟨r, hr, -⟩ := hm.next_error hp (step_eq_error_iff.mp he).1
    exact ⟨r, hr⟩
  · exact if_pos hm.nonneg
  · constructor
    · intro hf
      obtain ⟨r, hk, hn⟩ := hdone hf
      exact ⟨r, hk, next_eq_error_iff.mp hn⟩
    · rintro ⟨r, hk, hc⟩
      have hs : m.step = .error (.fault r) m :=
        step_eq_error_iff.mpr ⟨next_eq_error_iff.mpr hc, rfl⟩
      exact (hm.complete_iff hp hs).mp hk

/-- A program that jumps past its last instruction. -/
def jumpsToEnd : Program where
  instructions := #[⟨.push, .int 2, some 1⟩, ⟨.jumpNonzero, .int 3, some 2⟩, ⟨.pop, .none, some 3⟩]
  labels := [("end", 3)]

theorem jumpsToEnd_run_safe :
    SafeRun jumpsToEnd [.ok (), .ok (), .error (.fault ⟨.pastEnd, some 3, none⟩)]
      { program := jumpsToEnd, pc := 3, steps := 2 } := by
  have h : (assemble "PUSH 2\nJMPNZ end\nPOP\nend:").toOption = some jumpsToEnd := by
    decide +kernel
  exact assembled_run_safe (toOption_eq_some_iff.mp h) 3

end StackMachine
