import StackMachine.Proofs.AssembledRun
import StackMachine.Proofs.BoundedRun
import StackMachine.Proofs.Lockstep

/-! Programs whose jumps all go forward. A step that succeeds in such a program halts the machine or
moves its counter on, so that a run makes at most one step for each instruction. A run with that
many steps allowed is never stopped by its limit. -/
namespace StackMachine

/-- Every jump goes to a position behind its own. -/
def Program.Forward (p : Program) : Prop :=
  ∀ (j : Nat) (h : j < p.instructions.size), p.instructions[j].opcode.isJump = true →
    ∀ target ∈ p.instructions[j].target?, (j : Int) < target

instance (p : Program) : Decidable p.Forward :=
  inferInstanceAs (Decidable (∀ (j : Nat) (h : j < p.instructions.size),
    p.instructions[j].opcode.isJump = true →
      ∀ target ∈ p.instructions[j].target?, (j : Int) < target))

namespace Machine
variable {p : Program} {m m' : Machine} {n : Nat}

theorem target_gt (hf : p.Forward) (hm : m.Within p) {i : Instruction}
    (hi : p.at? m.pc = some i) (hk : i.opcode.operandKind = .label) {target : Int}
    (ho : i.operand = .int target) : m.pc < target := by
  obtain ⟨j, hj⟩ := Int.eq_ofNat_of_zero_le hm.nonneg
  rw [hj, Program.at?_nat] at hi
  obtain ⟨hlt, rfl⟩ := Array.getElem?_eq_some_iff.mp hi
  have hjump : p.instructions[j].opcode.isJump = true := by simp [Opcode.isJump, hk]
  have htarget : p.instructions[j].target? = some target := by simp [Instruction.target?, ho]
  rw [hj]
  exact hf j hlt hjump target htarget

/-- Only a machine that halts stays where it is. -/
theorem next_advances (hf : p.Forward) (hm : m.Within p) (h : m.next = .ok m') :
    m.halted = false ∧ m.pc < p.size ∧
      (m'.halted = true ∧ m'.pc = m.pc ∨ m'.halted = false ∧ m.pc < m'.pc) := by
  obtain ⟨i, operands, c, hrun, hi, -, hc, rfl⟩ := exists_change_of_next h
  have hs := Instruction.shape_of_change hc
  rw [hm.program] at hi
  have hlive : m.halted = false := (Bool.or_eq_false_iff.mp hrun).1
  refine ⟨hlive, (lt_size_of_at? hm.nonneg hi).1, ?_⟩
  cases hh : c.halts with
  | true => exact .inl ⟨by simp [apply, hh], by simp [apply, hh]⟩
  | false =>
    have hpc : (m.apply i.opcode.demands.length c).pc = c.target?.getD (m.pc + 1) := by
      simp [apply, hh]
    refine .inr ⟨by simp [apply, hh, hlive], ?_⟩
    rw [hpc]
    cases ht : c.target? with
    | none => exact Int.lt_succ m.pc
    | some target =>
      obtain ⟨hk, ho⟩ := hs.operand_eq_target ht
      exact target_gt hf hm hi hk ho

theorem after?_of_halted (hh : m.halted = true) (h : m.after? n = some m') : n = 0 := by
  cases n with
  | zero => rfl
  | succ n =>
    obtain ⟨m₁, hn, -⟩ := exists_next_of_after? h
    obtain ⟨_, _, _, hf, -⟩ := exists_change_of_next hn
    rw [finished, hh] at hf
    cases hf

/-- A run that succeeds has moved the counter on by one for each step, but for one that halts. -/
theorem after?_advances (hp : p.WellFormed) (hf : p.Forward) (hm : m.Within p)
    (hlive : m.halted = false) (h : m.after? n = some m') :
    m'.Within p ∧ (m'.halted = false ∧ m.pc + n ≤ m'.pc ∨
      m'.halted = true ∧ m'.pc < p.size ∧ m.pc + n ≤ m'.pc + 1) := by
  induction n generalizing m with
  | zero =>
    cases h
    exact ⟨hm, .inl ⟨hlive, by omega⟩⟩
  | succ n ih =>
    obtain ⟨m₁, hn, h⟩ := exists_next_of_after? h
    have hm₁ := hm.next hp hn
    obtain ⟨-, hlt, ⟨hh, hpc⟩ | ⟨hlive₁, hpc⟩⟩ := next_advances hf hm hn
    · obtain rfl := after?_of_halted hh h
      cases h
      exact ⟨hm₁, .inr ⟨hh, by omega, by omega⟩⟩
    · obtain ⟨hm', hbound⟩ := ih hm₁ hlive₁ h
      refine ⟨hm', hbound.imp ?_ ?_⟩
      · rintro ⟨hlive', hle⟩
        exact ⟨hlive', by omega⟩
      · rintro ⟨hh, hlt', hle⟩
        exact ⟨hh, hlt', by omega⟩

/-- The limit is reached only by a machine that is finished. -/
theorem after?_le_size (hp : p.WellFormed) (hf : p.Forward) (hm : m.Within p)
    (hlive : m.halted = false) (h : m.after? n = some m') :
    m.pc + n ≤ p.size ∧ (m.pc + n = p.size → m'.finished = true) := by
  obtain ⟨hm', ⟨hlive', hle⟩ | ⟨hh, hlt, hle⟩⟩ := after?_advances hp hf hm hlive h
  · have hend := hm'.le_size
    refine ⟨by omega, fun hn => ?_⟩
    rw [finished, hlive', Bool.false_or, hm'.program]
    exact decide_eq_true (by omega)
  · exact ⟨by omega, fun _ => by rw [finished, hh, Bool.true_or]⟩

/-- If not all of so many steps succeed, one of them is the first that fails. -/
theorem exists_error_of_after?_eq_none (h : m.after? n = none) :
    ∃ k < n, ∃ m' e, m.after? k = some m' ∧ m'.step = .error e m' := by
  induction n generalizing m with
  | zero => cases h
  | succ n ih =>
    cases hn : m.next with
    | error e => exact ⟨0, Nat.succ_pos n, m, e, rfl, step_eq_error_iff.mpr ⟨hn, rfl⟩⟩
    | ok m₁ =>
      rw [after?_succ hn] at h
      obtain ⟨k, hk, m', e, hm', he⟩ := ih h
      exact ⟨k + 1, Nat.succ_lt_succ hk, m', e, (after?_succ hn k).trans hm', he⟩

end Machine

namespace Session
variable {s s' : Session} {shots : List Snapshot}

theorem exists_next_of_step {m : Machine} {shot : Snapshot} (hs : s.machine? = some m)
    (h : step s = .ok shot s') : ∃ m', m.next = .ok m' ∧ s'.machine? = some m' := by
  have hreply : s.perform .step = (.snapshot shot, s') := congrArg conclude h
  cases hn : m.next with
  | ok m' =>
    rw [perform_step_of_ok hs hn] at hreply
    cases hreply
    exact ⟨m', rfl, rfl⟩
  | error e =>
    rw [perform_step_of_error hs hn] at hreply
    cases hreply

/-- The steps of a session are those of its machine. -/
theorem Progress.after? {m : Machine} (h : Progress s shots s') (hs : s.machine? = some m) :
    ∃ m', m.after? shots.length = some m' ∧ s'.machine? = some m' := by
  induction h generalizing m with
  | nil => exact ⟨m, rfl, hs⟩
  | cons _ hstep _ ih =>
    obtain ⟨m₁, hn, hs₁⟩ := exists_next_of_step hs hstep
    obtain ⟨m', hm', hs'⟩ := ih hs₁
    exact ⟨m', (Machine.after?_succ hn _).trans hm', hs'⟩

/-- A run whose steps are used up only when it is finished does not stop at its limit. -/
theorem Ends.kind?_ne {limit : Int} {left : Nat} {error? : Option SessionError}
    (h : Ends limit left s error?) (hl : left = 0 → s.finished = true) :
    ∀ e ∈ error?, e.kind? ≠ some .stepLimitExceeded := by
  intro e he
  cases h with
  | finished => cases he
  | limited hf hleft => exact absurd (hf.symm.trans (hl hleft)) Bool.false_ne_true
  | failed _ _ _ hr =>
    cases he
    exact hr.kind?_ne

/-- A run of a session whose machine cannot make more steps than the limit allows. -/
theorem run_of_span {m : Machine} {size limit : Nat}
    (hspan : ∀ n m', m.after? n = some m' → n ≤ size ∧ (n = size → m'.finished = true))
    (hle : size ≤ limit) :
    (run limit ⟨some m⟩).steps ≤ size ∧
      ∀ e ∈ (run limit ⟨some m⟩).error?, e.kind? ≠ some .stepLimitExceeded := by
  obtain ⟨-, hsteps, herror⟩ := runMore_watch (fun _ _ => ()) (fun _ after => after.snapshot)
    limit limit 0 #[] #[] ⟨some m⟩
  have hsteps : (run limit ⟨some m⟩).steps = (runShown limit ⟨some m⟩).steps := hsteps
  have herror : (run limit ⟨some m⟩).error? = (runShown limit ⟨some m⟩).error? := herror
  obtain ⟨hd, hcount, hends⟩ := runShown_driven ⟨some m⟩ limit
  obtain ⟨m', hm', hs'⟩ := hd.progress.after? rfl
  obtain ⟨hbound, hfull⟩ := hspan _ m' hm'
  have hlength : (runShown limit ⟨some m⟩).steps =
      (runShown limit ⟨some m⟩).seen.toList.length := hcount
  rw [hsteps, herror]
  refine ⟨hlength ▸ hbound, hends.kind?_ne fun hleft => ?_⟩
  have hfinished : m'.finished = true := hfull (by omega)
  rw [finished, hs']
  exact hfinished

end Session

open Machine

/-- If every jump of an assembled program goes forward, a machine that starts it with any stack,
variables and heap makes at most one step for each instruction before it is finished or a step
fails. So a run of the text that is allowed that many steps never exceeds its limit. -/
theorem forward_program_ends {text : String} {p : Program} (h : assemble text = .ok p)
    (hf : p.Forward) :
    (∀ m : Machine, m.program = p → m.pc = 0 → m.halted = false →
      (∀ n m', m.after? n = some m' → n ≤ p.size ∧ (n = p.size → m'.finished = true)) ∧
      ∃ n ≤ p.size, ∃ m' e, m.after? n = some m' ∧ m'.step = .error e m') ∧
    ∀ limit : Int, p.size ≤ limit → ∃ r, runText text limit = .ok r ∧ r.steps ≤ p.size ∧
      ∀ e ∈ r.error?, e.kind? ≠ some .stepLimitExceeded := by
  have hp := assemble_wellFormed h
  have hspan : ∀ m : Machine, m.program = p → m.pc = 0 → m.halted = false → ∀ n m',
      m.after? n = some m' → n ≤ p.size ∧ (n = p.size → m'.finished = true) := by
    intro m hm hpc hlive n m' hn
    have hwithin : m.Within p :=
      ⟨hm, by omega, by omega, fun hh => absurd (hlive.symm.trans hh) Bool.false_ne_true⟩
    obtain ⟨hle, hfull⟩ := after?_le_size hp hf hwithin hlive hn
    exact ⟨by omega, fun he => hfull (by omega)⟩
  constructor
  · intro m hm hpc hlive
    refine ⟨hspan m hm hpc hlive, ?_⟩
    have hnone : m.after? (p.size + 1) = none :=
      Option.eq_none_iff_forall_ne_some.mpr fun m' hm' =>
        Nat.not_succ_le_self _ (hspan m hm hpc hlive _ m' hm').1
    obtain ⟨n, hn, hfails⟩ := exists_error_of_after?_eq_none hnone
    exact ⟨n, Nat.le_of_lt_succ hn, hfails⟩
  · intro limit hlimit
    obtain ⟨limit, rfl⟩ := Int.eq_ofNat_of_zero_le (Int.le_trans (Int.natCast_nonneg _) hlimit)
    refine ⟨Session.run limit ⟨some (ofProgram p)⟩, by rw [runText, h]; rfl, ?_⟩
    exact Session.run_of_span (hspan (ofProgram p) rfl rfl rfl) (Int.ofNat_le.mp hlimit)

/-- A program that jumps forward to its last instruction or to its end. -/
def branchesForward : Program where
  instructions := #[⟨.load, .text "x", some 1⟩, ⟨.jumpZero, .int 4, some 2⟩,
    ⟨.jump, .int 5, some 3⟩, ⟨.pop, .none, some 4⟩, ⟨.halt, .none, some 5⟩]
  labels := [("stop", 4), ("end", 5)]

theorem branchesForward_ends : branchesForward.Forward ∧
    (∃ r, runText "LOAD x\nJMPZ stop\nJMP end\nPOP\nstop: HALT\nend:" 5 = .ok r ∧ r.steps ≤ 5 ∧
      ∀ e ∈ r.error?, e.kind? ≠ some .stepLimitExceeded) ∧
    ∃ n ≤ 5, ∃ m' e, Machine.after? n
      { program := branchesForward, memory := ⟨[("x", .number 0)]⟩ } = some m' ∧
        m'.step = .error e m' := by
  have h : (assemble "LOAD x\nJMPZ stop\nJMP end\nPOP\nstop: HALT\nend:").toOption =
      some branchesForward := by decide +kernel
  have hf : branchesForward.Forward := by decide
  obtain ⟨hmachine, hrun⟩ := forward_program_ends (toOption_eq_some_iff.mp h) hf
  exact ⟨hf, hrun 5 (by decide), (hmachine _ rfl rfl rfl).2⟩

end StackMachine
