import StackMachine.Proofs.Execution

/-! Runs in which every step succeeds, and two of them side by side. -/
namespace StackMachine.Machine
variable {m m' w w' : Machine} {n : Nat}

/-- The machine after so many steps, if all of them succeed. -/
def after? : Nat → Machine → Option Machine
  | 0, m => some m
  | n + 1, m =>
      match m.step with
      | .ok _ m' => after? n m'
      | .error .. => none

theorem after?_succ (h : m.next = .ok m') (n : Nat) : m.after? (n + 1) = m'.after? n := by
  have hs : m.step = .ok () m' := step_eq_ok_iff.mpr h
  simp only [after?, hs]

theorem after?_succ_of_error {e : StepError} (h : m.next = .error e) (n : Nat) :
    m.after? (n + 1) = none := by
  have hs : m.step = .error e m := step_eq_error_iff.mpr ⟨h, rfl⟩
  simp only [after?, hs]

theorem exists_next_of_after? (h : m.after? (n + 1) = some m') :
    ∃ m₁, m.next = .ok m₁ ∧ m₁.after? n = some m' := by
  cases hn : m.next with
  | ok m₁ => exact ⟨m₁, rfl, (after?_succ hn n).symm.trans h⟩
  | error e =>
    rw [after?_succ_of_error hn] at h
    cases h

/-- No step of a run that succeeds fails. -/
theorem exists_next_of_after?_of_lt {k : Nat} (h : m.after? n = some w) (hk : k < n)
    (hm : m.after? k = some m') : ∃ m₁, m'.next = .ok m₁ := by
  induction k generalizing m n with
  | zero =>
    cases hm
    obtain ⟨n, rfl⟩ := Nat.exists_eq_add_of_lt hk
    obtain ⟨m₁, hn, -⟩ := exists_next_of_after? h
    exact ⟨m₁, hn⟩
  | succ k ih =>
    obtain ⟨n, rfl⟩ := Nat.exists_eq_add_of_lt hk
    obtain ⟨m₁, hn, h⟩ := exists_next_of_after? h
    rw [after?_succ hn] at hm
    exact ih h (by omega) hm

/-- Two machines that are related, and that stay so or fail alike in any step, do so in any number
of steps. -/
theorem lockstep {E : StepError → StepError → Prop} {R : Machine → Machine → Prop}
    (hstep : ∀ {m w}, R m w → Agree E R m.next w.next) (h : R m w) (n : Nat) :
    (∃ m' w', m.after? n = some m' ∧ w.after? n = some w' ∧ R m' w') ∨
      ∃ k < n, ∃ m' w' e d, m.after? k = some m' ∧ w.after? k = some w' ∧ R m' w' ∧
        m'.step = .error e m' ∧ w'.step = .error d w' ∧ E e d := by
  induction n generalizing m w with
  | zero => exact .inl ⟨m, w, rfl, rfl, h⟩
  | succ n ih =>
    have hs := hstep h
    generalize hm : m.next = x at hs
    generalize hw : w.next = y at hs
    cases hs with
    | ok hr =>
      rename_i m₁ w₁
      rcases ih hr with ⟨m', w', hm', hw', hr'⟩ | ⟨k, hk, m', w', e, d, hm', hw', hr'⟩
      · exact .inl ⟨m', w', (after?_succ hm n).trans hm', (after?_succ hw n).trans hw', hr'⟩
      · refine .inr ⟨k + 1, Nat.succ_lt_succ hk, m', w', e, d, ?_, ?_, hr'⟩
        · exact (after?_succ hm k).trans hm'
        · exact (after?_succ hw k).trans hw'
    | error he =>
      have hm' : m.step = .error _ m := step_eq_error_iff.mpr ⟨hm, rfl⟩
      have hw' : w.step = .error _ w := step_eq_error_iff.mpr ⟨hw, rfl⟩
      exact .inr ⟨0, Nat.succ_pos n, m, w, _, _, rfl, rfl, h, hm', hw', he⟩

end StackMachine.Machine
