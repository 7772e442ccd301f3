import StackMachine.Proofs.Failure

/-! Steps one after another, each made whatever came of the one before it. A failed step leaves the
whole machine as it was, the variables and the heap included, and so every further one fails in the
same way. -/
namespace StackMachine

namespace Machine
variable {m m' : Machine} {e : StepError}

/-- What so many steps give, in their order, and the machine after them. -/
def calls : Nat → Machine → List (Except StepError Unit) × Machine
  | 0, m => ([], m)
  | n + 1, m =>
      match m.step with
      | .ok _ m' => (.ok () :: (calls n m').1, (calls n m').2)
      | .error e m' => (.error e :: (calls n m').1, (calls n m').2)

theorem calls_of_ok (h : m.next = .ok m') (n : Nat) :
    m.calls (n + 1) = (.ok () :: (m'.calls n).1, (m'.calls n).2) := by
  have hs : m.step = .ok () m' := step_eq_ok_iff.mpr h
  simp only [calls, hs]

theorem calls_of_error (h : m.next = .error e) (n : Nat) :
    m.calls (n + 1) = (.error e :: (m.calls n).1, (m.calls n).2) := by
  have hs : m.step = .error e m := step_eq_error_iff.mpr ⟨h, rfl⟩
  simp only [calls, hs]

/-- What every step that succeeds keeps is kept by any number of calls. -/
theorem calls_invariant {P : Machine → Prop} (hs : ∀ {m m'}, P m → m.next = .ok m' → P m')
    (hm : P m) (n : Nat) : P (m.calls n).2 := by
  induction n generalizing m with
  | zero => exact hm
  | succ n ih =>
    cases h : m.next with
    | ok m' =>
      rw [calls_of_ok h]
      exact ih (hs hm h)
    | error e =>
      rw [calls_of_error h]
      exact ih hm

/-- Further calls do not help a machine whose next step fails. -/
theorem next_eq_error_iff :
    m.next = .error e ↔ ∀ n, m.calls n = (List.replicate n (.error e), m) := by
  constructor
  · intro h n
    induction n with
    | zero => rfl
    | succ n ih => rw [calls_of_error h, ih, List.replicate_succ]
  · intro h
    have hone := h 1
    cases hn : m.next with
    | ok m' =>
      rw [calls_of_ok hn] at hone
      cases (Prod.mk.inj hone).1
    | error d =>
      rw [calls_of_error hn] at hone
      cases (Prod.mk.inj hone).1
      rfl

end Machine

end StackMachine
