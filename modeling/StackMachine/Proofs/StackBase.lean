import StackMachine.Proofs.Failure
import StackMachine.Proofs.Lockstep

/-! Values under the stack. A run that succeeds neither sees nor moves what lies below its own
values, and one that fails for another reason than a stack that is too short fails in the same way
above any values. -/
namespace StackMachine

/-- The kind of an error that is reported. -/
def StepError.kind? (e : StepError) : Option ErrorKind := e.report?.map (·.kind)

theorem StepError.kind?_locate (pc : Int) (instruction : String) (e : StepError) :
    (e.locate pc instruction).kind? = e.kind? := by
  rcases e with ⟨f, _ | _, _⟩ | _ | _ | _ <;> rfl

namespace Operands
variable {ds : List Demand} {stack : List Value} {depth : Nat}

theorem read_append {operands : Operands ds} (base : List Value) (depth' : Nat)
    (h : read depth ds stack = .ok operands) : read depth' ds (stack ++ base) = .ok operands := by
  induction ds generalizing stack with
  | nil => exact h
  | cons d ds ih =>
    cases stack with
    | nil => cases h
    | cons v stack =>
      obtain ⟨x, hx, h⟩ := bind_eq_ok_iff.mp h
      obtain ⟨rest, hr, h⟩ := bind_eq_ok_iff.mp h
      have hb := ih hr
      simp only [List.cons_append, read, hx, hb, ok_bind]
      exact h

/-- A value of the wrong kind is met at the same place, before the stack runs out. -/
theorem read_append_error {f : Fault} (base : List Value) (depth' : Nat)
    (h : read depth ds stack = .error f) (hf : f.kind ≠ .stackUnderflow) :
    read depth' ds (stack ++ base) = .error f := by
  induction ds generalizing stack with
  | nil => cases h
  | cons d ds ih =>
    cases stack with
    | nil =>
      cases h
      exact absurd rfl hf
    | cons v stack =>
      simp only [List.cons_append, read] at h ⊢
      cases hx : d.accept v with
      | error g =>
        rw [hx] at h
        exact h
      | ok x =>
        rw [hx, ok_bind] at h
        rcases bind_eq_error_iff.mp h with hr | ⟨rest, -, h⟩
        · have hb := ih hr
          rw [ok_bind, hb]
          rfl
        · cases h

end Operands

namespace Machine
variable {m m' : Machine} {e : StepError} {i : Instruction} {n : Nat}

/-- The machine with further values under its stack. -/
def above (m : Machine) (base : List Value) : Machine := { m with stack := m.stack ++ base }

theorem apply_above (base : List Value) {taken : Nat} (c : Change) (h : taken ≤ m.stack.length) :
    (m.above base).apply taken c = (m.apply taken c).above base := by
  have hd : (m.stack ++ base).drop taken = m.stack.drop taken ++ base :=
    List.drop_append_of_le_length h
  unfold apply above
  rw [hd, List.append_assoc]

theorem execute_above (base : List Value) (h : m.execute i = .ok m') :
    (m.above base).execute i = .ok (m'.above base) := by
  cases hr : Operands.read m.stack.length i.opcode.demands m.stack with
  | error f =>
    rw [execute_of_read_error hr] at h
    cases h
  | ok operands =>
    have hb := execute_of_read (m := m.above base) (Operands.read_append base _ hr)
    have hl : i.opcode.demands.length ≤ m.stack.length := (Operands.values_of_read hr).2
    rw [execute_of_read hr] at h
    obtain ⟨c, hc, h⟩ := bind_eq_ok_iff.mp h
    cases h
    rw [hb, ← apply_above base c hl]
    exact bind_eq_ok_iff.mpr ⟨c, hc, rfl⟩

theorem execute_above_error (base : List Value) (h : m.execute i = .error e)
    (he : e.kind? ≠ some .stackUnderflow) : (m.above base).execute i = .error e := by
  cases hr : Operands.read m.stack.length i.opcode.demands m.stack with
  | error f =>
    rw [execute_of_read_error hr] at h
    cases h
    have hf : f.kind ≠ .stackUnderflow := fun hk => he (congrArg some hk)
    exact execute_of_read_error (m := m.above base) (Operands.read_append_error base _ hr hf)
  | ok operands =>
    have hb := execute_of_read (m := m.above base) (Operands.read_append base _ hr)
    rw [execute_of_read hr] at h
    rcases bind_eq_error_iff.mp h with hc | ⟨c, -, h⟩
    · rw [hb]
      exact bind_eq_error_iff.mpr (.inl hc)
    · cases h

theorem next_above (base : List Value) (h : m.next = .ok m') :
    (m.above base).next = .ok (m'.above base) := by
  rw [next_eq] at h ⊢
  obtain ⟨i, hi, h⟩ := bind_eq_ok_iff.mp h
  have he := execute_above base (mapError_eq_ok_iff.mp h)
  exact bind_eq_ok_iff.mpr ⟨i, hi, mapError_eq_ok_iff.mpr he⟩

theorem next_above_error (base : List Value) (h : m.next = .error e)
    (he : e.kind? ≠ some .stackUnderflow) : (m.above base).next = .error e := by
  rw [next_eq] at h ⊢
  rcases bind_eq_error_iff.mp h with hi | ⟨i, hi, h⟩
  · exact bind_eq_error_iff.mpr (.inl hi)
  · obtain ⟨d, hd, rfl⟩ := mapError_eq_error_iff.mp h
    rw [StepError.kind?_locate] at he
    have hb := execute_above_error base hd he
    exact bind_eq_error_iff.mpr (.inr ⟨i, hi, mapError_eq_error_iff.mpr ⟨d, hb, rfl⟩⟩)

theorem after?_above (base : List Value) (h : m.after? n = some m') :
    (m.above base).after? n = some (m'.above base) := by
  induction n generalizing m with
  | zero =>
    cases h
    rfl
  | succ n ih =>
    obtain ⟨m₁, hn, h⟩ := exists_next_of_after? h
    rw [after?_succ (next_above base hn)]
    exact ih h

/-- What lies under the stack changes nothing in a run that succeeds without it, and nothing in the
failure that ends the run unless the stack was too short. -/
theorem run_above (base : List Value) (h : m.after? n = some m') :
    (m.above base).after? n = some (m'.above base) ∧
      ∀ e m'', m'.step = .error e m'' → e.kind? ≠ some .stackUnderflow →
        (m'.above base).step = .error e (m'.above base) := by
  refine ⟨after?_above base h, ?_⟩
  intro e m'' hs he
  have hn : m'.next = .error e := (step_eq_error_iff.mp hs).1
  exact step_eq_error_iff.mpr ⟨next_above_error base hn he, rfl⟩

/-- A machine that is about to divide by a zero that it has yet to push. -/
def dividesByZero : Machine :=
  { program := { instructions := #[⟨.push, .int 0, none⟩, ⟨.div, .none, none⟩] }
    stack := [.number 6] }

theorem dividesByZero_above :
    dividesByZero.after? 1 =
      some { dividesByZero with stack := [.number 0, .number 6], pc := 1, steps := 1 } ∧
    (dividesByZero.above [.string 1, .number 7]).after? 1 = some { dividesByZero with
      stack := [.number 0, .number 6, .string 1, .number 7], pc := 1, steps := 1 } ∧
    Machine.step { dividesByZero with
        stack := [.number 0, .number 6, .string 1, .number 7], pc := 1, steps := 1 } =
      .error (.fault ⟨.divisionByZero, some 1, some "DIV"⟩) { dividesByZero with
        stack := [.number 0, .number 6, .string 1, .number 7], pc := 1, steps := 1 } := by
  have hrun : dividesByZero.after? 1 =
      some { dividesByZero with stack := [.number 0, .number 6], pc := 1, steps := 1 } := rfl
  have habove := run_above [.string 1, .number 7] hrun
  exact ⟨hrun, habove.1, habove.2 _ _ rfl (by decide)⟩

end Machine

end StackMachine
