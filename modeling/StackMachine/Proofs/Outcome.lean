/-! Results that are a value or an error, taken apart at the step that failed. -/
namespace StackMachine
variable {ε ε' α β : Type}

@[simp] theorem ok_bind (a : α) (f : α → Except ε β) : (.ok a >>= f : Except ε β) = f a := rfl

@[simp] theorem error_bind (e : ε) (f : α → Except ε β) :
    (.error e >>= f : Except ε β) = .error e := rfl

theorem bind_eq_ok_iff {x : Except ε α} {f : α → Except ε β} {b : β} :
    (x >>= f) = .ok b ↔ ∃ a, x = .ok a ∧ f a = .ok b := by
  cases x with
  | ok a =>
    constructor
    · intro h
      exact ⟨a, rfl, h⟩
    · rintro ⟨_, ha, h⟩
      cases ha
      exact h
  | error e =>
    constructor
    · intro h
      cases h
    · rintro ⟨_, ha, _⟩
      cases ha

theorem bind_eq_error_iff {x : Except ε α} {f : α → Except ε β} {e : ε} :
    (x >>= f) = .error e ↔ x = .error e ∨ ∃ a, x = .ok a ∧ f a = .error e := by
  cases x with
  | ok a =>
    constructor
    · intro h
      exact .inr ⟨a, rfl, h⟩
    · rintro (ha | ⟨_, ha, h⟩)
      · cases ha
      · cases ha
        exact h
  | error d =>
    constructor
    · intro h
      cases h
      exact .inl rfl
    · rintro (ha | ⟨_, ha, _⟩)
      · cases ha
        rfl
      · cases ha

theorem mapError_eq_ok_iff {x : Except ε α} {f : ε → ε'} {a : α} :
    x.mapError f = .ok a ↔ x = .ok a := by
  cases x with
  | ok b =>
    show (.ok b : Except ε' α) = .ok a ↔ _
    rw [Except.ok.injEq, Except.ok.injEq]
  | error e => constructor <;> intro h <;> cases h

theorem mapError_eq_error_iff {x : Except ε α} {f : ε → ε'} {e : ε'} :
    x.mapError f = .error e ↔ ∃ d, x = .error d ∧ f d = e := by
  constructor
  · intro h
    cases x with
    | ok a => cases h
    | error d => exact ⟨d, rfl, Except.error.inj h⟩
  · rintro ⟨d, rfl, rfl⟩
    rfl

theorem toOption_eq_some_iff {x : Except ε α} {a : α} : x.toOption = some a ↔ x = .ok a := by
  cases x <;> simp [Except.toOption]

theorem mapM_eq_ok_iff {f : α → Except ε β} {l : List α} {l' : List β} :
    l.mapM f = .ok l' ↔ l.map f = l'.map .ok := by
  induction l generalizing l' with
  | nil =>
    rw [List.mapM_nil, List.map_nil, eq_comm, eq_comm (b := List.map _ l'), List.map_eq_nil_iff]
    exact ⟨Except.ok.inj, congrArg Except.ok⟩
  | cons a l ih =>
    rw [List.mapM_cons, List.map_cons, eq_comm (b := List.map _ l'), List.map_eq_cons_iff]
    constructor
    · intro h
      obtain ⟨b, hb, h⟩ := bind_eq_ok_iff.mp h
      obtain ⟨rest, hr, h⟩ := bind_eq_ok_iff.mp h
      cases h
      exact ⟨b, rest, rfl, hb.symm, (ih.mp hr).symm⟩
    · rintro ⟨b, rest, rfl, hb, hr⟩
      rw [← hb, ih.mpr hr.symm]
      rfl

theorem mapM_eq_ok_iff_of {f : α → Except ε β} {P : α → Prop} {g : α → β}
    (h : ∀ a b, f a = .ok b ↔ P a ∧ b = g a) {l : List α} {l' : List β} :
    l.mapM f = .ok l' ↔ (∀ a ∈ l, P a) ∧ l' = l.map g := by
  rw [mapM_eq_ok_iff]
  induction l generalizing l' with
  | nil => cases l' <;> simp
  | cons a l ih =>
    cases l' with
    | nil => simp
    | cons b l' =>
      rw [List.map_cons, List.map_cons, List.cons.injEq, h, ih]
      simp only [List.mem_cons, forall_eq_or_imp, List.map_cons, List.cons.injEq]
      exact and_and_and_comm

/-- Two results are both values that are related, or both errors that are. -/
inductive Agree (E : ε → ε' → Prop) (R : α → β → Prop) : Except ε α → Except ε' β → Prop
  | ok {a : α} {b : β} (h : R a b) : Agree E R (.ok a) (.ok b)
  | error {e : ε} {d : ε'} (h : E e d) : Agree E R (.error e) (.error d)

namespace Agree
variable {γ δ ε₁ ε₂ : Type} {E : ε → ε' → Prop} {R : α → β → Prop} {S : γ → δ → Prop}
  {x : Except ε α} {y : Except ε' β}

theorem mono {R' : α → β → Prop} (h : Agree E R x y) (hr : ∀ {a b}, R a b → R' a b) :
    Agree E R' x y := by
  cases h with
  | ok h => exact .ok (hr h)
  | error h => exact .error h

theorem bind {f : α → Except ε γ} {g : β → Except ε' δ} (h : Agree E R x y)
    (hf : ∀ {a b}, R a b → Agree E S (f a) (g b)) : Agree E S (x >>= f) (y >>= g) := by
  cases h with
  | ok h => exact hf h
  | error h => exact .error h

theorem mapError {D : ε₁ → ε₂ → Prop} {f : ε → ε₁} {g : ε' → ε₂} (h : Agree E R x y)
    (hf : ∀ {e d}, E e d → D (f e) (g d)) : Agree D R (x.mapError f) (y.mapError g) := by
  cases h with
  | ok h => exact .ok h
  | error h => exact .error (hf h)

end Agree

/-- The first element that is refused decides. -/
theorem mapM_eq_error_iff {f : α → Except ε β} {l : List α} {e : ε} :
    l.mapM f = .error e ↔ ∃ before a after, l = before ++ a :: after ∧
      (∀ b ∈ before, ∃ y, f b = .ok y) ∧ f a = .error e := by
  induction l with
  | nil => simp [pure, Except.pure]
  | cons a l ih =>
    rw [List.mapM_cons]
    constructor
    · intro h
      obtain h | ⟨y, hy, h⟩ := bind_eq_error_iff.mp h
      · exact ⟨[], a, l, rfl, by simp, h⟩
      · obtain h | ⟨_, _, h⟩ := bind_eq_error_iff.mp h
        · obtain ⟨before, b, after, rfl, hok, hb⟩ := ih.mp h
          exact ⟨a :: before, b, after, rfl, List.forall_mem_cons.mpr ⟨⟨y, hy⟩, hok⟩, hb⟩
        · cases h
    · rintro ⟨before, b, after, hl, hok, hb⟩
      cases before with
      | nil =>
        cases hl
        exact bind_eq_error_iff.mpr (.inl hb)
      | cons a' before =>
        obtain ⟨rfl, rfl⟩ := List.cons.inj hl
        obtain ⟨⟨y, hy⟩, hok⟩ := List.forall_mem_cons.mp hok
        have hrest := ih.mpr ⟨before, b, after, rfl, hok, hb⟩
        exact bind_eq_error_iff.mpr (.inr ⟨y, hy, bind_eq_error_iff.mpr (.inl hrest)⟩)

end StackMachine
