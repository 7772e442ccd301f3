import StackMachine.Assembly
import StackMachine.Proofs.Outcome

/-! The grammar of a program line: a label that it may define, and an instruction that it may hold,
whose operand tokens depend on the kind of its operand alone. The main statement is
`addLine_eq_ok_iff`: a draft takes a line exactly if the line is in the grammar, its numerals are
not too long, and its label is new. -/
namespace StackMachine
open Text Assembly

/-- The tokens that a kind of operand demands, and the operand that they stand for. -/
inductive OperandKind.Takes : OperandKind → List Token → Operand → Prop
  | none : Takes .none [] .none
  | int {t : Token} : t.kind = .int → minInt ≤ Numeral.value t.text.toList →
      Numeral.value t.text.toList ≤ maxInt → Takes .int [t] (.int (Numeral.value t.text.toList))
  | string {t : Token} : t.kind = .string → Takes .string [t] (.text t.text)
  | name {t : Token} : t.kind = .ident → Takes .name [t] (.text t.text)
  | label {t : Token} : t.kind = .ident → Takes .label [t] (.text t.text)

/-- What a line says. A jump still names its label. -/
structure Statement where
  label? : Option String := none
  instruction? : Option (Opcode × Operand) := none
  deriving DecidableEq, Repr

namespace Statement

/-- Tokens of at most one instruction. -/
inductive Body : List Token → Option (Opcode × Operand) → Prop
  | blank : Body [] none
  | instruction {head : Token} {rest : List Token} {op : Opcode} {operand : Operand} :
      head.kind = .ident → Opcode.ofMnemonic? head.text = some op →
      op.operandKind.Takes rest operand → Body (head :: rest) (some (op, operand))

/-- The tokens of a line that says so. -/
inductive Spelled : List Token → Statement → Prop
  | plain {tokens : List Token} {instruction? : Option (Opcode × Operand)} :
      Body tokens instruction? → Spelled tokens ⟨none, instruction?⟩
  | labelled {name colon : Token} {rest : List Token} {instruction? : Option (Opcode × Operand)} :
      name.kind = .ident → colon.kind = .colon → Body rest instruction? →
      Spelled (name :: colon :: rest) ⟨some name.text, instruction?⟩

/-- The line of that number, with those characters, says so. -/
def WrittenAs (line : Nat) (cs : List Char) (s : Statement) : Prop :=
  ∃ tokens, Token.scan line cs = .ok tokens ∧ Spelled tokens s

end Statement

/-- None of the integers has more digits than are converted. -/
def ShortNumerals (tokens : List Token) : Prop :=
  ∀ t ∈ tokens, t.kind = .int → Numeral.digitCount t.text.toList ≤ Numeral.maxDigits

instance (tokens : List Token) : Decidable (ShortNumerals tokens) :=
  inferInstanceAs (Decidable (∀ t ∈ tokens, t.kind = .int → _ ≤ _))

@[simp] theorem shortNumerals_nil : ShortNumerals [] := by simp [ShortNumerals]

theorem shortNumerals_cons {t : Token} {tokens : List Token} :
    ShortNumerals (t :: tokens) ↔
      (t.kind = .int → Numeral.digitCount t.text.toList ≤ Numeral.maxDigits) ∧
        ShortNumerals tokens := by
  simp [ShortNumerals]

theorem shortNumerals_cons_of_ne {t : Token} {tokens : List Token} (h : t.kind ≠ .int) :
    ShortNumerals (t :: tokens) ↔ ShortNumerals tokens := by
  simp [shortNumerals_cons, h]

namespace OperandKind.Takes
variable {kind : OperandKind} {tokens : List Token} {operand operand' : Operand}

theorem not_colon (h : kind.Takes tokens operand) {t : Token} (ht : t ∈ tokens) :
    t.kind ≠ .colon := by
  cases h <;> simp_all

theorem any_colon (h : kind.Takes tokens operand) : tokens.any (·.kind == .colon) = false := by
  rw [List.any_eq_false]
  intro t ht
  simpa using h.not_colon ht

theorem unique (h : kind.Takes tokens operand) (h' : kind.Takes tokens operand') :
    operand = operand' := by
  cases h <;> cases h' <;> rfl

theorem text_of_label (h : Takes .label tokens operand) : ∃ name, operand = .text name := by
  cases h
  exact ⟨_, rfl⟩

end OperandKind.Takes

theorem Statement.Body.unique {tokens : List Token}
    {instruction? instruction?' : Option (Opcode × Operand)} (h : Body tokens instruction?)
    (h' : Body tokens instruction?') : instruction? = instruction?' := by
  cases h with
  | blank =>
    cases h'
    rfl
  | instruction _ hop ht =>
    obtain - | ⟨_, hop', ht'⟩ := h'
    cases hop.symm.trans hop'
    rw [ht.unique ht']

namespace Assembly
variable {line : Nat}

theorem readInt_eq (line : Nat) (literal : String) :
    readInt line literal =
      if Numeral.digitCount literal.toList ≤ Numeral.maxDigits then
        if minInt ≤ Numeral.value literal.toList ∧ Numeral.value literal.toList ≤ maxInt then
          .ok (.int (Numeral.value literal.toList))
        else reject line (.integerTooWide literal)
      else .error (.numeralTooLong (Numeral.digitCount literal.toList)) := by
  by_cases h : Numeral.digitCount literal.toList ≤ Numeral.maxDigits
  · rw [readInt, Numeral.convert_of_le h, if_pos h]
  · rw [readInt, Numeral.convert_of_lt (Nat.lt_of_not_le h), if_neg h]

theorem readInt_eq_ok_iff {literal : String} {operand : Operand} :
    readInt line literal = .ok operand ↔
      Numeral.digitCount literal.toList ≤ Numeral.maxDigits ∧
        minInt ≤ Numeral.value literal.toList ∧ Numeral.value literal.toList ≤ maxInt ∧
        operand = .int (Numeral.value literal.toList) := by
  rw [readInt_eq]
  split
  · rename_i hd
    split
    · rename_i hr
      simp [hd, hr, eq_comm]
    · rename_i hr
      refine iff_of_false (by simp [reject]) fun h => hr ⟨h.2.1, h.2.2.1⟩
  · rename_i hd
    exact iff_of_false (by simp) fun h => hd h.1

theorem readOperand_of_takes {op : Opcode} {tokens : List Token} {operand : Operand}
    (h : op.operandKind.Takes tokens operand) (hs : ShortNumerals tokens) :
    readOperand line op tokens = .ok operand := by
  unfold readOperand
  rw [if_neg (by simp [h.any_colon])]
  cases hk : op.operandKind with
  | none =>
    rw [hk] at h
    cases h
    rfl
  | int =>
    rw [hk] at h
    cases h with
    | @int t ht hlo hhi =>
      have hd := hs t (by simp) ht
      simpa [tokenKind?, ht] using readInt_eq_ok_iff.mpr ⟨hd, hlo, hhi, rfl⟩
  | string | name | label =>
    rw [hk] at h
    cases h
    rename_i ht
    simp [tokenKind?, ht]

theorem takes_of_readOperand {op : Opcode} {tokens : List Token} {operand : Operand}
    (h : readOperand line op tokens = .ok operand) :
    op.operandKind.Takes tokens operand ∧ ShortNumerals tokens := by
  unfold readOperand at h
  split at h
  · cases h
  · cases hk : op.operandKind with
    | none =>
      simp only [hk, tokenKind?] at h
      cases tokens with
      | nil =>
        cases h
        exact ⟨.none, shortNumerals_nil⟩
      | cons => cases h
    | int =>
      simp only [hk, tokenKind?] at h
      match tokens with
      | [] => cases h
      | [t] =>
        by_cases ht : t.kind = .int
        · simp only [ht, ne_eq, not_true_eq_false, ↓reduceIte] at h
          obtain ⟨hd, hlo, hhi, rfl⟩ := readInt_eq_ok_iff.mp h
          exact ⟨.int ht hlo hhi, shortNumerals_cons.mpr ⟨fun _ => hd, shortNumerals_nil⟩⟩
        · simp only [ht, ne_eq, not_false_eq_true, ↓reduceIte] at h
          cases h
      | _ :: _ :: _ => cases h
    | string | name | label =>
      simp only [hk, tokenKind?] at h
      match tokens with
      | [] => cases h
      | [t] =>
        simp only [reduceCtorEq, ↓reduceIte] at h
        split at h
        · cases h
        · rename_i ht
          have ht := Decidable.not_not.mp ht
          cases h
          refine ⟨by constructor; exact ht, ?_⟩
          exact (shortNumerals_cons_of_ne (by simp [ht])).mpr shortNumerals_nil
      | _ :: _ :: _ => cases h

theorem readOperand_eq_ok_iff {op : Opcode} {tokens : List Token} {operand : Operand} :
    readOperand line op tokens = .ok operand ↔
      op.operandKind.Takes tokens operand ∧ ShortNumerals tokens :=
  ⟨takes_of_readOperand, fun ⟨h, hs⟩ => readOperand_of_takes h hs⟩

theorem readInstruction_eq_ok_iff {head : Token} {rest : List Token} {i : Instruction} :
    readInstruction line head rest = .ok i ↔
      ∃ op operand, Statement.Body (head :: rest) (some (op, operand)) ∧
        ShortNumerals (head :: rest) ∧ i = ⟨op, operand, some line⟩ := by
  constructor
  · intro h
    rw [readInstruction] at h
    split at h
    · cases h
    · rename_i hh
      have hh := Decidable.not_not.mp hh
      split at h
      · cases h
      · rename_i op hop
        obtain ⟨operand, ho, h⟩ := bind_eq_ok_iff.mp h
        obtain ⟨ht, hs⟩ := readOperand_eq_ok_iff.mp ho
        cases h
        exact ⟨op, operand, .instruction hh hop ht,
          (shortNumerals_cons_of_ne (by simp [hh])).mpr hs, rfl⟩
  · rintro ⟨op, operand, hb, hs, rfl⟩
    obtain - | ⟨hh, hop, ht⟩ := hb
    have hs := (shortNumerals_cons_of_ne (by simp [hh])).mp hs
    simp only [readInstruction, hh, ne_eq, not_true_eq_false, ↓reduceIte, hop,
      readOperand_eq_ok_iff.mpr ⟨ht, hs⟩]
    rfl

theorem splitLabel_cases (tokens : List Token) :
    splitLabel tokens = (none, tokens) ∨
      ∃ name colon rest, tokens = name :: colon :: rest ∧ name.kind = .ident ∧
        colon.kind = .colon ∧ splitLabel tokens = (some name.text, rest) := by
  match tokens with
  | [] | [_] => exact .inl rfl
  | a :: b :: rest =>
    by_cases h : a.kind = .ident ∧ b.kind = .colon
    · exact .inr ⟨a, b, rest, rfl, h.1, h.2, by simp [splitLabel, h]⟩
    · have h : (a.kind == .ident && b.kind == .colon) = false := by simpa using h
      exact .inl (by simp [splitLabel, h])

/-- No operand is a colon, so that a label stands in front of an instruction and never in it. -/
theorem splitLabel_of_body {tokens : List Token} {instruction? : Option (Opcode × Operand)}
    (h : Statement.Body tokens instruction?) : splitLabel tokens = (none, tokens) := by
  obtain hs | ⟨name, colon, rest, rfl, -, hc, -⟩ := splitLabel_cases tokens
  · exact hs
  · obtain - | ⟨-, -, ht⟩ := h
    exact absurd hc (ht.not_colon (by simp))

theorem spelled_iff {tokens : List Token} {s : Statement} :
    s.Spelled tokens ↔
      s.label? = (splitLabel tokens).1 ∧ Statement.Body (splitLabel tokens).2 s.instruction? := by
  constructor
  · rintro (hb | ⟨hn, hc, hb⟩)
    · rw [splitLabel_of_body hb]
      exact ⟨rfl, hb⟩
    · simpa [splitLabel, hn, hc] using hb
  · obtain ⟨label?, instruction?⟩ := s
    rintro ⟨hl, hb⟩
    obtain hs | ⟨name, colon, rest, rfl, hn, hc, hs⟩ := splitLabel_cases tokens
    · rw [hs] at hl hb
      cases hl
      exact .plain hb
    · rw [hs] at hl hb
      cases hl
      exact .labelled hn hc hb

theorem shortNumerals_splitLabel {tokens : List Token} :
    ShortNumerals (splitLabel tokens).2 ↔ ShortNumerals tokens := by
  obtain hs | ⟨name, colon, rest, rfl, hn, hc, hs⟩ := splitLabel_cases tokens
  · rw [hs]
  · rw [hs, shortNumerals_cons_of_ne (by simp [hn]), shortNumerals_cons_of_ne (by simp [hc])]

end Assembly

namespace Statement
variable {s s' : Statement} {line : Nat} {cs : List Char}

theorem WrittenAs.unique (h : s.WrittenAs line cs) (h' : s'.WrittenAs line cs) : s = s' := by
  obtain ⟨tokens, ht, hs⟩ := h
  obtain ⟨tokens', ht', hs'⟩ := h'
  cases ht.symm.trans ht'
  obtain ⟨hl, hb⟩ := spelled_iff.mp hs
  obtain ⟨hl', hb'⟩ := spelled_iff.mp hs'
  obtain ⟨label?, instruction?⟩ := s
  obtain ⟨label?', instruction?'⟩ := s'
  cases hl.trans hl'.symm
  cases hb.unique hb'
  rfl

theorem WrittenAs.takes {op : Opcode} {operand : Operand} (h : s.WrittenAs line cs)
    (hi : s.instruction? = some (op, operand)) :
    ∃ tokens, op.operandKind.Takes tokens operand := by
  obtain ⟨tokens, -, hs⟩ := h
  have hb := (spelled_iff.mp hs).2
  rw [hi] at hb
  generalize (splitLabel tokens).2 = body at hb
  obtain - | ⟨-, -, ht⟩ := hb
  exact ⟨_, ht⟩

end Statement

end StackMachine
