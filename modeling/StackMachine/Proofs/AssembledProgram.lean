import StackMachine.Proofs.Statement

/-! What assembly promises of a program: an operand is of the kind that its operation asks for, and
a jump goes to an instruction or to the end of the program. -/
namespace StackMachine

/-- An operand as it stands in a program of so many instructions, where jumps have positions. -/
def Operand.Fits (size : Nat) : OperandKind → Operand → Prop
  | .none, .none => True
  | .int, .int n => minInt ≤ n ∧ n ≤ maxInt
  | .string, .text _ | .name, .text _ => True
  | .label, .int position => 0 ≤ position ∧ position ≤ size
  | _, _ => False

theorem Operand.Fits.exists_int {size : Nat} {kind : OperandKind} {operand : Operand}
    (h : operand.Fits size kind) (hk : kind = .int ∨ kind = .label) : ∃ n, operand = .int n := by
  cases operand with
  | int n => exact ⟨n, rfl⟩
  | none | text => obtain rfl | rfl := hk <;> cases h

theorem Operand.Fits.exists_text {size : Nat} {kind : OperandKind} {operand : Operand}
    (h : operand.Fits size kind) (hk : kind = .string ∨ kind = .name) :
    ∃ text, operand = .text text := by
  cases operand with
  | text text => exact ⟨text, rfl⟩
  | none | int => obtain rfl | rfl := hk <;> cases h

structure Program.WellFormed (p : Program) : Prop where
  operands : ∀ i ∈ p.instructions, i.operand.Fits p.size i.opcode.operandKind
  labels : ∀ e ∈ p.labels, 0 ≤ e.2 ∧ e.2 ≤ p.size

theorem Program.mem_of_at? {p : Program} {pc : Int} {i : Instruction} (h : p.at? pc = some i) :
    i ∈ p.instructions := by
  unfold at? at h
  generalize (if pc < 0 then pc + p.size else pc) = position at h
  by_cases hp : position < 0
  · rw [if_pos hp] at h
    cases h
  · rw [if_neg hp] at h
    exact Array.mem_of_getElem? h

/-- A position may count back from the end of the program. -/
theorem Program.exists_at?_iff {p : Program} {pc : Int} :
    (∃ i, p.at? pc = some i) ↔ -(p.size : Int) ≤ pc ∧ pc < p.size := by
  have hget (n : Nat) : (∃ i, p.instructions[n]? = some i) ↔ n < p.size := by
    rw [← Option.isSome_iff_exists, isSome_getElem?]
    rfl
  unfold at?
  by_cases hn : pc < 0
  · by_cases hp : pc + p.size < 0
    · simp only [hn, hp, ↓reduceIte, reduceCtorEq, exists_false, false_iff]
      omega
    · simp only [hn, hp, ↓reduceIte, hget]
      omega
  · simp only [hn, ↓reduceIte, hget]
    omega

namespace Assembly
variable {d d' : Draft} {line : Nat}

/-- An operand as it stands in a draft, where jumps still name labels. -/
def Drafted : OperandKind → Operand → Prop
  | .none, .none => True
  | .int, .int n => minInt ≤ n ∧ n ≤ maxInt
  | .string, .text _ | .name, .text _ | .label, .text _ => True
  | _, _ => False

/-- What every line that is added keeps of a draft. -/
structure Draft.Sound (d : Draft) : Prop where
  operands : ∀ i ∈ d.instructions, Drafted i.opcode.operandKind i.operand
  labels : ∀ e ∈ d.labels, 0 ≤ e.2 ∧ e.2 ≤ d.instructions.size

theorem readOperand_ok {op : Opcode} {tokens : List Token} {operand : Operand}
    (h : readOperand line op tokens = .ok operand) : Drafted op.operandKind operand := by
  have ht := (readOperand_eq_ok_iff.mp h).1
  generalize op.operandKind = kind at ht
  cases ht with
  | int _ hlo hhi => exact ⟨hlo, hhi⟩
  | none | string | name | label => trivial

theorem readInstruction_ok {head : Token} {rest : List Token} {i : Instruction}
    (h : readInstruction line head rest = .ok i) : Drafted i.opcode.operandKind i.operand := by
  unfold readInstruction at h
  split at h
  · cases h
  · split at h
    · cases h
    · obtain ⟨operand, ho, h⟩ := bind_eq_ok_iff.mp h
      cases h
      exact readOperand_ok ho

namespace Draft

theorem Sound.define {name : String} (hd : d.Sound) (h : d.define line name = .ok d') :
    d'.Sound := by
  unfold Draft.define at h
  split at h
  · cases h
  · cases h
    refine ⟨hd.operands, ?_⟩
    intro e he
    obtain he | he := List.mem_append.mp he
    · exact hd.labels e he
    · cases List.mem_singleton.mp he
      exact ⟨Int.natCast_nonneg _, Int.le_refl _⟩

theorem Sound.addInstruction {tokens : List Token} (hd : d.Sound)
    (h : d.addInstruction line tokens = .ok d') : d'.Sound := by
  cases tokens with
  | nil =>
    cases h
    exact hd
  | cons head rest =>
    obtain ⟨i, hi, h⟩ := bind_eq_ok_iff.mp h
    cases h
    constructor
    · intro j hj
      obtain hj | rfl := Array.mem_push.mp hj
      · exact hd.operands j hj
      · exact readInstruction_ok hi
    · intro e he
      obtain ⟨hp, hs⟩ := hd.labels e he
      refine ⟨hp, ?_⟩
      rw [Array.size_push]
      omega

theorem Sound.addLine {cs : List Char} (hd : d.Sound) (h : d.addLine line cs = .ok d') :
    d'.Sound := by
  obtain ⟨tokens, -, h⟩ := bind_eq_ok_iff.mp h
  cases hs : splitLabel tokens with
  | mk label rest =>
    rw [hs] at h
    cases label with
    | none => exact hd.addInstruction h
    | some name =>
      obtain ⟨d₁, h₁, h⟩ := bind_eq_ok_iff.mp h
      exact (hd.define h₁).addInstruction h

theorem Sound.addLines {lines : List (List Char)} (hd : d.Sound)
    (h : d.addLines line lines = .ok d') : d'.Sound := by
  induction lines generalizing d line with
  | nil =>
    cases h
    exact hd
  | cons cs rest ih =>
    obtain ⟨d₁, h₁, h⟩ := bind_eq_ok_iff.mp h
    exact ih (hd.addLine h₁) h

theorem resolveJump_ok {labels : List (String × Int)} {size : Nat} {i j : Instruction}
    (hi : Drafted i.opcode.operandKind i.operand) (hl : ∀ e ∈ labels, 0 ≤ e.2 ∧ e.2 ≤ size)
    (h : resolveJump labels i = .ok j) : j.operand.Fits size j.opcode.operandKind := by
  obtain ⟨op, operand, source⟩ := i
  cases hk : op.operandKind with
  | label =>
    have hj : op.isJump = true := by simp [Opcode.isJump, hk]
    cases operand with
    | none | int => simp only [Drafted, hk] at hi
    | text name =>
      simp only [resolveJump, hj] at h
      cases hp : labels.lookup name with
      | none =>
        rw [hp] at h
        cases h
      | some position =>
        rw [hp] at h
        cases h
        obtain ⟨before, after, rfl, -⟩ := List.lookup_eq_some_iff.mp hp
        simp only [Operand.Fits, hk]
        exact hl (name, position) (by simp)
  | none | int | string | name =>
    have hj : op.isJump = false := by simp [Opcode.isJump, hk]
    simp only [resolveJump, hj] at h
    cases h
    simp only [hk] at hi ⊢
    cases operand with
    | none | int | text => exact hi

theorem Sound.resolve {p : Program} (hd : d.Sound) (h : d.resolve = .ok p) : p.WellFormed := by
  obtain ⟨instructions, hm, h⟩ := bind_eq_ok_iff.mp h
  cases h
  have hr := mapM_eq_ok_iff.mp hm
  have hs : instructions.length = d.instructions.size := by
    simpa using congrArg List.length hr.symm
  have hl : ∀ e ∈ d.labels, 0 ≤ e.2 ∧ e.2 ≤ instructions.length := by
    rw [hs]
    exact hd.labels
  constructor
  · intro j hj
    have hj : (.ok j : Except AssemblyError Instruction) ∈ instructions.map .ok :=
      List.mem_map_of_mem (List.mem_toArray.mp hj)
    rw [← hr] at hj
    obtain ⟨i, hi, hj⟩ := List.mem_map.mp hj
    exact resolveJump_ok (hd.operands i (Array.mem_toList_iff.mp hi)) hl hj
  · exact hl

end Draft

end Assembly

open Assembly

theorem assemble_wellFormed {text : String} {p : Program} (h : assemble text = .ok p) :
    p.WellFormed := by
  obtain ⟨d, hd, h⟩ := bind_eq_ok_iff.mp h
  have empty : Draft.Sound {} := by
    constructor <;> intro _ he <;> exact absurd he (by simp)
  exact (empty.addLines hd).resolve h

end StackMachine
