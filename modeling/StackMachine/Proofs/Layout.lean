import StackMachine.Proofs.Source

/-! Where the statements of a text stand in its program. An instruction stands behind those of the
lines before its own, and a label stands for the position of the first instruction on its line or
below. -/
namespace StackMachine
open Text Assembly

namespace Source
variable {source : Source} {k k' : Nat} {op : Opcode} {operand : Operand} {name : String}

/-- The number of instructions on the lines before line `k`, where lines count from zero. -/
def position (source : Source) (k : Nat) : Nat :=
  (source.take k).countP (·.instruction?.isSome)

/-- Line `k` defines the label. -/
def Defines (source : Source) (k : Nat) (name : String) : Prop :=
  ∃ s, source[k]? = some s ∧ s.label? = some name

/-- Line `k` holds the instruction. -/
def Holds (source : Source) (k : Nat) (op : Opcode) (operand : Operand) : Prop :=
  ∃ s, source[k]? = some s ∧ s.instruction? = some (op, operand)

/-- A jump goes to the position of the label that it names. Any other operand is as it was
written. -/
def Decodes (source : Source) (op : Opcode) (written decoded : Operand) : Prop :=
  if op.isJump then
    ∃ name k, written = .text name ∧ source.Defines k name ∧ decoded = .int (source.position k)
  else decoded = written

/-- The program has the instructions and labels of the lines in their places. -/
structure Layout (source : Source) (p : Program) : Prop where
  size : p.size = source.position source.length
  instruction : ∀ k op written, source.Holds k op written → ∃ decoded,
    source.Decodes op written decoded ∧
      p.instructions[source.position k]? = some ⟨op, decoded, some (k + 1)⟩
  origin : ∀ (j : Nat) i, p.instructions[j]? = some i → ∃ k written,
    source.Holds k i.opcode written ∧ source.position k = j
  increasing : p.instructions.toList.Pairwise fun i j =>
    ∃ m n, i.line = some m ∧ j.line = some n ∧ m < n
  labels : p.labels.map (·.1) = source.labels
  label : ∀ k name, source.Defines k name → p.labels.lookup name = some (source.position k : Int)
  /-- From the position of a label on, the instructions are those on its line or below. -/
  below : ∀ k name, source.Defines k name → ∀ (j : Nat) i line, p.instructions[j]? = some i →
    i.line = some line → (source.position k ≤ j ↔ k + 1 ≤ line)

@[simp] theorem position_zero (source : Source) : source.position 0 = 0 := rfl

@[simp] theorem position_cons_succ (s : Statement) (source : Source) (k : Nat) :
    position (s :: source) (k + 1) = s.instruction?.toList.length + source.position k := by
  obtain ⟨label?, instruction?⟩ := s
  cases instruction? <;> simp [position, Nat.add_comm]

@[simp] theorem holds_zero {s : Statement} :
    Holds (s :: source) 0 op operand ↔ s.instruction? = some (op, operand) := by
  simp [Holds]

@[simp] theorem holds_succ {s : Statement} :
    Holds (s :: source) (k + 1) op operand ↔ source.Holds k op operand := by
  simp [Holds]

@[simp] theorem defines_zero {s : Statement} :
    Defines (s :: source) 0 name ↔ s.label? = some name := by
  simp [Defines]

@[simp] theorem defines_succ {s : Statement} :
    Defines (s :: source) (k + 1) name ↔ source.Defines k name := by
  simp [Defines]

theorem position_mono (source : Source) (h : k ≤ k') : source.position k ≤ source.position k' :=
  (List.take_sublist_take_left h).countP_le

theorem Holds.position_lt (h : source.Holds k op operand) (hk : k < k') :
    source.position k < source.position k' := by
  obtain ⟨s, hs, hi⟩ := h
  have hone : source.position (k + 1) = source.position k + 1 := by
    simp [position, List.take_add_one, hs, hi]
  have hle : source.position (k + 1) ≤ source.position k' := position_mono source hk
  omega

theorem Holds.position_le_iff (h : source.Holds k op operand) :
    source.position k' ≤ source.position k ↔ k' ≤ k := by
  constructor
  · intro hp
    exact Nat.le_of_not_lt fun hk => Nat.not_le.mpr (h.position_lt hk) hp
  · exact position_mono source

theorem mem_labels_iff : name ∈ source.labels ↔ ∃ k, source.Defines k name := by
  rw [labels, List.mem_filterMap]
  constructor
  · rintro ⟨s, hs, hn⟩
    obtain ⟨k, hk⟩ := List.mem_iff_getElem?.mp hs
    exact ⟨k, s, hk, hn⟩
  · rintro ⟨k, s, hk, hn⟩
    exact ⟨s, List.mem_of_getElem? hk, hn⟩

theorem length_instructionsFrom (line : Nat) (source : Source) :
    (source.instructionsFrom line).length = source.position source.length := by
  induction source generalizing line with
  | nil => rfl
  | cons s rest ih =>
    obtain ⟨label?, instruction?⟩ := s
    cases instruction? <;> simp [instructionsFrom, Statement.instructionAt, ih, Nat.add_comm]

/-- An instruction stands behind those of the lines before its own. -/
theorem getElem?_instructionsFrom {line j : Nat} {i : Instruction} :
    (source.instructionsFrom line)[j]? = some i ↔
      ∃ k, source.Holds k i.opcode i.operand ∧ source.position k = j ∧
        i.line = some (line + k) := by
  induction source generalizing line j with
  | nil => simp [instructionsFrom, Holds]
  | cons s rest ih =>
    obtain ⟨label?, instruction?⟩ := s
    cases instruction? with
    | none =>
      rw [instructionsFrom, Statement.instructionAt_none, Option.toList_none, List.nil_append, ih]
      constructor
      · rintro ⟨k, hk, rfl, hl⟩
        exact ⟨k + 1, holds_succ.mpr hk, by simp, by rw [hl]; congr 1; omega⟩
      · rintro ⟨k, hk, rfl, hl⟩
        cases k with
        | zero => simp at hk
        | succ k => exact ⟨k, holds_succ.mp hk, by simp, by rw [hl]; congr 1; omega⟩
    | some body =>
      obtain ⟨op, operand⟩ := body
      rw [instructionsFrom, Statement.instructionAt_some, Option.toList_some, List.singleton_append]
      cases j with
      | zero =>
        rw [List.getElem?_cons_zero]
        constructor
        · rintro ⟨rfl⟩
          exact ⟨0, by simp, rfl, rfl⟩
        · rintro ⟨k, hk, hp, hl⟩
          cases k with
          | zero =>
            obtain ⟨_, _, _⟩ := i
            simp_all
          | succ k => simp at hp
      | succ j =>
        rw [List.getElem?_cons_succ, ih]
        constructor
        · rintro ⟨k, hk, rfl, hl⟩
          exact ⟨k + 1, holds_succ.mpr hk, by simp [Nat.add_comm], by rw [hl]; congr 1; omega⟩
        · rintro ⟨k, hk, hp, hl⟩
          cases k with
          | zero => simp at hp
          | succ k =>
            refine ⟨k, holds_succ.mp hk, ?_, by rw [hl]; congr 1; omega⟩
            simp at hp
            omega

theorem lookup_labelsFrom (before : Nat) (hn : source.labels.Nodup) (h : source.Defines k name) :
    (source.labelsFrom before).lookup name = some ((before + source.position k : Nat) : Int) := by
  induction source generalizing before k with
  | nil => simp [Defines] at h
  | cons s rest ih =>
    rw [labels_cons] at hn
    obtain ⟨-, hrest, hdisjoint⟩ := List.nodup_append.mp hn
    rw [labelsFrom, List.lookup_append]
    cases k with
    | zero =>
      have hs : s.label? = some name := by simpa using h
      simp [hs]
    | succ k =>
      have h : Defines rest k name := defines_succ.mp h
      -- The label of the first line is another one, since this one stands below.
      have hs : s.label? ≠ some name := fun hs =>
        hdisjoint name (Option.mem_toList.mpr hs) name (mem_labels_iff.mpr ⟨k, h⟩) rfl
      have hskip : (s.label?.map fun name => (name, (before : Int))).toList.lookup name = none := by
        cases hl : s.label? with
        | none => rfl
        | some other =>
          have hne : name ≠ other := fun he => hs (he ▸ hl)
          simp [List.lookup_cons, beq_false_of_ne hne]
      rw [hskip, Option.none_or, ih _ hrest h, position_cons_succ, Nat.add_assoc]

theorem WrittenAs.unique {line : Nat} {lines : List (List Char)} {source' : Source}
    (h : source.WrittenAs line lines) (h' : source'.WrittenAs line lines) : source = source' := by
  induction h generalizing source' with
  | nil =>
    cases h'
    rfl
  | cons hs _ ih =>
    obtain - | ⟨hs', hrest'⟩ := h'
    rw [hs.unique hs', ih hrest']

theorem WrittenAs.exists_line {line : Nat} {lines : List (List Char)} {s : Statement}
    (h : source.WrittenAs line lines) (hs : source[k]? = some s) :
    ∃ cs, lines[k]? = some cs ∧ s.WrittenAs (line + k) cs := by
  induction h generalizing k with
  | nil => simp at hs
  | @cons line cs lines s' source hw hws ih =>
    cases k with
    | zero =>
      cases hs
      exact ⟨cs, rfl, hw⟩
    | succ k =>
      obtain ⟨cs', hk, hw'⟩ := ih hs
      refine ⟨cs', hk, ?_⟩
      rwa [Nat.add_assoc, Nat.add_comm 1 k] at hw'

theorem WrittenAs.length_eq {line : Nat} {lines : List (List Char)}
    (h : source.WrittenAs line lines) : source.length = lines.length := by
  induction h with
  | nil => rfl
  | cons _ _ ih => rw [List.length_cons, List.length_cons, ih]

theorem WrittenAs.exists_statement {line : Nat} {lines : List (List Char)} {cs : List Char}
    (h : source.WrittenAs line lines) (hk : lines[k]? = some cs) :
    ∃ s, source[k]? = some s ∧ s.WrittenAs (line + k) cs := by
  have hlt : k < source.length := by
    rw [h.length_eq]
    exact (List.getElem?_eq_some_iff.mp hk).1
  have hs := List.getElem?_eq_getElem hlt
  obtain ⟨cs', hk', hw⟩ := h.exists_line hs
  cases hk.symm.trans hk'
  exact ⟨_, hs, hw⟩

@[simp] theorem link_opcode (positions : List (String × Int)) (i : Instruction) :
    (link positions i).opcode = i.opcode := by
  unfold link
  split <;> rfl

@[simp] theorem link_line (positions : List (String × Int)) (i : Instruction) :
    (link positions i).line = i.line := by
  unfold link
  split <;> rfl

theorem link_eq (positions : List (String × Int)) (i : Instruction) :
    { i with operand := (link positions i).operand } = link positions i := by
  unfold link
  split <;> rfl

theorem getElem?_program {j : Nat} {i : Instruction} :
    source.program.instructions[j]? = some i ↔ ∃ k written,
      source.Holds k i.opcode written ∧ source.position k = j ∧ i.line = some (k + 1) ∧
        link (source.labelsFrom 0) ⟨i.opcode, written, i.line⟩ = i := by
  simp only [program, List.getElem?_toArray, List.getElem?_map, Option.map_eq_some_iff,
    getElem?_instructionsFrom]
  constructor
  · rintro ⟨i, ⟨k, hk, rfl, hl⟩, rfl⟩
    refine ⟨k, i.operand, by simpa using hk, rfl, by simp [hl, Nat.add_comm], ?_⟩
    simp
  · rintro ⟨k, written, hk, rfl, hl, h⟩
    exact ⟨_, ⟨k, hk, rfl, by simp [hl, Nat.add_comm]⟩, h⟩

theorem decodes_link {line : Nat} {lines : List (List Char)} (hw : source.WrittenAs line lines)
    (hn : source.labels.Nodup) (hl : source.Linked) (h : source.Holds k op operand)
    (at? : Option Nat) :
    source.Decodes op operand (link (source.labelsFrom 0) ⟨op, operand, at?⟩).operand := by
  obtain ⟨s, hs, hi⟩ := h
  cases hj : op.isJump with
  | false => simp [Decodes, link, hj]
  | true =>
    obtain ⟨cs, -, hwritten⟩ := hw.exists_line hs
    obtain ⟨tokens, ht⟩ := hwritten.takes hi
    rw [show op.operandKind = .label by simpa [Opcode.isJump] using hj] at ht
    obtain ⟨name, rfl⟩ := ht.text_of_label
    obtain ⟨k', hk'⟩ := mem_labels_iff.mp (hl s (List.mem_of_getElem? hs) op name hi hj)
    have hp := lookup_labelsFrom 0 hn hk'
    rw [Nat.zero_add] at hp
    simp only [Decodes, hj, ↓reduceIte, link, hp, Option.getD_some]
    exact ⟨name, k', rfl, hk', rfl⟩

theorem WrittenAs.layout {line : Nat} {lines : List (List Char)}
    (hw : source.WrittenAs line lines) (hn : source.labels.Nodup) (hl : source.Linked) :
    source.Layout source.program := by
  constructor
  case size => simp [Program.size, program, length_instructionsFrom]
  case instruction =>
    intro k op written hk
    refine ⟨_, decodes_link hw hn hl hk (some (k + 1)), getElem?_program.mpr ?_⟩
    exact ⟨k, written, hk, rfl, rfl, (link_eq _ _).symm⟩
  case origin =>
    intro j i hi
    obtain ⟨k, written, hk, hp, -, -⟩ := getElem?_program.mp hi
    exact ⟨k, written, hk, hp⟩
  case increasing =>
    rw [List.pairwise_iff_getElem]
    intro j j' hj hj' hlt
    have hi := List.getElem?_eq_getElem hj
    have hi' := List.getElem?_eq_getElem hj'
    rw [Array.getElem?_toList] at hi hi'
    obtain ⟨k, _, hk, rfl, hl, -⟩ := getElem?_program.mp hi
    obtain ⟨k', _, hk', rfl, hl', -⟩ := getElem?_program.mp hi'
    refine ⟨k + 1, k' + 1, hl, hl', Nat.succ_lt_succ ?_⟩
    exact Nat.lt_of_not_le fun hle => Nat.not_le.mpr hlt (position_mono source hle)
  case labels => exact keys_labelsFrom 0 source
  case label =>
    intro k name hk
    simpa [program] using lookup_labelsFrom 0 hn hk
  case below =>
    intro k name _ j i line hi hline
    obtain ⟨k', written, hk', rfl, hl, -⟩ := getElem?_program.mp hi
    rw [hline] at hl
    cases hl
    rw [hk'.position_le_iff]
    omega

end Source

/-- A text without overlong numerals assembles if every line is in the grammar, no label is defined
twice and every jump names a label; its program then follows the layout of its lines. -/
theorem assemble_follows_grammar {text : String} (h : ShortLines 1 (lines text.toList)) :
    ((∃ p, assemble text = .ok p) ↔ ∃ source : Source,
      source.WrittenAs 1 (lines text.toList) ∧ source.labels.Nodup ∧ source.Linked) ∧
    ∀ p source, assemble text = .ok p → Source.WrittenAs 1 (lines text.toList) source →
      source.Layout p := by
  constructor
  · constructor
    · rintro ⟨p, hp⟩
      obtain ⟨-, source, hw, hn, hl, -⟩ := assemble_eq_ok_iff.mp hp
      exact ⟨source, hw, hn, hl⟩
    · rintro ⟨source, hw, hn, hl⟩
      exact ⟨source.program, assemble_eq_ok_iff.mpr ⟨h, source, hw, hn, hl, rfl⟩⟩
  · intro p source hp hw
    obtain ⟨-, source', hw', hn, hl, rfl⟩ := assemble_eq_ok_iff.mp hp
    rw [hw.unique hw']
    exact hw'.layout hn hl

/-- A label that is spelled like a mnemonic, one at the end, and jumps in both directions. -/
def branches : String :=
  "JMP end // on\nPUSH: LessThan\n\nagain: STORE x,\n" ++
    "NEWSTR \"a\\\"//\\n\"\nJMPZ PUSH\nPUSH -0007\nend:"

def branchesProgram : Program where
  instructions := #[⟨.jump, .int 6, some 1⟩, ⟨.lt, .none, some 2⟩, ⟨.store, .text "x", some 4⟩,
    ⟨.newString, .text "a\"//\n", some 5⟩, ⟨.jumpZero, .int 1, some 6⟩, ⟨.push, .int (-7), some 7⟩]
  labels := [("PUSH", 1), ("again", 2), ("end", 6)]

theorem branches_follows_grammar : ShortLines 1 (lines branches.toList) ∧ ∃ source : Source,
    source.WrittenAs 1 (lines branches.toList) ∧ source.labels.Nodup ∧ source.Linked ∧
      source.Layout branchesProgram := by
  have hs : ShortLines 1 (lines branches.toList) := by decide +kernel
  have hp : (assemble branches).toOption = some branchesProgram := by decide +kernel
  have hp := toOption_eq_some_iff.mp hp
  obtain ⟨hiff, hlayout⟩ := assemble_follows_grammar hs
  obtain ⟨source, hw, hn, hl⟩ := hiff.mp ⟨_, hp⟩
  exact ⟨hs, source, hw, hn, hl, hlayout _ _ hp hw⟩

end StackMachine
