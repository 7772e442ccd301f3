import StackMachine.Proofs.Statement

/-! Sources: what the lines of a text say, one statement for each line. The main statement is
`assemble_eq_ok_iff`: the texts that assemble are those that say something on every line, without a
label defined twice or a jump to a label that is nowhere, and the program is read off the
statements. -/
namespace StackMachine
open Text Assembly

abbrev Source := List Statement

/-- The instruction of a statement on the line of that number. -/
def Statement.instructionAt (s : Statement) (line : Nat) : Option Instruction :=
  s.instruction?.map fun (op, operand) => ⟨op, operand, some line⟩

@[simp] theorem Statement.instructionAt_none (label? : Option String) (line : Nat) :
    instructionAt ⟨label?, none⟩ line = none := rfl

@[simp] theorem Statement.instructionAt_some (label? : Option String) (op : Opcode)
    (operand : Operand) (line : Nat) :
    instructionAt ⟨label?, some (op, operand)⟩ line = some ⟨op, operand, some line⟩ := rfl

namespace Source

/-- The lines say so; the first of them has that number. -/
inductive WrittenAs : Nat → List (List Char) → Source → Prop
  | nil {line : Nat} : WrittenAs line [] []
  | cons {line : Nat} {cs : List Char} {lines : List (List Char)} {s : Statement}
      {source : Source} : s.WrittenAs line cs → WrittenAs (line + 1) lines source →
      WrittenAs line (cs :: lines) (s :: source)

/-- The labels that are defined, in the order of their lines. -/
def labels (source : Source) : List String := source.filterMap (·.label?)

/-- Every jump names a label that some line defines. -/
def Linked (source : Source) : Prop :=
  ∀ s ∈ source, ∀ op name, s.instruction? = some (op, .text name) → op.isJump = true →
    name ∈ source.labels

/-- The instructions, where jumps still name labels. The first line has that number. -/
def instructionsFrom : Nat → Source → List Instruction
  | _, [] => []
  | line, s :: rest => (s.instructionAt line).toList ++ instructionsFrom (line + 1) rest

/-- The labels with their positions, where so many instructions come before the first line. -/
def labelsFrom : Nat → Source → List (String × Int)
  | _, [] => []
  | before, s :: rest =>
      (s.label?.map fun name => (name, (before : Int))).toList ++
        labelsFrom (before + s.instruction?.toList.length) rest

/-- Gives a jump the position of the label that it names. -/
def link (positions : List (String × Int)) (i : Instruction) : Instruction :=
  match i.opcode.isJump, i.operand with
  | true, .text name => { i with operand := .int ((positions.lookup name).getD 0) }
  | _, _ => i

def program (source : Source) : Program where
  instructions := ((source.instructionsFrom 1).map (link (source.labelsFrom 0))).toArray
  labels := source.labelsFrom 0

@[simp] theorem labels_nil : labels [] = [] := rfl

@[simp] theorem labels_cons (s : Statement) (source : Source) :
    labels (s :: source) = s.label?.toList ++ labels source := by
  obtain ⟨label?, instruction?⟩ := s
  cases label? <;> rfl

theorem keys_labelsFrom (before : Nat) (source : Source) :
    (source.labelsFrom before).map (·.1) = source.labels := by
  induction source generalizing before with
  | nil => rfl
  | cons s rest ih =>
    obtain ⟨label?, instruction?⟩ := s
    cases label? <;> simp [labelsFrom, ih]

theorem lookup_labelsFrom_isSome {before : Nat} {source : Source} {name : String} :
    ((source.labelsFrom before).lookup name).isSome ↔ name ∈ source.labels := by
  simp [← keys_labelsFrom before source]

theorem parts_instructionsFrom (line : Nat) (source : Source) :
    (source.instructionsFrom line).map (fun i => (i.opcode, i.operand)) =
      source.filterMap (·.instruction?) := by
  induction source generalizing line with
  | nil => rfl
  | cons s rest ih =>
    obtain ⟨label?, instruction?⟩ := s
    cases instruction? <;> simp [instructionsFrom, Statement.instructionAt, ih]

end Source

/-- None of the numerals on the line has more digits than are converted. -/
def ShortLine (line : Nat) (cs : List Char) : Prop :=
  ShortNumerals ((Token.scan line cs).toOption.getD [])

instance (line : Nat) (cs : List Char) : Decidable (ShortLine line cs) :=
  inferInstanceAs (Decidable (ShortNumerals _))

/-- None of the numerals on the lines has more digits than are converted. -/
def ShortLines (line : Nat) (lines : List (List Char)) : Prop :=
  ∀ e ∈ lines.zipIdx line, ShortLine e.2 e.1

instance (line : Nat) (lines : List (List Char)) : Decidable (ShortLines line lines) :=
  inferInstanceAs (Decidable (∀ e ∈ lines.zipIdx line, ShortLine e.2 e.1))

theorem shortLine_iff {line : Nat} {cs : List Char} {tokens : List Token}
    (h : Token.scan line cs = .ok tokens) : ShortLine line cs ↔ ShortNumerals tokens := by
  simp [ShortLine, h, Except.toOption]

@[simp] theorem shortLines_nil (line : Nat) : ShortLines line [] := by simp [ShortLines]

@[simp] theorem shortLines_cons {line : Nat} {cs : List Char} {lines : List (List Char)} :
    ShortLines line (cs :: lines) ↔ ShortLine line cs ∧ ShortLines (line + 1) lines := by
  simp [ShortLines, List.zipIdx_cons]

namespace Assembly.Draft
variable {d d' : Draft} {line : Nat}

/-- The draft with more statements, the first of them on the line of that number. -/
def append (d : Draft) (line : Nat) (source : Source) : Draft where
  labels := d.labels ++ source.labelsFrom d.instructions.size
  instructions := d.instructions ++ (source.instructionsFrom line).toArray

@[simp] theorem append_nil (d : Draft) (line : Nat) : d.append line [] = d := by
  simp [append, Source.labelsFrom, Source.instructionsFrom]

theorem append_single (d : Draft) (line : Nat) (s : Statement) :
    d.append line [s] =
      { labels := d.labels ++ (s.label?.map fun name => (name, (d.instructions.size : Int))).toList
        instructions := d.instructions ++ (s.instructionAt line).toList.toArray } := by
  simp [append, Source.labelsFrom, Source.instructionsFrom]

theorem append_append (d : Draft) (line : Nat) (s : Statement) (source : Source) :
    (d.append line [s]).append (line + 1) source = d.append line (s :: source) := by
  obtain ⟨label?, instruction?⟩ := s
  cases instruction? <;>
    simp [append, Source.labelsFrom, Source.instructionsFrom, Statement.instructionAt]

/-- A label counts the instructions before its line, not the one beside it. -/
theorem append_label (d : Draft) (line : Nat) (label? : Option String)
    (instruction? : Option (Opcode × Operand)) :
    (d.append line [⟨label?, none⟩]).append line [⟨none, instruction?⟩] =
      d.append line [⟨label?, instruction?⟩] := by
  simp [append_single, Statement.instructionAt]

theorem lookup_append_single {s : Statement} {name : String} :
    (d.append line [s]).labels.lookup name = none ↔
      d.labels.lookup name = none ∧ s.label? ≠ some name := by
  obtain ⟨label?, instruction?⟩ := s
  cases label? with
  | none => simp [append_single]
  | some other =>
    by_cases h : other = name
    · simp [append_single, List.lookup_append, h]
    · simp [append_single, List.lookup_append, List.lookup_cons, h, beq_false_of_ne (Ne.symm h)]

theorem define_eq_ok_iff {name : String} :
    d.define line name = .ok d' ↔
      d.labels.lookup name = none ∧ d' = d.append line [⟨some name, none⟩] := by
  cases h : d.labels.lookup name <;> simp [Draft.define, h, reject, append_single, eq_comm]

theorem addInstruction_eq_ok_iff {tokens : List Token} :
    d.addInstruction line tokens = .ok d' ↔
      ∃ instruction?, Statement.Body tokens instruction? ∧ ShortNumerals tokens ∧
        d' = d.append line [⟨none, instruction?⟩] := by
  cases tokens with
  | nil =>
    constructor
    · intro h
      cases h
      exact ⟨none, .blank, shortNumerals_nil, by simp [append_single]⟩
    · rintro ⟨_, hb, -, rfl⟩
      cases hb
      simp [Draft.addInstruction, append_single]
  | cons head rest =>
    rw [Draft.addInstruction, bind_eq_ok_iff]
    constructor
    · rintro ⟨i, hi, h⟩
      obtain ⟨op, operand, hb, hs, rfl⟩ := readInstruction_eq_ok_iff.mp hi
      cases h
      exact ⟨some (op, operand), hb, hs, by simp [append_single]⟩
    · rintro ⟨instruction?, hb, hs, rfl⟩
      obtain - | @⟨_, _, op, operand, hh, hop, ht⟩ := hb
      refine ⟨_, readInstruction_eq_ok_iff.mpr ⟨op, operand, .instruction hh hop ht, hs, rfl⟩, ?_⟩
      simp [append_single, pure, Except.pure]

/-- The draft after the label of a line, if it has one. -/
def defineLabel (d : Draft) (line : Nat) : Option String → Except AssemblyError Draft
  | none => .ok d
  | some name => d.define line name

theorem defineLabel_eq_ok_iff {label? : Option String} :
    d.defineLabel line label? = .ok d' ↔
      (∀ name ∈ label?, d.labels.lookup name = none) ∧ d' = d.append line [⟨label?, none⟩] := by
  cases label? with
  | none =>
    rw [append_single]
    simpa [defineLabel] using eq_comm
  | some name => simp [defineLabel, define_eq_ok_iff]

theorem addLine_eq {cs : List Char} {tokens : List Token} (h : Token.scan line cs = .ok tokens) :
    d.addLine line cs = d.defineLabel line (splitLabel tokens).1 >>= fun d =>
      d.addInstruction line (splitLabel tokens).2 := by
  rw [Draft.addLine, h]
  show (match (splitLabel tokens).1 with | none => _ | some name => _) = _
  cases (splitLabel tokens).1 <;> rfl

/-- A line is taken if it is in the grammar, its numerals are not too long, and its label is new. -/
theorem addLine_eq_ok_iff {cs : List Char} :
    d.addLine line cs = .ok d' ↔
      ShortLine line cs ∧ ∃ s : Statement, s.WrittenAs line cs ∧
        (∀ name ∈ s.label?, d.labels.lookup name = none) ∧ d' = d.append line [s] := by
  constructor
  · intro h
    obtain ⟨tokens, ht, -⟩ := bind_eq_ok_iff.mp h
    have ht := mapError_eq_ok_iff.mp ht
    rw [addLine_eq ht] at h
    obtain ⟨d₁, hd, h⟩ := bind_eq_ok_iff.mp h
    obtain ⟨hn, rfl⟩ := defineLabel_eq_ok_iff.mp hd
    obtain ⟨instruction?, hb, hs, rfl⟩ := addInstruction_eq_ok_iff.mp h
    exact ⟨(shortLine_iff ht).mpr (shortNumerals_splitLabel.mp hs),
      ⟨(splitLabel tokens).1, instruction?⟩, ⟨tokens, ht, spelled_iff.mpr ⟨rfl, hb⟩⟩, hn,
      append_label ..⟩
  · rintro ⟨hs, s, ⟨tokens, ht, hw⟩, hn, rfl⟩
    obtain ⟨hl, hb⟩ := spelled_iff.mp hw
    rw [addLine_eq ht, ← hl, bind_eq_ok_iff]
    refine ⟨_, defineLabel_eq_ok_iff.mpr ⟨hn, rfl⟩, addInstruction_eq_ok_iff.mpr ?_⟩
    exact ⟨s.instruction?, hb, shortNumerals_splitLabel.mpr ((shortLine_iff ht).mp hs),
      (append_label ..).symm⟩

/-- What the lines say can be appended if no label is defined twice. -/
theorem addLines_eq_ok_iff {lines : List (List Char)} :
    d.addLines line lines = .ok d' ↔
      ShortLines line lines ∧ ∃ source : Source, source.WrittenAs line lines ∧
        source.labels.Nodup ∧ (∀ name ∈ source.labels, d.labels.lookup name = none) ∧
        d' = d.append line source := by
  induction lines generalizing d line with
  | nil =>
    constructor
    · intro h
      cases h
      exact ⟨shortLines_nil line, [], .nil, by simp, by simp, by simp⟩
    · rintro ⟨-, source, hw, -, -, rfl⟩
      cases hw
      simp [Draft.addLines]
  | cons cs rest ih =>
    rw [Draft.addLines, bind_eq_ok_iff]
    constructor
    · rintro ⟨d₁, h₁, h⟩
      obtain ⟨hs, s, hw, hn, rfl⟩ := addLine_eq_ok_iff.mp h₁
      obtain ⟨hrest, source, hws, hd, hns, rfl⟩ := ih.mp h
      simp only [lookup_append_single] at hns
      refine ⟨shortLines_cons.mpr ⟨hs, hrest⟩, s :: source, .cons hw hws, ?_, ?_,
        append_append ..⟩
      · rw [Source.labels_cons]
        refine List.nodup_append.mpr ⟨?_, hd, ?_⟩
        · cases s.label? <;> simp
        · rintro name hname _ hmem rfl
          exact (hns name hmem).2 (Option.mem_toList.mp hname)
      · intro name hname
        rw [Source.labels_cons, List.mem_append, Option.mem_toList] at hname
        obtain hname | hname := hname
        · exact hn name hname
        · exact (hns name hname).1
    · rintro ⟨hs, source, hw, hd, hn, rfl⟩
      obtain - | @⟨_, _, _, s, source, hw, hws⟩ := hw
      obtain ⟨hs, hrest⟩ := shortLines_cons.mp hs
      rw [Source.labels_cons] at hd hn
      obtain ⟨-, hd, hdisjoint⟩ := List.nodup_append.mp hd
      refine ⟨d.append line [s], addLine_eq_ok_iff.mpr ⟨hs, s, hw, ?_, rfl⟩,
        ih.mpr ⟨hrest, source, hws, hd, ?_, (append_append ..).symm⟩⟩
      · intro name hname
        exact hn name (List.mem_append_left _ (Option.mem_toList.mpr hname))
      · intro name hname
        refine lookup_append_single.mpr ⟨hn name (List.mem_append_right _ hname), fun h => ?_⟩
        exact hdisjoint name (Option.mem_toList.mpr h) name hname rfl

theorem resolveJump_eq_ok_iff {positions : List (String × Int)} {i j : Instruction} :
    resolveJump positions i = .ok j ↔
      (i.opcode.isJump = true → ∀ name, i.operand = .text name →
        (positions.lookup name).isSome) ∧ j = Source.link positions i := by
  obtain ⟨op, operand, written⟩ := i
  cases hj : op.isJump with
  | false => simpa [resolveJump, Source.link, hj] using eq_comm
  | true =>
    cases operand with
    | none | int => simpa [resolveJump, Source.link, hj] using eq_comm
    | text name =>
      cases h : positions.lookup name with
      | none => simp [resolveJump, hj, reject, -List.lookup_isSome_iff, h]
      | some position =>
        simpa [resolveJump, Source.link, hj, -List.lookup_isSome_iff, h] using eq_comm

theorem resolve_eq_ok_iff {p : Program} :
    d.resolve = .ok p ↔
      (∀ i ∈ d.instructions.toList, i.opcode.isJump = true → ∀ name, i.operand = .text name →
        (d.labels.lookup name).isSome) ∧
      p = { instructions := (d.instructions.toList.map (Source.link d.labels)).toArray
            labels := d.labels } := by
  rw [Draft.resolve, bind_eq_ok_iff]
  constructor
  · rintro ⟨instructions, hm, h⟩
    obtain ⟨hl, rfl⟩ := (mapM_eq_ok_iff_of fun _ _ => resolveJump_eq_ok_iff).mp hm
    cases h
    exact ⟨hl, rfl⟩
  · rintro ⟨hl, rfl⟩
    exact ⟨_, (mapM_eq_ok_iff_of fun _ _ => resolveJump_eq_ok_iff).mpr ⟨hl, rfl⟩, rfl⟩

end Assembly.Draft

namespace Source

theorem linked_iff_instructions {source : Source} : source.Linked ↔
    ∀ op name, (op, .text name) ∈ source.filterMap (·.instruction?) → op.isJump = true →
      name ∈ source.labels := by
  simp only [Linked, List.mem_filterMap]
  constructor
  · rintro h op name ⟨s, hs, hi⟩
    exact h s hs op name hi
  · intro h s hs op name hi
    exact h op name ⟨s, hs, hi⟩

theorem linked_iff {source : Source} : source.Linked ↔
    ∀ i ∈ source.instructionsFrom 1, i.opcode.isJump = true → ∀ name, i.operand = .text name →
      ((source.labelsFrom 0).lookup name).isSome := by
  rw [linked_iff_instructions, ← parts_instructionsFrom 1]
  simp only [List.mem_map, lookup_labelsFrom_isSome]
  constructor
  · intro h i hi hj name ho
    exact h i.opcode name ⟨i, hi, by rw [ho]⟩ hj
  · rintro h op name ⟨i, hi, hp⟩ hj
    obtain ⟨rfl, ho⟩ := Prod.mk.inj hp
    exact h i hi hj name ho

end Source

/-- The texts that assemble, and the program of each. -/
theorem assemble_eq_ok_iff {text : String} {p : Program} :
    assemble text = .ok p ↔
      ShortLines 1 (lines text.toList) ∧ ∃ source : Source,
        source.WrittenAs 1 (lines text.toList) ∧ source.labels.Nodup ∧ source.Linked ∧
        p = source.program := by
  have hprogram (source : Source) : ((Draft.append {} 1 source).resolve = .ok p ↔
      source.Linked ∧ p = source.program) := by
    rw [Draft.resolve_eq_ok_iff, Source.linked_iff]
    simp [Draft.append, Source.program]
  rw [assemble, bind_eq_ok_iff]
  constructor
  · rintro ⟨d, hd, h⟩
    obtain ⟨hs, source, hw, hn, -, rfl⟩ := Draft.addLines_eq_ok_iff.mp hd
    exact ⟨hs, source, hw, hn, (hprogram source).mp h⟩
  · rintro ⟨hs, source, hw, hn, h⟩
    exact ⟨_, Draft.addLines_eq_ok_iff.mpr ⟨hs, source, hw, hn, by simp, rfl⟩,
      (hprogram source).mpr h⟩

end StackMachine
