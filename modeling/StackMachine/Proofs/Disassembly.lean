import StackMachine.Entries
import StackMachine.Proofs.AssembledProgram
import StackMachine.Proofs.Layout
import StackMachine.Proofs.Spelling

/-! A text for every assembled program. It has the instructions in their one-line form, except that
strings are quoted and jumps name labels, and the labels before the instructions at their
positions. It assembles to the same program again. -/
namespace StackMachine
open Text Assembly

namespace Program
variable {p : Program} {i : Instruction} {written : Operand} {position : Nat} {str : String}

/-- The line of an instruction. -/
inductive WritesInstruction (p : Program) (i : Instruction) : String → Prop
  | rendered : i.opcode.operandKind ∈ [OperandKind.none, .int, .name] →
      WritesInstruction p i i.render
  | string {text : String} : i.opcode.operandKind = .string → i.operand = .text text →
      WritesInstruction p i (i.opcode.mnemonic ++ " " ++ literal text)
  | jump {name : String} {target : Int} : i.opcode.operandKind = .label →
      i.operand = .int target → (name, target) ∈ p.labels →
      WritesInstruction p i (i.opcode.mnemonic ++ " " ++ name)

/-- The lines of the instructions from a position on, with headers for the labels of each position
in any order. -/
inductive WritesFrom (p : Program) : Nat → List Instruction → List String → Prop
  | done {position : Nat} {names : List String} : names.Perm (p.labelsAt position) →
      WritesFrom p position [] (names.map header)
  | step {position : Nat} {names lines : List String} {i : Instruction} {rest : List Instruction}
      {line : String} : names.Perm (p.labelsAt position) → p.WritesInstruction i line →
      WritesFrom p (position + 1) rest lines →
      WritesFrom p position (i :: rest) (names.map header ++ line :: lines)

/-- The text is a disassembly of the program. -/
def Writes (p : Program) (text : String) : Prop :=
  ∃ lines, p.WritesFrom 0 p.instructions.toList lines ∧ text = "\n".intercalate lines

/-- A line may have that operand for the instruction. -/
def Restates (p : Program) (i : Instruction) (written : Operand) : Prop :=
  if i.opcode.isJump then
    ∃ name target, written = .text name ∧ (name, target) ∈ p.labels ∧ i.operand = .int target
  else i.operand = written

/-- A program that lines can spell. -/
structure Printable (p : Program) : Prop where
  names : ∀ e ∈ p.labels, IsName e.1
  nodup : (p.labels.map (·.1)).Nodup
  positions : ∀ e ∈ p.labels, 0 ≤ e.2 ∧ e.2 ≤ p.size
  operands : ∀ i ∈ p.instructions, ∃ written, p.Restates i written ∧
    written.Spellable i.opcode.operandKind

theorem restates_of_kind (h : i.opcode.operandKind ≠ .label) :
    p.Restates i written ↔ i.operand = written := by
  simp [Restates, Opcode.isJump, h]

theorem restates_label (h : i.opcode.operandKind = .label) : p.Restates i written ↔
    ∃ name target, written = .text name ∧ (name, target) ∈ p.labels ∧ i.operand = .int target := by
  simp [Restates, Opcode.isJump, h]

theorem Printable.exists_line (hp : p.Printable) (hi : i ∈ p.instructions) :
    ∃ str, p.WritesInstruction i str := by
  obtain ⟨written, hr, hs⟩ := hp.operands i hi
  cases hk : i.opcode.operandKind with
  | none | int | name => exact ⟨_, .rendered (by simp [hk])⟩
  | string =>
    rw [restates_of_kind (by simp [hk])] at hr
    rw [hk] at hs
    cases hs
    exact ⟨_, .string hk hr⟩
  | label =>
    obtain ⟨name, target, -, hl, ht⟩ := (restates_label hk).mp hr
    exact ⟨_, .jump hk ht hl⟩

/-- The line of an instruction is in the grammar and restates the instruction. -/
theorem WritesInstruction.line (hp : p.Printable) (hi : i ∈ p.instructions)
    (h : p.WritesInstruction i str) : ∃ written, p.Restates i written ∧
      Statement.Line ⟨none, some (i.opcode, written)⟩ str.toList := by
  obtain ⟨written, hr, hs⟩ := hp.operands i hi
  cases h with
  | rendered hk =>
    refine ⟨written, hr, ?_⟩
    rw [restates_of_kind (by rintro h; simp [h] at hk)] at hr
    cases hkind : i.opcode.operandKind with
    | none =>
      rw [hkind] at hs
      cases hs
      simpa [Instruction.render, hr] using line_mnemonic hkind
    | int =>
      rw [hkind] at hs
      cases hs with
      | @int n hlo hhi =>
        simp only [Instruction.render, hr]
        refine line_operand (lexeme_int n) (fun line col => ?_)
          (fun _ => digitCount_toString hlo hhi) fun c => unbroken_toString
        have ht : OperandKind.int.Takes [⟨.int, toString n, line, col⟩] _ :=
          .int rfl (by rwa [value_toString]) (by rwa [value_toString])
        rwa [value_toString, ← hkind] at ht
    | name =>
      rw [hkind] at hs
      cases hs with
      | name hn =>
        simp only [Instruction.render, hr, hkind]
        refine line_operand (isName_iff.mp hn) (fun _ _ => ?_) (by simp) fun c hc => hn.unbroken hc
        rw [hkind]
        exact .name rfl
    | string | label => simp [hkind] at hk
  | @string text hk ht =>
    rw [restates_of_kind (by simp [hk]), ht] at hr
    rw [hk, ← hr] at hs
    cases hs with
    | string hc =>
      refine ⟨.text text, (restates_of_kind (by simp [hk])).mpr ht, ?_⟩
      refine line_operand (lexeme_literal text) (fun _ _ => ?_) (by simp) fun c => hc.unbroken
      rw [hk]
      exact .string rfl
  | @jump name target hk ht hl =>
    have hn : IsName name := hp.names _ hl
    refine ⟨.text name, (restates_label hk).mpr ⟨name, target, rfl, hl, ht⟩, ?_⟩
    refine line_operand (isName_iff.mp hn) (fun _ _ => ?_) (by simp) fun c hc => hn.unbroken hc
    rw [hk]
    exact .label rfl

/-- Lines that define labels and hold nothing else. -/
def headers (names : List String) : Source := names.map fun name => ⟨some name, none⟩

theorem labelsFrom_headers (position : Nat) (names : List String) (source : Source) :
    (headers names ++ source).labelsFrom position =
      names.map (fun name => (name, (position : Int))) ++ source.labelsFrom position := by
  induction names with
  | nil => rfl
  | cons name names ih => simpa [headers, Source.labelsFrom] using ih

theorem instructionsFrom_headers (line : Nat) (names : List String) (source : Source) :
    (headers names ++ source).instructionsFrom line =
      source.instructionsFrom (line + names.length) := by
  induction names generalizing line with
  | nil => rfl
  | cons name names ih =>
    rw [List.length_cons, Nat.add_comm names.length 1, ← Nat.add_assoc, ← ih (line + 1)]
    simp [headers, Source.instructionsFrom]

theorem lines_headers {names : List String} (h : ∀ name ∈ names, IsName name) :
    Source.Lines ((names.map header).map (·.toList)) (headers names) := by
  induction names with
  | nil => exact .nil
  | cons name names ih =>
    obtain ⟨hname, hnames⟩ := List.forall_mem_cons.mp h
    exact .cons (line_header hname) (ih hnames)

theorem labelsAt_perm (p : Program) (position : Int) :
    (p.labelsAt position).Perm ((p.labels.filter (·.2 == position)).map (·.1)) :=
  List.mergeSort_perm _ _

theorem perm_labelsAt {position : Int} {names : List String}
    (h : names.Perm (p.labelsAt position)) :
    (names.map fun name => (name, position)).Perm (p.labels.filter (·.2 == position)) := by
  have hnames := h.trans (labelsAt_perm p position)
  have hid : ((p.labels.filter (·.2 == position)).map (·.1)).map (fun name => (name, position)) =
      p.labels.filter (·.2 == position) := by
    rw [List.map_map]
    refine (List.map_congr_left fun e he => ?_).trans (List.map_id _)
    rw [Function.comp, ← beq_iff_eq.mp (List.mem_filter.mp he).2]
    rfl
  rw [← hid]
  exact hnames.map _

/-- The labels from a position on are those at the position and those behind it. -/
theorem perm_filter_labels (labels : List (String × Int)) (position : Int) :
    (labels.filter (·.2 == position) ++ labels.filter (position + 1 ≤ ·.2)).Perm
      (labels.filter (position ≤ ·.2)) := by
  have hp := List.filter_append_perm (·.2 == position) (labels.filter (position ≤ ·.2))
  rw [List.filter_filter, List.filter_filter] at hp
  refine (List.Perm.of_eq ?_).trans hp
  congr 1 <;> refine List.filter_congr fun e _ => Bool.eq_iff_iff.mpr ?_
  · simp only [beq_iff_eq, Bool.and_eq_true, decide_eq_true_eq]
    omega
  · simp only [Bool.and_eq_true, Bool.not_eq_true', beq_eq_false_iff_ne, decide_eq_true_eq]
    omega

/-- What the lines of a disassembly from a position on say. -/
structure Restated (p : Program) (position : Nat) (instructions : List Instruction)
    (source : Source) : Prop where
  labels : (source.labelsFrom position).Perm (p.labels.filter ((position : Int) ≤ ·.2))
  linked : ∀ s ∈ source, ∀ op name, s.instruction? = some (op, .text name) → op.isJump = true →
    name ∈ p.labels.map (·.1)
  instructions : ∀ positions line, (∀ e ∈ p.labels, positions.lookup e.1 = some e.2) →
    ((source.instructionsFrom line).map (Source.link positions)).map
      (fun i => (i.opcode, i.operand)) = instructions.map fun i => (i.opcode, i.operand)

theorem Restates.link {positions : List (String × Int)} (h : p.Restates i written)
    (hp : ∀ e ∈ p.labels, positions.lookup e.1 = some e.2) (line? : Option Nat) :
    (Source.link positions ⟨i.opcode, written, line?⟩).operand = i.operand := by
  unfold Restates at h
  split at h
  · rename_i hj
    obtain ⟨name, target, rfl, hl, ht⟩ := h
    simp [Source.link, hj, hp _ hl, ht]
  · rename_i hj
    simp [Source.link, hj, h]

theorem Printable.isName_of_labelsAt (hp : p.Printable) {position : Int} {names : List String}
    (hl : names.Perm (p.labelsAt position)) : ∀ name ∈ names, IsName name := by
  intro name hname
  have hmem := (perm_labelsAt hl).mem_iff.mp (List.mem_map_of_mem hname)
  exact hp.names _ (List.mem_filter.mp hmem).1

/-- The labels at the end of the program are all that is left there. -/
theorem restated_headers {names : List String} (hp : p.Printable)
    (hl : names.Perm (p.labelsAt p.size)) : p.Restated p.size [] (headers names) := by
  constructor
  case labels =>
    have hlabels := labelsFrom_headers p.size names []
    rw [List.append_nil] at hlabels
    rw [hlabels]
    refine List.Perm.trans ?_ ((perm_labelsAt hl).trans (List.Perm.of_eq ?_))
    · simp [Source.labelsFrom]
    · refine List.filter_congr fun e he => Bool.eq_iff_iff.mpr ?_
      have hle := (hp.positions e he).2
      simp only [beq_iff_eq, decide_eq_true_eq]
      omega
  case linked => simp [headers]
  case instructions =>
    intro positions line _
    have hnone := instructionsFrom_headers line names []
    rw [List.append_nil] at hnone
    rw [hnone]
    rfl

theorem Restated.step {names : List String} {rest : List Instruction} {source : Source}
    (h : p.Restated (position + 1) rest source) (hl : names.Perm (p.labelsAt position))
    (hr : p.Restates i written) :
    p.Restated position (i :: rest)
      (headers names ++ ⟨none, some (i.opcode, written)⟩ :: source) := by
  constructor
  case labels =>
    rw [labelsFrom_headers]
    refine List.Perm.trans ?_ (perm_filter_labels p.labels position)
    exact (perm_labelsAt hl).append h.labels
  case linked =>
    intro s hmem op name hsi hj
    obtain hmem | hmem := List.mem_append.mp hmem
    · obtain ⟨_, -, rfl⟩ := List.mem_map.mp hmem
      cases hsi
    · obtain rfl | hmem := List.mem_cons.mp hmem
      · cases hsi
        simp only [Restates, hj, ↓reduceIte] at hr
        obtain ⟨_, target, hw, hl, -⟩ := hr
        cases hw
        exact List.mem_map_of_mem (f := (·.1)) hl
      · exact h.linked s hmem op name hsi hj
  case instructions =>
    intro positions line hpos
    rw [instructionsFrom_headers]
    simp [Source.instructionsFrom, hr.link hpos, h.instructions positions _ hpos]

theorem WritesFrom.exists_source {instructions : List Instruction} {lines : List String}
    (h : p.WritesFrom position instructions lines) (hp : p.Printable)
    (hi : ∀ i ∈ instructions, i ∈ p.instructions)
    (hs : position + instructions.length = p.size) :
    ∃ source, Source.Lines (lines.map (·.toList)) source ∧
      p.Restated position instructions source := by
  induction h with
  | @done position names hl =>
    rw [List.length_nil, Nat.add_zero] at hs
    rw [hs] at hl ⊢
    exact ⟨headers names, lines_headers (hp.isName_of_labelsAt hl), restated_headers hp hl⟩
  | @step position names lines i rest line hl hline hrest ih =>
    obtain ⟨hi, hirest⟩ := List.forall_mem_cons.mp hi
    obtain ⟨written, hr, hline⟩ := hline.line hp hi
    obtain ⟨source, hlines, hsource⟩ :=
      ih hirest (by simpa [Nat.add_assoc, Nat.add_comm 1] using hs)
    refine ⟨headers names ++ ⟨none, some (i.opcode, written)⟩ :: source, ?_, hsource.step hl hr⟩
    rw [List.map_append]
    exact (lines_headers (hp.isName_of_labelsAt hl)).append (.cons hline hlines)

theorem assemble_printable {text : String} (h : assemble text = .ok p) : p.Printable := by
  have hpositions := (assemble_wellFormed h).labels
  obtain ⟨-, source, hw, hn, hl, rfl⟩ := assemble_eq_ok_iff.mp h
  have hkeys : (source.program.labels.map (·.1)).Nodup :=
    (Source.keys_labelsFrom 0 source).symm ▸ hn
  constructor
  case names =>
    intro e he
    have hlabel : e.1 ∈ source.labels := by
      rw [← Source.keys_labelsFrom 0]
      exact List.mem_map_of_mem he
    obtain ⟨k, s, hs, hname⟩ := Source.mem_labels_iff.mp hlabel
    obtain ⟨cs, -, hwritten⟩ := hw.exists_line hs
    exact hwritten.isName hname
  case nodup => exact hkeys
  case positions => exact hpositions
  case operands =>
    intro i hi
    obtain ⟨j, hj⟩ := Array.mem_iff_getElem?.mp hi
    obtain ⟨k, written, hk, -, -, hlink⟩ := Source.getElem?_program.mp hj
    obtain ⟨s, hs, hsi⟩ := hk
    obtain ⟨cs, hcs, hwritten⟩ := hw.exists_line hs
    have hu : ∀ c ∈ cs, isLineBreak c = false := fun c =>
      isLineBreak_of_mem_lines (List.mem_of_getElem? hcs)
    refine ⟨written, ?_, hwritten.spellable hu hsi⟩
    have hdecodes := Source.decodes_link hw hn hl ⟨s, hs, hsi⟩ i.line
    rw [hlink] at hdecodes
    unfold Source.Decodes at hdecodes
    unfold Restates
    split
    · rename_i hj
      rw [if_pos hj] at hdecodes
      obtain ⟨name, k', rfl, hdef, ht⟩ := hdecodes
      refine ⟨name, _, rfl, ?_, ht⟩
      have hlookup := Source.lookup_labelsFrom 0 hn hdef
      rw [Nat.zero_add] at hlookup
      exact (Entries.lookup_eq_some_iff_mem hkeys).mp hlookup
    · rename_i hj
      rwa [if_neg hj] at hdecodes

/-- A disassembly assembles to the same instructions and labels. -/
theorem Writes.assemble {text : String} (h : p.Writes text) (hp : p.Printable) :
    ∃ q, assemble text = .ok q ∧ q.labels.Perm p.labels ∧
      q.instructions.toList.map (fun i => (i.opcode, i.operand)) =
        p.instructions.toList.map fun i => (i.opcode, i.operand) := by
  obtain ⟨strs, hstrs, rfl⟩ := h
  obtain ⟨source, hlines, hsource⟩ :=
    hstrs.exists_source hp (fun i => Array.mem_toList_iff.mp) (by simp [Program.size])
  have hsplit : lines ("\n".intercalate strs).toList = strs.map (·.toList) := by
    rw [String.toList_intercalate]
    exact lines_intercalate hlines.unbroken
  have hperm : (source.labelsFrom 0).Perm p.labels := by
    have hlabels := hsource.labels
    rwa [List.filter_eq_self.mpr fun e he => by simpa using (hp.positions e he).1] at hlabels
  have hkeys : source.labels.Perm (p.labels.map (·.1)) := by
    rw [← Source.keys_labelsFrom 0]
    exact hperm.map _
  have hn : source.labels.Nodup := hkeys.nodup_iff.mpr hp.nodup
  refine ⟨source.program, ?_, hperm, ?_⟩
  · rw [assemble_eq_ok_iff, hsplit]
    refine ⟨hlines.shortLines 1, source, hlines.writtenAs 1, hn, ?_, rfl⟩
    intro s hs op name hi hj
    exact hkeys.mem_iff.mpr (hsource.linked s hs op name hi hj)
  · have hfound : ∀ e ∈ p.labels, (source.labelsFrom 0).lookup e.1 = some e.2 := by
      intro e he
      rw [Entries.lookup_perm hperm (by rwa [Source.keys_labelsFrom]),
        Entries.lookup_eq_some_iff_mem hp.nodup]
      exact he
    exact hsource.instructions _ 1 hfound

theorem Printable.exists_lines (hp : p.Printable) (position : Nat) {instructions : List Instruction}
    (hi : ∀ i ∈ instructions, i ∈ p.instructions) :
    ∃ lines, p.WritesFrom position instructions lines := by
  induction instructions generalizing position with
  | nil => exact ⟨_, .done (.refl _)⟩
  | cons i rest ih =>
    obtain ⟨hi, hrest⟩ := List.forall_mem_cons.mp hi
    obtain ⟨line, hline⟩ := hp.exists_line hi
    obtain ⟨lines, hlines⟩ := ih (position + 1) hrest
    exact ⟨_, .step (.refl _) hline hlines⟩

end Program

/-- Every assembled program has a disassembly, and each one assembles to the same operations with
the same operands, and to the same position for every label. -/
theorem assemble_disassembly {text : String} {p : Program} (h : assemble text = .ok p) :
    (∃ written, p.Writes written) ∧ ∀ written, p.Writes written → ∃ q, assemble written = .ok q ∧
      q.instructions.toList.map (fun i => (i.opcode, i.operand)) =
        p.instructions.toList.map (fun i => (i.opcode, i.operand)) ∧
      ∀ name, q.labels.lookup name = p.labels.lookup name := by
  have hp := Program.assemble_printable h
  constructor
  · obtain ⟨lines, hlines⟩ := hp.exists_lines 0 fun i => Array.mem_toList_iff.mp
    exact ⟨_, lines, hlines, rfl⟩
  · intro written hw
    obtain ⟨q, hq, hperm, hi⟩ := hw.assemble hp
    have hn : (q.labels.map (·.1)).Nodup := (hperm.map _).nodup_iff.mpr hp.nodup
    exact ⟨q, hq, hi, Entries.lookup_perm hperm hn⟩

/-- Two labels at one position and one at the end, an accented name, and a text with quotes, escapes
and slashes. -/
def greeting : String :=
  "été: PUSH -9223372036854775808\nagain:\n_b: NEWSTR \"\\\"//\\n\\\\,\"\nJMPZ _b\nJMP end\nend:"

def greetingProgram : Program where
  instructions := #[⟨.push, .int (-9223372036854775808), some 1⟩,
    ⟨.newString, .text "\"//\n\\,", some 3⟩, ⟨.jumpZero, .int 1, some 4⟩, ⟨.jump, .int 4, some 5⟩]
  labels := [("été", 0), ("again", 1), ("_b", 1), ("end", 4)]

def greetingWritten : String :=
  "été:\nPUSH -9223372036854775808\n_b:\nagain:\n" ++
    "NEWSTR \"\\\"//\\n\\\\,\"\nJMPZ again\nJMP end\nend:"

theorem greeting_disassembly : assemble greeting = .ok greetingProgram ∧
    greetingProgram.Writes greetingWritten ∧ ∃ q, assemble greetingWritten = .ok q ∧
      q.instructions.toList.map (fun i => (i.opcode, i.operand)) =
        greetingProgram.instructions.toList.map (fun i => (i.opcode, i.operand)) ∧
      ∀ name, q.labels.lookup name = greetingProgram.labels.lookup name := by
  have hp : (assemble greeting).toOption = some greetingProgram := by decide +kernel
  have hp := toOption_eq_some_iff.mp hp
  have hpush : greetingProgram.WritesInstruction ⟨.push, .int (-9223372036854775808), some 1⟩ _ :=
    .rendered (by decide)
  have hstring : greetingProgram.WritesInstruction ⟨.newString, .text "\"//\n\\,", some 3⟩ _ :=
    .string rfl rfl
  have hback : greetingProgram.WritesInstruction ⟨.jumpZero, .int 1, some 4⟩
      ("JMPZ" ++ " " ++ "again") := .jump rfl rfl (by decide)
  have hforth : greetingProgram.WritesInstruction ⟨.jump, .int 4, some 5⟩
      ("JMP" ++ " " ++ "end") := .jump rfl rfl (by decide)
  have hlabels {position : Int} {names : List String}
      (h : names.Perm ((greetingProgram.labels.filter (·.2 == position)).map (·.1))) :
      names.Perm (greetingProgram.labelsAt position) :=
    h.trans (greetingProgram.labelsAt_perm position).symm
  have hw := @Program.WritesFrom.done greetingProgram 4 ["end"] (hlabels (by decide +kernel))
  have hw := Program.WritesFrom.step (@hlabels 3 [] (by decide)) hforth hw
  have hw := Program.WritesFrom.step (@hlabels 2 [] (by decide)) hback hw
  have hw := Program.WritesFrom.step (@hlabels 1 ["_b", "again"] (by decide +kernel)) hstring hw
  have hw := Program.WritesFrom.step (@hlabels 0 ["été"] (by decide +kernel)) hpush hw
  have hw : greetingProgram.Writes greetingWritten := ⟨_, hw, by decide +kernel⟩
  exact ⟨hp, hw, (assemble_disassembly hp).2 _ hw⟩

end StackMachine
