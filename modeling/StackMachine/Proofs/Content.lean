import StackMachine.Proofs.Concatenation

/-! What a text says apart from its layout: its statements with every label on a line of its own,
and without those that say nothing. The program depends on this content alone, up to the numbers of
lines, and the content depends on the pieces of the text between line breaks. -/
namespace StackMachine
open Text Assembly

namespace Statement

/-- A label and an instruction on lines of their own. -/
def spread (s : Statement) : Source :=
  (s.label?.map fun name => ⟨some name, none⟩).toList ++
    (s.instruction?.map fun i => ⟨none, some i⟩).toList

theorem spread_labelled (name : String) (instruction? : Option (Opcode × Operand)) :
    spread ⟨some name, instruction?⟩ = spread ⟨some name, none⟩ ++ spread ⟨none, instruction?⟩ :=
  rfl

/-- The characters say so on any line, and their numerals are not too long. -/
def Reads (s : Statement) (cs : List Char) : Prop :=
  ∃ tokens, Token.Lexes 1 1 cs tokens ∧ s.Spelled tokens ∧ ShortNumerals tokens

variable {s : Statement} {cs : List Char}

theorem reads_of_lexes {line : Int} {col : Nat} {tokens : List Token}
    (hlexes : Token.Lexes line col cs tokens) (hs : s.Spelled tokens) (hn : ShortNumerals tokens) :
    s.Reads cs := by
  obtain ⟨tokens', hlexes, hsaid⟩ := hlexes.moved 1 1
  exact ⟨tokens', hlexes, hs.of_said hsaid, hn.of_said hsaid⟩

theorem reads_iff (line : Nat) : s.Reads cs ↔ s.WrittenAs line cs ∧ ShortLine line cs := by
  constructor
  · rintro ⟨tokens, hlexes, hs, hn⟩
    have ht := Token.scanFrom_eq_ok_iff.mpr hlexes
    have hw : s.WrittenAs (1 : Nat) cs := ⟨tokens, ht, hs⟩
    exact ⟨hw.atLine line, hw.shortLine ((shortLine_iff ht).mpr hn) line⟩
  · rintro ⟨⟨tokens, ht, hs⟩, hn⟩
    exact reads_of_lexes (Token.scanFrom_eq_ok_iff.mp ht) hs ((shortLine_iff ht).mp hn)

theorem Reads.unique {s' : Statement} (h : s.Reads cs) (h' : s'.Reads cs) : s = s' :=
  ((reads_iff 1).mp h).1.unique ((reads_iff 1).mp h').1

theorem reads_nil : Reads {} [] := ⟨[], .done, .plain .blank, shortNumerals_nil⟩

end Statement

namespace Source

/-- The statements with each label on a line of its own, and without those that say nothing. -/
def spread (source : Source) : Source := source.flatMap Statement.spread

@[simp] theorem spread_cons (s : Statement) (source : Source) :
    spread (s :: source) = s.spread ++ spread source := List.flatMap_cons

theorem labels_spread (source : Source) : source.spread.labels = source.labels := by
  induction source with
  | nil => rfl
  | cons s rest ih =>
    obtain ⟨_ | name, _ | i⟩ := s <;> simp [Statement.spread, ih]

theorem labelsFrom_spread (before : Nat) (source : Source) :
    source.spread.labelsFrom before = source.labelsFrom before := by
  induction source generalizing before with
  | nil => rfl
  | cons s rest ih =>
    obtain ⟨_ | name, _ | i⟩ := s <;> simp [Statement.spread, labelsFrom, ih]

theorem instructions_spread (source : Source) :
    source.spread.filterMap (·.instruction?) = source.filterMap (·.instruction?) := by
  induction source with
  | nil => rfl
  | cons s rest ih =>
    obtain ⟨_ | name, _ | i⟩ := s <;> simp [Statement.spread, ih]

theorem linked_spread {source : Source} : source.spread.Linked ↔ source.Linked := by
  rw [linked_iff_instructions, linked_iff_instructions, instructions_spread, labels_spread]

theorem link_operand (positions : List (String × Int)) (i : Instruction) :
    (link positions i).operand = (link positions ⟨i.opcode, i.operand, none⟩).operand := by
  obtain ⟨op, operand, line⟩ := i
  cases hj : op.isJump <;> cases operand <;> simp [link, hj]

/-- What an instruction is linked to does not depend on its line. -/
theorem parts_program (source : Source) :
    source.program.instructions.toList.map (fun i => (i.opcode, i.operand)) =
      (source.filterMap (·.instruction?)).map fun (op, operand) =>
        (op, (link (source.labelsFrom 0) ⟨op, operand, none⟩).operand) := by
  rw [← parts_instructionsFrom 1, program, List.map_map, List.map_map]
  refine List.map_congr_left fun i _ => ?_
  rw [Function.comp_apply, Function.comp_apply, link_opcode, link_operand]

theorem parts_spread (source : Source) :
    source.spread.program.instructions.toList.map (fun i => (i.opcode, i.operand)) =
      source.program.instructions.toList.map (fun i => (i.opcode, i.operand)) := by
  rw [parts_program, parts_program, instructions_spread, labelsFrom_spread]

end Source

/-- The lines, wherever they stand, have this content. -/
inductive Conveys : List (List Char) → Source → Prop
  | nil : Conveys [] []
  | cons {cs : List Char} {ls : List (List Char)} {s : Statement} {content : Source} :
      s.Reads cs → Conveys ls content → Conveys (cs :: ls) (s.spread ++ content)

section
variable {ls ls' first last : List (List Char)} {cs : List Char} {s : Statement} {content : Source}

theorem conveys_iff (line : Nat) : Conveys ls content ↔ ∃ source : Source,
    source.WrittenAs line ls ∧ ShortLines line ls ∧ content = source.spread := by
  constructor
  · intro h
    induction h generalizing line with
    | nil => exact ⟨[], .nil, shortLines_nil line, rfl⟩
    | @cons cs ls s content hs _ ih =>
      obtain ⟨source, hw, hshort, rfl⟩ := ih (line + 1)
      obtain ⟨hsw, hsshort⟩ := (Statement.reads_iff line).mp hs
      exact ⟨s :: source, .cons hsw hw, shortLines_cons.mpr ⟨hsshort, hshort⟩,
        (Source.spread_cons s source).symm⟩
  · rintro ⟨source, hw, hshort, rfl⟩
    induction hw with
    | nil => exact .nil
    | @cons line cs ls s source hs _ ih =>
      obtain ⟨hsshort, hshort⟩ := shortLines_cons.mp hshort
      rw [Source.spread_cons]
      exact .cons ((Statement.reads_iff line).mpr ⟨hs, hsshort⟩) (ih hshort)

theorem conveys_append_iff : Conveys (ls ++ ls') content ↔
    ∃ before after, Conveys ls before ∧ Conveys ls' after ∧ content = before ++ after := by
  constructor
  · intro h
    induction ls generalizing content with
    | nil => exact ⟨[], content, .nil, h, rfl⟩
    | cons cs ls ih =>
      obtain - | @⟨_, _, s, content, hs, h⟩ := h
      obtain ⟨before, after, hb, ha, rfl⟩ := ih h
      exact ⟨s.spread ++ before, after, .cons hs hb, ha, (List.append_assoc ..).symm⟩
  · rintro ⟨before, after, hb, ha, rfl⟩
    induction hb with
    | nil => exact ha
    | cons hs _ ih =>
      rw [List.append_assoc]
      exact .cons hs ih

theorem conveys_singleton_iff : Conveys [cs] content ↔
    ∃ s : Statement, s.Reads cs ∧ content = s.spread := by
  constructor
  · rintro (- | ⟨hs, - | -⟩)
    exact ⟨_, hs, List.append_nil _⟩
  · rintro ⟨s, hs, rfl⟩
    exact List.append_nil s.spread ▸ .cons hs .nil

/-- Lines that are blank have no content. -/
theorem conveys_blank_iff (hs : Statement.Reads {} cs) :
    Conveys (cs :: ls) content ↔ Conveys ls content := by
  constructor
  · rintro (- | ⟨hs', h⟩)
    cases hs'.unique hs
    exact h
  · exact .cons hs

theorem conveys_cons_congr (h : ∀ content, Conveys ls content ↔ Conveys ls' content) :
    Conveys (cs :: ls) content ↔ Conveys (cs :: ls') content := by
  constructor
  · rintro (- | ⟨hs, hc⟩)
    exact .cons hs ((h _).mp hc)
  · rintro (- | ⟨hs, hc⟩)
    exact .cons hs ((h _).mpr hc)

/-- Lines may be replaced by others with the same content. -/
theorem Conveys.replace (hr : ∀ {content}, Conveys ls content → Conveys ls' content)
    (h : Conveys (first ++ ls ++ last) content) : Conveys (first ++ ls' ++ last) content := by
  obtain ⟨_, after, hfirst, ha, rfl⟩ := conveys_append_iff.mp h
  obtain ⟨before, inner, hb, hi, rfl⟩ := conveys_append_iff.mp hfirst
  refine conveys_append_iff.mpr ⟨_, after, ?_, ha, rfl⟩
  exact conveys_append_iff.mpr ⟨before, inner, hb, hr hi, rfl⟩

end

/-! ### Pieces of a text -/

/-- The pieces between line breaks. A carriage return and the line feed after it count as two. -/
def Text.pieces (cs : List Char) : List (List Char) := cs.splitOnP isLineBreak

namespace Text
variable {cs : List Char} {c : Char}

@[simp] theorem pieces_nil : pieces [] = [[]] := List.splitOnP_nil

theorem pieces_break (h : isLineBreak c = true) (rest : List Char) :
    pieces (c :: rest) = [] :: pieces rest := by
  rw [pieces, List.splitOnP_cons_eq_if_modifyHead, if_pos h]
  rfl

theorem pieces_append_break (h : isLineBreak c = true) (cs rest : List Char) :
    pieces (cs ++ c :: rest) = pieces cs ++ pieces rest := List.splitOnP_append_cons cs rest h

theorem exists_pieces (cs : List Char) : ∃ first others, pieces cs = first :: others :=
  List.exists_cons_of_ne_nil (List.splitOnP_ne_nil _ cs)

/-- Characters without a break in front of a text belong to its first piece. -/
theorem pieces_append (h : ∀ c ∈ cs, isLineBreak c = false) {rest first : List Char}
    {others : List (List Char)} (hr : pieces rest = first :: others) :
    pieces (cs ++ rest) = (cs ++ first) :: others := by
  induction cs with
  | nil => exact hr
  | cons c cs ih =>
    obtain ⟨hc, hcs⟩ := List.forall_mem_cons.mp h
    rw [List.cons_append, pieces, List.splitOnP_cons_eq_if_modifyHead, if_neg (by simp [hc])]
    exact congrArg (List.modifyHead (List.cons c)) (ih hcs)

theorem pieces_of_unbroken (h : ∀ c ∈ cs, isLineBreak c = false) : pieces cs = [cs] :=
  List.splitOnP_eq_singleton h

end Text

/-- Lines and pieces differ in blank lines only. Characters of a line that is not complete come
first, so that the induction is on the text behind them. -/
theorem conveys_lines_append_iff {start cs : List Char} {content : Source}
    (hu : ∀ c ∈ start, isLineBreak c = false) :
    Conveys (lines (start ++ cs)) content ↔ Conveys (pieces (start ++ cs)) content := by
  fun_induction lines cs generalizing start content with
  | case1 =>
    rw [List.append_nil, pieces_of_unbroken hu]
    by_cases hs : start = []
    · rw [hs, lines_nil, conveys_blank_iff Statement.reads_nil]
    · rw [lines_singleton hu hs]
  | case2 rest ih =>
    have hpieces : pieces ('\r' :: '\n' :: rest) = [] :: [] :: pieces rest := by
      rw [pieces_break (by decide), pieces_break (by decide)]
    rw [lines_append_unbroken hu (by rw [lines]), pieces_append hu hpieces]
    refine conveys_cons_congr fun content => ?_
    rw [conveys_blank_iff Statement.reads_nil]
    exact @ih [] content (by simp)
  | case3 c rest hn hb ih =>
    have hlines : lines (c :: rest) = [] :: lines rest := by
      rw [lines]
      · exact if_pos hb
      · exact hn
    rw [lines_append_unbroken hu hlines, pieces_append hu (pieces_break hb rest)]
    exact conveys_cons_congr fun content => @ih [] content (by simp)
  | case4 c rest hn hb _ ih | case5 c rest hn hb _ _ _ ih =>
    have hc : isLineBreak c = false := by simpa using hb
    have hu : ∀ d ∈ start ++ [c], isLineBreak d = false :=
      List.forall_mem_append.mpr ⟨hu, List.forall_mem_singleton.mpr hc⟩
    rw [← List.singleton_append, ← List.append_assoc]
    exact ih hu

theorem conveys_lines_iff {cs : List Char} {content : Source} :
    Conveys (lines cs) content ↔ Conveys (pieces cs) content :=
  @conveys_lines_append_iff [] cs content (by simp)

/-! ### Programs of a content -/

section
variable {text : String} {content : Source}

theorem exists_content {p : Program} (h : assemble text = .ok p) : ∃ content : Source,
    Conveys (pieces text.toList) content ∧ content.labels.Nodup ∧ content.Linked ∧
      p.instructions.toList.map (fun i => (i.opcode, i.operand)) =
        content.program.instructions.toList.map (fun i => (i.opcode, i.operand)) ∧
      p.labels = content.program.labels := by
  obtain ⟨hs, source, hw, hn, hl, rfl⟩ := assemble_eq_ok_iff.mp h
  refine ⟨source.spread, ?_, ?_, ?_, ?_, ?_⟩
  · exact conveys_lines_iff.mp ((conveys_iff 1).mpr ⟨source, hw, hs, rfl⟩)
  · rwa [Source.labels_spread]
  · rwa [Source.linked_spread]
  · rw [Source.parts_spread]
  · exact (Source.labelsFrom_spread 0 source).symm

theorem Conveys.exists_program (h : Conveys (pieces text.toList) content)
    (hn : content.labels.Nodup) (hl : content.Linked) : ∃ p, assemble text = .ok p ∧
      p.instructions.toList.map (fun i => (i.opcode, i.operand)) =
        content.program.instructions.toList.map (fun i => (i.opcode, i.operand)) ∧
      p.labels = content.program.labels := by
  obtain ⟨source, hw, hs, rfl⟩ := (conveys_iff 1).mp (conveys_lines_iff.mpr h)
  rw [Source.labels_spread] at hn
  rw [Source.linked_spread] at hl
  refine ⟨source.program, assemble_eq_ok_iff.mpr ⟨hs, source, hw, hn, hl, rfl⟩, ?_, ?_⟩
  · rw [Source.parts_spread]
  · exact (Source.labelsFrom_spread 0 source).symm

end

end StackMachine
