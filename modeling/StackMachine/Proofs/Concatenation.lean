import StackMachine.Proofs.Lexeme
import StackMachine.Proofs.Layout

/-! A text behind another one. What a line says does not depend on its number, so that the program
of both texts is the second program behind the first, with its labels and jumps moved along. -/
namespace StackMachine
open Text Assembly

namespace Text

theorem lines_eq_nil_iff {cs : List Char} : lines cs = [] ↔ cs = [] := by
  fun_cases lines cs <;> simp_all

theorem lines_of_break {c : Char} (h : isLineBreak c = true) {rest : List Char}
    (hr : c = '\r' → rest.head? ≠ some '\n') : lines (c :: rest) = [] :: lines rest := by
  rw [lines]
  · exact if_pos h
  · rintro _ rfl rfl
    exact hr rfl rfl

/-- A line feed between two texts ends the last line of the first, unless a break did so before.
Then there is an empty line between them, or the line feed belongs to that break. -/
theorem lines_append (cs rest : List Char) : ∃ gap, (gap = [] ∨ gap = [[]]) ∧
    lines (cs ++ '\n' :: rest) = lines cs ++ gap ++ lines rest := by
  fun_induction lines cs with
  | case1 => exact ⟨[[]], .inr rfl, lines_newline rest⟩
  | case2 cs ih =>
    obtain ⟨gap, hgap, h⟩ := ih
    exact ⟨gap, hgap, by simp [lines, h]⟩
  | case3 c cs hn hb ih =>
    by_cases hlast : c = '\r' ∧ cs = []
    · obtain ⟨rfl, rfl⟩ := hlast
      exact ⟨[], .inl rfl, by simp [lines]⟩
    · obtain ⟨gap, hgap, h⟩ := ih
      refine ⟨gap, hgap, ?_⟩
      rw [List.cons_append, lines_of_break hb, h]
      · rfl
      · rintro rfl
        cases cs with
        | nil => exact absurd ⟨rfl, rfl⟩ hlast
        | cons d cs => rintro ⟨⟩; exact hn _ rfl rfl
  | case4 c cs hn hb hnil ih =>
    cases lines_eq_nil_iff.mp hnil
    exact ⟨[], .inl rfl, by simp [lines_of_not_break (by simpa using hb), lines_newline]⟩
  | case5 c cs hn hb first others hcons ih =>
    obtain ⟨gap, hgap, h⟩ := ih
    refine ⟨gap, hgap, ?_⟩
    rw [List.cons_append, lines_of_not_break (by simpa using hb), h, hcons]
    rfl

end Text

/-! ### Lines of another number -/

/-- What a token says, wherever it stands. -/
def Token.said (t : Token) : TokenKind × String := (t.kind, t.text)

theorem Token.said_eq_iff {t t' : Token} :
    t.said = t'.said ↔ t.kind = t'.kind ∧ t.text = t'.text := by
  simp [said]

theorem Token.scan_nil (line : Int) : scan line [] = .ok [] := scanFrom_eq_ok_iff.mpr .done

/-- The number of a line and the column of its first character do not matter for what it says. -/
theorem Token.Lexes.moved {line : Int} {col : Nat} {cs : List Char} {tokens : List Token}
    (h : Lexes line col cs tokens) (line' : Int) (col' : Nat) :
    ∃ tokens', Lexes line' col' cs tokens' ∧ tokens'.map said = tokens.map said := by
  induction h generalizing col' with
  | done => exact ⟨[], .done, rfl⟩
  | comment => exact ⟨[], .comment, rfl⟩
  | gap hg _ ih =>
    obtain ⟨tokens', hlexes, hsaid⟩ := ih (col' + 1)
    exact ⟨tokens', .gap hg hlexes, hsaid⟩
  | @lexeme _ _ word _ _ _ hl hr _ ih =>
    obtain ⟨tokens', hlexes, hsaid⟩ := ih (col' + word.length)
    exact ⟨_, .lexeme hl hr hlexes, by rw [List.map_cons, hsaid]; rfl⟩

section Said
variable {tokens tokens' : List Token}

theorem OperandKind.Takes.of_said {kind : OperandKind} {operand : Operand}
    (h : kind.Takes tokens operand) (hs : tokens'.map Token.said = tokens.map Token.said) :
    kind.Takes tokens' operand := by
  have hsingle {t : Token} (hs : tokens'.map Token.said = [t.said]) :
      ∃ t', tokens' = [t'] ∧ t'.kind = t.kind ∧ t'.text = t.text := by
    obtain ⟨t', rfl, hsaid⟩ := List.map_eq_singleton_iff.mp hs
    exact ⟨t', rfl, Token.said_eq_iff.mp hsaid⟩
  cases h with
  | none =>
    rw [List.map_eq_nil_iff.mp hs]
    exact .none
  | int hk hlo hhi =>
    obtain ⟨t', rfl, hkind, htext⟩ := hsingle hs
    rw [← htext] at hlo hhi ⊢
    exact .int (hkind.trans hk) hlo hhi
  | string hk =>
    obtain ⟨t', rfl, hkind, htext⟩ := hsingle hs
    exact htext ▸ .string (hkind.trans hk)
  | name hk =>
    obtain ⟨t', rfl, hkind, htext⟩ := hsingle hs
    exact htext ▸ .name (hkind.trans hk)
  | label hk =>
    obtain ⟨t', rfl, hkind, htext⟩ := hsingle hs
    exact htext ▸ .label (hkind.trans hk)

namespace Statement

theorem Body.of_said {instruction? : Option (Opcode × Operand)} (h : Body tokens instruction?)
    (hs : tokens'.map Token.said = tokens.map Token.said) : Body tokens' instruction? := by
  cases h with
  | blank =>
    rw [List.map_eq_nil_iff.mp hs]
    exact .blank
  | instruction hh hop ht =>
    obtain ⟨head', rest', rfl, hhead, hrest⟩ := List.map_eq_cons_iff.mp hs
    obtain ⟨hkind, htext⟩ := Token.said_eq_iff.mp hhead
    exact .instruction (hkind.trans hh) (htext ▸ hop) (ht.of_said hrest)

theorem Spelled.of_said {s : Statement} (h : s.Spelled tokens)
    (hs : tokens'.map Token.said = tokens.map Token.said) : s.Spelled tokens' := by
  cases h with
  | plain hb => exact .plain (hb.of_said hs)
  | labelled hn hc hb =>
    obtain ⟨name', _, rfl, hname, htail⟩ := List.map_eq_cons_iff.mp hs
    obtain ⟨colon', rest', rfl, hcolon, hrest⟩ := List.map_eq_cons_iff.mp htail
    obtain ⟨hkind, htext⟩ := Token.said_eq_iff.mp hname
    rw [← htext]
    exact .labelled (hkind.trans hn) ((Token.said_eq_iff.mp hcolon).1.trans hc) (hb.of_said hrest)

end Statement

theorem ShortNumerals.of_said (h : ShortNumerals tokens)
    (hs : tokens'.map Token.said = tokens.map Token.said) : ShortNumerals tokens' := by
  intro t' ht' hint
  have hmem : t'.said ∈ tokens.map Token.said := hs ▸ List.mem_map_of_mem ht'
  obtain ⟨t, ht, hsaid⟩ := List.mem_map.mp hmem
  obtain ⟨hkind, htext⟩ := Token.said_eq_iff.mp hsaid
  rw [← htext]
  exact h t ht (hkind.trans hint)

end Said

namespace Statement
variable {s : Statement} {line : Nat} {cs : List Char}

theorem WrittenAs.atLine (h : s.WrittenAs line cs) (line' : Nat) : s.WrittenAs line' cs := by
  obtain ⟨tokens, ht, hs⟩ := h
  obtain ⟨tokens', hlexes, hsaid⟩ := (Token.scanFrom_eq_ok_iff.mp ht).moved line' 1
  exact ⟨tokens', Token.scanFrom_eq_ok_iff.mpr hlexes, hs.of_said hsaid⟩

theorem WrittenAs.shortLine (h : s.WrittenAs line cs) (hs : ShortLine line cs) (line' : Nat) :
    ShortLine line' cs := by
  obtain ⟨tokens, ht, -⟩ := h
  obtain ⟨tokens', hlexes, hsaid⟩ := (Token.scanFrom_eq_ok_iff.mp ht).moved line' 1
  rw [shortLine_iff (Token.scanFrom_eq_ok_iff.mpr hlexes)]
  exact ((shortLine_iff ht).mp hs).of_said hsaid

end Statement

/-! ### Sources one behind the other -/

/-- A jump operand where so many instructions come before the program. -/
def Operand.shift (offset : Nat) : OperandKind → Operand → Operand
  | .label, .int position => .int (position + offset)
  | _, operand => operand

/-- The instruction where so many instructions and lines come before its program. -/
def Instruction.shift (offset lines : Nat) (i : Instruction) : Instruction where
  opcode := i.opcode
  operand := i.operand.shift offset i.opcode.operandKind
  line := i.line.map (· + lines)

def shiftLabels (offset : Nat) (labels : List (String × Int)) : List (String × Int) :=
  labels.map fun (name, position) => (name, position + offset)

/-- The second program behind the first, whose text has so many lines. -/
def Program.join (a b : Program) (lines : Nat) : Program where
  instructions := a.instructions ++ b.instructions.map (.shift a.size lines)
  labels := a.labels ++ shiftLabels a.size b.labels

theorem lookup_shiftLabels (offset : Nat) (labels : List (String × Int)) (name : String) :
    (shiftLabels offset labels).lookup name = (labels.lookup name).map (· + (offset : Int)) := by
  induction labels with
  | nil => rfl
  | cons e labels ih =>
    rw [shiftLabels, List.map_cons, List.lookup_cons, List.lookup_cons]
    cases name == e.1 with
    | true => rfl
    | false => exact ih

namespace Source
variable {source source' : Source} {line line' : Nat} {ls ls' : List (List Char)}

theorem WrittenAs.append (h : source.WrittenAs line ls) (h' : source'.WrittenAs line' ls') :
    WrittenAs line (ls ++ ls') (source ++ source') := by
  induction h with
  | @nil line =>
    show source'.WrittenAs line ls'
    induction h' generalizing line with
    | nil => exact .nil
    | cons hs _ ih => exact .cons (hs.atLine line) ih
  | cons hs _ ih => exact .cons hs ih

theorem WrittenAs.shortLines (h : source.WrittenAs line ls) (hs : ShortLines line ls)
    (line' : Nat) : ShortLines line' ls := by
  induction h generalizing line' with
  | nil => exact shortLines_nil line'
  | cons hw _ ih =>
    obtain ⟨hs, hrest⟩ := shortLines_cons.mp hs
    exact shortLines_cons.mpr ⟨hw.shortLine hs line', ih hrest (line' + 1)⟩

theorem shortLines_append (hs : ShortLines line ls) (hs' : ∀ line, ShortLines line ls') :
    ShortLines line (ls ++ ls') := by
  induction ls generalizing line with
  | nil => exact hs' line
  | cons cs ls ih =>
    obtain ⟨hs, hrest⟩ := shortLines_cons.mp hs
    exact shortLines_cons.mpr ⟨hs, ih hrest⟩

theorem labels_append (source source' : Source) :
    labels (source ++ source') = source.labels ++ source'.labels :=
  List.filterMap_append

theorem Linked.append (h : source.Linked) (h' : source'.Linked) :
    Linked (source ++ source') := by
  intro s hs op name hi hj
  rw [labels_append]
  obtain hs | hs := List.mem_append.mp hs
  · exact List.mem_append_left _ (h s hs op name hi hj)
  · exact List.mem_append_right _ (h' s hs op name hi hj)

theorem instructionsFrom_append (line : Nat) (source source' : Source) :
    instructionsFrom line (source ++ source') =
      source.instructionsFrom line ++ source'.instructionsFrom (line + source.length) := by
  induction source generalizing line with
  | nil => rfl
  | cons s rest ih =>
    rw [List.cons_append, instructionsFrom, ih, instructionsFrom, List.append_assoc,
      List.length_cons, Nat.add_assoc, Nat.add_comm 1]

theorem labelsFrom_append (before : Nat) (source source' : Source) :
    labelsFrom before (source ++ source') = source.labelsFrom before ++
      source'.labelsFrom (before + source.position source.length) := by
  induction source generalizing before with
  | nil => rfl
  | cons s rest ih =>
    rw [List.cons_append, labelsFrom, ih, labelsFrom, List.append_assoc, List.length_cons,
      position_cons_succ, Nat.add_assoc]

theorem instructionsFrom_add (line lines : Nat) (source : Source) :
    source.instructionsFrom (line + lines) =
      (source.instructionsFrom line).map fun i => { i with line := i.line.map (· + lines) } := by
  induction source generalizing line with
  | nil => rfl
  | cons s rest ih =>
    obtain ⟨label?, instruction?⟩ := s
    rw [instructionsFrom, instructionsFrom, List.map_append, ← ih, Nat.add_right_comm]
    cases instruction? <;> rfl

theorem labelsFrom_add (before offset : Nat) (source : Source) :
    source.labelsFrom (before + offset) = shiftLabels offset (source.labelsFrom before) := by
  induction source generalizing before with
  | nil => rfl
  | cons s rest ih =>
    obtain ⟨label?, instruction?⟩ := s
    rw [labelsFrom, labelsFrom, shiftLabels, List.map_append, Nat.add_right_comm, ih]
    cases label? <;> simp [shiftLabels]

/-- In a draft every jump names one of its labels. -/
theorem WrittenAs.exists_label (h : source.WrittenAs line ls) (hl : source.Linked)
    {i : Instruction} (hi : i ∈ source.instructionsFrom line') (hj : i.opcode.isJump = true) :
    ∃ name ∈ source.labels, i.operand = .text name := by
  have hmem := List.mem_map_of_mem (f := fun i : Instruction => (i.opcode, i.operand)) hi
  rw [parts_instructionsFrom, List.mem_filterMap] at hmem
  obtain ⟨s, hs, hsi⟩ := hmem
  obtain ⟨k, hk⟩ := List.mem_iff_getElem?.mp hs
  obtain ⟨cs, -, hw⟩ := h.exists_line hk
  obtain ⟨tokens, ht⟩ := hw.takes hsi
  rw [show i.opcode.operandKind = .label by simpa [Opcode.isJump] using hj] at ht
  obtain ⟨name, ho⟩ := ht.text_of_label
  rw [ho] at hsi
  exact ⟨name, hl s hs i.opcode name hsi hj, ho⟩

/-- Labels of later lines do not matter for a jump whose label is defined. -/
theorem link_append {positions : List (String × Int)} {i : Instruction}
    (h : i.opcode.isJump = true → ∃ name, i.operand = .text name ∧
      (positions.lookup name).isSome) (later : List (String × Int)) :
    link (positions ++ later) i = link positions i := by
  obtain ⟨op, operand, line⟩ := i
  cases hj : op.isJump with
  | false => simp only [link, hj]
  | true =>
    obtain ⟨name, rfl, hp⟩ := h hj
    obtain ⟨position, hp⟩ := Option.isSome_iff_exists.mp hp
    simp only [link, hj, List.lookup_append, hp, Option.some_or]

theorem link_shift {positions earlier : List (String × Int)} {i : Instruction}
    (h : i.opcode.isJump = true → ∃ name, i.operand = .text name ∧
      (positions.lookup name).isSome ∧ earlier.lookup name = none) (offset lines : Nat) :
    link (earlier ++ shiftLabels offset positions) { i with line := i.line.map (· + lines) } =
      (link positions i).shift offset lines := by
  obtain ⟨op, operand, line⟩ := i
  cases hj : op.isJump with
  | false =>
    have hk : op.operandKind ≠ .label := by simpa [Opcode.isJump] using hj
    have hs : operand.shift offset op.operandKind = operand := by
      rw [Operand.shift]
      exact fun _ hk' => absurd hk' hk
    simp only [link, hj, Instruction.shift, hs]
  | true =>
    have hk : op.operandKind = .label := by simpa [Opcode.isJump] using hj
    obtain ⟨name, rfl, hp, hn⟩ := h hj
    obtain ⟨position, hp⟩ := Option.isSome_iff_exists.mp hp
    simp only [link, hj, Instruction.shift, hk, Operand.shift, List.lookup_append, hn,
      Option.none_or, lookup_shiftLabels, hp, Option.map_some, Option.getD_some]

theorem program_append (h : source.WrittenAs line ls) (h' : source'.WrittenAs line' ls')
    (hl : source.Linked) (hl' : source'.Linked)
    (hd : ∀ name ∈ source.labels, name ∉ source'.labels) :
    program (source ++ source') = source.program.join source'.program source.length := by
  have hsize : source.program.size = source.position source.length := by
    simp [Program.size, program, length_instructionsFrom]
  have hlabels : labelsFrom 0 (source ++ source') =
      source.labelsFrom 0 ++ shiftLabels source.program.size (source'.labelsFrom 0) := by
    rw [labelsFrom_append, labelsFrom_add, hsize]
  have hfirst : (source.instructionsFrom 1).map (link (labelsFrom 0 (source ++ source'))) =
      (source.instructionsFrom 1).map (link (source.labelsFrom 0)) := by
    refine List.map_congr_left fun i hi => ?_
    rw [hlabels]
    refine link_append (fun hj => ?_) _
    obtain ⟨name, hname, ho⟩ := h.exists_label hl hi hj
    exact ⟨name, ho, lookup_labelsFrom_isSome.mpr hname⟩
  have hsecond : (source'.instructionsFrom (1 + source.length)).map
      (link (labelsFrom 0 (source ++ source'))) =
      ((source'.instructionsFrom 1).map (link (source'.labelsFrom 0))).map
        (.shift source.program.size source.length) := by
    rw [instructionsFrom_add, List.map_map, List.map_map]
    refine List.map_congr_left fun i hi => ?_
    rw [Function.comp_apply, hlabels]
    refine link_shift (fun hj => ?_) _ _
    obtain ⟨name, hname, ho⟩ := h'.exists_label hl' hi hj
    refine ⟨name, ho, lookup_labelsFrom_isSome.mpr hname, ?_⟩
    refine Option.not_isSome_iff_eq_none.mp fun hp => ?_
    exact hd name (lookup_labelsFrom_isSome.mp hp) hname
  unfold Program.join
  rw [program, instructionsFrom_append, List.map_append, hfirst, hsecond, hlabels]
  simp [program]

/-- Empty lines at the end change nothing. -/
theorem WrittenAs.exists_gap {gap : List (List Char)} (h : source.WrittenAs line ls)
    (hl : source.Linked) (hg : gap = [] ∨ gap = [[]]) : ∃ source' : Source,
      source'.WrittenAs line (ls ++ gap) ∧ source'.Linked ∧ source'.labels = source.labels ∧
        source'.program = source.program := by
  obtain rfl | rfl := hg
  · exact ⟨source, by rwa [List.append_nil], hl, rfl, rfl⟩
  · have hblank : WrittenAs 1 [[]] [{}] := .cons ⟨[], Token.scan_nil 1, .plain .blank⟩ .nil
    refine ⟨source ++ [{}], h.append hblank, hl.append ?_, ?_, ?_⟩
    · intro s hs op name hi
      cases List.mem_singleton.mp hs
      cases hi
    · rw [labels_append]
      exact List.append_nil _
    · simp [program, instructionsFrom_append, labelsFrom_append, instructionsFrom, labelsFrom]

end Source

theorem shortLines_gap {gap : List (List Char)} (hg : gap = [] ∨ gap = [[]]) (line : Nat) :
    ShortLines line gap := by
  obtain rfl | rfl := hg
  · exact shortLines_nil line
  · have hshort := (shortLine_iff (Token.scan_nil line)).mpr shortNumerals_nil
    exact shortLines_cons.mpr ⟨hshort, shortLines_nil _⟩

/-- Two texts that assemble and share no label assemble to the second program behind the first. -/
theorem assemble_join {first second : String} {a b : Program} (ha : assemble first = .ok a)
    (hb : assemble second = .ok b)
    (hd : ∀ name ∈ a.labels.map (·.1), name ∉ b.labels.map (·.1)) :
    ∃ lines, assemble (first ++ "\n" ++ second) = .ok (a.join b lines) := by
  obtain ⟨hs, source, hw, hn, hl, rfl⟩ := assemble_eq_ok_iff.mp ha
  obtain ⟨hs', source', hw', hn', hl', rfl⟩ := assemble_eq_ok_iff.mp hb
  have hd : ∀ name ∈ source.labels, name ∉ source'.labels := by
    rw [← Source.keys_labelsFrom 0 source, ← Source.keys_labelsFrom 0 source']
    exact hd
  obtain ⟨gap, hg, hlines⟩ := lines_append first.toList second.toList
  obtain ⟨padded, hpad, hlpad, hlabels, hprogram⟩ := hw.exists_gap hl hg
  have hsplit : lines (first ++ "\n" ++ second).toList =
      lines first.toList ++ gap ++ lines second.toList := by
    rw [← hlines]
    simp
  rw [← hlabels] at hn hd
  refine ⟨padded.length, assemble_eq_ok_iff.mpr ?_⟩
  refine ⟨?_, padded ++ source', ?_, ?_, hlpad.append hl', ?_⟩
  · rw [hsplit]
    exact Source.shortLines_append (Source.shortLines_append hs (shortLines_gap hg))
      (hw'.shortLines hs')
  · rw [hsplit]
    exact hpad.append hw'
  · rw [Source.labels_append]
    refine List.nodup_append.mpr ⟨hn, hn', ?_⟩
    rintro name hname _ hname' rfl
    exact hd name hname hname'
  · rw [Source.program_append hpad hw' hlpad hl' hd, hprogram]

/-- Of two texts that assemble and share no label, the one behind the other assembles. Its
instructions and labels are those of the first text, and behind them those of the second, of which
jumps and labels are moved by the length of the first program. -/
theorem assemble_concatenation {first second : String} {a b : Program}
    (ha : assemble first = .ok a) (hb : assemble second = .ok b)
    (hd : ∀ name ∈ a.labels.map (·.1), name ∉ b.labels.map (·.1)) :
    ∃ c, assemble (first ++ "\n" ++ second) = .ok c ∧
      c.instructions.toList.map (fun i => (i.opcode, i.operand)) =
        a.instructions.toList.map (fun i => (i.opcode, i.operand)) ++
          b.instructions.toList.map (fun i =>
            (i.opcode, i.operand.shift a.size i.opcode.operandKind)) ∧
      c.labels = a.labels ++ b.labels.map (fun (name, position) => (name, position + a.size)) := by
  obtain ⟨lines, hc⟩ := assemble_join ha hb hd
  refine ⟨_, hc, ?_, rfl⟩
  simp [Program.join, Instruction.shift]

/-- A program that jumps to the label at its end. -/
def skipsHalt : Program where
  instructions := #[⟨.push, .int 3, some 1⟩, ⟨.jump, .int 3, some 2⟩, ⟨.halt, .none, some 3⟩]
  labels := [("next", 3)]

def printsForever : Program where
  instructions := #[⟨.dup, .none, some 1⟩, ⟨.print, .none, some 2⟩, ⟨.jumpNonzero, .int 0, some 3⟩]
  labels := [("loop", 0)]

/-- The line feed between the texts belongs to the carriage return at the end of the first. -/
theorem skipsHalt_printsForever :
    assemble "PUSH 3\nJMP next\nHALT\nnext:\r" = .ok skipsHalt ∧
    assemble "loop: DUP\nPRINT\nJMPNZ loop" = .ok printsForever ∧
    (∀ name ∈ skipsHalt.labels.map (·.1), name ∉ printsForever.labels.map (·.1)) ∧
    ∃ c, assemble ("PUSH 3\nJMP next\nHALT\nnext:\r" ++ "\n" ++
        "loop: DUP\nPRINT\nJMPNZ loop") = .ok c ∧
      c.instructions.toList.map (fun i => (i.opcode, i.operand)) =
        [(.push, .int 3), (.jump, .int 3), (.halt, .none), (.dup, .none), (.print, .none),
          (.jumpNonzero, .int 3)] ∧
      c.labels = [("next", 3), ("loop", 3)] := by
  have ha : (assemble "PUSH 3\nJMP next\nHALT\nnext:\r").toOption = some skipsHalt := by
    decide +kernel
  have hb : (assemble "loop: DUP\nPRINT\nJMPNZ loop").toOption = some printsForever := by
    decide +kernel
  have ha := toOption_eq_some_iff.mp ha
  have hb := toOption_eq_some_iff.mp hb
  have hd : ∀ name ∈ skipsHalt.labels.map (·.1), name ∉ printsForever.labels.map (·.1) := by decide
  exact ⟨ha, hb, hd, assemble_concatenation ha hb hd⟩

end StackMachine
