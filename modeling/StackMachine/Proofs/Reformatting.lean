import Mathlib.Logic.Relation
import StackMachine.Proofs.Content
import StackMachine.Proofs.Division
import StackMachine.Proofs.Spelling

/-! Edits of the layout of a text. Blank lines, comments, labels on lines of their own and other
line breaks change neither the instructions nor the positions of the labels. -/
namespace StackMachine
open Text Assembly

/-- Spaces, tabs and commas. -/
def IsSpacing (cs : List Char) : Prop := ∀ c ∈ cs, c = ' ' ∨ c = '\t' ∨ c = ','

instance (cs : List Char) : Decidable (IsSpacing cs) := List.decidableBAll _ cs

/-- Spacing, and perhaps a comment. -/
inductive IsFiller : List Char → Prop
  | mk {spacing : List Char} {comment? : Option (List Char)} : IsSpacing spacing →
      (∀ c ∈ Token.commentChars comment?, isLineBreak c = false) →
      IsFiller (spacing ++ Token.commentChars comment?)

/-- The definition of a label, with spacing around the name and behind the colon. -/
inductive DefinesLabel (name : String) : List Char → Prop
  | mk {before between behind : List Char} : IsSpacing before → IsSpacing between →
      IsSpacing behind → DefinesLabel name (before ++ (name.toList ++ (between ++ ':' :: behind)))

/-- A line break, or a carriage return with the line feed after it. -/
def IsTerminator (t : List Char) : Prop := t = ['\r', '\n'] ∨ ∃ c, isLineBreak c = true ∧ t = [c]

/-- What comes behind these characters starts a line. -/
def StartsLine (before : List Char) : Prop := before.getLast?.all isLineBreak = true

/-- What comes before these characters ends a line. -/
def EndsLine (after : List Char) : Prop := after.head?.all isLineBreak = true

instance (before : List Char) : Decidable (StartsLine before) := inferInstanceAs (Decidable (_ = _))

instance (after : List Char) : Decidable (EndsLine after) := inferInstanceAs (Decidable (_ = _))

/-- Edits of a text that leave alone what it says. -/
inductive LayoutEdit : List Char → List Char → Prop
  /-- A filler line above a line. -/
  | above {before filler t after : List Char} : StartsLine before → IsFiller filler →
      IsTerminator t → LayoutEdit (before ++ after) (before ++ (filler ++ t ++ after))
  /-- A filler line below a line. -/
  | below {before filler t after : List Char} : EndsLine after → IsFiller filler →
      IsTerminator t → LayoutEdit (before ++ after) (before ++ t ++ (filler ++ after))
  /-- A filler on an empty line, which may be the one behind the last line break. -/
  | fill {before filler after : List Char} : StartsLine before → EndsLine after →
      IsFiller filler → LayoutEdit (before ++ after) (before ++ (filler ++ after))
  /-- A comment at the end of a line. -/
  | comment {before line said after : List Char} : StartsLine before → EndsLine after →
      (∀ c ∈ line, isLineBreak c = false) → (∀ c ∈ said, isLineBreak c = false) →
      LayoutEdit (before ++ (line ++ after)) (before ++ (line ++ '/' :: '/' :: said ++ after))
  /-- A label on a line of its own, above what it stood in front of. -/
  | label {before label alone t indent after : List Char} {name : String} : StartsLine before →
      IsName name → DefinesLabel name label → DefinesLabel name alone → IsTerminator t →
      IsSpacing indent →
      LayoutEdit (before ++ (label ++ after)) (before ++ (alone ++ t ++ (indent ++ after)))
  /-- Another line terminator. -/
  | terminator {before t t' after : List Char} : IsTerminator t → IsTerminator t' →
      LayoutEdit (before ++ t ++ after) (before ++ t' ++ after)

theorem LayoutEdit.of_eq {cs cs' ds ds' : List Char} (h : LayoutEdit cs cs') (hc : cs = ds)
    (hc' : cs' = ds') : LayoutEdit ds ds' := by
  rwa [← hc, ← hc']

/-! ### Lines that are edited -/

section
variable {cs : List Char}

theorem IsSpacing.isGap (h : IsSpacing cs) : Token.IsGap cs := by
  intro c hc
  obtain rfl | rfl | rfl := h c hc <;> decide

theorem IsSpacing.unbroken (h : IsSpacing cs) : ∀ c ∈ cs, isLineBreak c = false := by
  intro c hc
  obtain rfl | rfl | rfl := h c hc <;> decide

theorem IsFiller.unbroken (h : IsFiller cs) : ∀ c ∈ cs, isLineBreak c = false := by
  obtain ⟨hs, hc⟩ := h
  exact List.forall_mem_append.mpr ⟨hs.unbroken, hc⟩

theorem DefinesLabel.unbroken {name : String} (h : DefinesLabel name cs) (hn : IsName name) :
    ∀ c ∈ cs, isLineBreak c = false := by
  obtain ⟨hbefore, hbetween, hbehind⟩ := h
  simp only [List.forall_mem_append, List.forall_mem_cons]
  exact ⟨hbefore.unbroken, fun c => hn.unbroken, hbetween.unbroken, by decide, hbehind.unbroken⟩

end

namespace Token

/-- The tokens of a label come before those of what it stands in front of. -/
theorem scanFrom_label {name : String} {label : List Char} (h : DefinesLabel name label)
    (hn : IsName name) (line : Int) (col : Nat) : ∃ head colon col',
      head.kind = .ident ∧ head.text = name ∧ colon.kind = .colon ∧
      ∀ rest, scanFrom line col (label ++ rest) =
        (scanFrom line col' rest).map fun tokens => head :: colon :: tokens := by
  obtain @⟨before, between, behind, hbefore, hbetween, hbehind⟩ := h
  refine ⟨⟨.ident, String.ofList name.toList, line, col + before.length⟩,
    ⟨.colon, ":", line, col + before.length + name.toList.length + between.length⟩,
    col + before.length + name.toList.length + between.length + 1 + behind.length,
    rfl, String.ofList_toList, rfl, fun rest => ?_⟩
  have hends : EndsBefore .ident (between ++ ':' :: (behind ++ rest)) := by
    intro _
    cases between with
    | nil => rfl
    | cons c between =>
      have hc : isIdentPart c = false := by
        obtain rfl | rfl | rfl := hbetween c List.mem_cons_self <;> decide
      exact hc
  have hcolon : EndsBefore .colon (behind ++ rest) := by simp [EndsBefore]
  simp only [List.append_assoc, List.cons_append]
  rw [scanFrom_gap_append hbefore.isGap, scanFrom_lexeme (isName_iff.mp hn) hends,
    scanFrom_gap_append hbetween.isGap, ← List.singleton_append, scanFrom_lexeme .colon hcolon,
    scanFrom_gap_append hbehind.isGap]
  cases scanFrom line _ rest <;> rfl

/-- A comment may follow whatever a line ends in. -/
theorem Lexes.append_comment {line : Int} {col : Nat} {cs : List Char} {tokens : List Token}
    (h : Lexes line col cs tokens) (said : List Char) :
    Lexes line col (cs ++ '/' :: '/' :: said) tokens := by
  induction h with
  | done | comment => exact .comment
  | gap hg _ ih => exact .gap hg ih
  | @lexeme _ _ _ _ rest _ hl hr _ ih =>
    rw [List.append_assoc]
    refine .lexeme hl (fun hk => ?_) ih
    cases rest with
    | nil => exact (by decide : isIdentPart '/' = false)
    | cons => exact hr hk

end Token

namespace Statement
variable {s : Statement} {cs : List Char}

theorem reads_filler (h : IsFiller cs) : Reads {} cs := by
  obtain @⟨_, comment?, hs, -⟩ := h
  refine ⟨[], Token.Lexes.gap_append hs.isGap ?_, .plain .blank, shortNumerals_nil⟩
  cases comment? with
  | none => exact .done
  | some said => exact .comment

theorem Reads.append_comment (h : s.Reads cs) (said : List Char) :
    s.Reads (cs ++ '/' :: '/' :: said) := by
  obtain ⟨tokens, hlexes, hs, hn⟩ := h
  exact ⟨tokens, hlexes.append_comment said, hs, hn⟩

theorem Reads.indent {indent : List Char} (h : s.Reads cs) (hi : IsSpacing indent) :
    s.Reads (indent ++ cs) := by
  obtain ⟨tokens, hlexes, hs, hn⟩ := h
  obtain ⟨tokens', hlexes, hsaid⟩ := hlexes.moved 1 (1 + indent.length)
  exact reads_of_lexes (hlexes.gap_append hi.isGap) (hs.of_said hsaid) (hn.of_said hsaid)

theorem reads_label {name : String} {label : List Char} (h : DefinesLabel name label)
    (hn : IsName name) : Reads ⟨some name, none⟩ label := by
  obtain ⟨head, colon, _, hh, rfl, hc, hscan⟩ := Token.scanFrom_label h hn 1 1
  have ht := hscan []
  rw [List.append_nil, Token.Lexes.done.scanFrom] at ht
  refine ⟨_, Token.scanFrom_eq_ok_iff.mp ht, .labelled hh hc .blank, ?_⟩
  rw [shortNumerals_cons_of_ne (by simp [hh]), shortNumerals_cons_of_ne (by simp [hc])]
  exact shortNumerals_nil

theorem Reads.behind_label {name : String} {label rest : List Char} (h : s.Reads (label ++ rest))
    (hl : DefinesLabel name label) (hn : IsName name) :
    s.label? = some name ∧ Reads ⟨none, s.instruction?⟩ rest := by
  obtain ⟨tokens, hlexes, hs, hshort⟩ := h
  obtain ⟨head, colon, col, hh, rfl, hc, hscan⟩ := Token.scanFrom_label hl hn 1 1
  have ht := (hscan rest).symm.trans hlexes.scanFrom
  cases hrest : Token.scanFrom 1 col rest with
  | error e =>
    rw [hrest] at ht
    cases ht
  | ok tokens' =>
    rw [hrest] at ht
    cases ht
    have hsplit : splitLabel (head :: colon :: tokens') = (some head.text, tokens') := by
      simp [splitLabel, hh, hc]
    obtain ⟨hlabel, hbody⟩ := spelled_iff.mp hs
    have hshort := shortNumerals_splitLabel.mpr hshort
    rw [hsplit] at hlabel hbody hshort
    exact ⟨hlabel, reads_of_lexes (Token.lexes_of_scanFrom hrest) (.plain hbody) hshort⟩

end Statement

/-! ### Pieces around an edit -/

/-- Lines that say nothing. -/
def Blank (ls : List (List Char)) : Prop := ∀ content, Conveys ls content ↔ content = []

theorem blank_nil : Blank [] := by
  intro content
  constructor
  · rintro ⟨⟩
    rfl
  · rintro rfl
    exact .nil

theorem blank_cons {cs : List Char} {ls : List (List Char)} (hs : Statement.Reads {} cs)
    (h : Blank ls) : Blank (cs :: ls) := by
  intro content
  rw [conveys_blank_iff hs]
  exact h content

theorem Blank.append {ls ls' : List (List Char)} (h : Blank ls) (h' : Blank ls') :
    Blank (ls ++ ls') := by
  intro content
  rw [conveys_append_iff]
  constructor
  · rintro ⟨_, _, hfirst, hlast, rfl⟩
    rw [(h _).mp hfirst, (h' _).mp hlast, List.append_nil]
  · rintro rfl
    exact ⟨[], [], (h _).mpr rfl, (h' _).mpr rfl, rfl⟩

theorem IsFiller.blank {cs : List Char} (h : IsFiller cs) : Blank [cs] :=
  blank_cons (Statement.reads_filler h) blank_nil

namespace Conveys
variable {first last ls ls' : List (List Char)} {content : Source}

theorem replace_blank (h : Conveys (first ++ ls ++ last) content) (hb : Blank ls)
    (hb' : Blank ls') : Conveys (first ++ ls' ++ last) content :=
  replace (fun hc => (hb' _).mpr ((hb _).mp hc)) h

theorem insert_blank (h : Conveys (first ++ last) content) (hb : Blank ls) :
    Conveys (first ++ ls ++ last) content := by
  rw [← List.append_nil first] at h
  exact h.replace_blank blank_nil hb

theorem split_label {label alone indent rest : List Char} {gap : List (List Char)} {name : String}
    (h : Conveys [label ++ rest] content) (hn : IsName name) (hl : DefinesLabel name label)
    (hl' : DefinesLabel name alone) (hi : IsSpacing indent) (hgap : Blank gap) :
    Conveys ([alone] ++ gap ++ [indent ++ rest]) content := by
  obtain ⟨⟨label?, instruction?⟩, hs, rfl⟩ := conveys_singleton_iff.mp h
  obtain ⟨hlabel, hrest⟩ := hs.behind_label hl hn
  cases hlabel
  rw [Statement.spread_labelled]
  refine insert_blank (.cons (Statement.reads_label hl' hn) ?_) hgap
  exact conveys_singleton_iff.mpr ⟨_, hrest.indent hi, rfl⟩

end Conveys

section
variable {before after t : List Char}

theorem StartsLine.pieces_append (h : StartsLine before) :
    ∃ ps, ∀ rest, pieces (before ++ rest) = ps ++ pieces rest := by
  cases hl : before.getLast? with
  | none =>
    rw [List.getLast?_eq_none_iff.mp hl]
    exact ⟨[], fun _ => rfl⟩
  | some c =>
    rw [StartsLine, hl] at h
    obtain ⟨init, rfl⟩ := List.getLast?_eq_some_iff.mp hl
    refine ⟨pieces init, fun rest => ?_⟩
    rw [List.append_assoc, List.singleton_append, pieces_append_break h]

theorem EndsLine.append_pieces (h : EndsLine after) :
    ∃ ps, ∀ front, pieces (front ++ after) = pieces front ++ ps := by
  cases after with
  | nil => exact ⟨[], fun front => by simp⟩
  | cons c rest => exact ⟨pieces rest, fun front => pieces_append_break h front rest⟩

theorem IsTerminator.pieces_append (h : IsTerminator t) : ∃ gap, Blank gap ∧
    ∀ front rest, pieces (front ++ t ++ rest) = pieces front ++ gap ++ pieces rest := by
  obtain rfl | ⟨c, hc, rfl⟩ := h
  · refine ⟨[[]], blank_cons Statement.reads_nil blank_nil, fun front rest => ?_⟩
    rw [List.append_assoc, List.cons_append, List.singleton_append,
      pieces_append_break (by decide), pieces_break (by decide)]
    simp
  · refine ⟨[], blank_nil, fun front rest => ?_⟩
    rw [List.append_assoc, List.singleton_append, pieces_append_break hc, List.append_nil]

end

/-- An edit leaves the content of a text alone. -/
theorem LayoutEdit.conveys {cs cs' : List Char} {content : Source} (h : LayoutEdit cs cs')
    (hc : Conveys (pieces cs) content) : Conveys (pieces cs') content := by
  cases h with
  | above hb hf ht =>
    obtain ⟨first, hfirst⟩ := hb.pieces_append
    obtain ⟨gap, hgap, hsplit⟩ := ht.pieces_append
    rw [hfirst] at hc
    rw [hfirst, hsplit, pieces_of_unbroken hf.unbroken, ← List.append_assoc]
    exact hc.insert_blank (hf.blank.append hgap)
  | @below _ _ _ after ha hf ht =>
    obtain ⟨last, hlast⟩ := ha.append_pieces
    obtain ⟨gap, hgap, hsplit⟩ := ht.pieces_append
    rw [hlast] at hc
    rw [hsplit, hlast, pieces_of_unbroken hf.unbroken, ← List.append_assoc,
      List.append_assoc (pieces _)]
    exact hc.insert_blank (hgap.append hf.blank)
  | @fill before filler after hb ha hf =>
    obtain ⟨first, hfirst⟩ := hb.pieces_append
    obtain ⟨last, hlast⟩ := ha.append_pieces
    have hafter : pieces after = [[]] ++ last := hlast []
    rw [hfirst, hafter, ← List.append_assoc] at hc
    rw [hfirst, hlast, pieces_of_unbroken hf.unbroken, ← List.append_assoc]
    exact hc.replace_blank (blank_cons Statement.reads_nil blank_nil) hf.blank
  | @comment before line said after hb ha hline hsaid =>
    obtain ⟨first, hfirst⟩ := hb.pieces_append
    obtain ⟨last, hlast⟩ := ha.append_pieces
    have hcomment : ∀ c ∈ line ++ '/' :: '/' :: said, isLineBreak c = false := by
      simp only [List.forall_mem_append, List.forall_mem_cons]
      exact ⟨hline, by decide, by decide, hsaid⟩
    rw [hfirst, hlast, pieces_of_unbroken hline, ← List.append_assoc] at hc
    rw [hfirst, hlast, pieces_of_unbroken hcomment, ← List.append_assoc]
    refine hc.replace fun hc => ?_
    obtain ⟨s, hs, rfl⟩ := conveys_singleton_iff.mp hc
    exact conveys_singleton_iff.mpr ⟨s, hs.append_comment said, rfl⟩
  | @label _ label alone _ indent after _ hb hn hl hl' ht hi =>
    obtain ⟨first, hfirst⟩ := hb.pieces_append
    obtain ⟨gap, hgap, hsplit⟩ := ht.pieces_append
    obtain ⟨rest, last, hafter⟩ := exists_pieces after
    rw [hfirst, pieces_append (hl.unbroken hn) hafter] at hc
    rw [hfirst, hsplit, pieces_of_unbroken (hl'.unbroken hn), pieces_append hi.unbroken hafter]
    have hc : Conveys (first ++ [label ++ rest] ++ last) content := by simpa using hc
    simpa using hc.replace fun hc => hc.split_label hn hl hl' hi hgap
  | terminator ht ht' =>
    obtain ⟨gap, hgap, hsplit⟩ := ht.pieces_append
    obtain ⟨gap', hgap', hsplit'⟩ := ht'.pieces_append
    rw [hsplit] at hc
    rw [hsplit']
    exact hc.replace_blank hgap hgap'

theorem Conveys.edits {cs cs' : List Char} {content : Source} (h : Conveys (pieces cs) content)
    (he : Relation.ReflTransGen LayoutEdit cs cs') : Conveys (pieces cs') content := by
  induction he with
  | refl => exact h
  | tail _ hedit ih => exact hedit.conveys ih

/-- Edits of the layout of a text that assembles, as many as there may be, change neither the
operations, nor their operands, nor the positions of the labels. -/
theorem assemble_reformatted {text text' : String} {p : Program} (h : assemble text = .ok p)
    (he : Relation.ReflTransGen LayoutEdit text.toList text'.toList) :
    ∃ q, assemble text' = .ok q ∧
      q.instructions.toList.map (fun i => (i.opcode, i.operand)) =
        p.instructions.toList.map (fun i => (i.opcode, i.operand)) ∧ q.labels = p.labels := by
  obtain ⟨content, hc, hn, hl, hparts, hlabels⟩ := exists_content h
  obtain ⟨q, hq, hparts', hlabels'⟩ := (hc.edits he).exists_program hn hl
  exact ⟨q, hq, hparts'.trans hparts.symm, hlabels'.trans hlabels.symm⟩

def printsTwo : String := "PUSH 2\nloop: DUP\nPRINT\nJMP loop"

def printsTwoProgram : Program where
  instructions := #[⟨.push, .int 2, some 1⟩, ⟨.dup, .none, some 2⟩, ⟨.print, .none, some 3⟩,
    ⟨.jump, .int 1, some 4⟩]
  labels := [("loop", 1)]

/-- With a line that is a comment, one that ends in one, and a label on its own, where other line
breaks come between. -/
def printsTwoEdited : String := ",\t// top\x0bPUSH 2// two\nloop:\r\n DUP\nPRINT\u2028JMP loop"

theorem printsTwo_reformatted : assemble printsTwo = .ok printsTwoProgram ∧
    Relation.ReflTransGen LayoutEdit printsTwo.toList printsTwoEdited.toList ∧
    ∃ q, assemble printsTwoEdited = .ok q ∧
      q.instructions.toList.map (fun i => (i.opcode, i.operand)) =
        printsTwoProgram.instructions.toList.map (fun i => (i.opcode, i.operand)) ∧
      q.labels = printsTwoProgram.labels := by
  have hp : (assemble printsTwo).toOption = some printsTwoProgram := by decide +kernel
  have hp := toOption_eq_some_iff.mp hp
  have hfiller : IsFiller (",\t".toList ++ Token.commentChars (some " top".toList)) :=
    .mk (by decide +kernel) (by simp [Token.commentChars, isLineBreak, lineBreaks])
  have habove := @LayoutEdit.above [] _ ['\x0b'] printsTwo.toList (by decide) hfiller
    (.inr ⟨_, by decide, rfl⟩)
  have hcomment := @LayoutEdit.comment ",\t// top\x0b".toList "PUSH 2".toList " two".toList
    "\nloop: DUP\nPRINT\nJMP loop".toList (by decide +kernel) (by decide +kernel)
    (by simp [isLineBreak, lineBreaks]) (by simp [isLineBreak, lineBreaks])
  have hlabel := @LayoutEdit.label ",\t// top\x0bPUSH 2// two\n".toList _ _ ['\r', '\n'] [' ']
    "DUP\nPRINT\nJMP loop".toList "loop" (by decide +kernel) (by decide +kernel)
    (@DefinesLabel.mk _ [] [] [' '] (by decide) (by decide) (by decide))
    (@DefinesLabel.mk _ [] [] [] (by decide) (by decide) (by decide)) (.inl rfl) (by decide)
  have hterminator := @LayoutEdit.terminator
    ",\t// top\x0bPUSH 2// two\nloop:\r\n DUP\nPRINT".toList ['\n'] ['\u2028'] "JMP loop".toList
    (.inr ⟨_, by decide, rfl⟩) (.inr ⟨_, by decide, rfl⟩)
  have he : Relation.ReflTransGen LayoutEdit printsTwo.toList printsTwoEdited.toList :=
    (((Relation.ReflTransGen.single habove).tail
      (hcomment.of_eq (by decide +kernel) rfl)).tail
      (hlabel.of_eq (by decide +kernel) rfl)).tail
      (hterminator.of_eq (by decide +kernel) (by decide +kernel))
  exact ⟨hp, he, assemble_reformatted hp he⟩

end StackMachine
