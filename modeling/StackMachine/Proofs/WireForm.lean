import StackMachine.Proofs.Disassembly
import StackMachine.Snapshot

/-! The one-line form of an instruction. In an assembled program it has no line break, and the
operation and the operand can be read back from it. -/
namespace StackMachine
open Text

/-- The text without its escapes. -/
def unescapeText : List Char → List Char
  | [] => []
  | '\\' :: c :: rest => (Token.unescape? c).getD c :: unescapeText rest
  | c :: rest => c :: unescapeText rest

theorem unescapeText_cons {c : Char} (h : c ≠ '\\') (rest : List Char) :
    unescapeText (c :: rest) = c :: unescapeText rest := by
  rw [unescapeText]
  rintro _ _ rfl
  exact absurd rfl h

theorem unescapeText_escaped (cs : List Char) : unescapeText (cs.flatMap escapeChar) = cs := by
  induction cs with
  | nil => rfl
  | cons c cs ih =>
    rw [List.flatMap_cons]
    by_cases hb : c = '\\'
    · subst hb
      exact congrArg ('\\' :: ·) ih
    · by_cases hn : c = '\n'
      · subst hn
        exact congrArg ('\n' :: ·) ih
      · by_cases ht : c = '\t'
        · subst ht
          exact congrArg ('\t' :: ·) ih
        · have hc : escapeChar c = [c] := by simp [escapeChar, hb, hn, ht]
          rw [hc, List.singleton_append, unescapeText_cons hb, ih]

theorem unbroken_escapeText {text : String} (h : IsContent text) {c : Char}
    (hc : c ∈ (escapeText text).toList) : isLineBreak c = false := by
  rw [escapeText_toList, List.mem_flatMap] at hc
  obtain ⟨d, hd, hc⟩ := hc
  have hquote : c ∈ escapeQuote c := by
    unfold escapeQuote
    split <;> simp_all
  exact escapeChar_unbroken (h d hd) (List.mem_flatMap.mpr ⟨c, hc, hquote⟩)

namespace Instruction
variable {i j : Instruction} {p : Program} {size : Nat}

/-- The operation that a one-line form starts with, and the operand behind the first blank. -/
def ofRender? (line : String) : Option (Opcode × Operand) :=
  let word := line.toList.takeWhile (· != ' ')
  let rest := line.toList.drop (word.length + 1)
  (Opcode.ofMnemonic? (String.ofList word)).map fun op =>
    (op, match op.operandKind with
      | .none => .none
      | .int | .label => .int (Numeral.value rest)
      | .string => .text (String.ofList (unescapeText rest))
      | .name => .text (String.ofList rest))

theorem ofRender?_mnemonic (op : Opcode) {rest : List Char}
    (hr : rest = [] ∨ ∃ cs, rest = ' ' :: cs) :
    ofRender? (String.ofList (op.mnemonic.toList ++ rest)) =
      some (op, match op.operandKind with
        | .none => .none
        | .int | .label => .int (Numeral.value (rest.drop 1))
        | .string => .text (String.ofList (unescapeText (rest.drop 1)))
        | .name => .text (String.ofList (rest.drop 1))) := by
  have hname : ∀ c ∈ op.mnemonic.toList, (c != ' ') = true := by
    intro c hc
    refine bne_iff_ne.mpr fun hblank => ?_
    have hpart := (isName_mnemonic op).isIdentPart hc
    rw [hblank] at hpart
    exact absurd hpart (by decide)
  have hword : (op.mnemonic.toList ++ rest).takeWhile (· != ' ') = op.mnemonic.toList := by
    rw [List.takeWhile_append_of_pos hname]
    obtain rfl | ⟨cs, rfl⟩ := hr <;> simp
  simp only [ofRender?, String.toList_ofList, hword, String.ofList_toList,
    Opcode.ofMnemonic?_mnemonic, Option.map_some, List.drop_length_add_append]

theorem ofRender?_operand (op : Opcode) (word : String) :
    ofRender? (op.mnemonic ++ " " ++ word) =
      some (op, match op.operandKind with
        | .none => .none
        | .int | .label => .int (Numeral.value word.toList)
        | .string => .text (String.ofList (unescapeText word.toList))
        | .name => .text word) := by
  have hline : op.mnemonic ++ " " ++ word =
      String.ofList (op.mnemonic.toList ++ ' ' :: word.toList) := by
    rw [← String.toList_inj]
    simp
  rw [hline, ofRender?_mnemonic op (.inr ⟨_, rfl⟩), List.drop_succ_cons, List.drop_zero,
    String.ofList_toList]

/-- Reading a line back gives what it was made from. -/
theorem ofRender?_render (hi : i.operand.Fits size i.opcode.operandKind) :
    ofRender? i.render = some (i.opcode, i.operand) := by
  unfold render
  cases ho : i.operand with
  | none =>
    have hline := ofRender?_mnemonic i.opcode (.inl rfl)
    rw [List.append_nil, String.ofList_toList] at hline
    cases hk : i.opcode.operandKind <;> simp [hk, ho, Operand.Fits] at hi hline ⊢
    exact hline
  | int n =>
    rw [ofRender?_operand]
    cases hk : i.opcode.operandKind <;> simp [hk, ho, Operand.Fits] at hi ⊢
    all_goals exact value_toString n
  | text s =>
    rw [ofRender?_operand]
    cases hk : i.opcode.operandKind <;> simp [hk, ho, Operand.Fits, unescapeText_escaped] at hi ⊢

theorem unbroken_render (hp : p.Printable) (hi : i ∈ p.instructions) {c : Char}
    (hc : c ∈ i.render.toList) : isLineBreak c = false := by
  obtain ⟨written, hr, hs⟩ := hp.operands i hi
  unfold render at hc
  cases ho : i.operand with
  | none =>
    rw [ho] at hc
    exact (isName_mnemonic i.opcode).unbroken hc
  | int n =>
    rw [ho] at hc
    exact unbroken_operand i.opcode (fun _ => unbroken_toString) hc
  | text s =>
    rw [ho] at hc
    refine unbroken_operand i.opcode ?_ hc
    -- Only a name or a string stands as a text in the operand, since a jump has its position.
    have hl : i.opcode.operandKind ≠ .label := by
      intro hl
      obtain ⟨_, _, -, -, ht⟩ := (Program.restates_label hl).mp hr
      rw [ho] at ht
      cases ht
    rw [Program.restates_of_kind hl, ho] at hr
    rw [← hr] at hs
    generalize i.opcode.operandKind = kind at hs hl
    cases hs with
    | string ht => exact fun d => unbroken_escapeText ht
    | name hn => exact fun d => hn.unbroken
    | label => exact absurd rfl hl

end Instruction

/-- In an assembled program every instruction is one line. Two of them, also from two programs, have
the same line only if they have the same operation and the same operand, and both can be read back
from the lines that a snapshot lists. -/
theorem wire_form_unambiguous {text : String} {p : Program} (h : assemble text = .ok p) :
    (∀ i ∈ p.instructions, ∀ c ∈ i.render.toList, isLineBreak c = false) ∧
    (∀ {text' : String} {p' : Program}, assemble text' = .ok p' →
      ∀ i ∈ p.instructions, ∀ j ∈ p'.instructions, i.render = j.render →
        i.opcode = j.opcode ∧ i.operand = j.operand) ∧
    ∀ m : Machine, m.program = p →
      (Snapshot.ofMachine m).instructions.map Instruction.ofRender? =
        p.instructions.toList.map fun i => some (i.opcode, i.operand) := by
  have hwf := (assemble_wellFormed h).operands
  refine ⟨fun i hi c => Instruction.unbroken_render (Program.assemble_printable h) hi, ?_, ?_⟩
  · intro text' p' h' i hi j hj heq
    have hread := Instruction.ofRender?_render (hwf i hi)
    rw [heq, Instruction.ofRender?_render ((assemble_wellFormed h').operands j hj),
      Option.some.injEq, Prod.mk.injEq] at hread
    exact ⟨hread.1.symm, hread.2.symm⟩
  · rintro m rfl
    change (m.program.instructions.toList.map Instruction.render).map Instruction.ofRender? = _
    rw [List.map_map]
    refine List.map_congr_left fun i hi => ?_
    exact Instruction.ofRender?_render (hwf i (Array.mem_toList_iff.mp hi))

/-- A backslash before the letter n, a tab that is written as an escape, and a number with zeros. -/
def tabbed : String := "NEWSTR \"\\\\n\\tb\"\nPUSH -007"

def tabbedProgram : Program where
  instructions := #[⟨.newString, .text "\\n\tb", some 1⟩, ⟨.push, .int (-7), some 2⟩]

/-- The same string with the tab as it is. -/
def tabbedPlain : String := "start: NEWSTR \"\\\\n\tb\" // \\t"

def tabbedPlainProgram : Program where
  instructions := #[⟨.newString, .text "\\n\tb", some 1⟩]
  labels := [("start", 0)]

theorem tabbed_wire_form : assemble tabbed = .ok tabbedProgram ∧
    assemble tabbedPlain = .ok tabbedPlainProgram ∧
    tabbedProgram.render = ["NEWSTR \\\\n\\tb", "PUSH -7"] ∧
    (∀ i ∈ tabbedProgram.instructions, ∀ c ∈ i.render.toList, isLineBreak c = false) ∧
    (∃ i ∈ tabbedProgram.instructions, ∃ j ∈ tabbedPlainProgram.instructions,
      i.render = j.render ∧ i.opcode = j.opcode ∧ i.operand = j.operand) ∧
    (Snapshot.ofMachine (.ofProgram tabbedProgram)).instructions.map Instruction.ofRender? =
      [some (.newString, .text "\\n\tb"), some (.push, .int (-7))] := by
  have hp : (assemble tabbed).toOption = some tabbedProgram := by decide +kernel
  have hp := toOption_eq_some_iff.mp hp
  have hq : (assemble tabbedPlain).toOption = some tabbedPlainProgram := by decide +kernel
  have hq := toOption_eq_some_iff.mp hq
  obtain ⟨hlines, hread, hsnapshot⟩ := wire_form_unambiguous hp
  have hi : ⟨.newString, .text "\\n\tb", some 1⟩ ∈ tabbedProgram.instructions := by
    simp [tabbedProgram]
  have hj : ⟨.newString, .text "\\n\tb", some 1⟩ ∈ tabbedPlainProgram.instructions := by
    simp [tabbedPlainProgram]
  exact ⟨hp, hq, by decide +kernel, hlines, ⟨_, hi, _, hj, rfl, hread hq _ hi _ hj rfl⟩,
    hsnapshot (.ofProgram tabbedProgram) rfl⟩

end StackMachine
