import StackMachine.Proofs.Lexeme
import StackMachine.Proofs.Source

/-! Statements and the lines that spell them. A name can stand in a line as it is, an integer in
decimal, and a text in quotes with its escapes. -/
namespace StackMachine
open Text Assembly

theorem Token.isIdentPart_of_isIdentStart {c : Char} (h : isIdentStart c = true) :
    isIdentPart c = true := by
  simp only [isIdentStart, isIdentPart, Bool.or_eq_true] at h ⊢
  exact h.imp_left .inl

theorem Token.not_isLineBreak_of_isIdentPart {c : Char} (h : isIdentPart c = true) :
    isLineBreak c = false := by
  refine Bool.eq_false_iff.mpr fun hb => ?_
  have hall : lineBreaks.all (fun d => !isIdentPart d) = true := by decide +kernel
  have hpart := List.all_eq_true.mp hall c (List.contains_iff_mem.mp hb)
  rw [h] at hpart
  cases hpart

/-- A word that is one identifier. -/
def IsName (name : String) : Prop :=
  name.toList.head?.any Token.isIdentStart = true ∧ name.toList.tail.all Token.isIdentPart = true

instance (name : String) : Decidable (IsName name) := inferInstanceAs (Decidable (_ ∧ _))

/-- A text that a string on one line can stand for: it has no line break but line feeds. -/
def IsContent (text : String) : Prop := ∀ c ∈ text.toList, isLineBreak c = true → c = '\n'

theorem isName_iff {name : String} :
    IsName name ↔ Token.Lexeme .ident name.toList name.toList := by
  unfold IsName
  cases name.toList with
  | nil =>
    refine iff_of_false (fun h => Bool.false_ne_true h.1) ?_
    rintro ⟨⟩
  | cons c letters =>
    constructor
    · rintro ⟨hc, hl⟩
      exact .ident hc (List.all_eq_true.mp hl)
    · rintro (_ | _ | _ | _ | ⟨hc, hl⟩)
      exact ⟨hc, List.all_eq_true.mpr hl⟩

theorem isName_mnemonic (op : Opcode) : IsName op.mnemonic := by cases op <;> decide

theorem IsName.isIdentPart {name : String} (h : IsName name) {c : Char} (hc : c ∈ name.toList) :
    Token.isIdentPart c = true := by
  unfold IsName at h
  cases hn : name.toList with
  | nil =>
    rw [hn] at hc
    cases hc
  | cons d letters =>
    rw [hn] at h hc
    obtain rfl | hc := List.mem_cons.mp hc
    · exact Token.isIdentPart_of_isIdentStart h.1
    · exact List.all_eq_true.mp h.2 c hc

theorem IsName.unbroken {name : String} (h : IsName name) {c : Char} (hc : c ∈ name.toList) :
    isLineBreak c = false :=
  Token.not_isLineBreak_of_isIdentPart (h.isIdentPart hc)

theorem IsName.ne_nil {name : String} (h : IsName name) : name.toList ≠ [] := by
  intro hn
  rw [IsName, hn] at h
  exact Bool.false_ne_true h.1

namespace Token
variable {line : Int} {col : Nat} {cs word body text : List Char} {tokens : List Token} {t : Token}

theorem Lexes.exists_lexeme (h : Lexes line col cs tokens) (ht : t ∈ tokens) :
    ∃ word, Lexeme t.kind word t.text.toList ∧ ∀ c ∈ word, c ∈ cs := by
  induction h with
  | done | comment => cases ht
  | gap _ _ ih =>
    obtain ⟨word, hl, hw⟩ := ih ht
    exact ⟨word, hl, fun c hc => List.mem_cons_of_mem _ (hw c hc)⟩
  | @lexeme col kind word text rest tokens hl _ _ ih =>
    obtain rfl | ht := List.mem_cons.mp ht
    · exact ⟨word, by rwa [String.toList_ofList], fun c hc => List.mem_append_left _ hc⟩
    · obtain ⟨word', hl', hw⟩ := ih ht
      exact ⟨word', hl', fun c hc => List.mem_append_right _ (hw c hc)⟩

theorem unescape?_unbroken {c d : Char} (h : unescape? c = some d) (hb : isLineBreak d = true) :
    d = '\n' := by
  unfold unescape? at h
  split at h
  all_goals cases h
  · rfl
  all_goals exact absurd hb (by decide)

theorem Quoted.content (h : Quoted body text) (hu : ∀ c ∈ body, isLineBreak c = false) {c : Char}
    (hc : c ∈ text) (hb : isLineBreak c = true) : c = '\n' := by
  induction h with
  | nil => cases hc
  | plain _ _ _ ih =>
    obtain ⟨hd, hu⟩ := List.forall_mem_cons.mp hu
    obtain rfl | hc := List.mem_cons.mp hc
    · rw [hd] at hb
      cases hb
    · exact ih hu hc
  | escape he _ ih =>
    obtain ⟨-, hu⟩ := List.forall_mem_cons.mp hu
    obtain rfl | hc := List.mem_cons.mp hc
    · exact unescape?_unbroken he hb
    · exact ih (List.forall_mem_cons.mp hu).2 hc

theorem Lexes.isName (h : Lexes line col cs tokens) (ht : t ∈ tokens) (hk : t.kind = .ident) :
    IsName t.text := by
  obtain ⟨word, hl, -⟩ := h.exists_lexeme ht
  rw [hk] at hl
  refine isName_iff.mpr ?_
  generalize t.text.toList = text at hl
  cases hl with
  | ident hc hl => exact .ident hc hl

theorem Lexes.isContent (h : Lexes line col cs tokens) (hu : ∀ c ∈ cs, isLineBreak c = false)
    (ht : t ∈ tokens) (hk : t.kind = .string) : IsContent t.text := by
  obtain ⟨word, hl, hw⟩ := h.exists_lexeme ht
  rw [hk] at hl
  unfold IsContent
  generalize t.text.toList = text at hl
  cases hl with
  | string hq =>
    refine fun c hc => hq.content (fun d hd => hu d (hw d ?_)) hc
    simp [hd]

end Token

/-- A double quote gets a backslash. -/
def escapeQuote (c : Char) : List Char := if c == '"' then ['\\', '"'] else [c]

/-- A text in quotes, as a line has it. -/
def literal (text : String) : String :=
  String.ofList ('"' :: ((escapeText text).toList.flatMap escapeQuote ++ ['"']))

theorem escapeChar_cases (c : Char) :
    (∃ e, Token.unescape? e = some c ∧ isLineBreak e = false ∧
      (escapeChar c).flatMap escapeQuote = ['\\', e]) ∨
    c ≠ '"' ∧ c ≠ '\\' ∧ c ≠ '\n' ∧ (escapeChar c).flatMap escapeQuote = [c] := by
  by_cases hb : c = '\\'
  · subst hb
    exact .inl ⟨'\\', by decide⟩
  · by_cases hn : c = '\n'
    · subst hn
      exact .inl ⟨'n', by decide⟩
    · by_cases ht : c = '\t'
      · subst ht
        exact .inl ⟨'t', by decide⟩
      · by_cases hq : c = '"'
        · subst hq
          exact .inl ⟨'"', by decide⟩
        · exact .inr ⟨hq, hb, hn, by simp [escapeChar, escapeQuote, hb, hn, ht, hq]⟩

theorem quoted_escaped (cs : List Char) :
    Token.Quoted ((cs.flatMap escapeChar).flatMap escapeQuote) cs := by
  induction cs with
  | nil => exact .nil
  | cons c cs ih =>
    rw [List.flatMap_cons, List.flatMap_append]
    obtain ⟨e, he, -, hc⟩ | ⟨hq, hb, -, hc⟩ := escapeChar_cases c
    · rw [hc]
      exact .escape he ih
    · rw [hc]
      exact .plain hq hb ih

theorem lexeme_literal (text : String) :
    Token.Lexeme .string (literal text).toList text.toList := by
  rw [literal, String.toList_ofList, escapeText_toList]
  exact .string (quoted_escaped text.toList)

theorem escapeChar_unbroken {c d : Char} (hc : isLineBreak c = true → c = '\n')
    (hd : d ∈ (escapeChar c).flatMap escapeQuote) : isLineBreak d = false := by
  obtain ⟨e, -, he, h⟩ | ⟨-, -, hn, h⟩ := escapeChar_cases c
  · rw [h, List.mem_cons, List.mem_singleton] at hd
    obtain rfl | rfl := hd
    · decide
    · exact he
  · rw [h, List.mem_singleton] at hd
    rw [hd]
    exact Bool.eq_false_iff.mpr fun hb => hn (hc hb)

theorem IsContent.unbroken {text : String} (h : IsContent text) {c : Char}
    (hc : c ∈ (literal text).toList) : isLineBreak c = false := by
  rw [literal, String.toList_ofList, escapeText_toList, List.flatMap_assoc, List.mem_cons,
    List.mem_append, List.mem_flatMap, List.mem_singleton] at hc
  obtain rfl | ⟨d, hd, hc⟩ | rfl := hc
  · decide
  · exact escapeChar_unbroken (h d hd) hc
  · decide

theorem toDigits_eq_cons (n : Nat) : ∃ d digits, Nat.toDigits 10 n = d :: digits ∧
    d.isDigit = true ∧ ∀ e ∈ digits, e.isDigit = true := by
  have hall (c : Char) (hc : c ∈ Nat.toDigits 10 n) : c.isDigit = true :=
    Nat.isDigit_of_mem_toDigits (by decide) (by decide) hc
  cases hn : Nat.toDigits 10 n with
  | nil => exact absurd hn Nat.toDigits_ne_nil
  | cons d digits =>
    rw [hn] at hall
    exact ⟨d, digits, rfl, List.forall_mem_cons.mp hall⟩

/-- A negative integer is written with its sign. -/
theorem toList_toString (n : Int) : (toString n).toList =
    if n < 0 then '-' :: Nat.toDigits 10 n.natAbs else Nat.toDigits 10 n.natAbs := by
  rw [Int.toString_eq_repr, Int.repr_eq_if]
  by_cases hn : n < 0
  · rw [if_neg (Int.not_le.mpr hn), if_pos hn, show (-n).toNat = n.natAbs by omega]
    simp [Nat.repr_eq_ofList_toDigits]
  · rw [if_pos (Int.not_lt.mp hn), if_neg hn, show n.toNat = n.natAbs by omega]
    simp [Nat.repr_eq_ofList_toDigits]

theorem lexeme_int (n : Int) : Token.Lexeme .int (toString n).toList (toString n).toList := by
  obtain ⟨d, digits, h, hd, hds⟩ := toDigits_eq_cons n.natAbs
  rw [toList_toString, h]
  split
  · exact .signed (by decide) hd hds
  · exact .unsigned hd hds

theorem unbroken_toString {n : Int} {c : Char} (hc : c ∈ (toString n).toList) :
    isLineBreak c = false := by
  have hdigit (hc : c ∈ Nat.toDigits 10 n.natAbs) : isLineBreak c = false :=
    Token.not_isLineBreak_of_isIdentPart
      (Token.isIdentPart_of_isDigit (Nat.isDigit_of_mem_toDigits (by decide) (by decide) hc))
  rw [toList_toString] at hc
  split at hc
  · obtain rfl | hc := List.mem_cons.mp hc
    · decide
    · exact hdigit hc
  · exact hdigit hc

theorem splitSign_toString (n : Int) :
    Numeral.splitSign (toString n).toList = (decide (n < 0), Nat.toDigits 10 n.natAbs) := by
  rw [toList_toString]
  by_cases hn : n < 0
  · simp [hn, Numeral.splitSign]
  · obtain ⟨d, digits, h, hd, -⟩ := toDigits_eq_cons n.natAbs
    rw [if_neg hn, h, decide_eq_false hn, Numeral.splitSign]
    all_goals
      rintro _ he
      cases he
      exact absurd hd (by decide)

theorem value_toString (n : Int) : Numeral.value (toString n).toList = n := by
  simp only [Numeral.value, splitSign_toString, Nat.ofDigitChars_ten_toDigits, Numeral.signed,
    decide_eq_true_eq]
  omega

theorem digitCount_toString {n : Int} (hlo : minInt ≤ n) (hhi : n ≤ maxInt) :
    Numeral.digitCount (toString n).toList ≤ Numeral.maxDigits := by
  have habs : n.natAbs < 10 ^ 19 := by
    have hmin : minInt = -2 ^ 63 := by decide
    have hmax : maxInt = 2 ^ 63 - 1 := by decide
    omega
  rw [Numeral.digitCount, splitSign_toString]
  have hlen := (Nat.length_toDigits_le_iff (by decide) (by decide)).mpr habs
  exact Nat.le_trans hlen (by decide)

/-- An operand that a line can spell, where jumps name labels. -/
inductive Operand.Spellable : OperandKind → Operand → Prop
  | none : Spellable .none .none
  | int {n : Int} : minInt ≤ n → n ≤ maxInt → Spellable .int (.int n)
  | string {text : String} : IsContent text → Spellable .string (.text text)
  | name {name : String} : IsName name → Spellable .name (.text name)
  | label {name : String} : IsName name → Spellable .label (.text name)

theorem OperandKind.Takes.spellable {kind : OperandKind} {tokens : List Token} {operand : Operand}
    (h : kind.Takes tokens operand) (hn : ∀ t ∈ tokens, t.kind = .ident → IsName t.text)
    (hs : ∀ t ∈ tokens, t.kind = .string → IsContent t.text) :
    Operand.Spellable kind operand := by
  cases h with
  | none => exact .none
  | int _ hlo hhi => exact .int hlo hhi
  | string ht => exact .string (hs _ (List.mem_singleton_self _) ht)
  | name ht => exact .name (hn _ (List.mem_singleton_self _) ht)
  | label ht => exact .label (hn _ (List.mem_singleton_self _) ht)

namespace Statement
variable {s : Statement} {line : Nat} {cs : List Char}

theorem WrittenAs.isName (h : s.WrittenAs line cs) {name : String} (hl : s.label? = some name) :
    IsName name := by
  obtain ⟨tokens, ht, hs⟩ := h
  have hlexes := Token.scanFrom_eq_ok_iff.mp ht
  cases hs with
  | plain => cases hl
  | labelled hn _ _ =>
    cases hl
    exact hlexes.isName (List.mem_cons_self ..) hn

theorem WrittenAs.spellable (h : s.WrittenAs line cs) (hu : ∀ c ∈ cs, isLineBreak c = false)
    {op : Opcode} {operand : Operand} (hi : s.instruction? = some (op, operand)) :
    Operand.Spellable op.operandKind operand := by
  obtain ⟨tokens, ht, hs⟩ := h
  have hlexes := Token.scanFrom_eq_ok_iff.mp ht
  obtain ⟨rest, hrest, htakes⟩ : ∃ rest, (∀ t ∈ rest, t ∈ tokens) ∧
      op.operandKind.Takes rest operand := by
    cases hs with
    | plain hb =>
      cases hi
      obtain - | ⟨-, -, htakes⟩ := hb
      exact ⟨_, fun t ht => .tail _ ht, htakes⟩
    | labelled _ _ hb =>
      cases hi
      obtain - | ⟨-, -, htakes⟩ := hb
      exact ⟨_, fun t ht => .tail _ (.tail _ (.tail _ ht)), htakes⟩
  exact htakes.spellable (fun t ht => hlexes.isName (hrest t ht))
    (fun t ht => hlexes.isContent hu (hrest t ht))

end Statement

/-- The characters are one line that says so, whatever the number of the line. -/
structure Statement.Line (s : Statement) (cs : List Char) : Prop where
  spelled : ∀ line : Nat, ∃ tokens, Token.scan line cs = .ok tokens ∧ s.Spelled tokens ∧
    ShortNumerals tokens
  unbroken : ∀ c ∈ cs, isLineBreak c = false
  nonempty : cs ≠ []

theorem line_header {name : String} (h : IsName name) :
    Statement.Line ⟨some name, none⟩ (Program.header name).toList := by
  have hcs : (Program.header name).toList = name.toList ++ [':'] := by simp [Program.header]
  refine ⟨fun line => ?_, fun c hc => ?_, by simp [hcs]⟩
  · have hlexes : Token.Lexes line 1 (Program.header name).toList
        [⟨.ident, String.ofList name.toList, line, 1⟩,
          ⟨.colon, ":", line, 1 + name.toList.length⟩] :=
      .of_eq (isName_iff.mp h) (fun _ => by decide) hcs rfl
        (.of_eq .colon (by simp [Token.EndsBefore]) rfl rfl .done)
    refine ⟨_, Token.scanFrom_eq_ok_iff.mpr hlexes, ?_, by simp [ShortNumerals]⟩
    rw [String.ofList_toList]
    exact .labelled rfl rfl .blank
  · rw [hcs, List.mem_append, List.mem_singleton] at hc
    obtain hc | rfl := hc
    · exact h.unbroken hc
    · decide

theorem line_mnemonic {op : Opcode} (hk : op.operandKind = .none) :
    Statement.Line ⟨none, some (op, .none)⟩ op.mnemonic.toList := by
  have hname := isName_mnemonic op
  refine ⟨fun line => ?_, fun c hc => hname.unbroken hc, hname.ne_nil⟩
  have hlexes : Token.Lexes line 1 op.mnemonic.toList
      [⟨.ident, String.ofList op.mnemonic.toList, line, 1⟩] :=
    .of_eq (isName_iff.mp hname) (fun _ => rfl) (List.append_nil _).symm rfl .done
  refine ⟨_, Token.scanFrom_eq_ok_iff.mpr hlexes, ?_, by simp [ShortNumerals]⟩
  rw [String.ofList_toList]
  exact .plain (.instruction rfl (by simp) (by rw [hk]; exact .none))

/-- A mnemonic and an operand of one lexeme. -/
theorem lexes_operand (op : Opcode) {kind : TokenKind} {word text : String} (line : Int)
    (hl : Token.Lexeme kind word.toList text.toList) :
    Token.Lexes line 1 (op.mnemonic ++ " " ++ word).toList
      [⟨.ident, op.mnemonic, line, 1⟩, ⟨kind, text, line, 1 + op.mnemonic.toList.length + 1⟩] := by
  have hcs : (op.mnemonic ++ " " ++ word).toList = op.mnemonic.toList ++ ' ' :: word.toList := by
    simp
  have hends : Token.EndsBefore .ident (' ' :: word.toList) := fun _ =>
    (by decide : Token.isIdentPart ' ' = false)
  have hlexes : Token.Lexes line 1 (op.mnemonic ++ " " ++ word).toList
      [⟨.ident, String.ofList op.mnemonic.toList, line, 1⟩,
        ⟨kind, String.ofList text.toList, line, 1 + op.mnemonic.toList.length + 1⟩] :=
    .of_eq (isName_iff.mp (isName_mnemonic op)) hends hcs rfl
      (.gap (by decide) (.of_eq hl (fun _ => rfl) (List.append_nil _).symm rfl .done))
  rwa [String.ofList_toList, String.ofList_toList] at hlexes

theorem unbroken_operand (op : Opcode) {word : String}
    (hu : ∀ c ∈ word.toList, isLineBreak c = false) {c : Char}
    (hc : c ∈ (op.mnemonic ++ " " ++ word).toList) : isLineBreak c = false := by
  rw [String.toList_append, String.toList_append, List.append_assoc, List.mem_append] at hc
  obtain hc | hc := hc
  · exact (isName_mnemonic op).unbroken hc
  · obtain rfl | hc := List.mem_cons.mp hc
    · decide
    · exact hu c hc

theorem line_operand {op : Opcode} {kind : TokenKind} {word text : String} {operand : Operand}
    (hl : Token.Lexeme kind word.toList text.toList)
    (ht : ∀ line col, op.operandKind.Takes [⟨kind, text, line, col⟩] operand)
    (hs : kind = .int → Numeral.digitCount text.toList ≤ Numeral.maxDigits)
    (hu : ∀ c ∈ word.toList, isLineBreak c = false) :
    Statement.Line ⟨none, some (op, operand)⟩ (op.mnemonic ++ " " ++ word).toList := by
  refine ⟨fun line => ?_, fun c => unbroken_operand op hu, by simp⟩
  refine ⟨_, Token.scanFrom_eq_ok_iff.mpr (lexes_operand op line hl), ?_, ?_⟩
  · exact .plain (.instruction rfl (by simp) (ht ..))
  · exact (shortNumerals_cons_of_ne (by simp)).mpr (shortNumerals_cons.mpr ⟨hs, shortNumerals_nil⟩)

/-- The lines say so, wherever they stand in a text. -/
inductive Source.Lines : List (List Char) → Source → Prop
  | nil : Lines [] []
  | cons {cs : List Char} {lines : List (List Char)} {s : Statement} {source : Source} :
      s.Line cs → Lines lines source → Lines (cs :: lines) (s :: source)

namespace Source
variable {lines lines' : List (List Char)} {source source' : Source}

theorem Lines.append (h : Lines lines source) (h' : Lines lines' source') :
    Lines (lines ++ lines') (source ++ source') := by
  induction h with
  | nil => exact h'
  | cons hs _ ih => exact .cons hs ih

theorem Lines.writtenAs (h : Lines lines source) (line : Nat) : source.WrittenAs line lines := by
  induction h generalizing line with
  | nil => exact .nil
  | cons hs _ ih =>
    obtain ⟨tokens, ht, hw, -⟩ := hs.spelled line
    exact .cons ⟨tokens, ht, hw⟩ (ih (line + 1))

theorem Lines.shortLines (h : Lines lines source) (line : Nat) : ShortLines line lines := by
  induction h generalizing line with
  | nil => exact shortLines_nil line
  | cons hs _ ih =>
    obtain ⟨tokens, ht, -, hn⟩ := hs.spelled line
    exact shortLines_cons.mpr ⟨(shortLine_iff ht).mpr hn, ih (line + 1)⟩

theorem Lines.unbroken (h : Lines lines source) :
    ∀ cs ∈ lines, (∀ c ∈ cs, isLineBreak c = false) ∧ cs ≠ [] := by
  induction h with
  | nil => simp
  | cons hs _ ih => exact List.forall_mem_cons.mpr ⟨⟨hs.unbroken, hs.nonempty⟩, ih⟩

end Source

end StackMachine
