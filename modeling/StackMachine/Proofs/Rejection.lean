import StackMachine.Proofs.Layout
import StackMachine.Proofs.LexicalFlaw
import StackMachine.Proofs.Spelling

/-! Why a text is rejected. An error names the line that is at fault and what is wrong with its
text, unless a numeral is too long to be converted. -/
namespace StackMachine
open Text Assembly

/-- What is wrong with the tokens behind a mnemonic. -/
inductive Opcode.Flaw (op : Opcode) : List Token → ParseCause → Prop
  | colon {tokens : List Token} {t : Token} : t ∈ tokens → t.kind = .colon →
      Flaw op tokens .strayColon
  | unwanted {t : Token} {rest : List Token} : op.operandKind = .none →
      Flaw op (t :: rest) (.takesNoOperand op t.text)
  | missing : op.operandKind ≠ .none → Flaw op [] (.operandMissing op)
  | several {tokens : List Token} : op.operandKind ≠ .none → 1 < tokens.length →
      Flaw op tokens (.tooManyOperands op tokens.length)
  | kind {t : Token} : op.operandKind ≠ .none → tokenKind? op.operandKind ≠ some t.kind →
      Flaw op [t] (.wrongOperand op t.text)
  | range {t : Token} : op.operandKind = .int → t.kind = .int →
      Numeral.digitCount t.text.toList ≤ Numeral.maxDigits →
      ¬ (minInt ≤ Numeral.value t.text.toList ∧ Numeral.value t.text.toList ≤ maxInt) →
      Flaw op [t] (.integerTooWide t.text)

/-- What is wrong with the tokens of an instruction. -/
inductive Statement.Flaw : List Token → ParseCause → Prop
  | noMnemonic {head : Token} {rest : List Token} : head.kind ≠ .ident →
      Flaw (head :: rest) (.noMnemonic head.text)
  | unknown {head : Token} {rest : List Token} : head.kind = .ident →
      Opcode.ofMnemonic? head.text = none → Flaw (head :: rest) (.unknownInstruction head.text)
  | operand {head : Token} {rest : List Token} {op : Opcode} {cause : ParseCause} :
      head.kind = .ident → Opcode.ofMnemonic? head.text = some op → op.Flaw rest cause →
      Flaw (head :: rest) cause

/-- An instruction whose operand is an integer of that many digits, too many to convert. -/
inductive Statement.Overlong : List Token → Nat → Prop
  | mk {head t : Token} {op : Opcode} : head.kind = .ident →
      Opcode.ofMnemonic? head.text = some op → op.operandKind = .int → t.kind = .int →
      Numeral.maxDigits < Numeral.digitCount t.text.toList →
      Overlong [head, t] (Numeral.digitCount t.text.toList)

theorem Opcode.Flaw.kind_ne {op : Opcode} {tokens : List Token} {cause : ParseCause}
    (h : op.Flaw tokens cause) : cause.kind ≠ .undefinedLabel := by
  cases h <;> exact nofun

theorem Statement.Flaw.kind_ne {tokens : List Token} {cause : ParseCause} (h : Flaw tokens cause) :
    cause.kind ≠ .undefinedLabel := by
  cases h with
  | noMnemonic | unknown => exact nofun
  | operand _ _ hf => exact hf.kind_ne

namespace Assembly
variable {line : Nat} {tokens : List Token} {e : AssemblyError}

theorem readInt_error {literal : String} (h : readInt line literal = .error e) :
    (Numeral.digitCount literal.toList ≤ Numeral.maxDigits ∧
      ¬ (minInt ≤ Numeral.value literal.toList ∧ Numeral.value literal.toList ≤ maxInt) ∧
      e = .parse ⟨line, .integerTooWide literal⟩) ∨
    (Numeral.maxDigits < Numeral.digitCount literal.toList ∧
      e = .numeralTooLong (Numeral.digitCount literal.toList)) := by
  rw [readInt_eq] at h
  split at h
  · rename_i hd
    split at h
    · cases h
    · rename_i hr
      cases h
      exact .inl ⟨hd, hr, rfl⟩
  · rename_i hd
    cases h
    exact .inr ⟨Nat.lt_of_not_le hd, rfl⟩

theorem tokenKind?_eq_none_iff {kind : OperandKind} : tokenKind? kind = none ↔ kind = .none := by
  cases kind <;> simp [tokenKind?]

theorem tokenKind?_eq_int_iff {kind : OperandKind} :
    tokenKind? kind = some .int ↔ kind = .int := by
  cases kind <;> simp [tokenKind?]

theorem readOperand_error {op : Opcode} (h : readOperand line op tokens = .error e) :
    (∃ cause, e = .parse ⟨line, cause⟩ ∧ op.Flaw tokens cause) ∨
      ∃ t, tokens = [t] ∧ op.operandKind = .int ∧ t.kind = .int ∧
        Numeral.maxDigits < Numeral.digitCount t.text.toList ∧
        e = .numeralTooLong (Numeral.digitCount t.text.toList) := by
  unfold readOperand at h
  split at h
  · rename_i hany
    obtain ⟨t, ht, hc⟩ := List.any_eq_true.mp hany
    cases h
    exact .inl ⟨_, rfl, .colon ht (beq_iff_eq.mp hc)⟩
  · cases hw : tokenKind? op.operandKind with
    | none =>
      have hk := tokenKind?_eq_none_iff.mp hw
      rw [hw] at h
      cases tokens with
      | nil => cases h
      | cons t rest =>
        cases h
        exact .inl ⟨_, rfl, .unwanted hk⟩
    | some wanted =>
      have hk : op.operandKind ≠ .none := fun hk => by simp [tokenKind?_eq_none_iff.mpr hk] at hw
      rw [hw] at h
      obtain _ | ⟨t, _ | ⟨t', rest⟩⟩ := tokens
      · cases h
        exact .inl ⟨_, rfl, .missing hk⟩
      · simp only at h
        split at h
        · rename_i ht
          cases h
          exact .inl ⟨_, rfl, .kind hk (by simpa [hw] using Ne.symm ht)⟩
        · rename_i ht
          split at h
          · rename_i hint
            have hi := tokenKind?_eq_int_iff.mp (hw.trans (congrArg some hint))
            have ht : t.kind = .int := (Decidable.not_not.mp ht).trans hint
            obtain ⟨hd, hr, rfl⟩ | ⟨hd, rfl⟩ := readInt_error h
            · exact .inl ⟨_, rfl, .range hi ht hd hr⟩
            · exact .inr ⟨t, rfl, hi, ht, hd, rfl⟩
          · cases h
      · cases h
        exact .inl ⟨_, rfl, .several hk (by simp)⟩

/-- What is wrong with an instruction on the line of that number. -/
def FlawedAt (line : Nat) (tokens : List Token) (e : AssemblyError) : Prop :=
  (∃ cause, e = .parse ⟨line, cause⟩ ∧ Statement.Flaw tokens cause) ∨
    ∃ digits, e = .numeralTooLong digits ∧ Statement.Overlong tokens digits

theorem readInstruction_error {head : Token} {rest : List Token}
    (h : readInstruction line head rest = .error e) : FlawedAt line (head :: rest) e := by
  unfold readInstruction at h
  split at h
  · rename_i hh
    cases h
    exact .inl ⟨_, rfl, .noMnemonic hh⟩
  · rename_i hh
    have hh := Decidable.not_not.mp hh
    split at h
    · rename_i hop
      cases h
      exact .inl ⟨_, rfl, .unknown hh hop⟩
    · rename_i op hop
      obtain ho | ⟨_, _, h⟩ := bind_eq_error_iff.mp h
      · obtain ⟨cause, rfl, hf⟩ | ⟨t, rfl, hi, ht, hd, rfl⟩ := readOperand_error ho
        · exact .inl ⟨cause, rfl, .operand hh hop hf⟩
        · exact .inr ⟨_, rfl, .mk hh hop hi ht hd⟩
      · cases h

namespace Draft
variable {d : Draft} {cs : List Char}

theorem addInstruction_error (h : d.addInstruction line tokens = .error e) :
    FlawedAt line tokens e := by
  cases tokens with
  | nil => cases h
  | cons head rest =>
    obtain h | ⟨_, _, h⟩ := bind_eq_error_iff.mp h
    · exact readInstruction_error h
    · cases h

theorem addInstruction_push {head t : Token} (hh : head.kind = .ident)
    (hop : Opcode.ofMnemonic? head.text = some .push) (ht : t.kind = .int) :
    d.addInstruction line [head, t] = (readInt line t.text).map fun operand =>
      { d with instructions := d.instructions.push ⟨.push, operand, some line⟩ } := by
  have hr : readOperand line .push [t] = readInt line t.text := by
    simp [readOperand, tokenKind?, Opcode.operandKind, ht]
  simp only [Draft.addInstruction, readInstruction, hh, hop, hr, ne_eq, not_true_eq_false,
    ↓reduceIte]
  cases readInt line t.text <;> rfl

theorem addLine_error (h : d.addLine line cs = .error e) :
    (∃ cause, e = .parse ⟨line, cause⟩ ∧ Token.FlawFrom 1 cs cause) ∨
      ∃ tokens, Token.scan line cs = .ok tokens ∧
        ((∃ name, (splitLabel tokens).1 = some name ∧ (d.labels.lookup name).isSome ∧
            e = .parse ⟨line, .labelRedefined name⟩) ∨
          FlawedAt line (splitLabel tokens).2 e) := by
  cases hs : Token.scan line cs with
  | error e' =>
    rw [Draft.addLine, hs] at h
    cases h
    obtain ⟨hl, hf⟩ := Token.scanFrom_error hs
    exact .inl ⟨e'.cause, by rw [← hl], hf⟩
  | ok tokens =>
    refine .inr ⟨tokens, rfl, ?_⟩
    rw [addLine_eq hs] at h
    obtain h | ⟨d', -, h⟩ := bind_eq_error_iff.mp h
    · cases hl : (splitLabel tokens).1 with
      | none =>
        rw [hl] at h
        cases h
      | some name =>
        rw [hl, defineLabel, Draft.define] at h
        split at h
        · rename_i hd
          cases h
          exact .inl ⟨name, rfl, hd, rfl⟩
        · cases h
    · exact .inr (addInstruction_error h)

theorem addLines_append (d : Draft) (line : Nat) (before after : List (List Char)) :
    d.addLines line (before ++ after) =
      d.addLines line before >>= fun d => d.addLines (line + before.length) after := by
  induction before generalizing d line with
  | nil => rfl
  | cons cs rest ih =>
    rw [List.cons_append, Draft.addLines, Draft.addLines]
    cases d.addLine line cs with
    | error e => rfl
    | ok d' =>
      rw [ok_bind, ok_bind, ih, List.length_cons, Nat.add_assoc, Nat.add_comm 1]

/-- The first line that is not taken decides. -/
theorem addLines_error {lines : List (List Char)} (h : d.addLines line lines = .error e) :
    ∃ k cs d', lines[k]? = some cs ∧ d.addLines line (lines.take k) = .ok d' ∧
      d'.addLine (line + k) cs = .error e := by
  induction lines generalizing d line with
  | nil => cases h
  | cons cs rest ih =>
    obtain h | ⟨d₁, h₁, h⟩ := bind_eq_error_iff.mp h
    · exact ⟨0, cs, d, rfl, rfl, h⟩
    · obtain ⟨k, cs', d', hk, hd, h⟩ := ih h
      refine ⟨k + 1, cs', d', hk, ?_, ?_⟩
      · rw [List.take_succ_cons, Draft.addLines, h₁, ok_bind, hd]
      · rwa [← Nat.add_assoc, Nat.add_right_comm]

theorem resolveJump_error {positions : List (String × Int)} {i : Instruction}
    (h : resolveJump positions i = .error e) : ∃ name, i.opcode.isJump = true ∧
      i.operand = .text name ∧ positions.lookup name = none ∧
      e = .parse ⟨i.line.getD 0, .labelUndefined name⟩ := by
  unfold resolveJump at h
  split at h
  · rename_i name hj ho
    cases hl : positions.lookup name with
    | some position =>
      rw [hl] at h
      cases h
    | none =>
      rw [hl] at h
      cases h
      exact ⟨name, hj, ho, hl, rfl⟩
  · cases h

/-- The jumps before the one that is reported have their labels. -/
theorem resolve_error (h : d.resolve = .error e) : ∃ before i after name,
    d.instructions.toList = before ++ i :: after ∧
      (∀ b ∈ before, ∃ j, resolveJump d.labels b = .ok j) ∧ i.opcode.isJump = true ∧
      i.operand = .text name ∧ d.labels.lookup name = none ∧
      e = .parse ⟨i.line.getD 0, .labelUndefined name⟩ := by
  obtain h | ⟨_, _, h⟩ := bind_eq_error_iff.mp h
  · obtain ⟨before, i, after, hsplit, hok, hi⟩ := mapM_eq_error_iff.mp h
    obtain ⟨name, hname⟩ := resolveJump_error hi
    exact ⟨before, i, after, name, hsplit, hok, hname⟩
  · cases h

end Draft

end Assembly

section
variable {lines : List (List Char)} {k : Nat} {name : String}

/-- Line `k` starts with the definition of the label. -/
def Labels (lines : List (List Char)) (k : Nat) (name : String) : Prop :=
  ∃ cs tokens, lines[k]? = some cs ∧ Token.scan (k + 1 : Nat) cs = .ok tokens ∧
    (splitLabel tokens).1 = some name

/-- What is wrong with line `k`, where lines count from zero. -/
inductive LineFlaw (lines : List (List Char)) (k : Nat) : ParseCause → Prop
  | lexical {cs : List Char} {cause : ParseCause} : lines[k]? = some cs →
      Token.FlawFrom 1 cs cause → LineFlaw lines k cause
  | instruction {cs : List Char} {tokens : List Token} {cause : ParseCause} :
      lines[k]? = some cs → Token.scan (k + 1 : Nat) cs = .ok tokens →
      Statement.Flaw (splitLabel tokens).2 cause → LineFlaw lines k cause
  | redefined {k' : Nat} {name : String} : k' < k → Labels lines k' name → Labels lines k name →
      LineFlaw lines k (.labelRedefined name)
  | undefined {cs : List Char} {tokens : List Token} {op : Opcode} {name : String} :
      lines[k]? = some cs → Token.scan (k + 1 : Nat) cs = .ok tokens →
      Statement.Body (splitLabel tokens).2 (some (op, .text name)) → op.isJump = true →
      (∀ k', ¬ Labels lines k' name) → LineFlaw lines k (.labelUndefined name)

theorem LineFlaw.lt {cause : ParseCause} (h : LineFlaw lines k cause) : k < lines.length := by
  have hsome {cs : List Char} (hk : lines[k]? = some cs) : k < lines.length :=
    (List.getElem?_eq_some_iff.mp hk).1
  cases h with
  | lexical hk _ | instruction hk _ _ | undefined hk _ _ _ _ => exact hsome hk
  | redefined _ _ hl =>
    obtain ⟨cs, tokens, hk, -⟩ := hl
    exact hsome hk

/-- Line `k` has an integer of that many digits, too many to convert, as its operand. -/
def OverlongAt (lines : List (List Char)) (k digits : Nat) : Prop :=
  ∃ cs tokens, lines[k]? = some cs ∧ Token.scan (k + 1 : Nat) cs = .ok tokens ∧
    Statement.Overlong (splitLabel tokens).2 digits

theorem labels_iff {source : Source} (h : source.WrittenAs 1 lines) :
    Labels lines k name ↔ source.Defines k name := by
  constructor
  · rintro ⟨cs, tokens, hk, ht, hn⟩
    obtain ⟨s, hs, tokens', ht', hw⟩ := h.exists_statement hk
    rw [Nat.add_comm] at ht'
    cases ht.symm.trans ht'
    exact ⟨s, hs, (spelled_iff.mp hw).1.trans hn⟩
  · rintro ⟨s, hs, hn⟩
    obtain ⟨cs, hk, tokens, ht, hw⟩ := h.exists_line hs
    rw [Nat.add_comm] at ht
    exact ⟨cs, tokens, hk, ht, (spelled_iff.mp hw).1.symm.trans hn⟩

/-- An error of a line, where a draft holds what the lines before it say. -/
theorem addLine_error_located {cs : List Char} {d : Draft} {e : AssemblyError}
    (hk : lines[k]? = some cs) (hd : Draft.addLines {} 1 (lines.take k) = .ok d)
    (h : d.addLine (1 + k) cs = .error e) :
    (∃ cause, e = .parse ⟨(k + 1 : Nat), cause⟩ ∧ LineFlaw lines k cause) ∨
      ∃ digits, e = .numeralTooLong digits ∧ OverlongAt lines k digits := by
  rw [Nat.add_comm] at h
  obtain ⟨cause, rfl, hf⟩ | ⟨tokens, ht, ⟨name, hl, hn, rfl⟩ | hf⟩ := Draft.addLine_error h
  · exact .inl ⟨cause, rfl, .lexical hk hf⟩
  · obtain ⟨-, source, hw, -, -, rfl⟩ := Draft.addLines_eq_ok_iff.mp hd
    have hmem : name ∈ source.labels := by
      rw [← Source.keys_labelsFrom 0]
      simpa [Draft.append] using hn
    obtain ⟨k', hdef⟩ := Source.mem_labels_iff.mp hmem
    obtain ⟨cs', tokens', hk', ht', hl'⟩ := (labels_iff hw).mpr hdef
    rw [List.getElem?_take] at hk'
    split at hk'
    · rename_i hlt
      exact .inl ⟨_, rfl, .redefined hlt ⟨cs', tokens', hk', ht', hl'⟩ ⟨cs, tokens, hk, ht, hl⟩⟩
    · cases hk'
  · obtain ⟨cause, rfl, hf⟩ | ⟨digits, rfl, ho⟩ := hf
    · exact .inl ⟨cause, rfl, .instruction hk ht hf⟩
    · exact .inr ⟨digits, rfl, cs, tokens, hk, ht, ho⟩

/-- A line jumps to a label that is nowhere exactly if what it says does. -/
theorem Source.WrittenAs.dangling_iff {source : Source} (hw : source.WrittenAs 1 lines) :
    LineFlaw lines k (.labelUndefined name) ↔
      ∃ op, source.Holds k op (.text name) ∧ op.isJump = true ∧ name ∉ source.labels := by
  constructor
  · rintro (⟨-, hf⟩ | ⟨-, -, hf⟩ | _ | ⟨hk, ht, hb, hj, hno⟩)
    · cases hf.kind_eq
    · exact absurd rfl hf.kind_ne
    · obtain ⟨s, hs, tokens', ht', hsp⟩ := hw.exists_statement hk
      rw [Nat.add_comm] at ht'
      cases ht.symm.trans ht'
      refine ⟨_, ⟨s, hs, (spelled_iff.mp hsp).2.unique hb⟩, hj, fun hmem => ?_⟩
      obtain ⟨k', hk'⟩ := Source.mem_labels_iff.mp hmem
      exact hno k' ((labels_iff hw).mpr hk')
  · rintro ⟨op, ⟨s, hs, hi⟩, hj, hno⟩
    obtain ⟨cs, hk, tokens, ht, hsp⟩ := hw.exists_line hs
    rw [Nat.add_comm] at ht
    refine .undefined hk ht (hi ▸ (spelled_iff.mp hsp).2) hj fun k' hk' => hno ?_
    exact Source.mem_labels_iff.mpr ⟨k', (labels_iff hw).mp hk'⟩

/-- The jump that is reported is the first one to a label that is nowhere. -/
theorem resolve_error_located {d : Draft} {e : AssemblyError}
    (hd : Draft.addLines {} 1 lines = .ok d) (h : d.resolve = .error e) :
    ∃ k name, e = .parse ⟨(k + 1 : Nat), .labelUndefined name⟩ ∧
      LineFlaw lines k (.labelUndefined name) ∧
      ∀ k' < k, ∀ name', ¬ LineFlaw lines k' (.labelUndefined name') := by
  obtain ⟨-, source, hw, -, -, rfl⟩ := Draft.addLines_eq_ok_iff.mp hd
  obtain ⟨before, i, after, name, hsplit, hok, hj, ho, hl, rfl⟩ := Draft.resolve_error h
  have hlabels : (Draft.append {} 1 source).labels = source.labelsFrom 0 := rfl
  have hnowhere {name : String} :
      (source.labelsFrom 0).lookup name = none ↔ name ∉ source.labels := by
    rw [← Source.lookup_labelsFrom_isSome, Option.not_isSome_iff_eq_none]
  have hsplit : source.instructionsFrom 1 = before ++ i :: after := by
    simpa [Draft.append] using hsplit
  rw [hlabels] at hok hl
  have hi : (source.instructionsFrom 1)[before.length]? = some i := by simp [hsplit]
  obtain ⟨k, hk, hposition, hline⟩ := Source.getElem?_instructionsFrom.mp hi
  rw [Nat.add_comm] at hline
  refine ⟨k, name, by rw [hline]; rfl,
    hw.dangling_iff.mpr ⟨i.opcode, ho ▸ hk, hj, hnowhere.mp hl⟩, fun k' hlt name' hflaw => ?_⟩
  -- A jump of an earlier line stands before, where all jumps have their labels.
  obtain ⟨op, hk', hj', hno⟩ := hw.dangling_iff.mp hflaw
  have hi' : (source.instructionsFrom 1)[source.position k']? =
      some ⟨op, .text name', some (1 + k')⟩ :=
    Source.getElem?_instructionsFrom.mpr ⟨k', hk', rfl, rfl⟩
  have hbefore : source.position k' < before.length := hposition ▸ hk'.position_lt hlt
  rw [hsplit, List.getElem?_append_left hbefore] at hi'
  obtain ⟨_, hresolved⟩ := hok _ (List.mem_of_getElem? hi')
  have hfound := (Draft.resolveJump_eq_ok_iff.mp hresolved).1 hj' name' rfl
  rw [hnowhere.mpr hno] at hfound
  cases hfound

/-- Nothing is wrong with the text before the instruction of line `k`, whose tokens are these. The
draft holds what comes before it. -/
def Reaches (lines : List (List Char)) (k : Nat) (d : Draft) (body : List Token) : Prop :=
  ∃ cs tokens before, lines[k]? = some cs ∧ Token.scan (k + 1 : Nat) cs = .ok tokens ∧
    Draft.addLines {} 1 (lines.take k) = .ok before ∧
    before.defineLabel (k + 1) (splitLabel tokens).1 = .ok d ∧ (splitLabel tokens).2 = body

theorem Reaches.addLines_take {d : Draft} {body : List Token} (h : Reaches lines k d body) :
    Draft.addLines {} 1 (lines.take (k + 1)) = d.addInstruction (k + 1) body := by
  obtain ⟨cs, tokens, before, hk, ht, hb, hd, rfl⟩ := h
  have hline : before.addLine (1 + k) cs = d.addInstruction (k + 1) (splitLabel tokens).2 := by
    rw [Nat.add_comm, Draft.addLine_eq ht, hd, ok_bind]
  have hlen : (lines.take k).length = k :=
    List.length_take_of_le (Nat.le_of_lt (List.getElem?_eq_some_iff.mp hk).1)
  rw [List.take_add_one, hk, Option.toList_some, Draft.addLines_append, hb, ok_bind, hlen,
    Draft.addLines, hline]
  cases d.addInstruction (k + 1) (splitLabel tokens).2 <;> rfl

theorem Reaches.assemble_error {text : String} {d : Draft} {body : List Token} {e : AssemblyError}
    (h : Reaches (Text.lines text.toList) k d body)
    (he : d.addInstruction (k + 1) body = .error e) : assemble text = .error e := by
  have hfirst := h.addLines_take.trans he
  rw [assemble, ← List.take_append_drop (k + 1) (Text.lines text.toList), Draft.addLines_append,
    hfirst]
  rfl

/-- What a push does with an integer depends on the number of its digits, and on its value alone
if they are not too many. -/
theorem Reaches.push {text : String} {d : Draft} {head t : Token}
    (h : Reaches (Text.lines text.toList) k d [head, t]) (hh : head.kind = .ident)
    (hop : Opcode.ofMnemonic? head.text = some .push) (ht : t.kind = .int) :
    if Numeral.digitCount t.text.toList ≤ Numeral.maxDigits then
      if minInt ≤ Numeral.value t.text.toList ∧ Numeral.value t.text.toList ≤ maxInt then
        Draft.addLines {} 1 ((Text.lines text.toList).take (k + 1)) = .ok { d with
          instructions := d.instructions.push
            ⟨.push, .int (Numeral.value t.text.toList), some (k + 1)⟩ }
      else assemble text = .error (.parse ⟨(k + 1 : Nat), .integerTooWide t.text⟩)
    else assemble text = .error (.numeralTooLong (Numeral.digitCount t.text.toList)) := by
  have hpush : d.addInstruction (k + 1) [head, t] = _ := Draft.addInstruction_push hh hop ht
  rw [readInt_eq] at hpush
  split
  · rename_i hdigits
    rw [if_pos hdigits] at hpush
    split
    · rename_i hrange
      rw [if_pos hrange] at hpush
      exact h.addLines_take.trans hpush
    · rename_i hrange
      rw [if_neg hrange] at hpush
      exact h.assemble_error hpush
  · rename_i hdigits
    rw [if_neg hdigits] at hpush
    exact h.assemble_error hpush

theorem assemble_error_cases {text : String} {e : AssemblyError} (h : assemble text = .error e) :
    (∃ k cause, e = .parse ⟨(k + 1 : Nat), cause⟩ ∧ LineFlaw (Text.lines text.toList) k cause) ∨
      ∃ k digits, e = .numeralTooLong digits ∧ OverlongAt (Text.lines text.toList) k digits := by
  obtain hadd | ⟨d, hd, hr⟩ := bind_eq_error_iff.mp h
  · obtain ⟨k, cs, d, hk, hd, he⟩ := Draft.addLines_error hadd
    exact (addLine_error_located hk hd he).imp (⟨k, ·⟩) (⟨k, ·⟩)
  · obtain ⟨k, name, he, hf, -⟩ := resolve_error_located hd hr
    exact .inl ⟨k, _, he, hf⟩

end

/-- A rejected text has a flaw on the line that the error names, or has an integer that is too long
to be converted. In particular a push is rejected if its integer is too long or does not fit, and
taken otherwise, whatever its leading zeros. -/
theorem assemble_error_located (text : String) :
    (∀ e, assemble text = .error (.parse e) → ∃ k < (lines text.toList).length,
      e.line = (k + 1 : Nat) ∧ LineFlaw (lines text.toList) k e.cause) ∧
    (∀ digits, assemble text = .error (.numeralTooLong digits) →
      ∃ k, OverlongAt (lines text.toList) k digits) ∧
    ∀ k d head t, Reaches (lines text.toList) k d [head, t] → head.kind = .ident →
      Opcode.ofMnemonic? head.text = some .push → t.kind = .int →
      if Numeral.digitCount t.text.toList ≤ Numeral.maxDigits then
        if minInt ≤ Numeral.value t.text.toList ∧ Numeral.value t.text.toList ≤ maxInt then
          Draft.addLines {} 1 ((lines text.toList).take (k + 1)) = .ok { d with
            instructions := d.instructions.push
              ⟨.push, .int (Numeral.value t.text.toList), some (k + 1)⟩ }
        else assemble text = .error (.parse ⟨(k + 1 : Nat), .integerTooWide t.text⟩)
      else assemble text = .error (.numeralTooLong (Numeral.digitCount t.text.toList)) := by
  refine ⟨fun e h => ?_, fun digits h => ?_, fun k d head t h hh hop ht => h.push hh hop ht⟩
  · obtain ⟨k, cause, he, hf⟩ | ⟨_, _, he, -⟩ := assemble_error_cases h
    · cases he
      exact ⟨k, hf.lt, rfl, hf⟩
    · cases he
  · obtain ⟨_, _, he, -⟩ | ⟨k, digits', he, ho⟩ := assemble_error_cases h
    · cases he
    · cases he
      exact ⟨k, ho⟩

/-- A push of zero that is written with one digit and so many more. -/
def pushZeros (more : Nat) : String :=
  "PUSH" ++ " " ++ String.ofList (List.replicate (more + 1) '0')

theorem pushZeros_reaches (more : Nat) : Reaches (lines (pushZeros more).toList) 0 {}
    [⟨.ident, "PUSH", 1, 1⟩, ⟨.int, String.ofList (List.replicate (more + 1) '0'), 1, 6⟩] := by
  have hzero {c : Char} {n : Nat} (hc : c ∈ List.replicate n '0') : c = '0' :=
    List.eq_of_mem_replicate hc
  have hline : lines (pushZeros more).toList = [(pushZeros more).toList] := by
    refine lines_singleton (fun c => unbroken_operand .push fun d hd => ?_) (by simp [pushZeros])
    rw [String.toList_ofList] at hd
    rw [hzero hd]
    decide
  have hdigits : Token.Lexeme .int (String.ofList (List.replicate (more + 1) '0')).toList
      (String.ofList (List.replicate (more + 1) '0')).toList := by
    rw [String.toList_ofList]
    refine .unsigned (by decide) fun c hc => ?_
    rw [hzero hc]
    decide
  have hlexes := lexes_operand .push 1 hdigits
  exact ⟨_, _, {}, by rw [hline]; rfl, Token.scanFrom_eq_ok_iff.mpr hlexes, rfl, rfl, rfl⟩

/-- The conversion of a long numeral is refused without an error of its line. -/
theorem not_parse_errors_only :
    ¬ ∀ text, (∃ p, assemble text = .ok p) ∨ ∃ e, assemble text = .error (.parse e) := by
  intro h
  have hcount : Numeral.digitCount (List.replicate (Numeral.maxDigits + 1) '0') =
      Numeral.maxDigits + 1 := by
    rw [List.replicate_succ]
    show (List.replicate Numeral.maxDigits '0').length + 1 = _
    rw [List.length_replicate]
  have hlong : assemble (pushZeros Numeral.maxDigits) =
      .error (.numeralTooLong (Numeral.maxDigits + 1)) := by
    refine (pushZeros_reaches _).assemble_error ?_
    rw [Draft.addInstruction_push rfl (by decide) rfl, readInt_eq, String.toList_ofList, hcount,
      if_neg (Nat.not_succ_le_self _)]
    rfl
  obtain ⟨p, hp⟩ | ⟨e, he⟩ := h (pushZeros Numeral.maxDigits)
  · cases hlong.symm.trans hp
  · cases hlong.symm.trans he

end StackMachine
