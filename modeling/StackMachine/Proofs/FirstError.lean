import Mathlib.Control.Monad.Basic
import StackMachine.Proofs.Rejection

/-! Which error of a text is reported. An error of a line is that of the first line that has one,
and no later line can change it. An undefined label is reported only if no line has an error of its
own, and then for the first jump to a label that is nowhere. -/
namespace StackMachine
open Text Assembly

/-- Tokens with a flaw stand for no operand. -/
theorem Opcode.Flaw.not_takes {op : Opcode} {tokens : List Token} {cause : ParseCause}
    {operand : Operand} (h : op.Flaw tokens cause) : ¬ op.operandKind.Takes tokens operand := by
  intro ht
  cases h with
  | colon hmem hc => exact ht.not_colon hmem hc
  | unwanted hk =>
    rw [hk] at ht
    cases ht
  | missing hk =>
    generalize op.operandKind = kind at ht hk
    cases ht
    exact hk rfl
  | several hk hlen =>
    generalize op.operandKind = kind at ht
    cases ht <;> simp at hlen
  | kind hk hne =>
    generalize op.operandKind = kind at ht hne
    cases ht <;> simp_all [tokenKind?]
  | range hk _ _ hr =>
    rw [hk] at ht
    cases ht with
    | int _ hlo hhi => exact hr ⟨hlo, hhi⟩

theorem Statement.Flaw.not_body {tokens : List Token} {cause : ParseCause}
    {instruction? : Option (Opcode × Operand)} (h : Flaw tokens cause) :
    ¬ Body tokens instruction? := by
  intro hb
  cases h with
  | noMnemonic hh =>
    obtain - | ⟨hh', -, -⟩ := hb
    exact hh hh'
  | unknown _ hop =>
    obtain - | ⟨-, hop', -⟩ := hb
    cases hop.symm.trans hop'
  | operand _ hop hf =>
    obtain - | ⟨-, hop', ht⟩ := hb
    cases hop.symm.trans hop'
    exact hf.not_takes ht

namespace Assembly.Draft
variable {d d' : Draft} {line : Nat} {e : ParseError}

theorem addLine_error_kind {cs : List Char} (h : d.addLine line cs = .error (.parse e)) :
    e.cause.kind ≠ .undefinedLabel := by
  obtain ⟨cause, he, hf⟩ | ⟨_, -, ⟨name, -, -, he⟩ | ⟨cause, he, hf⟩ | ⟨_, he, -⟩⟩ :=
    addLine_error h
  · cases he
    rw [hf.kind_eq]
    exact nofun
  · cases he
    exact nofun
  · cases he
    exact hf.kind_ne
  · cases he

theorem addLines_error_kind {lines : List (List Char)}
    (h : d.addLines line lines = .error (.parse e)) : e.cause.kind ≠ .undefinedLabel := by
  obtain ⟨_, _, _, -, -, he⟩ := addLines_error h
  exact addLine_error_kind he

/-- Lines that are taken are so without those at their end. -/
theorem addLines_of_prefix {ls ls' : List (List Char)} (hl : ls <+: ls')
    (h : d.addLines line ls' = .ok d') : ∃ d₁, d.addLines line ls = .ok d₁ := by
  obtain ⟨more, rfl⟩ := hl
  rw [addLines_append] at h
  obtain ⟨d₁, h₁, -⟩ := bind_eq_ok_iff.mp h
  exact ⟨d₁, h₁⟩

theorem resolve_cases (d : Draft) : (∃ p, d.resolve = .ok p) ∨
    ∃ e, d.resolve = .error (.parse e) ∧ e.cause.kind = .undefinedLabel := by
  cases h : d.resolve with
  | ok p => exact .inl ⟨p, rfl⟩
  | error e =>
    obtain ⟨_, _, _, _, -, -, -, -, -, rfl⟩ := resolve_error h
    exact .inr ⟨_, rfl, rfl⟩

end Assembly.Draft

theorem ParseCause.kind_eq_undefinedLabel_iff {cause : ParseCause} :
    cause.kind = .undefinedLabel ↔ ∃ name, cause = .labelUndefined name := by
  cases cause <;> simp [kind]

/-- A label that is not defined twice is defined on one line. -/
theorem Source.Defines.unique {source : Source} {k k' : Nat} {name : String}
    (hn : source.labels.Nodup) (h : source.Defines k name) (h' : source.Defines k' name) :
    k = k' := by
  induction source generalizing k k' with
  | nil => simp [Defines] at h
  | cons s rest ih =>
    rw [labels_cons] at hn
    obtain ⟨-, hrest, hdisjoint⟩ := List.nodup_append.mp hn
    have hfirst {j : Nat} (hs : s.label? = some name) (hj : Defines rest j name) : False :=
      hdisjoint name (Option.mem_toList.mpr hs) name (mem_labels_iff.mpr ⟨j, hj⟩) rfl
    cases k with
    | zero =>
      cases k' with
      | zero => rfl
      | succ k' => exact (hfirst (defines_zero.mp h) (defines_succ.mp h')).elim
    | succ k =>
      cases k' with
      | zero => exact (hfirst (defines_zero.mp h') (defines_succ.mp h)).elim
      | succ k' => rw [ih hrest (defines_succ.mp h) (defines_succ.mp h')]

/-- No line has an error of its own, whatever labels its jump names. -/
structure LinesSound (ls : List (List Char)) : Prop where
  short : ShortLines 1 ls
  flawless : ∀ k cause, LineFlaw ls k cause → cause.kind = .undefinedLabel

section
variable {ls : List (List Char)} {source : Source} {k : Nat}

theorem OverlongAt.not_short {digits : Nat} (h : OverlongAt ls k digits) : ¬ ShortLines 1 ls := by
  intro hs
  obtain ⟨cs, tokens, hk, ht, ho⟩ := h
  have hmem : (cs, 1 + k) ∈ ls.zipIdx 1 := by
    simpa [List.mem_zipIdx_iff_le_and_getElem?_sub] using hk
  have hline := hs _ hmem
  rw [Nat.add_comm 1] at hline
  have hshort := shortNumerals_splitLabel.mpr ((shortLine_iff ht).mp hline)
  generalize (splitLabel tokens).2 = body at ho hshort
  cases ho with
  | mk _ _ _ ht hlong => exact Nat.not_le.mpr hlong (hshort _ (by simp) ht)

/-- Lines that say something, and define no label twice, have no other flaws than jumps to labels
that are nowhere. -/
theorem Source.WrittenAs.flawless (hw : source.WrittenAs 1 ls) (hn : source.labels.Nodup)
    {cause : ParseCause} (h : LineFlaw ls k cause) : cause.kind = .undefinedLabel := by
  cases h with
  | lexical hk hf =>
    obtain ⟨s, -, tokens, ht, -⟩ := hw.exists_statement hk
    cases hf.scanFrom.symm.trans ht
  | instruction hk ht hf =>
    obtain ⟨s, -, tokens', ht', hsp⟩ := hw.exists_statement hk
    rw [Nat.add_comm] at ht'
    cases ht.symm.trans ht'
    exact absurd (spelled_iff.mp hsp).2 hf.not_body
  | redefined hlt hl' hl =>
    have hsame := ((labels_iff hw).mp hl').unique hn ((labels_iff hw).mp hl)
    exact absurd hsame (Nat.ne_of_lt hlt)
  | undefined => rfl

/-- The lines are taken one after the other exactly if none has an error of its own. -/
theorem linesSound_iff : LinesSound ls ↔ ∃ d, Draft.addLines {} 1 ls = .ok d := by
  constructor
  · rintro ⟨hs, hflawless⟩
    cases hadd : Draft.addLines {} 1 ls with
    | ok d => exact ⟨d, rfl⟩
    | error e =>
      obtain ⟨k, cs, d, hk, hd, he⟩ := Draft.addLines_error hadd
      obtain ⟨cause, rfl, hf⟩ | ⟨digits, rfl, ho⟩ := addLine_error_located hk hd he
      · exact absurd (hflawless k cause hf) (Draft.addLine_error_kind he)
      · exact absurd hs ho.not_short
  · rintro ⟨d, hd⟩
    obtain ⟨hs, source, hw, hn, -, -⟩ := Draft.addLines_eq_ok_iff.mp hd
    exact ⟨hs, fun k cause => hw.flawless hn⟩

end

/-- The text assembles, or all that is wrong with it is a label that is nowhere. -/
def AssemblesUpToLabels (text : String) : Prop :=
  (∃ p, assemble text = .ok p) ∨
    ∃ e, assemble text = .error (.parse e) ∧ e.cause.kind = .undefinedLabel

section
variable {text : String}

theorem assemble_of_addLines {d : Draft} (h : Draft.addLines {} 1 (lines text.toList) = .ok d) :
    assemble text = d.resolve := by
  rw [assemble, h, ok_bind]

/-- Later lines do not matter once a line is refused. -/
theorem assemble_error_of_prefix {e : AssemblyError} {more : List (List Char)}
    (h : Draft.addLines {} 1 (lines text.toList) = .error e) {longer : String}
    (hl : lines longer.toList = lines text.toList ++ more) : assemble longer = .error e := by
  rw [assemble, hl, Draft.addLines_append, h, error_bind, error_bind]

theorem AssemblesUpToLabels.linesSound (h : AssemblesUpToLabels text) :
    LinesSound (lines text.toList) := by
  rw [linesSound_iff]
  obtain ⟨p, hp⟩ | ⟨e, he, hk⟩ := h
  · obtain ⟨d, hd, -⟩ := bind_eq_ok_iff.mp hp
    exact ⟨d, hd⟩
  · obtain he | ⟨d, hd, -⟩ := bind_eq_error_iff.mp he
    · exact absurd hk (Draft.addLines_error_kind he)
    · exact ⟨d, hd⟩

theorem assemblesUpToLabels_iff :
    AssemblesUpToLabels text ↔ LinesSound (lines text.toList) := by
  refine ⟨AssemblesUpToLabels.linesSound, fun h => ?_⟩
  obtain ⟨d, hd⟩ := linesSound_iff.mp h
  rw [AssemblesUpToLabels, assemble_of_addLines hd]
  exact d.resolve_cases

/-- An undefined label is reported for the first line of all that has a flaw. -/
theorem undefined_label_located {e : ParseError} (h : assemble text = .error (.parse e))
    (hk : e.cause.kind = .undefinedLabel) : ∃ k name, e = ⟨(k + 1 : Nat), .labelUndefined name⟩ ∧
      LineFlaw (lines text.toList) k (.labelUndefined name) ∧
      ∀ k' < k, ∀ cause, ¬ LineFlaw (lines text.toList) k' cause := by
  have hsound := AssemblesUpToLabels.linesSound (.inr ⟨e, h, hk⟩)
  obtain ⟨d, hd⟩ := linesSound_iff.mp hsound
  rw [assemble_of_addLines hd] at h
  obtain ⟨k, name, he, hf, hfirst⟩ := resolve_error_located hd h
  cases he
  refine ⟨k, name, rfl, hf, fun k' hlt cause hf' => ?_⟩
  obtain ⟨name', rfl⟩ := ParseCause.kind_eq_undefinedLabel_iff.mp (hsound.flawless k' cause hf')
  exact hfirst k' hlt name' hf'

theorem not_lineFlaw_of_assembles {p : Program} (h : assemble text = .ok p) {k : Nat}
    {cause : ParseCause} : ¬ LineFlaw (lines text.toList) k cause := by
  intro hf
  have hsound := AssemblesUpToLabels.linesSound (.inl ⟨p, h⟩)
  obtain ⟨name, rfl⟩ := ParseCause.kind_eq_undefinedLabel_iff.mp (hsound.flawless k cause hf)
  obtain ⟨-, source, hw, -, hl, -⟩ := assemble_eq_ok_iff.mp h
  obtain ⟨op, ⟨s, hs, hi⟩, hj, hno⟩ := hw.dangling_iff.mp hf
  exact hno (hl s (List.mem_of_getElem? hs) op name hi hj)

theorem undefined_label_iff :
    (∃ e, assemble text = .error (.parse e) ∧ e.cause.kind = .undefinedLabel) ↔
      LinesSound (lines text.toList) ∧
        ∃ k name, LineFlaw (lines text.toList) k (.labelUndefined name) := by
  constructor
  · rintro ⟨e, he, hk⟩
    obtain ⟨k, name, -, hf, -⟩ := undefined_label_located he hk
    exact ⟨AssemblesUpToLabels.linesSound (.inr ⟨e, he, hk⟩), k, name, hf⟩
  · rintro ⟨hsound, k, name, hf⟩
    obtain ⟨p, hp⟩ | he := assemblesUpToLabels_iff.mpr hsound
    · exact absurd hf (not_lineFlaw_of_assembles hp)
    · exact he

/-- The line that is refused is named, and those before it are taken. -/
theorem refused_line_located {e : ParseError}
    (h : Draft.addLines {} 1 (lines text.toList) = .error (.parse e)) :
    ∃ k < (lines text.toList).length, e.line = (k + 1 : Nat) ∧
      ∀ shorter : String, lines shorter.toList <+: (lines text.toList).take k →
        AssemblesUpToLabels shorter := by
  obtain ⟨k, cs, d, hk, hd, he⟩ := Draft.addLines_error h
  refine ⟨k, (List.getElem?_eq_some_iff.mp hk).1, ?_, fun shorter hs => ?_⟩
  · obtain ⟨cause, hcause, -⟩ | ⟨_, hdigits, -⟩ := addLine_error_located hk hd he
    · cases hcause
      rfl
    · cases hdigits
  · exact assemblesUpToLabels_iff.mpr (linesSound_iff.mpr (Draft.addLines_of_prefix hs hd))

end

/-- An error of a line stays whatever lines follow, and the lines before it have none. An undefined
label is reported exactly if no line has an error of its own and some jump names a label that is
nowhere, and then for the first such jump. -/
theorem first_error_wins (text : String) :
    (∀ e, assemble text = .error (.parse e) → e.cause.kind ≠ .undefinedLabel →
      (∀ (longer : String) (more : List (List Char)),
        lines longer.toList = lines text.toList ++ more →
          assemble longer = .error (.parse e)) ∧
      ∃ k < (lines text.toList).length, e.line = (k + 1 : Nat) ∧
        ∀ shorter : String, lines shorter.toList <+: (lines text.toList).take k →
          AssemblesUpToLabels shorter) ∧
    ((∃ e, assemble text = .error (.parse e) ∧ e.cause.kind = .undefinedLabel) ↔
      LinesSound (lines text.toList) ∧
        ∃ k name, LineFlaw (lines text.toList) k (.labelUndefined name)) ∧
    ∀ e, assemble text = .error (.parse e) → e.cause.kind = .undefinedLabel →
      ∃ k name, e = ⟨(k + 1 : Nat), .labelUndefined name⟩ ∧
        LineFlaw (lines text.toList) k (.labelUndefined name) ∧
        ∀ k' < k, ∀ cause, ¬ LineFlaw (lines text.toList) k' cause := by
  refine ⟨fun e h hk => ?_, undefined_label_iff, fun e => undefined_label_located⟩
  obtain hadd | ⟨d, hd, hr⟩ := bind_eq_error_iff.mp h
  · exact ⟨fun longer more => assemble_error_of_prefix hadd, refused_line_located hadd⟩
  · obtain ⟨p, hp⟩ | ⟨e', he', hk'⟩ := d.resolve_cases
    · cases hp.symm.trans hr
    · cases he'.symm.trans hr
      exact absurd hk' hk

/-- A jump to a label that is nowhere. -/
def strayJump : String := "PUSH 1\nJMP nowhere"

/-- An operand too many, behind a jump to a label that is nowhere. -/
def strayOperand : String := "PUSH 1\nJMP nowhere\nPOP 1\nPOP 2"

/-- The operand is reported even if the label follows; without the operand the jump is. -/
theorem strayOperand_wins :
    assemble (strayOperand ++ "\nnowhere: HALT") =
      .error (.parse ⟨3, .takesNoOperand .pop "1"⟩) ∧
    AssemblesUpToLabels strayJump ∧
    LinesSound (lines strayJump.toList) ∧
    LineFlaw (lines strayJump.toList) 1 (.labelUndefined "nowhere") := by
  have hoperand : assemble strayOperand = .error (.parse ⟨3, .takesNoOperand .pop "1"⟩) := by
    decide +kernel
  have hjump : assemble strayJump = .error (.parse ⟨2, .labelUndefined "nowhere"⟩) := by
    decide +kernel
  obtain ⟨hlonger, k, -, hk, hshorter⟩ := (first_error_wins strayOperand).1 _ hoperand nofun
  obtain rfl : k = 2 := by
    simp only at hk
    omega
  obtain ⟨-, hiff, hfirst⟩ := first_error_wins strayJump
  obtain ⟨k', name, he, hflaw, -⟩ := hfirst _ hjump rfl
  cases he
  exact ⟨hlonger _ ["nowhere: HALT".toList] (by decide +kernel), hshorter _ (by decide +kernel),
    (hiff.mp ⟨_, hjump, rfl⟩).1, hflaw⟩

end StackMachine
