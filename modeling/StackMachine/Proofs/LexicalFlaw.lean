import StackMachine.Proofs.Lexeme

/-! Lines outside the lexical grammar. What the scanner reports is the first place where no gap, no
comment and no lexeme stands. The main statement is `scanFrom_eq_error_iff`. -/
namespace StackMachine
open Text

namespace Token
variable {line : Int} {col start : Nat} {c : Char} {cs rest body text word : List Char}
  {kind : TokenKind} {cause : ParseCause}

/-- Characters behind an opening quote that are all right but have no closing quote. -/
inductive Unclosed : List Char → Prop
  | nil : Unclosed []
  | backslash : Unclosed ['\\']
  | plain {c : Char} {rest : List Char} : c ≠ '"' → c ≠ '\\' → Unclosed rest → Unclosed (c :: rest)
  | escape {c d : Char} {rest : List Char} : unescape? c = some d → Unclosed rest →
      Unclosed ('\\' :: c :: rest)

/-- What is wrong with characters that start at a column: they are no gap, no comment and no
lexeme. -/
inductive Flaw : List Char → Nat → ParseCause → Prop
  | character {c : Char} {rest : List Char} {col : Nat} : isGap c = false →
      (c == '/' && rest.head? == some '/') = false → c ≠ ':' → c ≠ '"' →
      startsNumber c rest = false → isIdentStart c = false →
      Flaw (c :: rest) col (.unexpectedCharacter c col)
  | number {c : Char} {rest : List Char} {col : Nat} : startsNumber c rest = true →
      (rest.dropWhile Char.isDigit).head?.any isIdentPart = true → Flaw (c :: rest) col
        (.malformedNumber (String.ofList ((c :: rest).takeWhile fun d => !isBlank d)) col)
  | escape {body text rest : List Char} {c : Char} {col : Nat} : Quoted body text →
      unescape? c = none → Flaw ('"' :: (body ++ '\\' :: c :: rest)) col
        (.unknownEscape c (col + 1 + body.length))
  | quote {rest : List Char} {col : Nat} : Unclosed rest →
      Flaw ('"' :: rest) col (.unterminatedString col)

/-- The first flaw of the characters from a column on. -/
inductive FlawFrom : Nat → List Char → ParseCause → Prop
  | here {col : Nat} {cs : List Char} {cause : ParseCause} : Flaw cs col cause →
      FlawFrom col cs cause
  | gap {col : Nat} {c : Char} {rest : List Char} {cause : ParseCause} : isGap c = true →
      FlawFrom (col + 1) rest cause → FlawFrom col (c :: rest) cause
  | lexeme {col : Nat} {kind : TokenKind} {word text rest : List Char} {cause : ParseCause} :
      Lexeme kind word text → EndsBefore kind rest → FlawFrom (col + word.length) rest cause →
      FlawFrom col (word ++ rest) cause

theorem FlawFrom.of_eq {after : Nat} (hl : Lexeme kind word text) (hr : EndsBefore kind rest)
    (hcs : cs = word ++ rest) (ha : after = col + word.length) (h : FlawFrom after rest cause) :
    FlawFrom col cs cause := by
  rw [ha] at h
  rw [hcs]
  exact .lexeme hl hr h

theorem FlawFrom.kind_eq (h : FlawFrom col cs cause) :
    cause.kind = .badSyntax := by
  induction h with
  | here hf => cases hf <;> rfl
  | gap _ _ ih => exact ih
  | lexeme _ _ _ ih => exact ih

theorem stringBody_unclosed (h : Unclosed cs) (start col : Nat) :
    stringBody start col cs = .error (.unterminatedString start) := by
  induction h generalizing col with
  | nil => rfl
  | backslash => rfl
  | @plain c rest hq hb _ ih =>
    rw [stringBody, ih]
    · exact hq
    · rintro _ _ rfl
      exact absurd rfl hb
  | escape hd _ ih => simp only [stringBody, hd, ih]

theorem stringBody_unknown (h : Quoted body text) (hc : unescape? c = none) (start col : Nat)
    (rest : List Char) : stringBody start col (body ++ '\\' :: c :: rest) =
      .error (.unknownEscape c (col + body.length)) := by
  induction h generalizing col with
  | nil => simp only [List.nil_append, stringBody, hc, List.length_nil, Nat.add_zero]
  | @plain d body text hq hb _ ih =>
    rw [List.cons_append, stringBody, ih, List.length_cons, Nat.add_assoc, Nat.add_comm 1]
    · exact hq
    · rintro _ _ rfl
      exact absurd rfl hb
  | @escape d e body text hd _ ih =>
    simp only [List.cons_append, stringBody, hd, ih, List.length_cons]
    congr 2
    omega

theorem stringBody_error (h : stringBody start col cs = .error cause) :
    (Unclosed cs ∧ cause = .unterminatedString start) ∨
      ∃ body text c rest, Quoted body text ∧ unescape? c = none ∧ cs = body ++ '\\' :: c :: rest ∧
        cause = .unknownEscape c (col + body.length) := by
  fun_induction stringBody start col cs generalizing cause with
  | case1 =>
    cases h
    exact .inl ⟨.nil, rfl⟩
  | case2 | case5 | case7 => simp at h
  | case3 col c rest hc =>
    cases h
    exact .inr ⟨[], [], c, rest, .nil, hc, rfl, rfl⟩
  | case4 col c rest d hd e he ih =>
    cases h
    obtain ⟨hu, rfl⟩ | ⟨body, text, c', rest', hq, hc', rfl, rfl⟩ := ih he
    · exact .inl ⟨.escape hd hu, rfl⟩
    · refine .inr ⟨'\\' :: c :: body, d :: text, c', rest', .escape hd hq, hc', rfl, ?_⟩
      simp only [List.length_cons]
      congr 1
      omega
  | case6 col c rest hq hb e he ih =>
    cases h
    obtain ⟨hu, rfl⟩ | ⟨body, text, c', rest', hquoted, hc', rfl, rfl⟩ := ih he
    · -- A backslash that ends the line escapes nothing.
      by_cases hc : c = '\\'
      · subst hc
        cases rest with
        | nil => exact .inl ⟨.backslash, rfl⟩
        | cons d rest => exact absurd rfl (hb d rest rfl)
      · exact .inl ⟨.plain hq hc hu, rfl⟩
    · have hc : c ≠ '\\' := by
        rintro rfl
        cases body <;> exact hb _ _ rfl rfl
      refine .inr ⟨c :: body, c :: text, c', rest', .plain hq hc hquoted, hc', rfl, ?_⟩
      simp only [List.length_cons]
      congr 1
      omega

theorem scanFrom_error {e : ParseError} (h : scanFrom line col cs = .error e) :
    e.line = line ∧ FlawFrom col cs e.cause := by
  fun_induction Token.scanFrom line col cs with
  | case1 | case3 => cases h
  | case2 col c rest hg ih =>
    obtain ⟨hl, hf⟩ := ih h
    exact ⟨hl, .gap hg hf⟩
  | case4 col c rest _ _ hcolon ih =>
    obtain h | ⟨_, _, h⟩ := bind_eq_error_iff.mp h
    · obtain ⟨hl, hf⟩ := ih h
      rw [beq_iff_eq.mp hcolon]
      exact ⟨hl, .of_eq .colon (by simp [EndsBefore]) rfl rfl hf⟩
    · cases h
  | case5 col c rest _ _ _ hquote cause hb =>
    cases h
    refine ⟨rfl, .here ?_⟩
    rw [beq_iff_eq.mp hquote]
    obtain ⟨hu, rfl⟩ | ⟨body, text, d, rest', hq, hd, rfl, rfl⟩ := stringBody_error hb
    · exact .quote hu
    · exact .escape hq hd
  | case6 col c rest _ _ _ hquote text after rest' hb ih =>
    obtain h | ⟨_, _, h⟩ := bind_eq_error_iff.mp h
    · obtain ⟨hl, hf⟩ := ih h
      obtain ⟨body, hq, rfl, rfl⟩ := quoted_of_stringBody hb
      rw [beq_iff_eq.mp hquote]
      exact ⟨hl, .of_eq (.string hq) (by simp [EndsBefore]) (by simp) (by simp; omega) hf⟩
    · cases h
  | case7 col c rest _ _ _ _ hs rest' hends =>
    cases h
    exact ⟨rfl, .here (.number hs hends)⟩
  | case8 col c rest _ _ _ _ hs digits rest' hends =>
    rename_i ih
    obtain h | ⟨_, _, h⟩ := bind_eq_error_iff.mp h
    · obtain ⟨hl, hf⟩ := ih h
      refine ⟨hl, .of_eq (lexeme_of_startsNumber hs)
        (fun _ => Bool.eq_false_iff.mpr hends) ?_ ?_ hf⟩
      · rw [List.cons_append, List.takeWhile_append_dropWhile]
      · show col + 1 + digits.length = col + (digits.length + 1)
        omega
    · cases h
  | case9 col c rest _ _ _ _ _ hc letters =>
    rename_i ih
    obtain h | ⟨_, _, h⟩ := bind_eq_error_iff.mp h
    · obtain ⟨hl, hf⟩ := ih h
      have hletters := List.all_eq_true.mp (List.all_takeWhile (p := isIdentPart) (l := rest))
      refine ⟨hl, .of_eq (.ident hc hletters) (fun _ => ends_dropWhile isIdentPart rest) ?_ ?_ hf⟩
      · rw [List.cons_append, List.takeWhile_append_dropWhile]
      · show col + 1 + letters.length = col + (letters.length + 1)
        omega
    · cases h
  | case10 col c rest hg hslash hcolon hquote hs hc =>
    cases h
    rw [beq_iff_eq] at hcolon hquote
    rw [Bool.not_eq_true] at hg hslash hs hc
    exact ⟨rfl, .here (.character hg hslash hcolon hquote hs hc)⟩

theorem scanFrom_quote_error (h : stringBody col (col + 1) rest = .error cause) :
    scanFrom line col ('"' :: rest) = .error ⟨line, cause⟩ := by
  rw [scanFrom, if_neg (by decide), if_neg (by simp), if_neg (by decide), if_pos BEq.rfl]
  split
  · rename_i hcause
    rw [h] at hcause
    cases hcause
    rfl
  · rename_i hok
    rw [h] at hok
    cases hok

theorem Flaw.scanFrom (h : Flaw cs col cause) : scanFrom line col cs = .error ⟨line, cause⟩ := by
  cases h with
  | character hg hslash hcolon hquote hs hc =>
    rw [Token.scanFrom]
    simp [hg, hslash, hcolon, hquote, hs, hc]
  | number hs hends =>
    obtain ⟨hg, hslash, hcolon, hquote⟩ := startsNumber_not_punctuation hs
    rw [Token.scanFrom]
    simp [hg, hslash, hcolon, hquote, hs, hends]
  | escape hq hc => exact scanFrom_quote_error (stringBody_unknown hq hc ..)
  | quote hu => exact scanFrom_quote_error (stringBody_unclosed hu ..)

theorem FlawFrom.scanFrom (h : FlawFrom col cs cause) :
    scanFrom line col cs = .error ⟨line, cause⟩ := by
  induction h with
  | here h => exact h.scanFrom
  | gap hg _ ih => rw [scanFrom_gap hg, ih]
  | lexeme hl hr _ ih =>
    rw [scanFrom_lexeme hl hr, ih]
    rfl

theorem scanFrom_eq_error_iff {e : ParseError} :
    scanFrom line col cs = .error e ↔ e.line = line ∧ FlawFrom col cs e.cause := by
  constructor
  · exact scanFrom_error
  · rintro ⟨rfl, hf⟩
    exact hf.scanFrom

end Token

end StackMachine
