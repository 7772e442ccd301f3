import StackMachine.Proofs.Outcome
import StackMachine.Token

/-! The lexical grammar of a line: gaps and lexemes, and at the end perhaps a comment. The main
statement is `scanFrom_eq_ok_iff`: the scanner finds exactly the lexemes of this grammar. -/
namespace StackMachine
open Text

namespace Token
variable {line : Int} {col start : Nat} {c : Char} {cs rest body text word : List Char}
  {kind : TokenKind}

/-- The characters between the quotes of a string, and the text that they stand for. -/
inductive Quoted : List Char → List Char → Prop
  | nil : Quoted [] []
  | plain {c : Char} {body text : List Char} : c ≠ '"' → c ≠ '\\' → Quoted body text →
      Quoted (c :: body) (c :: text)
  | escape {c d : Char} {body text : List Char} : unescape? c = some d → Quoted body text →
      Quoted ('\\' :: c :: body) (d :: text)

/-- The characters of a token of that kind, and its text. -/
inductive Lexeme : TokenKind → List Char → List Char → Prop
  | colon : Lexeme .colon [':'] [':']
  | string {body text : List Char} : Quoted body text →
      Lexeme .string ('"' :: (body ++ ['"'])) text
  | unsigned {d : Char} {digits : List Char} : d.isDigit = true → (∀ e ∈ digits, e.isDigit = true) →
      Lexeme .int (d :: digits) (d :: digits)
  | signed {s d : Char} {digits : List Char} : isSign s = true → d.isDigit = true →
      (∀ e ∈ digits, e.isDigit = true) → Lexeme .int (s :: d :: digits) (s :: d :: digits)
  | ident {c : Char} {letters : List Char} : isIdentStart c = true →
      (∀ d ∈ letters, isIdentPart d = true) → Lexeme .ident (c :: letters) (c :: letters)

/-- What may follow directly: behind a number or an identifier no character of an identifier. -/
def EndsBefore (kind : TokenKind) (rest : List Char) : Prop :=
  kind = .int ∨ kind = .ident → rest.head?.any isIdentPart = false

/-- The tokens of the characters from a column on. -/
inductive Lexes (line : Int) : Nat → List Char → List Token → Prop
  | done {col : Nat} : Lexes line col [] []
  | comment {col : Nat} {rest : List Char} : Lexes line col ('/' :: '/' :: rest) []
  | gap {col : Nat} {c : Char} {rest : List Char} {tokens : List Token} : isGap c = true →
      Lexes line (col + 1) rest tokens → Lexes line col (c :: rest) tokens
  | lexeme {col : Nat} {kind : TokenKind} {word text rest : List Char} {tokens : List Token} :
      Lexeme kind word text → EndsBefore kind rest → Lexes line (col + word.length) rest tokens →
      Lexes line col (word ++ rest) (⟨kind, String.ofList text, line, col⟩ :: tokens)

theorem ne_of_lt_toNat {d : Char} (h : d.toNat < c.toNat) : c ≠ d := by
  rintro rfl
  exact Nat.lt_irrefl _ h

theorem isIdentStart_ge (h : isIdentStart c = true) : 0x41 ≤ c.toNat := by
  rw [isIdentStart, Bool.or_eq_true] at h
  obtain h | h := h
  · refine Nat.le_of_not_lt fun hlt => ?_
    have hno : isLetter c = false := if_pos hlt
    rw [hno] at h
    cases h
  · rw [beq_iff_eq.mp h]
    decide

theorem isDigit_bounds (h : c.isDigit = true) : 0x30 ≤ c.toNat ∧ c.toNat ≤ 0x39 := by
  simpa [Char.isDigit, UInt32.le_iff_toNat_le] using h

theorem isIdentPart_of_isDigit (h : c.isDigit = true) : isIdentPart c = true := by
  obtain ⟨hlo, hhi⟩ := isDigit_bounds h
  have hn : isNumeric c = true := (if_neg (Nat.not_lt.mpr hlo)).trans (if_pos hhi)
  simp [isIdentPart, hn]

/-- Gaps, slashes and quotes come before the digits and the letters. -/
theorem not_punctuation (h : 0x30 ≤ c.toNat) : isGap c = false ∧ c ≠ '/' ∧ c ≠ '"' := by
  have hne (d : Char) (hd : d.toNat < 0x30) : c ≠ d := ne_of_lt_toNat (Nat.lt_of_lt_of_le hd h)
  refine ⟨?_, hne '/' (by decide), hne '"' (by decide)⟩
  simp [isGap, hne ' ' (by decide), hne '\t' (by decide), hne '\r' (by decide),
    hne ',' (by decide)]

theorem isSign_cases (h : isSign c = true) : c = '+' ∨ c = '-' := by
  simpa [isSign] using h

theorem span_of_ends {p : Char → Bool} {letters : List Char} (hl : ∀ d ∈ letters, p d = true)
    (hr : rest.head?.any p = false) :
    (letters ++ rest).takeWhile p = letters ∧ (letters ++ rest).dropWhile p = rest := by
  rw [List.takeWhile_append_of_pos hl, List.dropWhile_append_of_pos hl]
  cases rest with
  | nil => simp
  | cons c rest => simp_all

theorem ends_digits (h : rest.head?.any isIdentPart = false) :
    rest.head?.any Char.isDigit = false := by
  cases rest with
  | nil => rfl
  | cons c rest => exact Bool.eq_false_iff.mpr fun hd => by simp_all [isIdentPart_of_isDigit hd]

theorem stringBody_quoted (h : Quoted body text) (start col : Nat) (rest : List Char) :
    stringBody start col (body ++ '"' :: rest) = .ok (text, col + body.length + 1, rest) := by
  induction h generalizing col with
  | nil => simp [stringBody]
  | @plain c body text hq hb _ ih =>
    rw [List.cons_append, stringBody, ih]
    · simp only [List.length_cons, Except.ok.injEq, Prod.mk.injEq, true_and, and_true]
      omega
    · exact hq
    · rintro _ _ rfl
      exact absurd rfl hb
  | @escape c d body text hd _ ih =>
    simp only [List.cons_append, stringBody, hd, ih, List.length_cons, Except.ok.injEq,
      Prod.mk.injEq, true_and, and_true]
    omega

theorem quoted_of_stringBody {after : Nat} (h : stringBody start col cs = .ok (text, after, rest)) :
    ∃ body, Quoted body text ∧ cs = body ++ '"' :: rest ∧ after = col + body.length + 1 := by
  fun_induction stringBody start col cs generalizing text with
  | case1 | case3 | case4 | case6 => simp at h
  | case2 col rest' =>
    cases h
    exact ⟨[], .nil, rfl, rfl⟩
  | case5 col c cs d hd text' after' ht ih =>
    cases h
    obtain ⟨body, hq, rfl, rfl⟩ := ih ht
    exact ⟨'\\' :: c :: body, .escape hd hq, rfl, by simp only [List.length_cons]; omega⟩
  | case7 col c cs hq hb text' after' ht ih =>
    cases h
    obtain ⟨body, hbody, rfl, rfl⟩ := ih ht
    have hb : c ≠ '\\' := by
      rintro rfl
      cases body <;> exact hb _ _ rfl rfl
    exact ⟨c :: body, .plain hq hb hbody, rfl, by simp only [List.length_cons]; omega⟩

theorem scanFrom_gap (h : isGap c = true) :
    scanFrom line col (c :: rest) = scanFrom line (col + 1) rest := by
  rw [scanFrom, if_pos h]

theorem scanFrom_comment : scanFrom line col ('/' :: '/' :: rest) = .ok [] := by
  rw [scanFrom]
  rfl

theorem bind_cons_eq_map (x : Except ParseError (List Token)) (t : Token) :
    (x >>= fun tokens => pure (t :: tokens)) = x.map (t :: ·) := by
  cases x <;> rfl

theorem startsNumber_not_punctuation (h : startsNumber c rest = true) :
    isGap c = false ∧ c ≠ '/' ∧ c ≠ ':' ∧ c ≠ '"' := by
  obtain h | h := Bool.or_eq_true_iff.mp h
  · obtain ⟨hlo, hhi⟩ := isDigit_bounds h
    obtain ⟨hg, hslash, hquote⟩ := not_punctuation hlo
    refine ⟨hg, hslash, ?_, hquote⟩
    rintro rfl
    exact absurd hhi (by decide)
  · obtain rfl | rfl := isSign_cases (Bool.and_eq_true_iff.mp h).1 <;> decide

theorem scanFrom_number {digits : List Char} (hs : startsNumber c (digits ++ rest) = true)
    (hd : ∀ d ∈ digits, d.isDigit = true) (hr : rest.head?.any isIdentPart = false) :
    scanFrom line col (c :: (digits ++ rest)) =
      (scanFrom line (col + 1 + digits.length) rest).map
        (⟨.int, String.ofList (c :: digits), line, col⟩ :: ·) := by
  obtain ⟨hg, hslash, hcolon, hquote⟩ := startsNumber_not_punctuation hs
  obtain ⟨htake, hdrop⟩ := span_of_ends (p := Char.isDigit) hd (ends_digits hr)
  rw [scanFrom]
  simp only [hg, hslash, hcolon, hquote, beq_iff_eq, Bool.and_eq_true, false_and,
    Bool.false_eq_true, ↓reduceIte, hs, htake, hdrop, hr]
  exact bind_cons_eq_map ..

theorem scanFrom_ident {letters : List Char} (hc : isIdentStart c = true)
    (hl : ∀ d ∈ letters, isIdentPart d = true) (hr : rest.head?.any isIdentPart = false) :
    scanFrom line col (c :: (letters ++ rest)) =
      (scanFrom line (col + 1 + letters.length) rest).map
        (⟨.ident, String.ofList (c :: letters), line, col⟩ :: ·) := by
  have hge := isIdentStart_ge hc
  obtain ⟨hg, hslash, hquote⟩ := not_punctuation (Nat.le_trans (by decide) hge)
  have hne (d : Char) (hd : d.toNat < 0x41) : c ≠ d := ne_of_lt_toNat (Nat.lt_of_lt_of_le hd hge)
  have hnumber : startsNumber c (letters ++ rest) = false := by
    have hd : c.isDigit = false :=
      Bool.eq_false_iff.mpr fun h => absurd (isDigit_bounds h).2 (by omega)
    simp [startsNumber, hd, isSign, hne '+' (by decide), hne '-' (by decide)]
  obtain ⟨htake, hdrop⟩ := span_of_ends hl hr
  rw [scanFrom]
  simp only [hg, hslash, hne ':' (by decide), hquote, beq_iff_eq, Bool.and_eq_true, false_and,
    Bool.false_eq_true, ↓reduceIte, hnumber, hc, htake, hdrop]
  exact bind_cons_eq_map ..

theorem scanFrom_string (h : Quoted body text) :
    scanFrom line col ('"' :: (body ++ '"' :: rest)) =
      (scanFrom line (col + (body.length + 2)) rest).map
        (⟨.string, String.ofList text, line, col⟩ :: ·) := by
  have hb := stringBody_quoted h col (col + 1) rest
  rw [show col + 1 + body.length + 1 = col + (body.length + 2) by omega] at hb
  rw [scanFrom, if_neg (by decide), if_neg (by simp), if_neg (by decide), if_pos BEq.rfl]
  split
  · rename_i hcause
    rw [hb] at hcause
    cases hcause
  · rename_i hok
    rw [hb] at hok
    cases hok
    exact bind_cons_eq_map ..

theorem scanFrom_lexeme (h : Lexeme kind word text) (hr : EndsBefore kind rest) :
    scanFrom line col (word ++ rest) = (scanFrom line (col + word.length) rest).map
      (⟨kind, String.ofList text, line, col⟩ :: ·) := by
  cases h with
  | colon =>
    rw [List.singleton_append, scanFrom]
    exact bind_cons_eq_map ..
  | @string body _ hq =>
    simpa [List.append_assoc] using scanFrom_string hq
  | @unsigned d digits hd hds =>
    have hs : startsNumber d (digits ++ rest) = true := by simp [startsNumber, hd]
    simpa [Nat.add_comm, Nat.add_left_comm] using scanFrom_number hs hds (hr (.inl rfl))
  | @signed s d digits hs hd hds =>
    have hs : startsNumber s (d :: digits ++ rest) = true := by simp [startsNumber, hs, hd]
    have hds : ∀ e ∈ d :: digits, e.isDigit = true := List.forall_mem_cons.mpr ⟨hd, hds⟩
    simpa [Nat.add_comm, Nat.add_left_comm] using scanFrom_number hs hds (hr (.inl rfl))
  | @ident c letters hc hl =>
    simpa [Nat.add_comm, Nat.add_left_comm] using scanFrom_ident hc hl (hr (.inr rfl))

theorem Lexes.scanFrom {tokens : List Token} (h : Lexes line col cs tokens) :
    scanFrom line col cs = .ok tokens := by
  induction h with
  | done => rw [Token.scanFrom]
  | comment => exact scanFrom_comment
  | gap hg _ ih => rw [scanFrom_gap hg, ih]
  | lexeme hl hr _ ih =>
    rw [scanFrom_lexeme hl hr, ih]
    rfl

theorem lexeme_of_startsNumber (h : startsNumber c rest = true) :
    Lexeme .int (c :: rest.takeWhile Char.isDigit) (c :: rest.takeWhile Char.isDigit) := by
  have hds := List.all_eq_true.mp (List.all_takeWhile (p := Char.isDigit) (l := rest))
  obtain h | h := Bool.or_eq_true_iff.mp h
  · exact .unsigned h hds
  · obtain ⟨hs, hd⟩ := Bool.and_eq_true_iff.mp h
    cases rest with
    | nil => cases hd
    | cons d rest =>
      have hd : d.isDigit = true := hd
      rw [List.takeWhile_cons_of_pos hd] at hds ⊢
      exact .signed hs hd (List.forall_mem_cons.mp hds).2

/-- The rest of a span does not start with a character that belongs to it. -/
theorem ends_dropWhile (p : Char → Bool) (rest : List Char) :
    (rest.dropWhile p).head?.any p = false := by
  induction rest with
  | nil => rfl
  | cons c rest ih =>
    by_cases hc : p c = true
    · rwa [List.dropWhile_cons_of_pos hc]
    · rw [List.dropWhile_cons_of_neg hc]
      simpa using hc

theorem Lexes.of_eq {after : Nat} {tokens : List Token} (hl : Lexeme kind word text)
    (hr : EndsBefore kind rest) (hcs : cs = word ++ rest) (ha : after = col + word.length)
    (h : Lexes line after rest tokens) :
    Lexes line col cs (⟨kind, String.ofList text, line, col⟩ :: tokens) := by
  rw [ha] at h
  rw [hcs]
  exact .lexeme hl hr h

/-- The scanner takes the longest number or identifier. -/
theorem lexes_of_scanFrom {tokens : List Token} (h : scanFrom line col cs = .ok tokens) :
    Lexes line col cs tokens := by
  fun_induction Token.scanFrom line col cs generalizing tokens with
  | case1 col =>
    cases h
    exact .done
  | case2 col c rest hg ih => exact .gap hg (ih h)
  | case3 col c rest hg hslash =>
    cases h
    obtain ⟨hc, hr⟩ := Bool.and_eq_true_iff.mp hslash
    obtain ⟨rest, rfl⟩ := List.head?_eq_some_iff.mp (beq_iff_eq.mp hr)
    rw [beq_iff_eq.mp hc]
    exact .comment
  | case4 col c rest _ _ hcolon ih =>
    obtain ⟨ts, hts, h⟩ := bind_eq_ok_iff.mp h
    cases h
    rw [beq_iff_eq.mp hcolon]
    exact .of_eq .colon (by simp [EndsBefore]) rfl rfl (ih hts)
  | case5 | case7 | case10 => cases h
  | case6 col c rest _ _ _ hquote text after rest' hbody ih =>
    obtain ⟨ts, hts, h⟩ := bind_eq_ok_iff.mp h
    cases h
    obtain ⟨body, hq, rfl, rfl⟩ := quoted_of_stringBody hbody
    rw [beq_iff_eq.mp hquote]
    exact .of_eq (.string hq) (by simp [EndsBefore]) (by simp) (by simp; omega) (ih hts)
  | case8 col c rest _ _ _ _ hs digits rest' hends =>
    rename_i ih
    obtain ⟨ts, hts, h⟩ := bind_eq_ok_iff.mp h
    cases h
    refine .of_eq (lexeme_of_startsNumber hs) (fun _ => Bool.eq_false_iff.mpr hends) ?_ ?_ (ih hts)
    · rw [List.cons_append, List.takeWhile_append_dropWhile]
    · show col + 1 + digits.length = col + (digits.length + 1)
      omega
  | case9 col c rest _ _ _ _ _ hc letters =>
    rename_i ih
    obtain ⟨ts, hts, h⟩ := bind_eq_ok_iff.mp h
    cases h
    have hl := List.all_eq_true.mp (List.all_takeWhile (p := isIdentPart) (l := rest))
    refine .of_eq (.ident hc hl) (fun _ => ends_dropWhile isIdentPart rest) ?_ ?_ (ih hts)
    · rw [List.cons_append, List.takeWhile_append_dropWhile]
    · show col + 1 + letters.length = col + (letters.length + 1)
      omega

theorem scanFrom_eq_ok_iff {tokens : List Token} :
    scanFrom line col cs = .ok tokens ↔ Lexes line col cs tokens :=
  ⟨lexes_of_scanFrom, Lexes.scanFrom⟩

end Token

end StackMachine
