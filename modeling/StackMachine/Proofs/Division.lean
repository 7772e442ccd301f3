import StackMachine.Proofs.LexicalFlaw

/-! Lines cut into gaps and lexemes. A line that can be cut up can be so in one way only, and the
scanner gives the lexemes of that division. -/
namespace StackMachine
open Text

namespace Token

/-- A lexeme, the text that it stands for, and the gap before it. -/
structure Piece where
  gap : List Char
  kind : TokenKind
  word : List Char
  text : List Char
  deriving DecidableEq, Repr

/-- Lexemes behind their gaps, a last gap, and what a comment says behind its slashes. -/
structure Division where
  pieces : List Piece := []
  gap : List Char := []
  comment? : Option (List Char) := none
  deriving DecidableEq, Repr

def IsGap (gap : List Char) : Prop := ∀ c ∈ gap, isGap c = true

/-- A comment with its slashes. -/
def commentChars : Option (List Char) → List Char
  | none => []
  | some rest => '/' :: '/' :: rest

/-- The characters are these gaps and lexemes one after the other. -/
inductive Divides : List Char → Division → Prop
  | ending {gap : List Char} {comment? : Option (List Char)} : IsGap gap →
      Divides (gap ++ commentChars comment?) { gap, comment? }
  | lexeme {gap word text rest : List Char} {kind : TokenKind} {d : Division} : IsGap gap →
      Lexeme kind word text → EndsBefore kind rest → Divides rest d →
      Divides (gap ++ (word ++ rest)) { d with pieces := ⟨gap, kind, word, text⟩ :: d.pieces }

namespace Division

/-- The tokens of pieces behind so many characters. -/
def tokensFrom (line : Int) : Nat → List Piece → List Token
  | _, [] => []
  | offset, p :: pieces =>
      ⟨p.kind, String.ofList p.text, line, 1 + (offset + p.gap.length)⟩ ::
        tokensFrom line (offset + p.gap.length + p.word.length) pieces

def tokens (line : Int) (d : Division) : List Token := tokensFrom line 0 d.pieces

end Division

variable {line : Int} {col offset : Nat} {c : Char} {cs rest rest' gap gap' word word' : List Char}
  {text text' : List Char} {kind kind' : TokenKind} {d d' : Division}

/-! ### One division -/

/-- The kind of the lexeme that starts with this character before these, if one does. -/
def kindAt (c : Char) (rest : List Char) : TokenKind :=
  if c = ':' then .colon
  else if c = '"' then .string
  else if startsNumber c rest then .int
  else .ident

theorem kindAt_of_isIdentStart (h : isIdentStart c = true) : kindAt c rest = .ident := by
  have hge := isIdentStart_ge h
  have hne (d : Char) (hd : d.toNat < 0x41) : c ≠ d := ne_of_lt_toNat (Nat.lt_of_lt_of_le hd hge)
  have hdigit : c.isDigit = false :=
    Bool.eq_false_iff.mpr fun hd => absurd (isDigit_bounds hd).2 (by omega)
  have hsign : isSign c = false := by simp [isSign, hne '+' (by decide), hne '-' (by decide)]
  simp [kindAt, hne ':' (by decide), hne '"' (by decide), startsNumber, hdigit, hsign]

theorem kindAt_of_startsNumber (h : startsNumber c rest = true) : kindAt c rest = .int := by
  obtain ⟨-, -, hcolon, hquote⟩ := startsNumber_not_punctuation h
  simp [kindAt, hcolon, hquote, h]

/-- A lexeme starts with a character that shows its kind and starts no gap and no comment. -/
theorem Lexeme.exists_head (h : Lexeme kind word text) (rest : List Char) :
    ∃ c tail, word = c :: tail ∧ kindAt c (tail ++ rest) = kind ∧ isGap c = false ∧ c ≠ '/' := by
  cases h with
  | colon => exact ⟨':', [], rfl, rfl, by decide, by decide⟩
  | string hq => exact ⟨'"', _, rfl, rfl, by decide, by decide⟩
  | @unsigned d digits hd _ =>
    have hs : startsNumber d (digits ++ rest) = true := by simp [startsNumber, hd]
    obtain ⟨hgap, hslash, -, -⟩ := startsNumber_not_punctuation hs
    exact ⟨d, digits, rfl, kindAt_of_startsNumber hs, hgap, hslash⟩
  | @signed s d digits hsign hd _ =>
    have hs : startsNumber s (d :: digits ++ rest) = true := by simp [startsNumber, hsign, hd]
    obtain ⟨hgap, hslash, -, -⟩ := startsNumber_not_punctuation hs
    exact ⟨s, d :: digits, rfl, kindAt_of_startsNumber hs, hgap, hslash⟩
  | @ident c letters hc _ =>
    obtain ⟨hgap, hslash, -⟩ := not_punctuation (Nat.le_trans (by decide) (isIdentStart_ge hc))
    exact ⟨c, letters, rfl, kindAt_of_isIdentStart hc, hgap, hslash⟩

/-- Behind its first character a number is a run of digits and an identifier one of its parts. -/
theorem Lexeme.exists_run (h : Lexeme kind word text) (hr : EndsBefore kind rest)
    (hk : kind = .int ∨ kind = .ident) :
    ∃ c run, word = c :: run ∧ text = word ∧
      (run ++ rest).dropWhile (if kind = .int then Char.isDigit else isIdentPart) = rest := by
  have hend := hr hk
  cases h with
  | colon | string => obtain hk | hk := hk <;> cases hk
  | unsigned _ hds => exact ⟨_, _, rfl, rfl, (span_of_ends hds (ends_digits hend)).2⟩
  | @signed s d digits _ hd hds =>
    have hrun : ∀ e ∈ d :: digits, e.isDigit = true := List.forall_mem_cons.mpr ⟨hd, hds⟩
    exact ⟨_, _, rfl, rfl, (span_of_ends hrun (ends_digits hend)).2⟩
  | ident _ hl => exact ⟨_, _, rfl, rfl, (span_of_ends hl hend).2⟩

theorem Lexeme.unique_of_kind (h : Lexeme kind word text) (h' : Lexeme kind word' text')
    (hr : EndsBefore kind rest) (hr' : EndsBefore kind rest')
    (he : word ++ rest = word' ++ rest') : word = word' ∧ text = text' ∧ rest = rest' := by
  by_cases hk : kind = .int ∨ kind = .ident
  · obtain ⟨c, run, rfl, rfl, hdrop⟩ := h.exists_run hr hk
    obtain ⟨c', run', rfl, rfl, hdrop'⟩ := h'.exists_run hr' hk
    obtain ⟨hc, htail⟩ := List.cons.inj he
    have hrest : rest = rest' := by rw [← hdrop, ← hdrop']; exact congrArg _ htail
    subst hrest
    have hword := List.append_cancel_right he
    exact ⟨hword, hword, rfl⟩
  · cases h with
    | colon =>
      cases h'
      exact ⟨rfl, rfl, (List.cons.inj he).2⟩
    | @string body _ hq =>
      obtain - | @⟨body', _, hq'⟩ := h'
      have hbody : body ++ '"' :: rest = body' ++ '"' :: rest' := by
        simpa using (List.cons.inj he).2
      -- The reader finds the end of the string by itself.
      have hread := stringBody_quoted hq 0 0 rest
      rw [hbody, stringBody_quoted hq' 0 0 rest'] at hread
      obtain ⟨rfl, -, rfl⟩ : text' = text ∧ _ ∧ rest' = rest := by simpa using hread
      exact ⟨List.append_cancel_right he, rfl, rfl⟩
    | unsigned | signed => exact absurd (.inl rfl) hk
    | ident => exact absurd (.inr rfl) hk

theorem Lexeme.unique (h : Lexeme kind word text) (h' : Lexeme kind' word' text')
    (hr : EndsBefore kind rest) (hr' : EndsBefore kind' rest')
    (he : word ++ rest = word' ++ rest') :
    kind = kind' ∧ word = word' ∧ text = text' ∧ rest = rest' := by
  have hkind : kind = kind' := by
    obtain ⟨c, tail, rfl, hk, -, -⟩ := h.exists_head rest
    obtain ⟨c', tail', rfl, hk', -, -⟩ := h'.exists_head rest'
    obtain ⟨rfl, htail⟩ := List.cons.inj he
    rw [← hk, ← hk']
    exact congrArg _ htail
  subst hkind
  exact ⟨rfl, h.unique_of_kind h' hr hr' he⟩

theorem gap_unique {tail tail' : List Char} (hg : IsGap gap) (hg' : IsGap gap')
    (ht : tail.head?.any isGap = false) (ht' : tail'.head?.any isGap = false)
    (he : gap ++ tail = gap' ++ tail') : gap = gap' ∧ tail = tail' := by
  obtain ⟨htake, hdrop⟩ := span_of_ends hg ht
  obtain ⟨htake', hdrop'⟩ := span_of_ends hg' ht'
  constructor
  · rw [← htake, ← htake', he]
  · rw [← hdrop, ← hdrop', he]

theorem commentChars_ends (comment? : Option (List Char)) :
    (commentChars comment?).head?.any isGap = false := by
  cases comment? <;> rfl

theorem commentChars_inj {comment? comment?' : Option (List Char)}
    (h : commentChars comment? = commentChars comment?') : comment? = comment?' := by
  cases comment? <;> cases comment?' <;> simp_all [commentChars]

theorem Lexeme.ends_gap (h : Lexeme kind word text) (rest : List Char) :
    (word ++ rest).head?.any isGap = false := by
  obtain ⟨c, tail, rfl, -, hgap, -⟩ := h.exists_head rest
  simpa using hgap

theorem Lexeme.append_ne_commentChars (h : Lexeme kind word text) (rest : List Char)
    (comment? : Option (List Char)) : word ++ rest ≠ commentChars comment? := by
  obtain ⟨c, tail, rfl, -, -, hslash⟩ := h.exists_head rest
  cases comment? with
  | none => exact nofun
  | some said => exact fun he => hslash (List.cons.inj he).1

theorem Divides.unique (h : Divides cs d) (h' : Divides cs d') : d = d' := by
  induction h generalizing d' with
  | @ending gap comment? hg =>
    generalize he : gap ++ commentChars comment? = cs at h'
    cases h' with
    | ending hg' =>
      obtain ⟨rfl, hc⟩ := gap_unique hg hg' (commentChars_ends _) (commentChars_ends _) he
      rw [commentChars_inj hc]
    | lexeme hg' hl _ _ =>
      obtain ⟨-, hc⟩ := gap_unique hg hg' (commentChars_ends _) (hl.ends_gap _) he
      exact absurd hc.symm (hl.append_ne_commentChars _ _)
  | @lexeme gap word text rest kind d hg hl hr _ ih =>
    generalize he : gap ++ (word ++ rest) = cs at h'
    cases h' with
    | ending hg' =>
      obtain ⟨-, hc⟩ := gap_unique hg hg' (hl.ends_gap _) (commentChars_ends _) he
      exact absurd hc (hl.append_ne_commentChars _ _)
    | lexeme hg' hl' hr' hd =>
      obtain ⟨rfl, htail⟩ := gap_unique hg hg' (hl.ends_gap _) (hl'.ends_gap _) he
      obtain ⟨rfl, rfl, rfl, rfl⟩ := hl.unique hl' hr hr' htail
      rw [ih hd]

/-! ### The division of a line that is scanned -/

theorem scanFrom_gap_append (hg : IsGap gap) :
    scanFrom line col (gap ++ rest) = scanFrom line (col + gap.length) rest := by
  induction gap generalizing col with
  | nil => rfl
  | cons c gap ih =>
    obtain ⟨hc, hg⟩ := List.forall_mem_cons.mp hg
    rw [List.cons_append, scanFrom_gap hc, ih hg, List.length_cons, Nat.add_assoc, Nat.add_comm 1]

theorem Lexes.gap_append {tokens : List Token} (hg : IsGap gap)
    (h : Lexes line (col + gap.length) rest tokens) : Lexes line col (gap ++ rest) tokens :=
  lexes_of_scanFrom ((scanFrom_gap_append hg).trans h.scanFrom)

theorem Divides.lexes (h : Divides cs d) (offset : Nat) :
    Lexes line (1 + offset) cs (Division.tokensFrom line offset d.pieces) := by
  induction h generalizing offset with
  | @ending gap comment? hg =>
    apply Lexes.gap_append hg
    cases comment? with
    | none => exact .done
    | some said => exact .comment
  | @lexeme gap word text rest kind d hg hl hr _ ih =>
    apply Lexes.gap_append hg
    have hrest := ih (offset + gap.length + word.length)
    rw [← Nat.add_assoc, ← Nat.add_assoc] at hrest
    rw [Division.tokensFrom, ← Nat.add_assoc]
    exact .lexeme hl hr hrest

theorem Divides.exists_cons (hc : isGap c = true) (h : Divides cs d) :
    ∃ d', Divides (c :: cs) d' := by
  cases h with
  | ending hg => exact ⟨_, .ending (List.forall_mem_cons.mpr ⟨hc, hg⟩)⟩
  | lexeme hg hl hr hd => exact ⟨_, .lexeme (List.forall_mem_cons.mpr ⟨hc, hg⟩) hl hr hd⟩

theorem Lexes.exists_divides {tokens : List Token} (h : Lexes line col cs tokens) :
    ∃ d, Divides cs d := by
  have hnil : IsGap [] := fun _ hc => absurd hc List.not_mem_nil
  induction h with
  | done => exact ⟨_, @Divides.ending [] none hnil⟩
  | @comment _ rest => exact ⟨_, @Divides.ending [] (some rest) hnil⟩
  | gap hg _ ih =>
    obtain ⟨d, hd⟩ := ih
    exact hd.exists_cons hg
  | lexeme hl hr _ ih =>
    obtain ⟨d, hd⟩ := ih
    exact ⟨_, .lexeme hnil hl hr hd⟩

/-- A line is scanned exactly if it can be cut into gaps and lexemes. Its one division gives the
tokens; any other line is refused as bad syntax. -/
theorem scan_divides (line : Int) (cs : List Char) :
    ((∃ tokens, scan line cs = .ok tokens) ↔ ∃ d, Divides cs d) ∧
    (∀ d, Divides cs d → scan line cs = .ok (d.tokens line) ∧ ∀ d', Divides cs d' → d' = d) ∧
    ((¬ ∃ d, Divides cs d) →
      ∃ e, scan line cs = .error e ∧ e.line = line ∧ e.cause.kind = .badSyntax) := by
  have hscan : ∀ d, Divides cs d → scan line cs = .ok (d.tokens line) :=
    fun d hd => (hd.lexes 0).scanFrom
  have hdivides : ∀ tokens, scan line cs = .ok tokens → ∃ d, Divides cs d :=
    fun tokens ht => (lexes_of_scanFrom ht).exists_divides
  refine ⟨⟨?_, ?_⟩, ?_, ?_⟩
  · rintro ⟨tokens, ht⟩
    exact hdivides tokens ht
  · rintro ⟨d, hd⟩
    exact ⟨_, hscan d hd⟩
  · intro d hd
    exact ⟨hscan d hd, fun d' hd' => hd'.unique hd⟩
  · intro hnone
    cases hs : scan line cs with
    | ok tokens => exact absurd (hdivides tokens hs) hnone
    | error e =>
      obtain ⟨hline, hflaw⟩ := scanFrom_error hs
      exact ⟨e, rfl, hline, hflaw.kind_eq⟩

end Token

end StackMachine
