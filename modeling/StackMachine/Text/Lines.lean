/-! Lines of a text. -/
namespace StackMachine.Text

/-- Besides line feed and carriage return, the vertical tab, the form feed, the file, group and
record separators, the next line control, and the line and paragraph separators. -/
def lineBreaks : List Char :=
  ['\n', '\r', '\x0b', '\x0c', '\x1c', '\x1d', '\x1e', '\u0085', '\u2028', '\u2029']

def isLineBreak (c : Char) : Bool := lineBreaks.contains c

/-- A carriage return and the line feed after it are one break. A break at the very end opens no
further line. -/
def lines : List Char → List (List Char)
  | [] => []
  | '\r' :: '\n' :: rest => [] :: lines rest
  | c :: rest =>
      if isLineBreak c then [] :: lines rest
      else match lines rest with
        | [] => [[c]]
        | line :: others => (c :: line) :: others

@[simp] theorem lines_nil : lines [] = [] := by simp [lines]

theorem lines_of_not_break {c : Char} (h : isLineBreak c = false) (rest : List Char) :
    lines (c :: rest) = match lines rest with
      | [] => [[c]]
      | line :: others => (c :: line) :: others := by
  rw [lines]
  · simp [h]
  · rintro _ rfl
    exact absurd h (by decide)

theorem lines_newline (rest : List Char) : lines ('\n' :: rest) = [] :: lines rest := by
  rw [lines]
  · rfl
  · rintro _ h
    cases h

/-- Characters without a break in front of a text belong to its first line. -/
theorem lines_append_unbroken {cs : List Char} (h : ∀ c ∈ cs, isLineBreak c = false)
    {rest first : List Char} {others : List (List Char)} (hr : lines rest = first :: others) :
    lines (cs ++ rest) = (cs ++ first) :: others := by
  induction cs with
  | nil => exact hr
  | cons c cs ih =>
    obtain ⟨hc, hcs⟩ := List.forall_mem_cons.mp h
    rw [List.cons_append, lines_of_not_break hc, ih hcs]
    rfl

/-- A line feed ends a line. -/
theorem lines_append_newline {line : List Char} (h : ∀ c ∈ line, isLineBreak c = false)
    (rest : List Char) : lines (line ++ '\n' :: rest) = line :: lines rest := by
  rw [lines_append_unbroken h (lines_newline rest), List.append_nil]

theorem lines_singleton {line : List Char} (h : ∀ c ∈ line, isLineBreak c = false)
    (hne : line ≠ []) : lines line = [line] := by
  induction line with
  | nil => exact absurd rfl hne
  | cons c line ih =>
    obtain ⟨hc, hline⟩ := List.forall_mem_cons.mp h
    rw [lines_of_not_break hc]
    cases line with
    | nil => rfl
    | cons d line => rw [ih hline (by simp)]

theorem lines_intercalate {ls : List (List Char)}
    (h : ∀ line ∈ ls, (∀ c ∈ line, isLineBreak c = false) ∧ line ≠ []) :
    lines (['\n'].intercalate ls) = ls := by
  induction ls with
  | nil => simp
  | cons line rest ih =>
    obtain ⟨⟨hline, hne⟩, hrest⟩ := List.forall_mem_cons.mp h
    cases rest with
    | nil => rw [List.intercalate_singleton, lines_singleton hline hne]
    | cons next rest =>
      rw [List.intercalate_cons_cons, List.append_assoc, List.singleton_append,
        lines_append_newline hline, ih hrest]

/-- No line holds a break. -/
theorem isLineBreak_of_mem_lines {text line : List Char} {c : Char}
    (hl : line ∈ lines text) (hc : c ∈ line) : isLineBreak c = false := by
  fun_induction lines text generalizing line with
  | case1 => simp at hl
  | case2 rest ih =>
      rcases List.mem_cons.1 hl with rfl | hl
      · simp at hc
      · exact ih hl hc
  | case3 d rest _ hd ih =>
      rcases List.mem_cons.1 hl with rfl | hl
      · simp at hc
      · exact ih hl hc
  | case4 d rest _ hd hnil ih =>
      simp only [List.mem_singleton] at hl
      subst hl
      simp only [List.mem_singleton] at hc
      subst hc
      simpa using hd
  | case5 d rest _ hd first others hcons ih =>
      rcases List.mem_cons.1 hl with rfl | hl
      · rcases List.mem_cons.1 hc with rfl | hc
        · simpa using hd
        · exact ih (by simp [hcons]) hc
      · exact ih (by simp [hcons, hl]) hc

end StackMachine.Text
