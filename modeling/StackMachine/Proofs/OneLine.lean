import StackMachine.Proofs.ForwardJumps
import StackMachine.Proofs.Rejection
import StackMachine.Proofs.WireForm

/-! Errors are reported on one line. Whatever a message quotes from a program, the report of an
error of its text or of a run of it has no line break. -/
namespace StackMachine
open Text Assembly

/-- A text without a line break. -/
def Unbroken (s : String) : Prop := ∀ c ∈ s.toList, isLineBreak c = false

instance (s : String) : Decidable (Unbroken s) :=
  decidable_of_iff (s.toList.all fun c => !isLineBreak c) (by simp [Unbroken])

@[simp] theorem unbroken_append {a b : String} : Unbroken (a ++ b) ↔ Unbroken a ∧ Unbroken b := by
  simp only [Unbroken, String.toList_append, List.forall_mem_append]

@[simp] theorem unbroken_push {s : String} {c : Char} :
    Unbroken (s.push c) ↔ Unbroken s ∧ isLineBreak c = false := by
  simp only [Unbroken, String.toList_push, List.forall_mem_append, List.forall_mem_singleton]

@[simp] theorem unbroken_int (n : Int) : Unbroken n.repr := fun _ => unbroken_toString

@[simp] theorem unbroken_nat (n : Nat) : Unbroken n.repr := unbroken_int n

@[simp] theorem unbroken_mnemonic (op : Opcode) : Unbroken op.mnemonic :=
  fun _ => (isName_mnemonic op).unbroken

@[simp] theorem unbroken_name (kind : ErrorKind) : Unbroken kind.name := by cases kind <;> decide

@[simp] theorem unbroken_word (kind : OperandKind) : Unbroken kind.word := by cases kind <;> decide

@[simp] theorem unbroken_arena (arena : ArenaName) : Unbroken arena.word := by
  cases arena <;> decide

@[simp] theorem unbroken_describe (v : Value) : Unbroken v.describe := by
  cases v <;> simp only [Value.describe] <;> decide

theorem isLineBreak_of_isPrintable {c : Char} (h : isPrintable c = true) :
    isLineBreak c = false := by
  apply Bool.eq_false_iff.mpr
  intro hb
  have hall : lineBreaks.all (fun d => !isPrintable d) = true := by decide +kernel
  have hc := List.all_eq_true.mp hall c (List.contains_iff_mem.mp hb)
  simp [h] at hc

theorem isLineBreak_of_mem_hexDigits {width n : Nat} {c : Char} (h : c ∈ hexDigits width n) :
    isLineBreak c = false := by
  induction width generalizing n with
  | zero => cases h
  | succ width ih =>
    rcases List.mem_append.mp h with h | h
    · exact ih h
    · have hdigits : ∀ d < 16, isLineBreak (Nat.digitChar d) = false := by decide
      rw [List.mem_singleton.mp h]
      exact hdigits _ (Nat.mod_lt n (by decide))

/-- A character that is not printable is written with an escape. -/
theorem isLineBreak_of_mem_quotedChar {mark c d : Char} (hm : isLineBreak mark = false)
    (h : d ∈ quotedChar mark c) : isLineBreak d = false := by
  have hescape {letter : Char} {digits : List Char} (hl : isLineBreak letter = false)
      (hd : ∀ e ∈ digits, isLineBreak e = false) (h : d ∈ '\\' :: letter :: digits) :
      isLineBreak d = false := by
    rcases List.mem_cons.mp h with rfl | h
    · decide
    · rcases List.mem_cons.mp h with rfl | h
      · exact hl
      · exact hd d h
  have hhex {letter : Char} {width : Nat} (hl : isLineBreak letter = false)
      (h : d ∈ '\\' :: letter :: hexDigits width c.toNat) : isLineBreak d = false :=
    hescape hl (fun _ => isLineBreak_of_mem_hexDigits) h
  unfold quotedChar at h
  split at h
  · rename_i hc
    refine hescape ?_ (List.forall_mem_nil _) h
    rcases Bool.or_eq_true_iff.mp hc with hc | hc
    · rw [beq_iff_eq.mp hc]
      decide
    · rwa [beq_iff_eq.mp hc]
  · repeat' split at h
    all_goals first
      | exact hescape (by decide) (List.forall_mem_nil _) h
      | exact hhex (by decide) h
      | skip
    rename_i hp
    rw [List.mem_singleton.mp h]
    exact isLineBreak_of_isPrintable hp

@[simp] theorem unbroken_quoted (s : String) : Unbroken (quoted s) := by
  have hmark : isLineBreak (quoteMark s.toList) = false := by
    unfold quoteMark
    split <;> decide
  intro c hc
  rw [quoted_toList, quotedChars, List.mem_append, List.mem_cons, List.mem_singleton] at hc
  rcases hc with (rfl | hc) | rfl
  · exact hmark
  · obtain ⟨d, -, hc⟩ := List.mem_flatMap.mp hc
    exact isLineBreak_of_mem_quotedChar hmark hc
  · exact hmark

/-- What a message quotes has no line break, and neither has its own text. -/
theorem Fault.unbroken_message (f : Fault) : Unbroken f.message := by
  unfold message
  cases f <;> simp <;> decide +kernel

/-- What a cause quotes from a line as it is has no line break. -/
def ParseCause.Plain : ParseCause → Prop
  | unknownEscape c _ => isLineBreak c = false
  | integerTooWide literal => Unbroken literal
  | _ => True

theorem ParseCause.Plain.unbroken_message {cause : ParseCause} (h : cause.Plain) :
    Unbroken cause.message := by
  unfold Plain at h
  unfold message
  cases cause <;> simp [h] <;> decide +kernel

namespace Token
variable {line : Int} {col : Nat} {cs : List Char} {cause : ParseCause} {tokens : List Token}
  {t : Token}

theorem Flaw.plain (h : Flaw cs col cause) (hu : ∀ c ∈ cs, isLineBreak c = false) :
    cause.Plain := by
  cases h with
  | escape => exact hu _ (by simp)
  | character | number | quote => trivial

theorem FlawFrom.plain (h : FlawFrom col cs cause) (hu : ∀ c ∈ cs, isLineBreak c = false) :
    cause.Plain := by
  induction h with
  | here hf => exact hf.plain hu
  | gap _ _ ih => exact ih (List.forall_mem_cons.mp hu).2
  | lexeme _ _ _ ih => exact ih (List.forall_mem_append.mp hu).2

theorem Lexes.unbroken_int (h : Lexes line col cs tokens) (hu : ∀ c ∈ cs, isLineBreak c = false)
    (ht : t ∈ tokens) (hk : t.kind = .int) : Unbroken t.text := by
  obtain ⟨word, hl, hw⟩ := h.exists_lexeme ht
  rw [hk] at hl
  unfold Unbroken
  generalize t.text.toList = text at hl
  cases hl with
  | unsigned | signed => exact fun c hc => hu c (hw c hc)

end Token

theorem Opcode.Flaw.plain {op : Opcode} {tokens : List Token} {cause : ParseCause}
    (h : op.Flaw tokens cause) (ht : ∀ t ∈ tokens, t.kind = .int → Unbroken t.text) :
    cause.Plain := by
  cases h with
  | range _ hk _ _ => exact ht _ (List.mem_singleton_self _) hk
  | colon | unwanted | missing | several | kind => trivial

theorem Statement.Flaw.plain {tokens : List Token} {cause : ParseCause} (h : Flaw tokens cause)
    (ht : ∀ t ∈ tokens, t.kind = .int → Unbroken t.text) : cause.Plain := by
  cases h with
  | noMnemonic | unknown => trivial
  | operand _ _ hf => exact hf.plain fun t hmem => ht t (.tail _ hmem)

theorem mem_splitLabel {tokens : List Token} {t : Token} (h : t ∈ (splitLabel tokens).2) :
    t ∈ tokens := by
  rcases splitLabel_cases tokens with hs | ⟨name, colon, rest, rfl, -, -, hs⟩
  · rwa [hs] at h
  · rw [hs] at h
    exact .tail _ (.tail _ h)

theorem LineFlaw.plain {lines : List (List Char)} {k : Nat} {cause : ParseCause}
    (h : LineFlaw lines k cause) (hu : ∀ cs ∈ lines, ∀ c ∈ cs, isLineBreak c = false) :
    cause.Plain := by
  cases h with
  | lexical hk hf => exact hf.plain (hu _ (List.mem_of_getElem? hk))
  | instruction hk ht hf =>
    have hlexes := Token.scanFrom_eq_ok_iff.mp ht
    exact hf.plain fun t hmem =>
      hlexes.unbroken_int (hu _ (List.mem_of_getElem? hk)) (mem_splitLabel hmem)
  | redefined | undefined => trivial

theorem Report.unbroken_headline {r : Report} (hm : Unbroken r.message)
    (hi : ∀ i ∈ r.instruction, Unbroken i) : Unbroken r.headline := by
  have hl : Unbroken r.location := by
    unfold location
    split
    · simp
      decide
    · decide
    · simp
      decide
    · rename_i instruction _ _ hinstruction
      have hu := hi _ hinstruction
      split
      all_goals
        simp [hu]
        decide
  simp [headline, text, hm, hl]
  decide

theorem unbroken_rejection {text : String} {e : ParseError}
    (h : assemble text = .error (.parse e)) : Unbroken e.report.headline := by
  rcases assemble_error_cases h with ⟨k, cause, he, hf⟩ | ⟨k, digits, he, -⟩
  · cases he
    have hp := hf.plain fun _ hl _ => isLineBreak_of_mem_lines hl
    exact Report.unbroken_headline hp.unbroken_message (by rintro _ ⟨⟩)
  · cases he

namespace Session
variable {s s' : Session} {shots : List Snapshot} {p : Program}

/-- Within a program a session stays within it. -/
theorem Progress.within {m : Machine} (h : Progress s shots s') (hp : p.WellFormed)
    (hs : s.machine? = some m) (hm : m.Within p) : ∃ m', s'.machine? = some m' ∧ m'.Within p := by
  induction h generalizing m with
  | nil => exact ⟨m, hs, hm⟩
  | cons _ hstep _ ih =>
    obtain ⟨m₁, hn, hs₁⟩ := exists_next_of_step hs hstep
    exact ih hs₁ (hm.next hp hn)

/-- A run makes its steps one after the other. -/
theorem run_ends (limit : Int) (s : Session) : ∃ shots,
    s.Progress shots (run limit s).session ∧ (run limit s).steps = shots.length ∧
      Ends limit (limit.toNat - shots.length) (run limit s).session (run limit s).error? := by
  obtain ⟨shots, s', error?, hrun, hp, -, hends⟩ := runMore_progress limit limit.toNat 0 #[] s
  obtain ⟨hsession, hsteps, herror⟩ := runMore_watch (fun _ _ => ())
    (fun _ after => after.snapshot) limit limit.toNat 0 #[] #[] s
  rw [hrun] at hsession hsteps herror
  rw [run, runWatched, hsession, hsteps, herror]
  exact ⟨shots, hp, Nat.zero_add _, hends⟩

end Session

/-- A failure within an assembled program names at most an instruction of it. -/
theorem Machine.Within.unbroken_failure {p : Program} {m : Machine} {e : RuntimeError}
    (hp : p.WellFormed) (hprint : p.Printable) (hm : m.Within p) (h : m.next = .error (.fault e)) :
    Unbroken e.report.headline := by
  apply Report.unbroken_headline e.fault.unbroken_message
  intro line hline
  rcases Machine.next_error h with ⟨-, f, -, he⟩ | ⟨-, -, he | he⟩ |
    ⟨-, i, operands, d, hi, -, hd, he⟩
  · cases he
    cases hline
  · cases he
  · cases he
  · rw [hm.program] at hi
    obtain ⟨-, hmem⟩ := lt_size_of_at? hm.nonneg hi
    obtain ⟨f, rfl, -⟩ := fault_of_arisesIn (hp.operands i hmem) hd
    cases he
    cases hline
    exact fun _ => Instruction.unbroken_render hprint hmem

/-- Every error of a run of a text is a fault. -/
theorem fault_of_runText {text : String} {limit : Int} {r : Run Unit} {e : SessionError}
    (h : runText text limit = .ok r) (he : r.error? = some e) :
    ∃ err, e = .step (.fault err) ∧ Unbroken err.report.headline := by
  obtain ⟨p, hp, hr⟩ := bind_eq_ok_iff.mp h
  cases hr
  obtain ⟨shots, hprogress, -, hends⟩ := Session.run_ends limit ⟨some (Machine.ofProgram p)⟩
  obtain ⟨m, hm, hwithin⟩ :=
    hprogress.within (assemble_wellFormed hp) rfl (Machine.within_ofProgram p)
  rw [he] at hends
  cases hends with
  | limited =>
    refine ⟨_, rfl, Report.unbroken_headline (Fault.unbroken_message _) ?_⟩
    rintro _ ⟨⟩
  | failed _ _ _ hr =>
    cases hr with
    | idle hs =>
      rw [hs] at hm
      cases hm
    | machine hs hn =>
      rw [hs] at hm
      cases hm
      obtain ⟨err, rfl, -⟩ := hwithin.next_error (assemble_wellFormed hp) hn
      exact ⟨err, rfl, hwithin.unbroken_failure (assemble_wellFormed hp)
        (Program.assemble_printable hp) hn⟩

end StackMachine
