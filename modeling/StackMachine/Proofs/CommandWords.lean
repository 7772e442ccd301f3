import StackMachine.CommandLine
import StackMachine.Proofs.Outcome
import StackMachine.Proofs.Spelling

/-! Plain command lines: the name of a command with the path of a program and a limit in decimal, or
with a host and a port. The words are read as they are meant, also where a number is negative. -/
namespace StackMachine
open Text

/-! ### Numerals -/

theorem digitValue?_of_isDigit {c : Char} (h : c.isDigit = true) :
    digitValue? c = some (c.toNat - 48) := by
  obtain ⟨hlo, hhi⟩ := Char.isDigit_iff_toNat.mp h
  have hlo : 48 ≤ c.toNat := hlo
  have hhi : c.toNat ≤ 57 := hhi
  rw [digitValue?, decimalZeros, List.find?_cons_of_pos]
  · rfl
  · simp
    omega

theorem isBlank_of_isDigit {c : Char} (h : c.isDigit = true) : isBlank c = false := by
  obtain ⟨hlo, hhi⟩ := Char.isDigit_iff_toNat.mp h
  have hlo : 48 ≤ c.toNat := hlo
  have hhi : c.toNat ≤ 57 := hhi
  simp [isBlank, blankRanges, Ranges.has]
  omega

theorem isDigit_of_mem_toString {n : Int} {c : Char} (h : c ∈ (toString n).toList) :
    c = '-' ∨ c.isDigit = true := by
  rw [toList_toString] at h
  have hdigit (h : c ∈ Nat.toDigits 10 n.natAbs) : c.isDigit = true :=
    Nat.isDigit_of_mem_toDigits (by decide) (by decide) h
  split at h
  · exact (List.mem_cons.mp h).imp id hdigit
  · exact .inr (hdigit h)

theorem toString_ne_separator (n : Int) : toString n ≠ "--" := by
  intro h
  obtain ⟨d, digits, hcs, hd, -⟩ := toDigits_eq_cons n.natAbs
  have hlist := congrArg String.toList h
  rw [toList_toString, hcs] at hlist
  split at hlist <;> cases hlist <;> exact absurd hd (by decide)

namespace Text.Numeral

theorem moreDigits?_of_isDigit {cs : List Char} (h : ∀ c ∈ cs, c.isDigit = true) :
    moreDigits? cs = some (cs.map fun c => c.toNat - 48) := by
  induction cs with
  | nil => rfl
  | cons c cs ih =>
    obtain ⟨hc, hcs⟩ := List.forall_mem_cons.mp h
    rw [moreDigits?, digitValue?_of_isDigit hc, ih hcs]
    · rfl
    · rintro _ _ rfl
      exact absurd hc (by decide)

/-- What is written of a number is read back, unless it is too long. -/
theorem read?_toString_eq (n : Int) : read? (toString n) =
    if digitCount (toString n).toList ≤ maxDigits then some n else none := by
  have hplain : ∀ c ∈ (toString n).toList, isPadding c = false := by
    intro c hc
    rcases isDigit_of_mem_toString hc with rfl | hd
    · decide
    · simp [isPadding, isBlank_of_isDigit hd]
  obtain ⟨d, digits, hcs, hd, hds⟩ := toDigits_eq_cons n.natAbs
  have hcount : digitCount (toString n).toList = digits.length + 1 := by
    rw [digitCount, splitSign_toString, hcs]
    rfl
  have hvalue : signed (decide (n < 0)) (Nat.ofDigitChars 10 (d :: digits) 0) = n := by
    have hv := value_toString n
    rwa [value, splitSign_toString, hcs] at hv
  have hfold : (digits.map fun c => c.toNat - 48).foldl (fun n d => 10 * n + d) (d.toNat - 48) =
      Nat.ofDigitChars 10 (d :: digits) 0 := by
    simp [Nat.ofDigitChars, List.foldl_map]
  have hdigits : digits? (d :: digits) =
      some ((d.toNat - 48) :: digits.map fun c => c.toNat - 48) := by
    rw [digits?, digitValue?_of_isDigit hd, moreDigits?_of_isDigit hds]
    rfl
  rw [read?, strip_of_none hplain, splitSign_toString, hcs, hcount]
  show (digits? (d :: digits) >>= fun digits => guard (digits.length ≤ maxDigits) >>= fun _ =>
    some (signed (decide (n < 0)) (digits.foldl (fun n d => 10 * n + d) 0))) = _
  rw [hdigits, Option.bind_eq_bind, Option.bind_some, List.length_cons, List.length_map,
    List.foldl_cons, Nat.mul_zero, Nat.zero_add, hfold, hvalue]
  by_cases hle : digits.length + 1 ≤ maxDigits
  · have hshort : (guard (digits.length + 1 ≤ maxDigits) : Option Unit) = some () := if_pos hle
    rw [hshort, Option.bind_eq_bind, Option.bind_some, if_pos hle]
  · have hlong : (guard (digits.length + 1 ≤ maxDigits) : Option Unit) = none := if_neg hle
    rw [hlong, Option.bind_eq_bind, Option.bind_none, if_neg hle]

theorem read?_toString {n : Int} (h : digitCount (toString n).toList ≤ maxDigits) :
    read? (toString n) = some n := by
  rw [read?_toString_eq, if_pos h]

theorem read?_of_long {n : Int} (h : maxDigits < digitCount (toString n).toList) :
    read? (toString n) = none := by
  rw [read?_toString_eq, if_neg (Nat.not_le.mpr h)]

end Text.Numeral

theorem CommandLine.isNegativeNumber_of_isDigit {d : Char} {digits : List Char}
    (h : ∀ c ∈ d :: digits, c.isDigit = true) : isNegativeNumber ('-' :: d :: digits) = true := by
  have hlast : (('-' :: d :: digits).getLast? == some '\n') = false := by
    rw [List.getLast?_cons_cons, beq_eq_false_iff_ne]
    intro he
    exact absurd (h _ (List.mem_of_getLast? he)) (by decide)
  have hdigits : (d :: digits).dropWhile (fun c => (digitValue? c).isSome) = [] := by
    refine (dropWhile_eq_nil_iff _ _).mpr fun c hc => ?_
    rw [digitValue?_of_isDigit (h c hc), Option.isSome_some]
  simp only [isNegativeNumber, hlast, Bool.false_eq_true, if_false, hdigits]
  rfl

namespace CommandLine.Grammar
variable {σ : Type} {g : Grammar σ}

/-- Every option has a long name. -/
def LongNames (g : Grammar σ) : Prop :=
  ∀ spec ∈ g.options, ∃ rest, spec.name.toList = '-' :: '-' :: rest

theorem exists_second (hg : g.LongNames) {name : String} {make : Option String → Word σ}
    (h : (name, make) ∈ g.names) :
    ∃ c rest, name.toList = '-' :: c :: rest ∧ c.isDigit = false := by
  rcases List.mem_cons.mp h with h | h
  · cases h
    exact ⟨'h', [], rfl, rfl⟩
  · rcases List.mem_cons.mp h with h | h
    · cases h
      exact ⟨'-', _, rfl, rfl⟩
    · obtain ⟨spec, hspec, h⟩ := List.mem_map.mp h
      cases h
      obtain ⟨rest, hrest⟩ := hg spec hspec
      exact ⟨'-', rest, hrest, rfl⟩

theorem classify_plain {word : String} (h : word.toList.head? ≠ some '-') :
    g.classify word = .ok .argument := by
  simp [classify, h]

theorem ne_separator {word : String} (h : word.toList.head? ≠ some '-') : word ≠ "--" := by
  rintro rfl
  exact h rfl

/-- No option looks like a number. -/
theorem classify_toString (hg : g.LongNames) (n : Int) :
    g.classify (toString n) = .ok .argument := by
  obtain ⟨d, digits, hcs, hd, hds⟩ := toDigits_eq_cons n.natAbs
  have hdigits : ∀ c ∈ d :: digits, c.isDigit = true := List.forall_mem_cons.mpr ⟨hd, hds⟩
  by_cases hn : n < 0
  · have hword : (toString n).toList = '-' :: d :: digits := by rw [toList_toString, if_pos hn, hcs]
    generalize toString n = word at hword
    have hnames : g.names.lookup word = none := by
      refine List.lookup_eq_none_iff.mpr fun ⟨name, make⟩ hmem => ?_
      obtain ⟨c, rest, hname, hc⟩ := exists_second hg hmem
      refine bne_iff_ne.mpr fun he => ?_
      rw [he, hname] at hword
      cases hword
      exact absurd (hd.symm.trans hc) (by decide)
    have hcandidates : g.candidates word = [] := by
      rw [candidates, hword]
      split
      · rename_i he
        cases he
        exact absurd hd (by decide)
      · rename_i he
        cases he
        rw [List.map_eq_nil_iff, List.filter_eq_nil_iff]
        rintro ⟨name, make⟩ hmem
        obtain ⟨c, rest, hname, hc⟩ := exists_second hg hmem
        simp only [hname]
        intro he
        cases beq_iff_eq.mp he
        exact absurd (hd.symm.trans hc) (by decide)
      · rfl
    have hequals : splitEquals word = (word, none) := by
      have hnone : word.toList.dropWhile (· != '=') = [] := by
        rw [hword]
        refine (dropWhile_eq_nil_iff _ _).mpr fun c hc => bne_iff_ne.mpr ?_
        rintro rfl
        rcases List.mem_cons.mp hc with hc | hc
        · cases hc
        · exact absurd (hdigits _ hc) (by decide)
      simp only [splitEquals, hnone]
    have hnumber : isNegativeNumber word.toList = true := by
      rw [hword]
      exact isNegativeNumber_of_isDigit hdigits
    simp only [classify, hnames, hcandidates, hequals, hnumber]
    simp [hword]
  · refine classify_plain ?_
    rw [toList_toString, if_neg hn, hcs]
    rintro ⟨⟩
    exact absurd hd (by decide)

theorem classifyAll_cons {word : String} {w : Word σ} {rest : List String}
    {ws : List (String × Word σ)} (hs : word ≠ "--") (hw : g.classify word = .ok w)
    (hr : g.classifyAll rest = .ok ws) : g.classifyAll (word :: rest) = .ok ((word, w) :: ws) := by
  rw [classifyAll, if_neg (by simpa using hs), hw, hr]
  rfl

/-- The words are kept beside what they are. -/
theorem map_fst_of_classifyAll {words : List String} {ws : List (String × Word σ)}
    (h : g.classifyAll words = .ok ws) : ws.map (·.1) = words := by
  induction words generalizing ws with
  | nil =>
    cases h
    rfl
  | cons word rest ih =>
    rw [classifyAll] at h
    split at h
    · cases h
      rw [List.map_cons, List.map_map]
      exact congrArg (word :: ·) (List.map_id' rest)
    · obtain ⟨w, -, h⟩ := bind_eq_ok_iff.mp h
      obtain ⟨ws', hr, h⟩ := bind_eq_ok_iff.mp h
      cases h
      rw [List.map_cons, ih hr]

/-! ### Attached values -/

/-- An option with its value attached. -/
def attached (name value : String) : String := name ++ "=" ++ value

theorem toList_attached (name value : String) :
    (attached name value).toList = name.toList ++ '=' :: value.toList := by
  simp [attached]

theorem equals_mem_attached (name value : String) : '=' ∈ (attached name value).toList := by
  rw [toList_attached]
  exact List.mem_append_right _ (List.mem_cons_self ..)

section
variable {name value : String} {make : Option String → Word σ} {rest : List Char}

theorem splitEquals_attached (h : '=' ∉ name.toList) :
    splitEquals (attached name value) = (name, some value) := by
  have hname : ∀ c ∈ name.toList, (c != '=') = true := by
    intro c hc
    refine bne_iff_ne.mpr ?_
    rintro rfl
    exact h hc
  simp only [splitEquals, toList_attached, List.dropWhile_append_of_pos hname,
    List.takeWhile_append_of_pos hname]
  simp

theorem attached_ne_separator : attached name value ≠ "--" := by
  intro he
  have hmem := equals_mem_attached name value
  rw [he] at hmem
  exact absurd hmem (by decide)

/-- No name of an option has a value attached. -/
theorem lookup_attached (h : ∀ entry ∈ g.names, '=' ∉ entry.1.toList) :
    g.names.lookup (attached name value) = none := by
  refine List.lookup_eq_none_iff.mpr fun ⟨name', make⟩ hmem => bne_iff_ne.mpr ?_
  rintro rfl
  exact h _ hmem (equals_mem_attached name value)

theorem toList_attached_cons (hn : name.toList = '-' :: '-' :: rest) :
    (attached name value).toList = '-' :: '-' :: (rest ++ '=' :: value.toList) := by
  rw [toList_attached, hn, List.cons_append, List.cons_append]

theorem classify_attached (h : ∀ entry ∈ g.names, '=' ∉ entry.1.toList)
    (hn : name.toList = '-' :: '-' :: rest) (hl : g.names.lookup name = some make) :
    g.classify (attached name value) = .ok (make (some value)) := by
  have hname : '=' ∉ name.toList := by
    obtain ⟨before, after, hnames, -⟩ := List.lookup_eq_some_iff.mp hl
    exact h (name, make) (hnames ▸ List.mem_append_right before (List.mem_cons_self ..))
  simp only [classify, lookup_attached h, splitEquals_attached hname, hl, toList_attached_cons hn]
  simp

/-- A word that abbreviates no option has some meaning. -/
theorem exists_classify_attached (h : ∀ entry ∈ g.names, '=' ∉ entry.1.toList)
    (hn : name.toList = '-' :: '-' :: rest) (hname : '=' ∉ name.toList)
    (hp : ∀ entry ∈ g.names, ¬ name.toList <+: entry.1.toList) :
    ∃ w, g.classify (attached name value) = .ok w := by
  have hl : g.names.lookup name = none := by
    refine List.lookup_eq_none_iff.mpr fun ⟨name', make⟩ hmem => bne_iff_ne.mpr ?_
    rintro rfl
    exact hp _ hmem (List.prefix_refl _)
  have hcandidates : g.candidates (attached name value) = [] := by
    unfold candidates
    rw [toList_attached_cons hn]
    simp only [splitEquals_attached hname]
    rw [List.map_eq_nil_iff, List.filter_eq_nil_iff]
    intro entry hmem hprefix
    exact hp entry hmem (List.isPrefixOf_iff_prefix.mp hprefix)
  simp only [classify, lookup_attached h, splitEquals_attached hname, hl, hcandidates,
    toList_attached_cons hn]
  simp

end

/-! ### Reading word by word -/

section
variable {positional? : Option (Positional σ)} {s s' : σ} {spec : OptionSpec σ}
  {word value : String} {rest : List (String × Word σ)}

theorem consume_flag {set : σ → σ} (h : spec.effect = .flag set) :
    g.consume positional? s ((word, .option spec none) :: rest) =
      g.consume positional? (set s) rest := by
  rw [consume]
  exact h

theorem consume_value {set : String → σ → Except Refusal σ} {clear : σ → σ}
    (h : spec.effect = .value set clear) (hs : set value s = .ok s') :
    g.consume positional? s ((word, .option spec none) :: (value, .argument) :: rest) =
      g.consume positional? s' rest := by
  rw [consume.eq_def]
  simp only [h, hs]
  rfl

theorem consume_attached {set : String → σ → Except Refusal σ} {clear : σ → σ}
    (h : spec.effect = .value set clear) (hn : value ≠ noValue) (hs : set value s = .ok s') :
    g.consume positional? s ((word, .option spec (some value)) :: rest) =
      g.consume positional? s' rest := by
  have hvalue : (value == noValue) = false := beq_eq_false_iff_ne.mpr hn
  rw [consume.eq_def]
  simp only [h, hs, hvalue]
  rfl

theorem consume_refused {set : String → σ → Except Refusal σ} {clear : σ → σ} {message : String}
    (h : spec.effect = .value set clear) (hs : set value s = .error (.invalid message)) :
    g.consume positional? s ((word, .option spec none) :: (value, .argument) :: rest) =
      g.argumentError spec.name message := by
  rw [consume.eq_def]
  simp only [h, hs]
  rfl

theorem consume_optional {name : String} {set : String → σ → Except Refusal σ}
    (hs : set word s = .ok s') :
    g.consume (some (.optional name set)) s ((word, .argument) :: rest) =
      g.consume none s' (dropSeparator rest) := by
  rw [consume, hs]
  rfl

theorem consume_nil : g.consume none s [] = .ok { arguments := s } := by
  rw [consume.eq_def]

end

end CommandLine.Grammar

namespace CommandLine
open Grammar
variable {find : String → Entry}

theorem longNames_programGrammar : (programGrammar find).LongNames := by
  intro spec hs
  cases List.mem_singleton.mp hs
  exact ⟨_, rfl⟩

theorem longNames_runGrammar : (runGrammar find).LongNames := by
  intro spec hs
  simp only [runGrammar, List.mem_cons, List.not_mem_nil, or_false] at hs
  rcases hs with rfl | rfl | rfl <;> exact ⟨_, rfl⟩

/-- A command takes all words behind its name. -/
theorem readKnown_cons {name : String} {rest : List String} {ws : List (String × Word Arguments)}
    (hn : name ∈ commandNames) (hws : (programGrammar find).classifyAll rest = .ok ws) :
    (programGrammar find).readKnown (name :: rest) {} =
      (readCommand find name rest).map fun r => ({ command? := r.1 }, r.2) := by
  have hplain : name.toList.head? ≠ some '-' := by
    have hall : ∀ name ∈ commandNames, name.toList.head? ≠ some '-' := by decide
    exact hall name hn
  have hwords := classifyAll_cons (ne_separator hplain) (classify_plain hplain) hws
  have hfst := map_fst_of_classifyAll hws
  have hcontains : commandNames.contains name = true := List.contains_iff_mem.mpr hn
  rw [readKnown, hwords, ok_bind]
  simp only [programGrammar, consume, Grammar.runCommand, hcontains, if_true, hfst]
  cases readCommand find name rest <;> rfl

theorem read_cons {name : String} {rest : List String} {ws : List (String × Word Arguments)}
    {command : Command} (hn : name ∈ commandNames)
    (hws : (programGrammar find).classifyAll rest = .ok ws)
    (h : readCommand find name rest = .ok (some command, [])) :
    Arguments.read find (name :: rest) = .ok { command? := some command } := by
  rw [Arguments.read, Grammar.read, readKnown_cons hn hws, h]
  rfl

theorem read_cons_error {name : String} {rest : List String} {ws : List (String × Word Arguments)}
    {stop : Stop} (hn : name ∈ commandNames)
    (hws : (programGrammar find).classifyAll rest = .ok ws)
    (h : readCommand find name rest = .error stop) :
    Arguments.read find (name :: rest) = .error stop := by
  rw [Arguments.read, Grammar.read, readKnown_cons hn hws, h]
  rfl

def limitOption : OptionSpec RunArguments where
  name := "--max-steps"
  effect := .value (fun text a => do return { a with limit := .steps (← readInt text) })
    fun a => { a with limit := .missing }

def traceOption : OptionSpec RunArguments where
  name := "--trace"
  effect := .flag fun a => { a with trace := true }

/-- The words that run the program of a file with a limit. -/
def runWords (path : String) (limit : Int) (trace : Bool) : List String :=
  "run" :: path :: "--max-steps" :: toString limit :: if trace then ["--trace"] else []

/-- The words that list the program of a file. -/
def checkWords (path : String) : List String := ["check", path]

def hostOption : OptionSpec ServeArguments where
  name := "--host"
  effect := .value (fun text a => .ok { a with host? := some text })
    fun a => { a with host? := none }

def portOption : OptionSpec ServeArguments where
  name := "--port"
  effect := .value (fun text a => do return { a with port? := some (← readInt text) })
    fun a => { a with port? := none }

/-- The words that serve at an address. -/
def serveWords (host : String) (port : Int) : List String :=
  ["serve", attached "--host" host, attached "--port" (toString port)]

variable {path host : String} {content : ByteArray} {n port : Int}

theorem readFile_of_find (hf : find path = .file content) : readFile find path = .ok path := by
  rw [readFile, hf]

theorem setFile_of_find (hf : find path = .file content) :
    (do return { ({} : RunArguments) with source.file? := some (← readFile find path) }) =
      (.ok { source := { file? := some path } } : Except Refusal RunArguments) := by
  rw [readFile_of_find hf]
  rfl

theorem classifyAll_run (hp : path.toList.head? ≠ some '-') (n : Int) (trace : Bool) :
    (runGrammar find).classifyAll (runWords path n trace).tail =
      .ok ((path, .argument) :: ("--max-steps", .option limitOption none) ::
        (toString n, .argument) ::
          if trace then [("--trace", .option traceOption none)] else []) := by
  refine classifyAll_cons (ne_separator hp) (classify_plain hp) (classifyAll_cons (by decide) rfl
    (classifyAll_cons (toString_ne_separator n) (classify_toString longNames_runGrammar n) ?_))
  cases trace <;> rfl

theorem classifyAll_program_run (hp : path.toList.head? ≠ some '-') (n : Int) (trace : Bool) :
    (programGrammar find).classifyAll (runWords path n trace).tail =
      .ok ((path, .argument) :: ("--max-steps", .unknown) :: (toString n, .argument) ::
        if trace then [("--trace", .unknown)] else []) := by
  refine classifyAll_cons (ne_separator hp) (classify_plain hp) (classifyAll_cons (by decide) rfl
    (classifyAll_cons (toString_ne_separator n) (classify_toString longNames_programGrammar n) ?_))
  cases trace <;> rfl

theorem readKnown_run (hp : path.toList.head? ≠ some '-') (hf : find path = .file content)
    (hn : Numeral.digitCount (toString n).toList ≤ Numeral.maxDigits) (trace : Bool) :
    (runGrammar find).readKnown (runWords path n trace).tail {} =
      .ok ({ source := { file? := some path }, limit := .steps n, trace }, []) := by
  have hlimit (s : RunArguments) :
      (do return { s with limit := .steps (← readInt (toString n)) }) =
      (.ok { s with limit := .steps n } : Except Refusal RunArguments) := by
    rw [readInt, Numeral.read?_toString hn]
    rfl
  have hconsume (words : List (String × Word RunArguments)) :
      (runGrammar find).consume (runGrammar find).positional? {}
        ((path, .argument) :: ("--max-steps", .option limitOption none) ::
          (toString n, .argument) :: words) =
      (runGrammar find).consume none
        { source := { file? := some path }, limit := .steps n } words :=
    (consume_optional (setFile_of_find hf)).trans (consume_value rfl (hlimit _))
  rw [readKnown, classifyAll_run hp, ok_bind, hconsume]
  cases trace with
  | false =>
    rw [if_neg (by decide), consume_nil]
    rfl
  | true =>
    rw [if_pos rfl, consume_flag rfl, consume_nil]
    rfl

theorem readKnown_run_of_long (hp : path.toList.head? ≠ some '-')
    (hf : find path = .file content)
    (hn : Numeral.maxDigits < Numeral.digitCount (toString n).toList) (trace : Bool) :
    (runGrammar find).readKnown (runWords path n trace).tail {} =
      (runGrammar find).argumentError "--max-steps"
        ("invalid int value: " ++ quoted (toString n)) := by
  have hlimit (s : RunArguments) :
      (do return { s with limit := .steps (← readInt (toString n)) }) =
      (.error (.invalid ("invalid int value: " ++ quoted (toString n))) :
        Except Refusal RunArguments) := by
    rw [readInt, Numeral.read?_of_long hn]
    rfl
  have hconsume (words : List (String × Word RunArguments)) :
      (runGrammar find).consume (runGrammar find).positional? {}
        ((path, .argument) :: ("--max-steps", .option limitOption none) ::
          (toString n, .argument) :: words) =
      (runGrammar find).argumentError "--max-steps"
        ("invalid int value: " ++ quoted (toString n)) :=
    (consume_optional (setFile_of_find hf)).trans (consume_refused rfl (hlimit _))
  rw [readKnown, classifyAll_run hp, ok_bind, hconsume]
  rfl

theorem read_runWords (hp : path.toList.head? ≠ some '-') (hf : find path = .file content)
    (hn : Numeral.digitCount (toString n).toList ≤ Numeral.maxDigits) (trace : Bool) :
    Arguments.read find (runWords path n trace) = .ok { command? := some (.run
      { source := { file? := some path }, limit := .steps n, trace }) } := by
  refine read_cons (by decide) (classifyAll_program_run hp n trace) ?_
  show ((runGrammar find).readKnown (runWords path n trace).tail {} >>= fun r =>
    pure (some (Command.run r.1), r.2)) = _
  rw [readKnown_run hp hf hn trace]
  rfl

/-- A limit that is too long is refused as any text that is no number. -/
theorem read_runWords_of_long (hp : path.toList.head? ≠ some '-')
    (hf : find path = .file content)
    (hn : Numeral.maxDigits < Numeral.digitCount (toString n).toList) (trace : Bool) :
    Arguments.read find (runWords path n trace) = .error (.usage "stackvm run"
      ("argument --max-steps: invalid int value: " ++ quoted (toString n))) := by
  refine read_cons_error (by decide) (classifyAll_program_run hp n trace) ?_
  show ((runGrammar find).readKnown (runWords path n trace).tail {} >>= fun r =>
    pure (some (Command.run r.1), r.2)) = _
  have htext : "argument " ++ "--max-steps" ++ ": " ++ "invalid int value: " =
      "argument --max-steps: invalid int value: " := by decide
  rw [readKnown_run_of_long hp hf hn trace, ← htext, String.append_assoc]
  rfl

theorem read_checkWords (hp : path.toList.head? ≠ some '-') (hf : find path = .file content) :
    Arguments.read find (checkWords path) =
      .ok { command? := some (.check { file? := some path }) } := by
  have hwords {σ : Type} {g : Grammar σ} : g.classifyAll [path] = .ok [(path, .argument)] :=
    classifyAll_cons (ne_separator hp) (classify_plain hp) rfl
  have hfile : (do return { ({} : SourceArguments) with file? := some (← readFile find path) }) =
      (.ok { file? := some path } : Except Refusal SourceArguments) := by
    rw [readFile_of_find hf]
    rfl
  have hconsume : (checkGrammar find).consume (checkGrammar find).positional? {}
      [(path, .argument)] = .ok { arguments := { file? := some path } } :=
    (consume_optional hfile).trans consume_nil
  refine read_cons (by decide) hwords ?_
  show ((checkGrammar find).readKnown [path] {} >>= fun r =>
    pure (some (Command.check r.1), r.2)) = _
  rw [readKnown, hwords, ok_bind, hconsume]
  rfl

theorem read_serveWords (hh : host ≠ noValue)
    (hp : Numeral.digitCount (toString port).toList ≤ Numeral.maxDigits) :
    Arguments.read find (serveWords host port) =
      .ok { command? := some (.serve { host? := some host, port? := some port }) } := by
  have hprogram : ∀ entry ∈ (programGrammar find).names, '=' ∉ entry.1.toList := by
    simp [names, programGrammar, shortHelpName, helpName]
  have hserve : ∀ entry ∈ serveGrammar.names, '=' ∉ entry.1.toList := by
    simp [names, serveGrammar, shortHelpName, helpName]
  obtain ⟨w, hw⟩ : ∃ w, (programGrammar find).classify (attached "--host" host) = .ok w :=
    exists_classify_attached hprogram rfl (by decide)
      (by simp [names, programGrammar, shortHelpName, helpName])
  obtain ⟨w', hw'⟩ :
      ∃ w, (programGrammar find).classify (attached "--port" (toString port)) = .ok w :=
    exists_classify_attached hprogram rfl (by decide)
      (by simp [names, programGrammar, shortHelpName, helpName])
  have hwords : (programGrammar find).classifyAll (serveWords host port).tail =
      .ok [(attached "--host" host, w), (attached "--port" (toString port), w')] :=
    classifyAll_cons attached_ne_separator hw (classifyAll_cons attached_ne_separator hw' rfl)
  have hoptions : serveGrammar.classifyAll (serveWords host port).tail =
      .ok [(attached "--host" host, .option hostOption (some host)),
        (attached "--port" (toString port), .option portOption (some (toString port)))] :=
    classifyAll_cons attached_ne_separator (classify_attached hserve rfl rfl)
      (classifyAll_cons attached_ne_separator (classify_attached hserve rfl rfl) rfl)
  have hport (s : ServeArguments) :
      (do return { s with port? := some (← readInt (toString port)) }) =
      (.ok { s with port? := some port } : Except Refusal ServeArguments) := by
    rw [readInt, Numeral.read?_toString hp]
    rfl
  have hconsume : serveGrammar.consume serveGrammar.positional? {}
      [(attached "--host" host, .option hostOption (some host)),
        (attached "--port" (toString port), .option portOption (some (toString port)))] =
      .ok { arguments := { host? := some host, port? := some port } } :=
    (consume_attached rfl hh rfl).trans
      ((consume_attached rfl (toString_ne_separator port) (hport _)).trans consume_nil)
  refine read_cons (by decide) hwords ?_
  show (serveGrammar.readKnown (serveWords host port).tail {} >>= fun r =>
    pure (some (Command.serve r.1), r.2)) = _
  rw [readKnown, hoptions, ok_bind, hconsume]
  rfl

end CommandLine

end StackMachine
