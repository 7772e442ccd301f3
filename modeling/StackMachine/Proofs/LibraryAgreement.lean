import StackMachine.Proofs.CommandOutcome
import StackMachine.Proofs.CommandWords
import StackMachine.Proofs.FirstError
import StackMachine.Proofs.TrimmedSettings

/-! The commands on the file of a program agree with the library: they accept the same texts, and
show the same output and the same errors under every limit that is not too long to be read. -/
namespace StackMachine
open Text

/-- No setting is made, by a variable or by a file. -/
structure Environment.Bare (e : Environment) : Prop where
  unset : ∀ name ∈ settingNames, e.vars.get? name = none
  noFile : e.find e.settingsFile = .missing

/-- A text whose numerals can be converted is taken or has an error to be reported. -/
theorem assemble_error_of_short {text : String} {err : AssemblyError}
    (hs : ShortLines 1 (lines text.toList)) (h : assemble text = .error err) :
    ∃ e, err = .parse e := by
  rcases assemble_error_cases h with ⟨k, cause, rfl, -⟩ | ⟨k, digits, -, ho⟩
  · exact ⟨_, rfl⟩
  · exact absurd hs ho.not_short

theorem Text.Numeral.digitCount_le_iff {n : Int} {k : Nat} (hk : 0 < k) :
    digitCount (toString n).toList ≤ k ↔ n.natAbs < 10 ^ k := by
  rw [digitCount, splitSign_toString]
  exact Nat.length_toDigits_le_iff (by decide) hk

theorem runText_eq_error_iff {text : String} {limit : Int} {err : AssemblyError} :
    runText text limit = .error err ↔ assemble text = .error err := by
  constructor
  · intro h
    rcases bind_eq_error_iff.mp h with h | ⟨_, -, h⟩
    · exact h
    · cases h
  · intro h
    exact runText_of_error h limit

namespace CommandLine

/-- The arguments that run the program of a file with a limit. -/
def Arguments.ofRun (path : String) (limit : Int) (trace : Bool) : Arguments where
  command? := some (.run { source := { file? := some path }, limit := .steps limit, trace })

/-- The arguments that list the program of a file. -/
def Arguments.ofCheck (path : String) : Arguments where
  command? := some (.check { file? := some path })

/-- The outcome shows what the library makes of a text. Every error is a fault of the run or an
error of the text, and it is shown as one line. -/
structure Shows (result : Except AssemblyError (Run Unit)) (o : Outcome) : Prop where
  zero : o.exit = .code 0 ↔ ∃ r, result = .ok r ∧ r.error? = none
  completed : ∀ r, result = .ok r → r.error? = none → o = { exit := .code 0, stdout := r.text }
  failed : ∀ r err, result = .ok r → r.error? = some err → ∃ fault,
    err = .step (.fault fault) ∧ Unbroken fault.report.headline ∧
      o = { exit := .code 1, stdout := r.text, stderr := fault.report.headline ++ "\n" }
  rejected : ∀ err, result = .error err → ∃ e, err = .parse e ∧ Unbroken e.report.headline ∧
    o = { exit := .code 1, stderr := e.report.headline ++ "\n" }

section
variable {before : String} {result : Except AssemblyError (Run Unit)} {o o' : Outcome}

/-- Arguments that cannot be used have an exit of their own. -/
theorem Shows.exit_ne (h : Shows result o) : o.exit ≠ .code 2 := by
  intro he
  cases hresult : result with
  | error err =>
    obtain ⟨e, -, -, ho⟩ := h.rejected err hresult
    rw [ho] at he
    cases he
  | ok r =>
    cases herr : r.error? with
    | none =>
      rw [h.completed r hresult herr] at he
      cases he
    | some err =>
      obtain ⟨fault, -, -, ho⟩ := h.failed r err hresult herr
      rw [ho] at he
      cases he

theorem Reports.unique (h : Reports before result o) (h' : Reports before result o') : o = o' := by
  cases h with
  | completed he =>
    cases h' with
    | completed => rfl
    | failed he' => cases he.symm.trans he'
  | failed he =>
    cases h' with
    | completed he' => cases he.symm.trans he'
    | failed he' =>
      cases he.symm.trans he'
      rfl
  | rejected =>
    cases h' with
    | rejected => rfl
  | crashed =>
    cases h' with
    | crashed => rfl

theorem Reports.shows (h : Reports "" result o)
    (hr : ∀ digits, result ≠ .error (.numeralTooLong digits)) : Shows result o := by
  cases h with
  | @completed r he =>
    refine ⟨iff_of_true rfl ⟨r, rfl, he⟩, ?_, ?_, ?_⟩
    · rintro _ ⟨⟩ -
      rfl
    · rintro _ err ⟨⟩ he'
      cases he.symm.trans he'
    · rintro _ ⟨⟩
  | @failed r fault he hu =>
    rw [String.empty_append]
    refine ⟨iff_of_false (by simp) ?_, ?_, ?_, ?_⟩
    · rintro ⟨_, ⟨⟩, he'⟩
      cases he.symm.trans he'
    · rintro _ ⟨⟩ he'
      cases he.symm.trans he'
    · rintro _ err ⟨⟩ he'
      cases he.symm.trans he'
      exact ⟨fault, rfl, hu, rfl⟩
    · rintro _ ⟨⟩
  | @rejected e hu =>
    rw [String.empty_append]
    refine ⟨iff_of_false (by simp) ?_, ?_, ?_, ?_⟩
    · rintro ⟨_, ⟨⟩, -⟩
    · rintro _ ⟨⟩
    · rintro _ _ ⟨⟩
    · rintro _ ⟨⟩
      exact ⟨e, rfl, hu, rfl⟩
  | crashed => exact absurd rfl (hr _)

end

variable {e : Environment} {path text : String} {content : ByteArray} {limit : Int}
  {words : List String}

theorem textToLoad?_of_bare (h : e.Bare) : e.textToLoad? e.settingsFile = .ok none := by
  rw [Environment.textToLoad?, h.noFile]

theorem settings_of_bare (h : e.Bare) : Settings.load e = .ok {} := by
  have hload : e.loadNearest = .ok (false, e) := by
    rw [Environment.loadNearest, Environment.loadFile, textToLoad?_of_bare h]
    rfl
  have hint (name : String) (hn : name ∈ settingNames) (default : Int) :
      Settings.intOf e.vars name default = .ok default := by
    rw [Settings.intOf, h.unset name hn]
    rfl
  have htext (name : String) (hn : name ∈ settingNames) (default : String) :
      Settings.textOf e.vars name default = trim default := by
    rw [Settings.textOf, h.unset name hn]
    rfl
  have hlevel : upper (trim "WARNING") = "WARNING" := by decide +kernel
  rw [Settings.load_of_ok hload, Settings.ofVariables, hint _ (by decide), ok_bind,
    hint _ (by decide), ok_bind, htext _ (by decide), htext _ (by decide), hlevel]
  rfl

theorem loadingLines_of_bare (h : e.Bare) : loadingLines e = "" := by
  rw [loadingLines, Environment.unreadableLines, textToLoad?_of_bare h]
  rfl

/-- At its default level the log shows nothing. -/
theorem shows_atLevel_default (r : Log.Record) :
    (Log.atLevel Log.defaultLevel).shows r = false := by
  cases hs : r.severity <;> simp [Log.shows, hs] <;> decide

theorem main_of_bare (h : e.Bare) {command : Command}
    (hr : Arguments.read e.find words = .ok { command? := some command }) :
    main e words = perform e {} (Log.atLevel Log.defaultLevel) command := by
  have hlevel : Log.ofLevelName? "WARNING" = some (Log.atLevel Log.defaultLevel) := by
    decide +kernel
  have hcarry : carryOut e { command? := some command } =
      perform e {} (Log.atLevel Log.defaultLevel) command := by
    simp only [carryOut, settings_of_bare h, levelName, Option.filter_none, Option.getD_none,
      hlevel]
  simp only [main, hr, hcarry, loadingLines_of_bare h, String.empty_append]

theorem run_of_bare (he : e.Bare) (hf : e.find path = .file content)
    (ht : ofFile? content = some text) {trace : Bool}
    (hr : Arguments.read e.find words = .ok (.ofRun path limit trace)) :
    ∃ added, Traces text limit added ∧
      Reports (unlines (if trace then added else [])) (runText text limit) (main e words) := by
  rw [main_of_bare he hr]
  have hreports : ∃ before, Reports before (runText text limit)
      (runCommand e {} (Log.atLevel Log.defaultLevel)
        { source := { file? := some path }, limit := .steps limit, trace }) ∧
      ((∀ r, (Log.atLevel Log.defaultLevel).shows r = false) → ∃ added, Traces text limit added ∧
        before = unlines (if trace then added else [])) :=
    runCommand_reports (readSource_of_file hf ht) fun _ => rfl
  obtain ⟨before, hreports, hsilent⟩ := hreports
  obtain ⟨added, htraces, hbefore⟩ := hsilent shows_atLevel_default
  rw [hbefore] at hreports
  exact ⟨added, htraces, hreports⟩

theorem check_of_error {err : ParseError} (hf : e.find path = .file content)
    (ht : ofFile? content = some text) (h : assemble text = .error (.parse err)) :
    checkCommand e { file? := some path } =
      { exit := .code 1, stderr := err.report.headline ++ "\n" } := by
  simp only [checkCommand, readSource_of_file hf ht, h]

theorem check_of_ok {p : Program} (hf : e.find path = .file content)
    (ht : ofFile? content = some text) (h : assemble text = .ok p) :
    (checkCommand e { file? := some path }).exit = .code 0 := by
  simp only [checkCommand, readSource_of_file hf ht, h]

/-- The outcome of a check tells whether there is an error of the text, as one line. -/
structure Checks (result : Except AssemblyError (Run Unit)) (o : Outcome) : Prop where
  one : o.exit = .code 1 ↔ ∃ err, result = .error (.parse err)
  rejected : ∀ err, result = .error (.parse err) → Unbroken err.report.headline ∧
    o = { exit := .code 1, stderr := err.report.headline ++ "\n" }

theorem check_of_bare (he : e.Bare) (hf : e.find path = .file content)
    (ht : ofFile? content = some text) (hs : ShortLines 1 (lines text.toList))
    (hr : Arguments.read e.find words = .ok (.ofCheck path)) (limit : Int) :
    Checks (runText text limit) (main e words) := by
  have hmain : main e words = checkCommand e { file? := some path } := main_of_bare he hr
  rw [hmain]
  cases hp : assemble text with
  | error err =>
    obtain ⟨err, rfl⟩ := assemble_error_of_short hs hp
    have hrun := runText_of_error hp limit
    rw [check_of_error hf ht hp, hrun]
    refine ⟨iff_of_true rfl ⟨err, rfl⟩, ?_⟩
    rintro _ ⟨⟩
    exact ⟨unbroken_rejection hp, rfl⟩
  | ok p =>
    have hrun (err : ParseError) : runText text limit ≠ .error (.parse err) := by
      rw [ne_eq, runText_eq_error_iff, hp]
      exact nofun
    refine ⟨iff_of_false ?_ fun ⟨err, h⟩ => hrun err h, fun err h => absurd h (hrun err)⟩
    rw [check_of_ok hf ht hp]
    simp

theorem main_of_long (hp : path.toList.head? ≠ some '-') (hf : e.find path = .file content)
    (hn : Numeral.maxDigits < Numeral.digitCount (toString limit).toList) (trace : Bool) :
    main e (runWords path limit trace) =
      { exit := .code 2
        stderr := "stackvm run: error: argument --max-steps: invalid int value: " ++
          quoted (toString limit) ++ "\n" } := by
  have htext : "stackvm run" ++ ": error: " ++ "argument --max-steps: invalid int value: " =
      "stackvm run: error: argument --max-steps: invalid int value: " := by decide
  rw [main, read_runWords_of_long hp hf hn trace, ← htext]
  simp only [String.append_assoc]

/-- Where no setting is made, the commands on a file show what the library makes of its text, under
every limit. A trace adds one line for each step before the error, and a check rejects the same
texts. The plain command lines are read as they are meant, whatever the sign of the limit, unless it
is too long: then it is refused. -/
theorem command_line_agrees (he : e.Bare) (hf : e.find path = .file content)
    (ht : ofFile? content = some text) (hs : ShortLines 1 (lines text.toList)) :
    (∀ limit words, Arguments.read e.find words = .ok (.ofRun path limit false) →
      Shows (runText text limit) (main e words) ∧
      ∀ traced, Arguments.read e.find traced = .ok (.ofRun path limit true) →
        ∃ added, Traces text limit added ∧ main e traced =
          { main e words with stderr := unlines added ++ (main e words).stderr }) ∧
    (∀ words, Arguments.read e.find words = .ok (.ofCheck path) →
      ∀ limit, Checks (runText text limit) (main e words)) ∧
    (path.toList.head? ≠ some '-' →
      Arguments.read e.find (checkWords path) = .ok (.ofCheck path) ∧
      ∀ limit trace,
        (limit.natAbs < 10 ^ Numeral.maxDigits →
          Arguments.read e.find (runWords path limit trace) = .ok (.ofRun path limit trace)) ∧
        (10 ^ Numeral.maxDigits ≤ limit.natAbs → main e (runWords path limit trace) =
          { exit := .code 2
            stderr := "stackvm run: error: argument --max-steps: invalid int value: " ++
              quoted (toString limit) ++ "\n" })) := by
  refine ⟨fun limit words hr => ?_, fun words hr => check_of_bare he hf ht hs hr,
    fun hp => ⟨read_checkWords hp hf, fun limit trace => ⟨fun hn => ?_, fun hn => ?_⟩⟩⟩
  · obtain ⟨_, -, hplain⟩ := run_of_bare he hf ht hr
    have hplain : Reports "" (runText text limit) (main e words) := hplain
    constructor
    · refine hplain.shows fun digits h => ?_
      obtain ⟨_, herr⟩ := assemble_error_of_short hs (runText_eq_error_iff.mp h)
      cases herr
    · intro traced hr'
      obtain ⟨added, htraces, htraced⟩ := run_of_bare he hf ht hr'
      refine ⟨added, htraces, ?_⟩
      have hbehind := hplain.behind (unlines added)
      rw [String.append_empty] at hbehind
      exact Reports.unique htraced hbehind
  · exact read_runWords hp hf ((Numeral.digitCount_le_iff (by decide)).mpr hn) trace
  · refine main_of_long hp hf ?_ trace
    rw [← Nat.not_le, Numeral.digitCount_le_iff (by decide), Nat.not_lt]
    exact hn

/-- An environment without settings that has one file. -/
def holding (path text : String) : Environment where
  entry p := if p = path then .file text.toUTF8 else .missing

theorem find_holding (hn : holdsNul path = false) (h : normalPath path = path) :
    (holding path text).find path = .file text.toUTF8 := by
  rw [Environment.find, hn]
  exact if_pos h

theorem find_holding_of_ne {other : String} (h : normalPath other ≠ path) :
    (holding path text).find other = .missing := by
  have hentry : (holding path text).entry (normalPath other) = .missing := if_neg h
  rw [Environment.find, hentry, ite_self]

theorem bare_holding (h : path ≠ ".env") (hh : path ≠ "/.env") : (holding path text).Bare := by
  have hpath : normalPath ".env" = ".env" := by decide
  have hhome : normalPath (Environment.homeFile "") = "/.env" := by decide
  have hfind : (holding path text).find ".env" = .missing :=
    find_holding_of_ne (hpath.trans_ne h.symm)
  have hnearest : (holding path text).nearestFile? = none := by
    refine List.find?_eq_none.mpr fun p hp => ?_
    rw [show p = ".env" by simpa [Environment.settingsPaths, holding] using hp]
    simp [Environment.isFile, Environment.read?, hfind, Entry.content?]
  refine ⟨fun _ _ => rfl, ?_⟩
  rw [Environment.settingsFile, hnearest, Option.getD_none]
  exact find_holding_of_ne (hhome.trans_ne hh.symm)

def failingText : String := "PUSH 7\nPRINT\nPUSH 1\nPUSH 0\nDIV"

/-- A file with a program that prints a number before it fails. -/
def failingFile : Environment := holding "p" failingText

theorem failingFile_agrees :
    main failingFile ["run", "p", "--max-steps", "9"] =
      { exit := .code 1
        stdout := "7\n"
        stderr := "DivisionByZero: pc 4 (DIV): division by zero\n" } ∧
    main failingFile ["run", "p", "--max-steps", "-3"] =
      { exit := .code 1
        stderr := "StepLimitExceeded: pc 0: stopped after -3 steps without halting\n" } ∧
    (∃ added : List String, added.length = 4 ∧
      (main failingFile ["run", "p", "--max-steps", "9", "--trace"]).stderr =
        unlines added ++ "DivisionByZero: pc 4 (DIV): division by zero\n") ∧
    (main failingFile ["check", "p"]).exit ≠ .code 1 := by
  have he : failingFile.Bare := bare_holding (by decide) (by decide)
  have hf : failingFile.find "p" = .file failingText.toUTF8 :=
    find_holding (by decide) (by decide)
  have ht : ofFile? failingText.toUTF8 = some failingText := by decide +kernel
  obtain ⟨p, hp⟩ := Option.isSome_iff_exists.mp
    (by decide +kernel : (assemble failingText).toOption.isSome = true)
  have hp := toOption_eq_some_iff.mp hp
  have hrun : ((runText failingText 9).toOption.map fun r => (r.text, r.steps, r.error?)) =
      some ("7\n", 4, some (.step (.fault ⟨.divisionByZero, some 4, some "DIV"⟩))) := by
    decide +kernel
  have hlimited : ((runText failingText (-3)).toOption.map fun r => (r.text, r.error?)) =
      some ("", some (.step (.fault ⟨.stepLimit (-3), some 0, none⟩))) := by
    decide +kernel
  obtain ⟨r, hr, hresult⟩ := Option.map_eq_some_iff.mp hrun
  obtain ⟨htext, hsteps, herror⟩ : r.text = "7\n" ∧ r.steps = 4 ∧
    r.error? = some (.step (.fault ⟨.divisionByZero, some 4, some "DIV"⟩)) := by simpa using hresult
  obtain ⟨r', hr', hresult'⟩ := Option.map_eq_some_iff.mp hlimited
  obtain ⟨htext', herror'⟩ : r'.text = "" ∧
    r'.error? = some (.step (.fault ⟨.stepLimit (-3), some 0, none⟩)) := by simpa using hresult'
  have hr := toOption_eq_some_iff.mp hr
  have hr' := toOption_eq_some_iff.mp hr'
  obtain ⟨hruns, hchecks, hwords⟩ :=
    command_line_agrees he hf ht (assemble_eq_ok_iff.mp hp).1
  obtain ⟨hcheck, hlimits⟩ := hwords (by decide)
  have hread (limit : Int) (trace : Bool) (hn : limit.natAbs < 10 ^ 1) :
      Arguments.read failingFile.find (runWords "p" limit trace) =
        .ok (.ofRun "p" limit trace) :=
    (hlimits limit trace).1 (hn.trans_le (Nat.pow_le_pow_right (by decide) (by decide)))
  obtain ⟨hshows, htrace⟩ := hruns 9 _ (hread 9 false (by decide))
  obtain ⟨hshows', -⟩ := hruns (-3) _ (hread (-3) false (by decide))
  have hmain : main failingFile ["run", "p", "--max-steps", "9"] =
      { exit := .code 1
        stdout := "7\n"
        stderr := "DivisionByZero: pc 4 (DIV): division by zero\n" } := by
    obtain ⟨fault, hfault, -, ho⟩ := hshows.failed r _ hr herror
    cases hfault
    rw [htext] at ho
    exact ho
  refine ⟨hmain, ?_, ?_, ?_⟩
  · obtain ⟨fault, hfault, -, ho⟩ := hshows'.failed r' _ hr' herror'
    cases hfault
    rw [htext'] at ho
    exact ho
  · obtain ⟨added, htraces, ho⟩ := htrace _ (hread 9 true (by decide))
    refine ⟨added, (htraces.length r hr).trans hsteps, ?_⟩
    have hstderr := congrArg Outcome.stderr hmain
    exact (congrArg Outcome.stderr ho).trans (congrArg (unlines added ++ ·) hstderr)
  · intro hexit
    obtain ⟨err, herr⟩ := (hchecks _ hcheck 9).one.mp hexit
    cases hr.symm.trans herr

/-- A limit that is too long is refused, and so is a path that looks like an option. -/
theorem not_every_command_line_agrees :
    (¬ ∀ e path content text limit, Environment.Bare e → e.find path = .file content →
      ofFile? content = some text → ShortLines 1 (lines text.toList) →
      path.toList.head? ≠ some '-' →
      Shows (runText text limit) (main e (runWords path limit false))) ∧
    ¬ ∀ e path content text limit, Environment.Bare e → e.find path = .file content →
      ofFile? content = some text → ShortLines 1 (lines text.toList) →
      limit.natAbs < 10 ^ Numeral.maxDigits →
      Shows (runText text limit) (main e (runWords path limit false)) := by
  have ht : ofFile? failingText.toUTF8 = some failingText := by decide +kernel
  obtain ⟨p, hp⟩ := Option.isSome_iff_exists.mp
    (by decide +kernel : (assemble failingText).toOption.isSome = true)
  have hs := (assemble_eq_ok_iff.mp (toOption_eq_some_iff.mp hp)).1
  constructor
  · intro h
    have hf : failingFile.find "p" = .file failingText.toUTF8 :=
      find_holding (by decide) (by decide)
    have hn : Numeral.maxDigits <
        Numeral.digitCount (toString ((10 ^ Numeral.maxDigits : Nat) : Int)).toList := by
      rw [← Nat.not_le, Numeral.digitCount_le_iff (by decide), Int.natAbs_natCast]
      exact Nat.lt_irrefl _
    have hshows := h failingFile "p" _ _ ((10 ^ Numeral.maxDigits : Nat) : Int)
      (bare_holding (by decide) (by decide)) hf ht hs (by decide)
    refine hshows.exit_ne ?_
    rw [main_of_long (by decide) hf hn false]
  · intro h
    have hbare : (holding "-p" failingText).Bare := bare_holding (by decide) (by decide)
    have hshows := h (holding "-p" failingText) "-p" _ _ 9 hbare
      (find_holding (by decide) (by decide)) ht hs
      (Nat.lt_of_lt_of_le (by decide : 9 < 10 ^ 1) (Nat.pow_le_pow_right (by decide) (by decide)))
    refine hshows.exit_ne ?_
    decide +kernel

end CommandLine

end StackMachine
