import StackMachine.Proofs.CommandOutcome
import StackMachine.Proofs.OptionValues
import StackMachine.Proofs.TrimmedSettings

/-! What is given at the command line takes the place of the settings: the limit of a run, and the
host and the port of a server. Only an empty host and the port zero are passed over. -/
namespace StackMachine.CommandLine
open Text

/-! ### The words of a command -/

namespace Grammar
variable {σ : Type} {g : Grammar σ} {argument word : String} {names : List String}
  {run : String → List String → σ → Except Stop (σ × List String)} {s : σ} {p : Parsed σ}

theorem of_runCommand {ws : List (String × Word σ)}
    (h : g.runCommand argument names run word ws s = .ok p) :
    word ∈ names ∧ run word (ws.map (·.1)) s = .ok (p.arguments, p.unrecognized) := by
  unfold runCommand at h
  split at h
  · rename_i hn
    obtain ⟨⟨s', others⟩, hrun, h⟩ := bind_eq_ok_iff.mp h
    cases h
    exact ⟨List.contains_iff_mem.mp hn, hrun⟩
  · cases h

theorem unrecognized_ne_nil {x : Except Stop (Parsed σ)} (h : x.map (unrecognized word) = .ok p) :
    p.unrecognized ≠ [] := by
  cases x with
  | error e => cases h
  | ok q =>
    cases h
    exact List.cons_ne_nil _ _

/-- One of the words is the name of a command, and what is read comes from the words behind it. -/
def Commands (names : List String) (run : String → List String → σ → Except Stop (σ × List String))
    (ws : List (String × Word σ)) (result : σ) : Prop :=
  ∃ name w after s, (name, w) :: after <:+ ws ∧ name ∈ names ∧
    run name (after.map (·.1)) s = .ok (result, [])

theorem Commands.behind {ws ws' : List (String × Word σ)} (h : Commands names run ws s)
    (hs : ws <:+ ws') : Commands names run ws' s := by
  obtain ⟨name, w, after, s₁, hsuffix, hread⟩ := h
  exact ⟨name, w, after, s₁, hsuffix.trans hs, hread⟩

theorem commands_of_runCommand {w : Word σ} {rest : List (String × Word σ)}
    (h : g.runCommand argument names run word rest s = .ok p) (hu : p.unrecognized = []) :
    Commands names run ((word, w) :: rest) p.arguments := by
  obtain ⟨hn, hrun⟩ := of_runCommand h
  rw [hu] at hrun
  exact ⟨word, w, rest, s, List.suffix_refl _, hn, hrun⟩

/-- Where every word is recognized and nothing is missing, a command is read. -/
theorem commands_of_consume {positional? : Option (Positional σ)}
    (hp : positional? = some (.command argument names run)) {ws : List (String × Word σ)}
    (h : g.consume positional? s ws = .ok p) (hm : p.missing? = none) (hu : p.unrecognized = []) :
    Commands names run ws p.arguments := by
  fun_induction Grammar.consume g positional? s ws generalizing p with
  | case1 =>
    cases h
    cases hp
    cases hm
  | case2 | case13 | case16 | case19 => exact absurd hu (unrecognized_ne_nil h)
  | case7 positional? s word rest spec set he ih =>
    exact (ih hp h hm hu).behind (List.suffix_cons ..)
  | case9 =>
    rename_i ih
    exact (ih _ hp h hm hu).behind (List.suffix_cons ..)
  | case10 =>
    rename_i ih
    obtain ⟨s₁, -, h⟩ := bind_eq_ok_iff.mp h
    exact (ih s₁ hp h hm hu).behind (List.suffix_cons ..)
  | case11 positional? s word spec set clear he value more ih =>
    obtain ⟨s₁, -, h⟩ := bind_eq_ok_iff.mp h
    exact (ih s₁ hp h hm hu).behind ((List.suffix_cons ..).trans (List.suffix_cons ..))
  | case15 | case20 =>
    cases hp
    exact commands_of_runCommand h hu
  | case14 | case17 | case18 => cases hp
  | case3 | case4 | case5 | case8 | case12 => cases h
  | case6 => exact absurd h (askShortHelp_ne_ok _ _)

end Grammar

open Grammar

variable {e : Environment} {settings : Settings} {words : List String} {args : Arguments}

theorem command_of_read (h : Arguments.read e.find words = .ok args) :
    ∃ name after, name :: after <:+ words ∧ name ∈ commandNames ∧
      readCommand e.find name after = .ok (args.command?, []) := by
  obtain ⟨⟨s, others⟩, h, hread⟩ := bind_eq_ok_iff.mp h
  obtain ⟨ws, hws, h⟩ := bind_eq_ok_iff.mp h
  obtain ⟨p, hp, h⟩ := bind_eq_ok_iff.mp h
  cases hm : p.missing? with
  | some name =>
    rw [hm] at h
    cases h
  | none =>
    rw [hm] at h
    cases h
    simp only at hread
    split at hread
    · rename_i hu
      cases hread
      obtain ⟨name, w, after, s', hs, hn, hrun⟩ :=
        commands_of_consume rfl hp hm (List.isEmpty_iff.mp hu)
      obtain ⟨⟨command?, others⟩, hcommand, hrun⟩ := bind_eq_ok_iff.mp hrun
      obtain ⟨hargs, hothers⟩ := Prod.mk.inj (Except.ok.inj hrun)
      refine ⟨name, after.map (·.1), ?_, hn, ?_⟩
      · have hsuffix := hs.map (·.1)
        rwa [map_fst_of_classifyAll hws] at hsuffix
      · rw [hcommand, hothers, ← hargs]
    · cases hread

/-! ### The values that are given -/

/-- The limit that a value asks for. -/
def limitGiven : Option String → Limit
  | none => .ofSettings
  | some text => (Numeral.read? text).elim .missing .steps

theorem readInt_eq_ok {text : String} {n : Int} (h : readInt text = .ok n) :
    Numeral.read? text = some n := by
  unfold readInt at h
  split at h
  · rename_i hr
    cases h
    exact hr
  · cases h

theorem tracks_host :
    serveGrammar.Tracks "--host" fun v s => s.host? = v.filter (· != noValue) where
  named spec hs hn := by
    simp only [serveGrammar, List.mem_cons, List.not_mem_nil, or_false] at hs
    rcases hs with rfl | rfl
    · refine ⟨_, _, rfl, fun s => rfl, fun text s s' hne h => ?_⟩
      cases h
      have hkept : (text != noValue) = true := bne_iff_ne.mpr hne
      exact (Option.filter_some_pos (p := (· != noValue)) hkept).symm
    · exact absurd hn (by decide)
  others spec hs hn v := by
    simp only [serveGrammar, List.mem_cons, List.not_mem_nil, or_false] at hs
    rcases hs with rfl | rfl
    · exact absurd rfl hn
    · refine ⟨fun s => id, fun text s s' hv h => ?_⟩
      obtain ⟨n, -, h⟩ := bind_eq_ok_iff.mp h
      cases h
      exact hv
  positional _ h := nomatch h

theorem tracks_port : serveGrammar.Tracks "--port" fun v s => s.port? = v.bind Numeral.read? where
  named spec hs hn := by
    simp only [serveGrammar, List.mem_cons, List.not_mem_nil, or_false] at hs
    rcases hs with rfl | rfl
    · exact absurd hn (by decide)
    · refine ⟨_, _, rfl, fun s => rfl, fun text s s' hne h => ?_⟩
      obtain ⟨n, hn, h⟩ := bind_eq_ok_iff.mp h
      cases h
      exact (readInt_eq_ok hn).symm
  others spec hs hn v := by
    simp only [serveGrammar, List.mem_cons, List.not_mem_nil, or_false] at hs
    rcases hs with rfl | rfl
    · refine ⟨fun s => id, fun text s s' hv h => ?_⟩
      cases h
      exact hv
    · exact absurd rfl hn
  positional _ h := nomatch h

theorem tracks_limit {find : String → Entry} :
    (runGrammar find).Tracks "--max-steps" fun v s => s.limit = limitGiven v where
  named spec hs hn := by
    simp only [runGrammar, List.mem_cons, List.not_mem_nil, or_false] at hs
    rcases hs with rfl | rfl | rfl
    · exact absurd hn (by decide)
    · refine ⟨_, _, rfl, fun s => rfl, fun text s s' hne h => ?_⟩
      obtain ⟨n, hn, h⟩ := bind_eq_ok_iff.mp h
      cases h
      rw [limitGiven, readInt_eq_ok hn]
      rfl
    · exact absurd hn (by decide)
  others spec hs hn v := by
    simp only [runGrammar, List.mem_cons, List.not_mem_nil, or_false] at hs
    rcases hs with rfl | rfl | rfl
    · refine ⟨fun s => id, fun text s s' hv h => ?_⟩
      obtain ⟨sample, -, h⟩ := bind_eq_ok_iff.mp h
      cases h
      exact hv
    · exact absurd rfl hn
    · exact fun s => id
  positional _ h := by
    cases h
    refine ⟨_, _, rfl, fun v text s s' hv h => ?_⟩
    obtain ⟨path, -, h⟩ := bind_eq_ok_iff.mp h
    cases h
    exact hv

/-! ### What is in force -/

/-- Where a server listens, by the words behind the name of its command. What is given takes the
place of the settings, but for an empty host, the port zero, and what is given without a value. -/
structure Listens (settings : Settings) (words : List String) (host : String) (port : Int) :
    Prop where
  givenHost : ∀ text, serveGrammar.given? "--host" words = some text → text ≠ "" →
    text ≠ noValue → host = text
  ownHost : (∀ text, serveGrammar.given? "--host" words = some text → text = "" ∨ text = noValue) →
    host = settings.host
  givenPort : ∀ text n, serveGrammar.given? "--port" words = some text →
    Numeral.read? text = some n → n ≠ 0 → port = n
  ownPort : (∀ text n, serveGrammar.given? "--port" words = some text →
    Numeral.read? text = some n → n = 0) → port = settings.port

/-- What becomes of a text that is run, by the words behind the name of the command. -/
structure Runs (e : Environment) (settings : Settings) (words : List String) (text : String)
    (o : Outcome) : Prop where
  given : ∀ value n, (runGrammar e.find).given? "--max-steps" words = some value →
    Numeral.read? value = some n → ∃ before, Reports before (runText text n) o
  unset : (runGrammar e.find).given? "--max-steps" words = none →
    ∃ before, Reports before (runText text settings.maxSteps) o

/-- What an accepted command line comes to. -/
structure Obeyed (e : Environment) (settings : Settings) (words : List String) (args : Arguments) :
    Prop where
  unknownLevel : Log.ofLevelName? (levelName settings args) = none →
    main e words = { exit := .crash (.unknownLevel (levelName settings args))
                     stderr := loadingLines e }
  serve : ∀ log serve, Log.ofLevelName? (levelName settings args) = some log →
    args.command? = some (.serve serve) → ∃ after host port, "serve" :: after <:+ words ∧
      serveGrammar.readKnown after {} = .ok (serve, []) ∧ Listens settings after host port ∧
      main e words = { exit := .code 0, stderr := loadingLines e, served := [(host, port)] }
  run : ∀ log run, Log.ofLevelName? (levelName settings args) = some log →
    args.command? = some (.run run) → ∃ after, "run" :: after <:+ words ∧
      (runGrammar e.find).readKnown after {} = .ok (run, []) ∧
      ∀ text, readSource e run.source = .ok text → Runs e settings after text (main e words)

section
variable {log : Log} {command : Command} {others : List String}

theorem main_of_unknownLevel (hs : Settings.load e = .ok settings)
    (hr : Arguments.read e.find words = .ok args)
    (hl : Log.ofLevelName? (levelName settings args) = none) :
    main e words = { exit := .crash (.unknownLevel (levelName settings args))
                     stderr := loadingLines e } := by
  simp only [main, hr, carryOut, hs, hl, String.append_empty]

theorem main_of_level (hs : Settings.load e = .ok settings)
    (hr : Arguments.read e.find words = .ok args)
    (hl : Log.ofLevelName? (levelName settings args) = some log)
    (hc : args.command? = some command) :
    main e words = { perform e settings log command with
      stderr := loadingLines e ++ (perform e settings log command).stderr } := by
  simp only [main, hr, carryOut, hs, hl, hc]

theorem serve_of_readCommand {name : String} {serve : ServeArguments}
    (h : readCommand e.find name words = .ok (some (.serve serve), others)) :
    name = "serve" ∧ serveGrammar.readKnown words {} = .ok (serve, others) := by
  unfold readCommand at h
  split at h
  case h_4 =>
    obtain ⟨r, hr, h⟩ := bind_eq_ok_iff.mp h
    cases h
    exact ⟨rfl, hr⟩
  case h_5 => cases h
  all_goals
    obtain ⟨r, hr, h⟩ := bind_eq_ok_iff.mp h
    cases h

theorem run_of_readCommand {name : String} {run : RunArguments}
    (h : readCommand e.find name words = .ok (some (.run run), others)) :
    name = "run" ∧ (runGrammar e.find).readKnown words {} = .ok (run, others) := by
  unfold readCommand at h
  split at h
  case h_1 =>
    obtain ⟨r, hr, h⟩ := bind_eq_ok_iff.mp h
    cases h
    exact ⟨rfl, hr⟩
  case h_5 => cases h
  all_goals
    obtain ⟨r, hr, h⟩ := bind_eq_ok_iff.mp h
    cases h

theorem exists_listens (settings : Settings) {serve : ServeArguments}
    (h : serveGrammar.readKnown words {} = .ok (serve, others)) : ∃ host port,
      serveCommand settings serve = { exit := .code 0, served := [(host, port)] } ∧
        Listens settings words host port := by
  have hhost : serve.host? = _ := tracks_host.readKnown h rfl
  have hport : serve.port? = _ := tracks_port.readKnown h rfl
  refine ⟨_, _, rfl, ?_⟩
  rw [hhost, hport]
  refine ⟨fun text ht hne hno => ?_, fun hown => ?_, fun text n ht hn hne => ?_, fun hown => ?_⟩
  · simp [Option.filter, ht, hne, hno]
  · cases hg : serveGrammar.given? "--host" words with
    | none => rfl
    | some text =>
      rcases hown text hg with rfl | rfl
      · rfl
      · rfl
  · simp [Option.filter, ht, hn, hne]
  · cases hg : serveGrammar.given? "--port" words with
    | none => rfl
    | some text =>
      cases hn : Numeral.read? text with
      | none => simp [hn]
      | some n =>
        obtain rfl := hown text n hg hn
        simp [Option.filter, hn]

/-- A run reports on the run of its text with its limit, whatever has been written before. -/
theorem exists_reports {run : RunArguments} {text : String} {limit : Int}
    (ht : readSource e run.source = .ok text)
    (hl : ∀ s, limitOf settings s run.limit = some limit) (first : String) :
    ∃ before, Reports before (runText text limit) { runCommand e settings log run with
      stderr := first ++ (runCommand e settings log run).stderr } := by
  have hreports : ∃ before, Reports before (runText text limit) (runCommand e settings log run) ∧
      ((∀ r, log.shows r = false) → ∃ added, Traces text limit added ∧
        before = unlines (if run.trace then added else [])) := runCommand_reports ht hl
  obtain ⟨before, hreports, -⟩ := hreports
  exact ⟨_, hreports.behind first⟩

theorem runs_of_readKnown {run : RunArguments} {text : String}
    (h : (runGrammar e.find).readKnown words {} = .ok (run, others))
    (ht : readSource e run.source = .ok text) (first : String) :
    Runs e settings words text { runCommand e settings log run with
      stderr := first ++ (runCommand e settings log run).stderr } := by
  have hlimit : run.limit = _ := tracks_limit.readKnown h rfl
  constructor
  · intro value n hv hn
    have hl : run.limit = .steps n := by rw [hlimit, hv, limitGiven, hn]; rfl
    exact exists_reports ht (fun s => by rw [hl]; rfl) first
  · intro hv
    have hl : run.limit = .ofSettings := by rw [hlimit, hv, limitGiven]
    exact exists_reports ht (fun s => by rw [hl]; rfl) first

theorem obeyed_of_read (hs : Settings.load e = .ok settings)
    (hr : Arguments.read e.find words = .ok args) : Obeyed e settings words args := by
  obtain ⟨name, after, hsuffix, -, hcommand⟩ := command_of_read hr
  refine ⟨main_of_unknownLevel hs hr, fun log serve hl hc => ?_, fun log run hl hc => ?_⟩
  · rw [hc] at hcommand
    obtain ⟨rfl, hread⟩ := serve_of_readCommand hcommand
    obtain ⟨host, port, hserve, hlistens⟩ := exists_listens settings hread
    refine ⟨after, host, port, hsuffix, hread, hlistens, ?_⟩
    rw [main_of_level hs hr hl hc, perform, hserve, String.append_empty]
  · rw [hc] at hcommand
    obtain ⟨rfl, hread⟩ := run_of_readCommand hcommand
    refine ⟨after, hsuffix, hread, fun text ht => ?_⟩
    rw [main_of_level hs hr hl hc]
    exact runs_of_readKnown hread ht (loadingLines e)

theorem main_serveWords (hs : Settings.load e = .ok settings)
    (hl : Log.ofLevelName? settings.logLevel = some log) {host : String} {port : Int}
    (hh : host ≠ "") (hno : host ≠ noValue) (hp : port ≠ 0)
    (hn : Numeral.digitCount (toString port).toList ≤ Numeral.maxDigits) :
    main e (serveWords host port) =
      { exit := .code 0, stderr := loadingLines e, served := [(host, port)] } := by
  have hserve : perform e settings log (.serve { host? := some host, port? := some port }) =
      { exit := .code 0, served := [(host, port)] } := by
    simp [perform, serveCommand, Option.filter, hh, hp]
  rw [main_of_level hs (read_serveWords hno hn) hl rfl, hserve, String.append_empty]

theorem main_runWords (hs : Settings.load e = .ok settings)
    (hl : Log.ofLevelName? settings.logLevel = some log) {path text : String} {content : ByteArray}
    {n : Int} (hp : path.toList.head? ≠ some '-') (hf : e.find path = .file content)
    (ht : ofFile? content = some text)
    (hn : Numeral.digitCount (toString n).toList ≤ Numeral.maxDigits) (trace : Bool) :
    ∃ before, Reports before (runText text n) (main e (runWords path n trace)) := by
  rw [main_of_level hs (read_runWords hp hf hn trace) hl rfl]
  have hlimit (s : Session) : limitOf settings s (.steps n) = some n := rfl
  exact exists_reports (readSource_of_file hf ht) hlimit (loadingLines e)

/-- On every accepted command line, what is given takes the place of the settings, but for an empty
host and the port zero, and what is not given is that of the settings. Every other host and port can
be given, and every limit. -/
theorem options_override (hs : Settings.load e = .ok settings) :
    (∀ words args, Arguments.read e.find words = .ok args → Obeyed e settings words args) ∧
    ∀ log, Log.ofLevelName? settings.logLevel = some log →
      (∀ host port, host ≠ "" → host ≠ noValue → port ≠ 0 →
        Numeral.digitCount (toString port).toList ≤ Numeral.maxDigits →
        main e (serveWords host port) =
          { exit := .code 0, stderr := loadingLines e, served := [(host, port)] }) ∧
      ∀ path content text, path.toList.head? ≠ some '-' → e.find path = .file content →
        ofFile? content = some text → ∀ n trace,
        Numeral.digitCount (toString n).toList ≤ Numeral.maxDigits →
        ∃ before, Reports before (runText text n) (main e (runWords path n trace)) := by
  refine ⟨fun words args hr => obeyed_of_read hs hr, fun log hl => ⟨?_, ?_⟩⟩
  · intro host port hh hno hp hn
    exact main_serveWords hs hl hh hno hp hn
  · intro path content text hp hf ht n trace hn
    exact main_runWords hs hl hp hf ht hn trace

end

/-- An environment with two settings of its own. The file that comes with the program makes one of
them again, and another one. -/
def configured : Environment where
  vars := [("STACKVM_HOST", "local"), ("STACKVM_MAX_STEPS", "7")]
  entry path :=
    if path = "/p/.env" then .file "STACKVM_HOST=other\nSTACKVM_PORT=9000".toUTF8 else .missing
  home := "/p"

theorem configured_overridden :
    (Settings.load configured).toOption =
      some { host := "local", port := 9000, maxSteps := 7 } ∧
    main configured ["serve"] = { exit := .code 0, served := [("local", 9000)] } ∧
    main configured ["--log-level", "error", "serve", "--host", "a", "--host=::1", "--po", "-1"] =
      { exit := .code 0, served := [("::1", -1)] } ∧
    main configured (serveWords "-" 8080) = { exit := .code 0, served := [("-", 8080)] } ∧
    (∃ before, (main configured ["run", "--sample", "basic"]).stderr =
      before ++ "StepLimitExceeded: pc 7: stopped after 7 steps without halting\n") ∧
    ∃ before, (main configured ["run", "--sample", "basic", "--max-steps", "0"]).stderr =
      before ++ "StepLimitExceeded: pc 0: stopped after 0 steps without halting\n" := by
  have hload : (Settings.load configured).toOption =
      some { host := "local", port := 9000, maxSteps := 7 } := by decide +kernel
  have hlines : loadingLines configured = "" := by decide +kernel
  obtain ⟨hwords, hplain⟩ := options_override (toOption_eq_some_iff.mp hload)
  obtain ⟨log, hlog⟩ : ∃ log, Log.ofLevelName? "WARNING" = some log :=
    Option.isSome_iff_exists.mp (by decide +kernel)
  obtain ⟨log', hlog'⟩ : ∃ log, Log.ofLevelName? "error" = some log :=
    Option.isSome_iff_exists.mp (by decide +kernel)
  have htext : (readSource configured { sample? := some "basic" }).toOption =
      Samples.text? "basic" := by decide +kernel
  obtain ⟨text, hsample⟩ : ∃ text, Samples.text? "basic" = some text := ⟨_, rfl⟩
  refine ⟨hload, ?_, ?_, ?_, ?_, ?_⟩
  · have hread : (Arguments.read configured.find ["serve"]).toOption =
        some { command? := some (.serve {}) } := by decide +kernel
    obtain ⟨after, host, port, hs, -, hl, hmain⟩ :=
      (hwords _ _ (toOption_eq_some_iff.mp hread)).serve log _ hlog rfl
    obtain rfl : after = [] := by simpa [List.suffix_cons_iff] using hs
    have hnone (name : String) : serveGrammar.given? name [] = none := rfl
    have hhost := hl.ownHost fun text ht => by cases (hnone _).symm.trans ht
    have hport := hl.ownPort fun text n ht => by cases (hnone _).symm.trans ht
    rw [hmain, hlines, hhost, hport]
  · have hread : (Arguments.read configured.find
        ["--log-level", "error", "serve", "--host", "a", "--host=::1", "--po", "-1"]).toOption =
        some { logLevel? := some "error"
               command? := some (.serve { host? := some "::1", port? := some (-1) }) } := by
      decide +kernel
    obtain ⟨after, host, port, hs, -, hl, hmain⟩ :=
      (hwords _ _ (toOption_eq_some_iff.mp hread)).serve log' _ hlog' rfl
    obtain rfl : after = ["--host", "a", "--host=::1", "--po", "-1"] := by
      simpa [List.suffix_cons_iff] using hs
    have hhost := hl.givenHost "::1" (by decide +kernel) (by decide) (by decide)
    have hport := hl.givenPort "-1" (-1) (by decide +kernel) (by decide +kernel) (by decide)
    rw [hmain, hlines, hhost, hport]
  · rw [(hplain log hlog).1 "-" 8080 (by decide) (by decide) (by decide) (by decide), hlines]
  · have hread : (Arguments.read configured.find ["run", "--sample", "basic"]).toOption =
        some { command? := some (.run { source := { sample? := some "basic" } }) } := by
      decide +kernel
    obtain ⟨after, hs, -, hrun⟩ :=
      (hwords _ _ (toOption_eq_some_iff.mp hread)).run log _ hlog rfl
    obtain rfl : after = ["--sample", "basic"] := by simpa [List.suffix_cons_iff] using hs
    obtain ⟨before, hreports⟩ :=
      (hrun text (toOption_eq_some_iff.mp (htext.trans hsample))).unset (by decide +kernel)
    have herror : (runText text 7).toOption.map (·.error?) =
        some (some (.step (.fault ⟨.stepLimit 7, some 7, none⟩))) := by
      cases hsample
      decide +kernel
    have hline : (RuntimeError.report ⟨.stepLimit 7, some 7, none⟩).headline ++ "\n" =
        "StepLimitExceeded: pc 7: stopped after 7 steps without halting\n" := by decide +kernel
    exact ⟨before, by rw [hreports.stderr_of_failed herror, String.append_assoc, hline]⟩
  · have hread : (Arguments.read configured.find
        ["run", "--sample", "basic", "--max-steps", "0"]).toOption =
        some { command? := some (.run
          { source := { sample? := some "basic" }, limit := .steps 0 }) } := by
      decide +kernel
    obtain ⟨after, hs, -, hrun⟩ :=
      (hwords _ _ (toOption_eq_some_iff.mp hread)).run log _ hlog rfl
    obtain rfl : after = ["--sample", "basic", "--max-steps", "0"] := by
      simpa [List.suffix_cons_iff] using hs
    obtain ⟨before, hreports⟩ := (hrun text (toOption_eq_some_iff.mp (htext.trans hsample))).given
      "0" 0 (by decide +kernel) (by decide +kernel)
    have herror : (runText text 0).toOption.map (·.error?) =
        some (some (.step (.fault ⟨.stepLimit 0, some 0, none⟩))) := by
      cases hsample
      decide +kernel
    have hline : (RuntimeError.report ⟨.stepLimit 0, some 0, none⟩).headline ++ "\n" =
        "StepLimitExceeded: pc 0: stopped after 0 steps without halting\n" := by decide +kernel
    exact ⟨before, by rw [hreports.stderr_of_failed herror, String.append_assoc, hline]⟩

/-- An empty host and the port zero are passed over, though they are given. -/
theorem not_every_option_overrides :
    (¬ ∀ e settings words serve host, Settings.load e = .ok settings →
      Arguments.read e.find words = .ok { command? := some (.serve serve) } →
      serve.host? = some host → ∃ port, (main e words).served = [(host, port)]) ∧
    ¬ ∀ e settings words serve port, Settings.load e = .ok settings →
      Arguments.read e.find words = .ok { command? := some (.serve serve) } →
      serve.port? = some port → ∃ host, (main e words).served = [(host, port)] := by
  have hload : (Settings.load {}).toOption = some {} := by decide +kernel
  have hhost : (Arguments.read (Environment.find {}) ["serve", "--host", ""]).toOption =
      some { command? := some (.serve { host? := some "" }) } := by decide +kernel
  have hport : (Arguments.read (Environment.find {}) ["serve", "--port", "0"]).toOption =
      some { command? := some (.serve { port? := some 0 }) } := by decide +kernel
  constructor
  · intro h
    obtain ⟨port, hserved⟩ := h {} {} _ _ "" (toOption_eq_some_iff.mp hload)
      (toOption_eq_some_iff.mp hhost) rfl
    have hmain : (main {} ["serve", "--host", ""]).served = [("127.0.0.1", 3001)] := by
      decide +kernel
    obtain ⟨haddress, -⟩ := List.cons.inj (hmain.symm.trans hserved)
    have hname := congrArg Prod.fst haddress
    simp at hname
  · intro h
    obtain ⟨host, hserved⟩ := h {} {} _ _ 0 (toOption_eq_some_iff.mp hload)
      (toOption_eq_some_iff.mp hport) rfl
    have hmain : (main {} ["serve", "--port", "0"]).served = [("127.0.0.1", 3001)] := by
      decide +kernel
    obtain ⟨haddress, -⟩ := List.cons.inj (hmain.symm.trans hserved)
    have hnumber := congrArg Prod.snd haddress
    simp at hnumber

end StackMachine.CommandLine
