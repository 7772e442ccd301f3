import Mathlib.Tactic.Choose
import StackMachine.CommandLine
import StackMachine.Proofs.OneLine

/-! What the command line shows of a text. Its commands do with the text what assembling and running
it comes to: they write the output, and an error as one line behind what is logged. -/
namespace StackMachine
open Text

/-- What is done to the sessions that are watched can be done to the result as well. -/
theorem Session.runMore_map {α β : Type} (f : α → β) (watch : Session → Session → α) (limit : Int)
    (fuel steps : Nat) (seen : Array α) (s : Session) :
    (runMore (fun a b => f (watch a b)) limit fuel steps (seen.map f) s).seen =
      (runMore watch limit fuel steps seen s).seen.map f := by
  induction fuel generalizing steps seen s with
  | zero =>
    unfold runMore
    split <;> rfl
  | succ fuel ih =>
    unfold runMore
    split
    · rfl
    · cases advance s with
      | ok _ s' =>
        simp only
        rw [← ih, Array.map_push]
      | error e s' => rfl

/-- However it is watched, a run prints the same and ends in the same way. -/
theorem Session.runWatched_eq {α : Type} (watch : Session → Session → α) (limit : Int)
    (s : Session) : (s.runWatched watch limit).text = (s.run limit).text ∧
      (s.runWatched watch limit).error? = (s.run limit).error? := by
  obtain ⟨hsession, -, herror⟩ := runMore_watch watch (fun _ _ => ()) limit limit.toNat 0 #[] #[] s
  exact ⟨congrArg (·.snapshot.text) hsession, herror⟩

theorem runText_of_assemble {text : String} {p : Program} (h : assemble text = .ok p)
    (limit : Int) : runText text limit = .ok (Session.run limit ⟨some (Machine.ofProgram p)⟩) := by
  rw [runText, h]
  rfl

theorem runText_of_error {text : String} {err : AssemblyError} (h : assemble text = .error err)
    (limit : Int) : runText text limit = .error err := by
  rw [runText, h, error_bind]

namespace CommandLine

theorem exists_traceLine (s : Snapshot) : ∃ line, traceLine s = line ++ "\n" ∧ Unbroken line := by
  refine ⟨_, rfl, ?_⟩
  cases s.stack.getLast? with
  | none =>
    simp
    decide
  | some n =>
    simp
    decide

/-- The outcome tells what became of a text, behind what has been written before the end. -/
inductive Reports (before : String) : Except AssemblyError (Run Unit) → Outcome → Prop
  | completed {r : Run Unit} : r.error? = none →
      Reports before (.ok r) { exit := .code 0, stdout := r.text, stderr := before }
  | failed {r : Run Unit} {err : RuntimeError} : r.error? = some (.step (.fault err)) →
      Unbroken err.report.headline → Reports before (.ok r)
        { exit := .code 1
          stdout := r.text
          stderr := before ++ err.report.headline ++ "\n" }
  | rejected {err : ParseError} : Unbroken err.report.headline →
      Reports before (.error (.parse err))
      { exit := .code 1, stderr := before ++ err.report.headline ++ "\n" }
  | crashed {digits : Nat} : Reports before (.error (.numeralTooLong digits))
      { exit := .crash (.session (.assembly (.numeralTooLong digits))), stderr := before }

section
variable {before : String} {result : Except AssemblyError (Run Unit)} {o : Outcome}

theorem Reports.stderr_of_failed {err : RuntimeError} (h : Reports before result o)
    (he : result.toOption.map (·.error?) = some (some (.step (.fault err)))) :
    o.stderr = before ++ err.report.headline ++ "\n" := by
  cases h with
  | completed he' => cases he'.symm.trans (Option.some.inj he)
  | failed he' =>
    cases he'.symm.trans (Option.some.inj he)
    rfl
  | rejected => cases he
  | crashed => cases he

theorem Reports.behind (h : Reports before result o) (first : String) :
    Reports (first ++ before) result { o with stderr := first ++ o.stderr } := by
  cases h with
  | completed he => exact .completed he
  | failed he hu =>
    simp only [← String.append_assoc]
    exact .failed he hu
  | rejected hu =>
    simp only [← String.append_assoc]
    exact .rejected hu
  | crashed => exact .crashed

end

section
variable {e : Environment} {settings : Settings} {log : Log} {args : RunArguments} {text : String}
  {limit : Int}

/-- The lines of a trace, one for each step. -/
structure Traces (text : String) (limit : Int) (added : List String) : Prop where
  length : ∀ r, runText text limit = .ok r → added.length = r.steps
  none : ∀ err, runText text limit = .error err → added = []
  unbroken : ∀ line ∈ added, Unbroken line

theorem exists_endLines (log : Log) (err : RuntimeError) : ∃ record,
    endLines log err = record ++ err.report.headline ++ "\n" ∧
      ((∀ r, log.shows r = false) → record = "") := by
  refine ⟨_, rfl, fun h => ?_⟩
  split
  · rfl
  · simp [Log.write, h]

theorem watchStep_of_silent (h : ∀ r, log.shows r = false) (trace : Bool) :
    watchStep log trace = fun _ after => if trace then traceLine after.snapshot else "" := by
  have hrecord (record? : Option Log.Record) : (record?.map log.write).getD "" = "" := by
    cases record? <;> simp [Log.write, h]
  funext before after
  rw [watchStep, hrecord, String.empty_append]

theorem join_shots {line : Snapshot → String} (hline : ∀ shot, traceLine shot = line shot ++ "\n")
    (trace : Bool) (shots : List Snapshot) :
    String.join (shots.map fun shot => if trace then traceLine shot else "") =
      unlines (if trace then shots.map line else []) := by
  cases trace with
  | true =>
    simp only [if_true, unlines, List.map_map]
    congr 2
    exact funext hline
  | false =>
    induction shots with
    | nil => rfl
    | cons shot shots ih => simpa [String.join_cons] using ih

/-- Where no record is shown, only the trace is written. -/
theorem join_seen (h : ∀ r, log.shows r = false) (trace : Bool) (s : Session) :
    ∃ added : List String, added.length = (Session.run limit s).steps ∧
      (∀ line ∈ added, Unbroken line) ∧
      String.join (s.runWatched (watchStep log trace) limit).seen.toList =
        unlines (if trace then added else []) := by
  choose line hline hu using exists_traceLine
  obtain ⟨shots, s', error?, hrun, -⟩ := Session.runMore_progress limit limit.toNat 0 #[] s
  have hseen := Session.runMore_map (fun shot => if trace then traceLine shot else "")
    (fun _ after => after.snapshot) limit limit.toNat 0 #[] s
  obtain ⟨-, hsteps, -⟩ := Session.runMore_watch (fun _ _ => ()) (fun _ after => after.snapshot)
    limit limit.toNat 0 #[] #[] s
  rw [hrun] at hseen hsteps
  refine ⟨shots.map line, ?_, ?_, ?_⟩
  · rw [List.length_map, Session.run, Session.runWatched, hsteps, Nat.zero_add]
  · intro l hl
    obtain ⟨shot, -, rfl⟩ := List.mem_map.mp hl
    exact hu shot
  · rw [watchStep_of_silent h, Session.runWatched, ← join_shots hline]
    congr 1
    simpa using congrArg Array.toList hseen

/-- What is written of a program and of the steps of its run. -/
def progress (log : Log) (trace : Bool) (limit : Int) (p : Program) : String :=
  log.write (loadedRecord p) ++ String.join
    (Session.runWatched (watchStep log trace) limit ⟨some (Machine.ofProgram p)⟩).seen.toList

theorem traces_of_silent {p : Program} (h : ∀ r, log.shows r = false)
    (hp : assemble text = .ok p) (trace : Bool) : ∃ added, Traces text limit added ∧
      progress log trace limit p = unlines (if trace then added else []) := by
  obtain ⟨added, hlength, hu, hjoin⟩ := join_seen h trace ⟨some (Machine.ofProgram p)⟩
  have hrun := runText_of_assemble hp limit
  refine ⟨added, ⟨fun r hr => ?_, fun err herr => ?_, hu⟩, ?_⟩
  · cases hrun.symm.trans hr
    exact hlength
  · cases hrun.symm.trans herr
  · rw [progress, hjoin, Log.write, h]
    exact String.empty_append

theorem runCommand_of_error {err : AssemblyError} (hs : readSource e args.source = .ok text)
    (hp : assemble text = .error err) :
    ∃ before, Reports before (.error err) (runCommand e settings log args) ∧
      ((∀ r, log.shows r = false) → before = "") := by
  cases err with
  | parse err =>
    have ho : runCommand e settings log args =
        { exit := .code 1
          stderr := log.write (rejectedRecord err) ++ err.report.headline ++ "\n" } := by
      simp only [runCommand, hs, hp]
    rw [ho]
    refine ⟨_, .rejected (unbroken_rejection hp), fun h => ?_⟩
    simp [Log.write, h]
  | numeralTooLong digits =>
    have ho : runCommand e settings log args =
        { exit := .crash (.session (.assembly (.numeralTooLong digits))) } := by
      simp only [runCommand, hs, hp]
    rw [ho]
    exact ⟨_, .crashed, fun _ => rfl⟩

theorem runCommand_of_ok {p : Program} (hs : readSource e args.source = .ok text)
    (hp : assemble text = .ok p) (hl : ∀ s, limitOf settings s args.limit = some limit) :
    ∃ record, Reports (progress log args.trace limit p ++ record) (runText text limit)
        (runCommand e settings log args) ∧ ((∀ r, log.shows r = false) → record = "") := by
  have hrun := runText_of_assemble hp limit
  obtain ⟨htext, herror⟩ := Session.runWatched_eq (watchStep log args.trace) limit
    ⟨some (Machine.ofProgram p)⟩
  simp only [runCommand, hs, hp, hl, htext, herror]
  rw [hrun]
  cases he : (Session.run limit ⟨some (Machine.ofProgram p)⟩).error? with
  | none =>
    refine ⟨"", ?_, fun _ => rfl⟩
    rw [String.append_empty]
    exact .completed he
  | some err =>
    obtain ⟨err, rfl, hu⟩ := fault_of_runText hrun he
    obtain ⟨record, hend, hsilent⟩ := exists_endLines log err
    simp only [hend, ← String.append_assoc]
    exact ⟨record, .failed he hu, hsilent⟩

theorem readSource_of_file {path : String} {content : ByteArray} (hf : e.find path = .file content)
    (ht : ofFile? content = some text) :
    readSource e { file? := some path } = .ok text := by
  have hread : (e.read? path).bind ofFile? = some text := by
    rw [Environment.read?, hf]
    exact ht
  simp only [readSource, Option.bind_none, hread]

/-- A run at the command line makes the steps of a run of the text with that limit. -/
theorem runCommand_reports (hs : readSource e args.source = .ok text)
    (hl : ∀ s, limitOf settings s args.limit = some limit) :
    ∃ before, Reports before (runText text limit) (runCommand e settings log args) ∧
      ((∀ r, log.shows r = false) → ∃ added, Traces text limit added ∧
        before = unlines (if args.trace then added else [])) := by
  cases hp : assemble text with
  | error err =>
    have hrun := runText_of_error hp limit
    obtain ⟨before, hr, hsilent⟩ := runCommand_of_error hs hp
    rw [hrun]
    refine ⟨before, hr, fun h => ⟨[], ⟨fun r hr => ?_, fun _ _ => rfl, List.forall_mem_nil _⟩, ?_⟩⟩
    · cases hrun.symm.trans hr
    · rw [hsilent h, ite_self]
      rfl
  | ok p =>
    obtain ⟨record, hr, hsilent⟩ := runCommand_of_ok hs hp hl
    refine ⟨_, hr, fun h => ?_⟩
    rw [hsilent h, String.append_empty]
    exact traces_of_silent h hp args.trace

end

end CommandLine

end StackMachine
