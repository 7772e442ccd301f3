import StackMachine.CommandLine.Arguments
import StackMachine.Log
import StackMachine.Run
import StackMachine.Settings

/-! The program at the command line: what it prints and how it ends, given its arguments and its
environment. -/
namespace StackMachine.CommandLine

/-- An error that ends the program without a message of its own. -/
inductive Crash where
  | settings (e : SettingsError)
  | unknownLevel (name : String)
  | notText
  | session (e : SessionError)
  | limitMissing
  | pathTooLong (path : String)
  deriving DecidableEq, Repr

def Crash.message : Crash → String
  | settings e => e.message?.getD "the file of settings is not UTF-8"
  | unknownLevel name => Log.unknownLevelMessage name
  | notText => "the program file is not UTF-8"
  | session e => e.message
  | limitMissing => "'>=' not supported between instances of 'int' and 'list'"
  | pathTooLong path => tooLongMessage path

/-- The program ends with a number, with a text that tells why, or by a crash. -/
inductive Exit where
  | code (n : Nat)
  | message (text : String)
  | crash (e : Crash)
  deriving DecidableEq, Repr

structure Outcome where
  exit : Exit
  stdout : String := ""
  stderr : String := ""
  served : List (String × Int) := []
  deriving DecidableEq, Repr

/-- The text of a program, or how the program ends without one. -/
def readSource (e : Environment) (args : SourceArguments) : Except Exit String :=
  match args.sample?.bind Samples.text? with
  | some text => .ok text
  | none =>
      match args.file? with
      | none => .error (.message "either FILE or --sample is required")
      | some path =>
          match (e.read? path).bind Text.ofFile? with
          | some text => .ok text
          | none => .error (.crash .notText)

def sessionRecord (message : String) : Log.Record := ⟨.info, "stackvm.session", message⟩

def loadedRecord (p : Program) : Log.Record :=
  sessionRecord ("loaded program: " ++ toString p.size ++ " instruction(s), "
    ++ toString p.labels.length ++ " label(s)")

def rejectedRecord (e : ParseError) : Log.Record :=
  sessionRecord ("load rejected: " ++ e.report.text)

def failedRecord (e : RuntimeError) : Log.Record := sessionRecord ("step failed: " ++ e.report.text)

/-- The record of a step that is about to succeed. -/
def stepRecord? (before : Session) : Option Log.Record := do
  let m ← before.machine?
  let i ← m.program.at? m.pc
  return ⟨.debug, "stackvm.engine", "pc=" ++ toString m.pc ++ " " ++ i.render⟩

def traceLine (s : Snapshot) : String :=
  let top := match s.stack.getLast? with
    | some n => toString n
    | none => "-"
  "[pc=" ++ toString s.pc ++ "] top=" ++ top ++ " depth=" ++ toString s.stack.length ++ "\n"

/-- What is written about a step. -/
def watchStep (log : Log) (trace : Bool) (before after : Session) : String :=
  ((stepRecord? before).map log.write).getD "" ++ if trace then traceLine after.snapshot else ""

/-- What is written about the end of a run. Reaching the limit is not a failure of a step. -/
def endLines (log : Log) (e : RuntimeError) : String :=
  (match e.fault with
    | .stepLimit _ => ""
    | _ => log.write (failedRecord e)) ++ e.report.headline ++ "\n"

/-- The limit of a run. One without a value serves only a session that has nothing to run. -/
def limitOf (settings : Settings) (s : Session) : Limit → Option Int
  | .ofSettings => some settings.maxSteps
  | .steps n => some n
  | .missing => if s.finished then some 0 else none

def runCommand (e : Environment) (settings : Settings) (log : Log) (args : RunArguments) :
    Outcome :=
  match readSource e args.source with
  | .error exit => { exit }
  | .ok text =>
      match assemble text with
      | .error (.parse err) =>
          { exit := .code 1
            stderr := log.write (rejectedRecord err) ++ err.report.headline ++ "\n" }
      | .error err => { exit := .crash (.session (.assembly err)) }
      | .ok p =>
          let session := Session.mk (some (Machine.ofProgram p))
          let loaded := log.write (loadedRecord p)
          match limitOf settings session args.limit with
          | none => { exit := .crash .limitMissing, stderr := loaded }
          | some limit =>
              let run := session.runWatched (watchStep log args.trace) limit
              let stderr := loaded ++ String.join run.seen.toList
              match run.error? with
              | none => { exit := .code 0, stdout := run.text, stderr }
              | some (.step (.fault err)) =>
                  { exit := .code 1, stdout := run.text, stderr := stderr ++ endLines log err }
              | some err => { exit := .crash (.session err), stderr }

def unlines (lines : List String) : String := String.join (lines.map (· ++ "\n"))

def checkCommand (e : Environment) (args : SourceArguments) : Outcome :=
  match readSource e args with
  | .error exit => { exit }
  | .ok text =>
      match assemble text with
      | .error (.parse err) => { exit := .code 1, stderr := err.report.headline ++ "\n" }
      | .error err => { exit := .crash (.session (.assembly err)) }
      | .ok p =>
          { exit := .code 0
            stdout := unlines p.listing ++ "\n" ++ toString p.size ++ " instruction(s), "
              ++ toString p.labels.length ++ " label(s)\n" }

def samplesCommand : Option String → Outcome
  | none => { exit := .code 0, stdout := unlines Samples.names }
  | some name => { exit := .code 0, stdout := (Samples.text? name).getD "" }

/-- An empty host and the port zero are as if they had not been given. -/
def serveCommand (settings : Settings) (args : ServeArguments) : Outcome :=
  let host := (args.host?.filter (!·.isEmpty)).getD settings.host
  let port := (args.port?.filter (· != 0)).getD settings.port
  { exit := .code 0, served := [(host, port)] }

def perform (e : Environment) (settings : Settings) (log : Log) : Command → Outcome
  | .run args => runCommand e settings log args
  | .check args => checkCommand e args
  | .samples name? => samplesCommand name?
  | .serve args => serveCommand settings args

/-- The level that is asked for; an empty one is as if it had not been given. -/
def levelName (settings : Settings) (args : Arguments) : String :=
  (args.logLevel?.filter (!·.isEmpty)).getD settings.logLevel

/-- What is written while the file of settings is loaded. It does not depend on the log level,
which is not known yet. -/
def loadingLines (e : Environment) : String :=
  unlines (e.unreadableLines.map Dotenv.unreadableMessage)

/-- Takes the settings, then the log level, and carries out the command. -/
def carryOut (e : Environment) (args : Arguments) : Outcome :=
  match Settings.load e with
  | .error err => { exit := .crash (.settings err) }
  | .ok settings =>
      match Log.ofLevelName? (levelName settings args), args.command? with
      | none, _ => { exit := .crash (.unknownLevel (levelName settings args)) }
      | some log, some command => perform e settings log command
      | some _, none => { exit := .code 0 }

/-- Reads the arguments first: no file is loaded for those that cannot be used. -/
def main (e : Environment) (words : List String) : Outcome :=
  match Arguments.read e.find words with
  | .error .help => { exit := .code 0 }
  | .error (.usage program message) =>
      { exit := .code 2, stderr := program ++ ": error: " ++ message ++ "\n" }
  | .error (.pathTooLong path) => { exit := .crash (.pathTooLong path) }
  | .ok args =>
      let outcome := carryOut e args
      { outcome with stderr := loadingLines e ++ outcome.stderr }

end StackMachine.CommandLine
