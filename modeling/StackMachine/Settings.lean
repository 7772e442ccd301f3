import StackMachine.Dotenv.Expansion
import StackMachine.Environment
import StackMachine.Text.Newline
import StackMachine.Text.Numeral
import StackMachine.Text.Quoted
import StackMachine.Text.Uppercase

/-! Settings, from environment variables and the nearest file of assignments, or else the one that
comes with the program. -/
namespace StackMachine

inductive SettingsError where
  | notInteger (name value : String)
  | notText
  | holdsNul
  | badName
  | pathTooLong (path : String)
  deriving DecidableEq, Repr

/-- The message for a file that is not text is left open. -/
def SettingsError.message? : SettingsError → Option String
  | notInteger name value => some (name ++ " must be an integer, got " ++ Text.quoted value)
  | notText => none
  | holdsNul => some "embedded null byte"
  | badName => some "illegal environment variable name"
  | pathTooLong path => some (tooLongMessage path)

namespace Environment
open Text

/-- A variable that is set already is left alone, whatever is assigned to it. -/
def assign (vars : Variables) (a : Dotenv.Assignment) : Except SettingsError Variables :=
  match a.value? with
  | none => .ok vars
  | some value =>
      if (vars.get? a.name).isSome then .ok vars
      else if holdsNul a.name || holdsNul value then .error .holdsNul
      else if a.name.toList.contains '=' then .error .badName
      else .ok (vars.addMissing a.name value)

/-- A variable can turn the loading of files off by one of these words, in any case. -/
def loadingOff (vars : Variables) : Bool :=
  match vars.get? "PYTHON_DOTENV_DISABLED" with
  | none => false
  | some value => ["1", "T", "TRUE", "Y", "YES"].contains (upper value)

/-- The text of a file that is to be loaded, if there is one. While loading is off a file is not
even read. -/
def textToLoad? (e : Environment) (path : String) : Except SettingsError (Option String) :=
  match e.find path with
  | .missing => .ok none
  | .tooLong => .error (.pathTooLong path)
  | .file content =>
      if loadingOff e.vars then .ok none
      else
        match ofFile? content with
        | none => .error .notText
        | some text => .ok (some text)

/-- Adds the assignments of a file, and tells whether there were any. -/
def loadFile (e : Environment) (path : String) : Except SettingsError (Bool × Environment) := do
  match ← e.textToLoad? path with
  | none => return (false, e)
  | some text =>
      let assignments := Dotenv.settle e.vars.get? text
      return (!assignments.isEmpty, { e with vars := ← assignments.foldlM assign e.vars })

/-- The paths that a file of settings can have: at the working directory and at each of the `depth`
directories above it, from the nearest on. -/
def settingsPaths (depth : Nat) : List String :=
  (List.range (depth + 1)).map fun up => String.join (List.replicate up "../") ++ ".env"

def nearestFile? (e : Environment) : Option String := (settingsPaths e.depth).find? e.isFile

/-- The path of the file of settings that comes with a program. -/
def homeFile (home : String) : String := home ++ "/.env"

/-- Where settings are looked for, whether or not there is a file. -/
def settingsFile (e : Environment) : String := e.nearestFile?.getD (homeFile e.home)

def loadNearest (e : Environment) : Except SettingsError (Bool × Environment) :=
  e.loadFile e.settingsFile

/-- The lines of the file of settings that hold the start of an unreadable statement. -/
def unreadableLines (e : Environment) : List Nat :=
  match e.textToLoad? e.settingsFile with
  | .ok (some text) => Dotenv.unreadableLines text
  | _ => []

end Environment

structure Settings where
  host : String := "127.0.0.1"
  port : Int := 3001
  maxSteps : Int := 100000
  logLevel : String := "WARNING"
  deriving DecidableEq, Repr

namespace Settings
open Text

/-- A variable that is absent or empty gives the default. -/
def textOf (vars : Variables) (name default : String) : String :=
  let value := (vars.get? name).getD ""
  trim (if value.isEmpty then default else value)

/-- A variable that is absent or blank gives the default. -/
def intOf (vars : Variables) (name : String) (default : Int) : Except SettingsError Int :=
  let value := trim ((vars.get? name).getD "")
  if value.isEmpty then .ok default
  else match Numeral.read? value with
    | some n => .ok n
    | none => .error (.notInteger name value)

def ofVariables (vars : Variables) : Except SettingsError Settings := do
  let defaults : Settings := {}
  let port ← intOf vars "STACKVM_PORT" defaults.port
  let maxSteps ← intOf vars "STACKVM_MAX_STEPS" defaults.maxSteps
  return {
    host := textOf vars "STACKVM_HOST" defaults.host
    port
    maxSteps
    logLevel := upper (textOf vars "STACKVM_LOG_LEVEL" defaults.logLevel) }

/-- The settings in an environment, completed from a file. -/
def load (e : Environment) : Except SettingsError Settings := do
  let (_, e) ← e.loadNearest
  ofVariables e.vars

end Settings

end StackMachine
