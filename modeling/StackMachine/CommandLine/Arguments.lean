import StackMachine.CommandLine.Grammar
import StackMachine.Environment
import StackMachine.Samples
import StackMachine.Text.Numeral

/-! The commands of the program and their arguments. -/
namespace StackMachine.CommandLine
open Text

/-- Where a program text comes from. -/
structure SourceArguments where
  file? : Option String := none
  sample? : Option String := none
  deriving DecidableEq, Repr

/-- The limit on the steps of a run: from the settings, or as given, or given without a value. -/
inductive Limit where
  | ofSettings
  | steps (n : Int)
  | missing
  deriving DecidableEq, Repr

structure RunArguments where
  source : SourceArguments := {}
  limit : Limit := .ofSettings
  trace : Bool := false
  deriving DecidableEq, Repr

structure ServeArguments where
  host? : Option String := none
  port? : Option Int := none
  deriving DecidableEq, Repr

inductive Command where
  | run (args : RunArguments)
  | check (args : SourceArguments)
  | samples (name? : Option String)
  | serve (args : ServeArguments)
  deriving DecidableEq, Repr

structure Arguments where
  logLevel? : Option String := none
  command? : Option Command := none
  deriving DecidableEq, Repr

def readInt (text : String) : Except Refusal Int :=
  match Numeral.read? text with
  | some n => .ok n
  | none => .error (.invalid ("invalid int value: " ++ quoted text))

def readSample (name : String) : Except Refusal String :=
  if Samples.names.contains name then .ok name
  else .error (.invalid (choiceMessage name Samples.names))

def readFile (find : String → Entry) (path : String) : Except Refusal String :=
  match find path with
  | .file _ => .ok path
  | .missing => .error (.invalid ("file not found: " ++ path))
  | .tooLong => .error (.pathTooLong path)

def runGrammar (find : String → Entry) : Grammar RunArguments where
  program := "stackvm run"
  options := [
    ⟨"--sample", .value
      (fun text a => do return { a with source.sample? := some (← readSample text) })
      fun a => { a with source.sample? := none }⟩,
    ⟨"--max-steps", .value (fun text a => do return { a with limit := .steps (← readInt text) })
      fun a => { a with limit := .missing }⟩,
    ⟨"--trace", .flag fun a => { a with trace := true }⟩]
  positional? := some (.optional "file" fun text a => do
    return { a with source.file? := some (← readFile find text) })

def checkGrammar (find : String → Entry) : Grammar SourceArguments where
  program := "stackvm check"
  options := [
    ⟨"--sample", .value (fun text a => do return { a with sample? := some (← readSample text) })
      fun a => { a with sample? := none }⟩]
  positional? := some (.optional "file" fun text a => do
    return { a with file? := some (← readFile find text) })

def samplesGrammar : Grammar (Option String) where
  program := "stackvm samples"
  positional? := some (.optional "name" fun text _ => do return some (← readSample text))

def serveGrammar : Grammar ServeArguments where
  program := "stackvm serve"
  options := [
    ⟨"--host", .value (fun text a => .ok { a with host? := some text })
      fun a => { a with host? := none }⟩,
    ⟨"--port", .value (fun text a => do return { a with port? := some (← readInt text) })
      fun a => { a with port? := none }⟩]

def commandNames : List String := ["run", "check", "samples", "serve"]

/-- Reads the words after the name of a command. -/
def readCommand (find : String → Entry) (name : String) (words : List String) :
    Except Stop (Option Command × List String) :=
  match name with
  | "run" => do
      let (args, others) ← (runGrammar find).readKnown words {}
      return (some (.run args), others)
  | "check" => do
      let (args, others) ← (checkGrammar find).readKnown words {}
      return (some (.check args), others)
  | "samples" => do
      let (sample?, others) ← samplesGrammar.readKnown words none
      return (some (.samples sample?), others)
  | "serve" => do
      let (args, others) ← serveGrammar.readKnown words {}
      return (some (.serve args), others)
  | _ => return (none, words)

def programGrammar (find : String → Entry) : Grammar Arguments where
  program := "stackvm"
  options := [⟨"--log-level", .value (fun text a => .ok { a with logLevel? := some text })
    fun a => { a with logLevel? := none }⟩]
  positional? := some (.command "cmd" commandNames fun name words a => do
    let (command?, others) ← readCommand find name words
    return ({ a with command? }, others))

def Arguments.read (find : String → Entry) (words : List String) : Except Stop Arguments :=
  (programGrammar find).read words {}

end StackMachine.CommandLine
