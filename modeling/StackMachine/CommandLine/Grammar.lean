import StackMachine.Text.Digit
import StackMachine.Text.Quoted

/-! Grammars of command lines, and the reading of arguments by them. A program has options with a
long name, an option that asks for help, and one positional argument, which may be a command with
arguments of its own. -/
namespace StackMachine.CommandLine
open Text

/-- Why the arguments are not read to their end. -/
inductive Stop where
  | help
  | usage (program message : String)
  | pathTooLong (path : String)
  deriving DecidableEq, Repr

/-- Why a value is not taken: a message tells what is wrong with it, or it is a path too long to be
followed. -/
inductive Refusal where
  | invalid (message : String)
  | pathTooLong (path : String)
  deriving DecidableEq, Repr

/-- What an option does to the arguments `σ` read so far; `clear` is for an option that is given
without a value. -/
inductive OptionEffect (σ : Type) where
  | flag (set : σ → σ)
  | value (set : String → σ → Except Refusal σ) (clear : σ → σ)

structure OptionSpec (σ : Type) where
  name : String
  effect : OptionEffect σ

/-- A command takes all words that follow; it gives the arguments read and the words that it does
not recognize. -/
inductive Positional (σ : Type) where
  | optional (name : String) (set : String → σ → Except Refusal σ)
  | command (name : String) (names : List String)
      (run : String → List String → σ → Except Stop (σ × List String))

structure Grammar (σ : Type) where
  program : String
  options : List (OptionSpec σ) := []
  positional? : Option (Positional σ) := none

/-- What a word of the command line is. A value may be attached to an option. -/
inductive Word (σ : Type) where
  | argument
  | separator
  | unknown
  | help (attached? : Option String)
  | shortHelp (attached? : Option String)
  | option (spec : OptionSpec σ) (attached? : Option String)

structure Parsed (σ : Type) where
  arguments : σ
  unrecognized : List String := []
  missing? : Option String := none

def shortHelpName : String := "-h"

def helpName : String := "--help"

def helpTitle : String := shortHelpName ++ "/" ++ helpName

/-- Attached to an option, this stands for no value. -/
def noValue : String := "--"

def choiceMessage (value : String) (choices : List String) : String :=
  "invalid choice: " ++ quoted value ++ " (choose from "
    ++ ", ".intercalate (choices.map quoted) ++ ")"

/-- A minus sign before digits, with one point before the last of them or none. A line feed may
follow. -/
def isNegativeNumber (cs : List Char) : Bool :=
  let isDigit (c : Char) : Bool := (digitValue? c).isSome
  let cs := if cs.getLast? == some '\n' then cs.dropLast else cs
  match cs with
  | '-' :: cs =>
      match cs.dropWhile isDigit with
      | [] => !cs.isEmpty
      | '.' :: rest => !rest.isEmpty && rest.all isDigit
      | _ => false
  | _ => false

namespace Grammar
variable {σ : Type}

def stop {α : Type} (g : Grammar σ) (message : String) : Except Stop α :=
  .error (.usage g.program message)

def argumentError {α : Type} (g : Grammar σ) (name message : String) : Except Stop α :=
  g.stop ("argument " ++ name ++ ": " ++ message)

/-- Every name of an option, with the word that it makes when it stands alone or has a value
attached to it. -/
def names (g : Grammar σ) : List (String × (Option String → Word σ)) :=
  (shortHelpName, .shortHelp) :: (helpName, .help) ::
    g.options.map fun spec => (spec.name, .option spec)

/-- The part before the first equals sign, and the part after it. -/
def splitEquals (word : String) : String × Option String :=
  let cs := word.toList
  match cs.dropWhile (· != '=') with
  | [] => (word, none)
  | _ :: rest => (String.ofList (cs.takeWhile (· != '=')), some (String.ofList rest))

/-- The options that a word may abbreviate. -/
def candidates (g : Grammar σ) (word : String) : List (String × Word σ) :=
  match word.toList with
  | '-' :: '-' :: _ =>
      let (start, value?) := splitEquals word
      (g.names.filter fun (name, _) => start.toList.isPrefixOf name.toList).map
        fun (name, make) => (name, make value?)
  | a :: b :: rest =>
      (g.names.filter fun (name, _) => name.toList == [a, b]).map
        fun (name, make) => (name, make (some (String.ofList rest)))
  | _ => []

/-- Only a word that starts with a minus sign can be an option. -/
def classify (g : Grammar σ) (word : String) : Except Stop (Word σ) :=
  let cs := word.toList
  let (start, value?) := splitEquals word
  if cs.head? != some '-' then .ok .argument
  else match g.names.lookup word with
    | some make => .ok (make none)
    | none =>
      if cs.length == 1 then .ok .argument
      else match value?, g.names.lookup start with
        | some value, some make => .ok (make (some value))
        | _, _ =>
          match g.candidates word with
          | [(_, w)] => .ok w
          | [] => .ok (if isNegativeNumber cs || cs.contains ' ' then .argument else .unknown)
          | several => g.stop ("ambiguous option: " ++ word ++ " could match "
              ++ ", ".intercalate (several.map (·.1)))

/-- After the first pair of minus signs every word is an argument. -/
def classifyAll (g : Grammar σ) : List String → Except Stop (List (String × Word σ))
  | [] => .ok []
  | word :: rest =>
      if word == "--" then .ok ((word, .separator) :: rest.map (·, .argument))
      else do
        let w ← g.classify word
        return (word, w) :: (← g.classifyAll rest)

def ignoredMessage (text : String) : String := "ignored explicit argument " ++ quoted text

/-- The value of an option that must not have one attached. -/
def ignored {α : Type} (g : Grammar σ) (name text : String) : Except Stop α :=
  g.argumentError name (ignoredMessage text)

/-- Letters behind the short name of the help option are further short names. -/
def askShortHelp {α : Type} (g : Grammar σ) (text : String) : Except Stop α :=
  match text.toList.dropWhile (· == 'h') with
  | [] => if text.isEmpty then g.ignored helpTitle text else .error .help
  | others => g.ignored helpTitle (String.ofList others)

def liftValue {α : Type} (g : Grammar σ) (name : String) : Except Refusal α → Except Stop α
  | .ok a => .ok a
  | .error (.invalid message) => g.argumentError name message
  | .error (.pathTooLong path) => .error (.pathTooLong path)

def unrecognized (word : String) (p : Parsed σ) : Parsed σ :=
  { p with unrecognized := word :: p.unrecognized }

/-- A pair of minus signs right after a positional argument belongs to it. -/
def dropSeparator : List (String × Word σ) → List (String × Word σ)
  | (_, .separator) :: rest => rest
  | words => words

theorem length_dropSeparator_le (words : List (String × Word σ)) :
    (dropSeparator words).length ≤ words.length := by
  unfold dropSeparator
  split <;> simp

def runCommand (g : Grammar σ) (name : String) (names : List String)
    (run : String → List String → σ → Except Stop (σ × List String)) (word : String)
    (words : List (String × Word σ)) (s : σ) : Except Stop (Parsed σ) :=
  if names.contains word then do
    let (s, others) ← run word (words.map (·.1)) s
    return { arguments := s, unrecognized := others }
  else g.argumentError name (choiceMessage word names)

/-- Reads the words in order; `positional?` is the positional argument if it is still to come. -/
def consume (g : Grammar σ) (positional? : Option (Positional σ)) (s : σ)
    (words : List (String × Word σ)) : Except Stop (Parsed σ) :=
  match words with
  | [] =>
      .ok { arguments := s
            missing? := match positional? with
              | some (.command name ..) => some name
              | _ => none }
  | (word, w) :: rest =>
    match w with
    | .unknown => (g.consume positional? s rest).map (unrecognized word)
    | .help none | .shortHelp none => .error .help
    | .help (some text) => g.ignored helpTitle text
    | .shortHelp (some text) => g.askShortHelp text
    | .option spec attached? =>
        match spec.effect, attached? with
        | .flag set, none => g.consume positional? (set s) rest
        | .flag _, some text => g.ignored spec.name text
        | .value set clear, some text => do
            let s ← if text == noValue then .ok (clear s)
              else g.liftValue spec.name (set text s)
            g.consume positional? s rest
        | .value set _, none =>
            match _h : rest with
            | (value, .argument) :: more => do
                let s ← g.liftValue spec.name (set value s)
                g.consume positional? s more
            | _ => g.argumentError spec.name "expected one argument"
    | .argument =>
        match positional? with
        | none => (g.consume none s rest).map (unrecognized word)
        | some (.optional name set) => do
            let s ← g.liftValue name (set word s)
            g.consume none s (dropSeparator rest)
        | some (.command name names run) => g.runCommand name names run word rest s
    | .separator =>
        match positional? with
        | none => (g.consume none s rest).map (unrecognized word)
        | some (.optional name set) =>
            match _h : rest with
            | [] => .ok { arguments := s }
            | (value, _) :: more => do
                let s ← g.liftValue name (set value s)
                g.consume none s more
        | some (.command name names run) =>
            match _h : rest with
            | [] => (g.consume positional? s []).map (unrecognized word)
            | _ :: _ => g.runCommand name names run word rest s
termination_by words.length
decreasing_by
  all_goals have := length_dropSeparator_le rest
  all_goals subst_vars
  all_goals simp only [List.length_cons] at *
  all_goals omega

/-- Reads arguments and leaves aside the words that are not recognized. -/
def readKnown (g : Grammar σ) (words : List String) (s : σ) : Except Stop (σ × List String) := do
  let p ← g.consume g.positional? s (← g.classifyAll words)
  match p.missing? with
  | some name => g.stop ("the following arguments are required: " ++ name)
  | none => return (p.arguments, p.unrecognized)

/-- Reads arguments, all of which must be recognized. -/
def read (g : Grammar σ) (words : List String) (s : σ) : Except Stop σ := do
  let (s, others) ← g.readKnown words s
  if others.isEmpty then return s
  else g.stop ("unrecognized arguments: " ++ " ".intercalate others)

end Grammar

end StackMachine.CommandLine
