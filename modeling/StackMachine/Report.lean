/-! Error reports: a kind, a message, and the place in a text or in a run where the error arose. -/
namespace StackMachine

/-- The kinds of error by name. `machine`, `parse` and `runtime` are the general kinds. -/
inductive ErrorKind where
  | machine
  | parse | unknownOpcode | missingOperand | unexpectedOperand | invalidOperand
  | duplicateLabel | undefinedLabel | badSyntax
  | runtime | stackUnderflow | typeMismatch | divisionByZero | outOfBounds
  | useAfterFree | doubleFree | invalidHandle | unknownVariable | invalidCharacter
  | programComplete | noProgramLoaded | stepLimitExceeded
  deriving DecidableEq, Repr

inductive Phase where
  | parse | runtime
  deriving DecidableEq, Repr

namespace ErrorKind

def all : List ErrorKind :=
  [machine, parse, unknownOpcode, missingOperand, unexpectedOperand, invalidOperand,
   duplicateLabel, undefinedLabel, badSyntax, runtime, stackUnderflow, typeMismatch,
   divisionByZero, outOfBounds, useAfterFree, doubleFree, invalidHandle, unknownVariable,
   invalidCharacter, programComplete, noProgramLoaded, stepLimitExceeded]

def name : ErrorKind → String
  | machine => "VMError"
  | parse => "ParseError"
  | unknownOpcode => "UnknownOpcode"
  | missingOperand => "MissingOperand"
  | unexpectedOperand => "UnexpectedOperand"
  | invalidOperand => "InvalidOperand"
  | duplicateLabel => "DuplicateLabel"
  | undefinedLabel => "UndefinedLabel"
  | badSyntax => "SyntaxError"
  | runtime => "VMRuntimeError"
  | stackUnderflow => "StackUnderflow"
  | typeMismatch => "TypeMismatch"
  | divisionByZero => "DivisionByZero"
  | outOfBounds => "OutOfBounds"
  | useAfterFree => "UseAfterFree"
  | doubleFree => "DoubleFree"
  | invalidHandle => "InvalidHandle"
  | unknownVariable => "UnknownVariable"
  | invalidCharacter => "InvalidCharacter"
  | programComplete => "ProgramComplete"
  | noProgramLoaded => "NoProgramLoaded"
  | stepLimitExceeded => "StepLimitExceeded"

/-- When errors of the kind arise; an unspecific error has no phase. -/
def phase? : ErrorKind → Option Phase
  | machine => none
  | parse | unknownOpcode | missingOperand | unexpectedOperand | invalidOperand
  | duplicateLabel | undefinedLabel | badSyntax => some .parse
  | _ => some .runtime

/-- Freeing an object twice is a use of it after it was freed. -/
def isUseAfterFree : ErrorKind → Bool
  | useAfterFree | doubleFree => true
  | _ => false

end ErrorKind

structure Report where
  kind : ErrorKind
  message : String
  line : Option Int := none
  pc : Option Int := none
  instruction : Option String := none
  deriving DecidableEq, Repr

namespace Report

/-- A line takes precedence over a program counter; an instruction shows only beside the latter, and
only if it is not empty. -/
def location (r : Report) : String :=
  match r.line, r.pc, r.instruction with
  | some line, _, _ => "line " ++ toString line ++ ": "
  | none, none, _ => ""
  | none, some pc, none => "pc " ++ toString pc ++ ": "
  | none, some pc, some instruction =>
      if instruction.isEmpty then "pc " ++ toString pc ++ ": "
      else "pc " ++ toString pc ++ " (" ++ instruction ++ "): "

def text (r : Report) : String := r.location ++ r.message

/-- The line that names the error to a person. -/
def headline (r : Report) : String := r.kind.name ++ ": " ++ r.text

/-- Adds the place of the failing instruction unless the report has a program counter. -/
def locate (r : Report) (pc : Int) (instruction : String) : Report :=
  if r.pc.isSome then r else { r with pc := some pc, instruction := some instruction }

end Report

end StackMachine
