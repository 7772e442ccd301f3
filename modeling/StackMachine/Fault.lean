import StackMachine.Report
import StackMachine.Text.Quoted
import StackMachine.Value

/-! Why a step or a run fails. -/
namespace StackMachine

/-- The two arenas of the heap. -/
inductive ArenaName where
  | array | string
  deriving DecidableEq, Repr

def ArenaName.word : ArenaName → String
  | array => "array"
  | string => "string"

inductive Fault where
  | stackTooShort (depth : Nat)
  | notNumber (found : Value)
  | notHandle (wanted : ArenaName) (found : Value)
  | arrayNotPrintable
  | divisionByZero
  | indexOutside (index : Int) (length : Nat)
  | negativeSize (size : Int)
  | sizeTooLarge (size : Int)
  | neverAllocated (arena : ArenaName) (id : Int)
  | freed (arena : ArenaName) (id : Int)
  | freedTwice (arena : ArenaName) (id : Int)
  | variableUnset (name : String)
  | notCodePoint (code : Int)
  | halted
  | pastEnd
  | nothingLoaded
  | stepLimit (limit : Int)
  deriving DecidableEq, Repr

namespace Fault
open Text

def kind : Fault → ErrorKind
  | stackTooShort .. => .stackUnderflow
  | notNumber .. | notHandle .. | arrayNotPrintable => .typeMismatch
  | divisionByZero => .divisionByZero
  | indexOutside .. | negativeSize .. | sizeTooLarge .. => .outOfBounds
  | neverAllocated .. => .invalidHandle
  | freed .. => .useAfterFree
  | freedTwice .. => .doubleFree
  | variableUnset .. => .unknownVariable
  | notCodePoint .. => .invalidCharacter
  | halted | pastEnd => .programComplete
  | nothingLoaded => .noProgramLoaded
  | stepLimit .. => .stepLimitExceeded

def message : Fault → String
  | stackTooShort depth => "stack has only " ++ toString depth ++ " value(s)"
  | notNumber found => "expected number, found " ++ found.describe
  | notHandle wanted found => "expected " ++ wanted.word ++ " handle, found " ++ found.describe
  | arrayNotPrintable => "cannot PRINT an array handle"
  | divisionByZero => "division by zero"
  | indexOutside index length =>
      "index " ++ toString index ++ " out of bounds for array of length " ++ toString length
  | negativeSize size => "array size must be >= 0, got " ++ toString size
  | sizeTooLarge size => "cannot allocate array of " ++ toString size ++ " elements"
  | neverAllocated arena id => arena.word ++ " #" ++ toString id ++ " was never allocated"
  | freed arena id => arena.word ++ " #" ++ toString id ++ " has been freed"
  | freedTwice arena id => arena.word ++ " #" ++ toString id ++ " is already freed"
  | variableUnset name => "variable " ++ quoted name ++ " has not been stored"
  | notCodePoint code => toString code ++ " is not a valid code point"
  | halted => "program has halted"
  | pastEnd => "no instruction left to execute"
  | nothingLoaded => "no program loaded"
  | stepLimit limit => "stopped after " ++ toString limit ++ " steps without halting"

end Fault

/-- A fault and where it arose, as far as that is known. -/
structure RuntimeError where
  fault : Fault
  pc : Option Int := none
  instruction : Option String := none
  deriving DecidableEq, Repr

def RuntimeError.report (e : RuntimeError) : Report :=
  { kind := e.fault.kind, message := e.fault.message, pc := e.pc, instruction := e.instruction }

end StackMachine
