import StackMachine.Opcode
import StackMachine.Report
import StackMachine.Text.Quoted

/-! Why a program text is rejected. -/
namespace StackMachine

inductive ParseCause where
  | unexpectedCharacter (c : Char) (col : Nat)
  | malformedNumber (word : String) (col : Nat)
  | unknownEscape (c : Char) (col : Nat)
  | unterminatedString (col : Nat)
  | noMnemonic (found : String)
  | unknownInstruction (word : String)
  | strayColon
  | takesNoOperand (op : Opcode) (found : String)
  | operandMissing (op : Opcode)
  | tooManyOperands (op : Opcode) (count : Nat)
  | wrongOperand (op : Opcode) (found : String)
  | integerTooWide (literal : String)
  | labelRedefined (name : String)
  | labelUndefined (name : String)
  deriving DecidableEq, Repr

namespace ParseCause
open Text

def kind : ParseCause → ErrorKind
  | unexpectedCharacter .. | malformedNumber .. | unknownEscape .. | unterminatedString ..
  | noMnemonic .. | strayColon => .badSyntax
  | unknownInstruction .. => .unknownOpcode
  | takesNoOperand .. | tooManyOperands .. => .unexpectedOperand
  | operandMissing .. => .missingOperand
  | wrongOperand .. | integerTooWide .. => .invalidOperand
  | labelRedefined .. => .duplicateLabel
  | labelUndefined .. => .undefinedLabel

def message : ParseCause → String
  | unexpectedCharacter c col =>
      "unexpected character " ++ quoted (String.singleton c) ++ " at col " ++ toString col
  | malformedNumber word col => "malformed number at col " ++ toString col ++ ": " ++ quoted word
  | unknownEscape c col => "unknown escape \\" ++ String.singleton c ++ " at col " ++ toString col
  | unterminatedString col => "unterminated string literal at col " ++ toString col
  | noMnemonic found => "expected a mnemonic, found " ++ quoted found
  | unknownInstruction word => "unknown instruction " ++ quoted word
  | strayColon => "unexpected ':' after instruction"
  | takesNoOperand op found => op.mnemonic ++ " takes no operand, got " ++ quoted found
  | operandMissing op => op.mnemonic ++ " requires a " ++ op.operandKind.word ++ " operand"
  | tooManyOperands op count => op.mnemonic ++ " takes one operand, got " ++ toString count
  | wrongOperand op found =>
      op.mnemonic ++ " requires a " ++ op.operandKind.word ++ " operand, got " ++ quoted found
  | integerTooWide literal => "integer " ++ literal ++ " does not fit in 64 bits"
  | labelRedefined name => "label " ++ quoted name ++ " is already defined"
  | labelUndefined name => "label " ++ quoted name ++ " is not defined"

end ParseCause

structure ParseError where
  line : Int
  cause : ParseCause
  deriving DecidableEq, Repr

def ParseError.report (e : ParseError) : Report :=
  { kind := e.cause.kind, message := e.cause.message, line := some e.line }

end StackMachine
