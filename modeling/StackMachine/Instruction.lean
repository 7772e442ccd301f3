import StackMachine.Opcode

/-! Instructions and their one-line form. -/
namespace StackMachine

/-- In an assembled program the operand has the kind that its operation asks for, and a jump has a
position. In a program that was put together by hand it may be anything. -/
inductive Operand where
  | none
  | int (n : Int)
  | text (s : String)
  deriving DecidableEq, Repr

/-- An operand where a name or a text is wanted. -/
def Operand.asText : Operand → String
  | .none => "None"
  | .int n => toString n
  | .text s => s

structure Instruction where
  opcode : Opcode
  operand : Operand := .none
  line : Option Nat := none
  deriving DecidableEq, Repr

/-- Backslashes, line feeds and tabs become escapes; every other character stands for itself. -/
def escapeChar (c : Char) : List Char :=
  if c == '\\' then ['\\', '\\']
  else if c == '\n' then ['\\', 'n']
  else if c == '\t' then ['\\', 't']
  else [c]

def escapeText (s : String) : String := String.ofList (s.toList.flatMap escapeChar)

@[simp] theorem escapeText_toList (s : String) :
    (escapeText s).toList = s.toList.flatMap escapeChar := by simp [escapeText]

namespace Instruction

/-- The number that the instruction holds, if it holds one. -/
def target? (i : Instruction) : Option Int :=
  match i.operand with
  | .int n => some n
  | _ => none

/-- The mnemonic, and after a space the operand without quotes. -/
def render (i : Instruction) : String :=
  match i.operand with
  | .none => i.opcode.mnemonic
  | .int n => i.opcode.mnemonic ++ " " ++ toString n
  | .text s =>
      i.opcode.mnemonic ++ " " ++ if i.opcode.operandKind = .string then escapeText s else s

end Instruction

end StackMachine
