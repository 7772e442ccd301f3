/-! Operations of the machine, their mnemonics and the operand that each takes. -/
namespace StackMachine

inductive Opcode where
  | push | pop | dup | swap
  | add | sub | mul | div
  | lt | le | gt | ge | eq | ne
  | and | or | not
  | store | load
  | jump | jumpZero | jumpNonzero
  | newArray | arraySet | arrayGet | arrayLen | freeArray
  | newString | concat | stringLen | freeString
  | print | printChar | printString
  | halt
  deriving DecidableEq, Repr

inductive OperandKind where
  | none | int | string | name | label
  deriving DecidableEq, Repr

namespace OperandKind

def word : OperandKind → String
  | none => "none"
  | int => "int"
  | string => "string"
  | name => "name"
  | label => "label"

end OperandKind

namespace Opcode

/-- All operations in the order of the instruction reference. -/
def all : List Opcode :=
  [push, pop, dup, swap, add, sub, mul, div, lt, le, gt, ge, eq, ne, and, or, not, store, load,
   jump, jumpZero, jumpNonzero, newArray, arraySet, arrayGet, arrayLen, freeArray, newString,
   concat, stringLen, freeString, print, printChar, printString, halt]

def mnemonic : Opcode → String
  | push => "PUSH"
  | pop => "POP"
  | dup => "DUP"
  | swap => "SWAP"
  | add => "ADD"
  | sub => "SUB"
  | mul => "MUL"
  | div => "DIV"
  | lt => "LT"
  | le => "LE"
  | gt => "GT"
  | ge => "GE"
  | eq => "EQ"
  | ne => "NE"
  | and => "AND"
  | or => "OR"
  | not => "NOT"
  | store => "STORE"
  | load => "LOAD"
  | jump => "JMP"
  | jumpZero => "JMPZ"
  | jumpNonzero => "JMPNZ"
  | newArray => "NEWARRAY"
  | arraySet => "ARRAYSET"
  | arrayGet => "ARRAYGET"
  | arrayLen => "ARRAYLEN"
  | freeArray => "FREEARR"
  | newString => "NEWSTR"
  | concat => "STRCAT"
  | stringLen => "STRLEN"
  | freeString => "FREESTR"
  | print => "PRINT"
  | printChar => "PRINTCHAR"
  | printString => "PRINTSTR"
  | halt => "HALT"

def operandKind : Opcode → OperandKind
  | push => .int
  | store | load => .name
  | jump | jumpZero | jumpNonzero => .label
  | newString | printString => .string
  | _ => .none

def isJump (op : Opcode) : Bool := op.operandKind == .label

/-- Long spellings of the comparisons. -/
def aliases : List (String × Opcode) :=
  [("Equal", eq), ("GreaterEqual", ge), ("GreaterThan", gt), ("LessEqual", le), ("LessThan", lt),
   ("NotEqual", ne)]

/-- Finds an operation by its exact mnemonic or alias. -/
def ofMnemonic? (word : String) : Option Opcode :=
  match aliases.lookup word with
  | some op => some op
  | none => all.find? (·.mnemonic == word)

@[simp] theorem ofMnemonic?_mnemonic (op : Opcode) : ofMnemonic? op.mnemonic = some op := by
  cases op <;> decide

end Opcode

end StackMachine
