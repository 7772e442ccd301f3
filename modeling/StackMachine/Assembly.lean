import StackMachine.Program
import StackMachine.Text.Lines
import StackMachine.Text.Numeral
import StackMachine.Token
import StackMachine.Value

/-! Assembly of a program from its text. Lines are read in order and labels recorded; then jumps
that name a label receive its position. -/
namespace StackMachine

inductive AssemblyError where
  | parse (e : ParseError)
  | numeralTooLong (digits : Nat)
  deriving DecidableEq, Repr

namespace AssemblyError

def report? : AssemblyError → Option Report
  | parse e => some e.report
  | numeralTooLong _ => none

def message : AssemblyError → String
  | parse e => e.report.text
  | numeralTooLong digits => Text.Numeral.tooLongMessage digits

end AssemblyError

namespace Assembly
open Text

def reject {α : Type} (line : Nat) (cause : ParseCause) : Except AssemblyError α :=
  .error (.parse ⟨line, cause⟩)

def tokenKind? : OperandKind → Option TokenKind
  | .none => none
  | .int => some .int
  | .string => some .string
  | .name | .label => some .ident

def readInt (line : Nat) (literal : String) : Except AssemblyError Operand :=
  match Numeral.convert literal.toList with
  | .error digits => .error (.numeralTooLong digits)
  | .ok n =>
      if minInt ≤ n ∧ n ≤ maxInt then .ok (.int n) else reject line (.integerTooWide literal)

/-- The operand of an operation from the tokens after its mnemonic. -/
def readOperand (line : Nat) (op : Opcode) (tokens : List Token) : Except AssemblyError Operand :=
  if tokens.any (·.kind == .colon) then reject line .strayColon
  else match tokenKind? op.operandKind, tokens with
    | none, [] => .ok .none
    | none, t :: _ => reject line (.takesNoOperand op t.text)
    | some _, [] => reject line (.operandMissing op)
    | some wanted, [t] =>
        if t.kind ≠ wanted then reject line (.wrongOperand op t.text)
        else if wanted = .int then readInt line t.text
        else .ok (.text t.text)
    | some _, tokens => reject line (.tooManyOperands op tokens.length)

def readInstruction (line : Nat) (head : Token) (rest : List Token) :
    Except AssemblyError Instruction :=
  if head.kind ≠ .ident then reject line (.noMnemonic head.text)
  else match Opcode.ofMnemonic? head.text with
    | none => reject line (.unknownInstruction head.text)
    | some op => do return ⟨op, ← readOperand line op rest, some line⟩

/-- The label that a line defines, and the other tokens. -/
def splitLabel : List Token → Option String × List Token
  | a :: b :: rest =>
      if a.kind == .ident && b.kind == .colon then (some a.text, rest) else (none, a :: b :: rest)
  | tokens => (none, tokens)

/-- A program whose jumps still name labels. -/
structure Draft where
  labels : List (String × Int) := []
  instructions : Array Instruction := #[]

namespace Draft

/-- A label stands for the position of the next instruction. -/
def define (d : Draft) (line : Nat) (name : String) : Except AssemblyError Draft :=
  if (d.labels.lookup name).isSome then reject line (.labelRedefined name)
  else .ok { d with labels := d.labels ++ [(name, (d.instructions.size : Int))] }

def addInstruction (d : Draft) (line : Nat) : List Token → Except AssemblyError Draft
  | [] => .ok d
  | head :: rest => do
      return { d with instructions := d.instructions.push (← readInstruction line head rest) }

def addLine (d : Draft) (line : Nat) (cs : List Char) : Except AssemblyError Draft := do
  let tokens ← (Token.scan line cs).mapError .parse
  let (label, rest) := splitLabel tokens
  let d ← match label with
    | none => .ok d
    | some name => d.define line name
  d.addInstruction line rest

def addLines (d : Draft) : Nat → List (List Char) → Except AssemblyError Draft
  | _, [] => .ok d
  | line, cs :: rest => do (← d.addLine line cs).addLines (line + 1) rest

/-- Replaces the label of a jump by its position. -/
def resolveJump (labels : List (String × Int)) (i : Instruction) :
    Except AssemblyError Instruction :=
  match i.opcode.isJump, i.operand with
  | true, .text name =>
      match labels.lookup name with
      | some position => .ok { i with operand := .int position }
      | none => reject (i.line.getD 0) (.labelUndefined name)
  | _, _ => .ok i

def resolve (d : Draft) : Except AssemblyError Program := do
  let instructions ← d.instructions.toList.mapM (resolveJump d.labels)
  return { instructions := instructions.toArray, labels := d.labels }

end Draft

end Assembly

/-- The program that a text describes. Of several errors the first line's is reported; an undefined
label is an error only if no line has one of its own. -/
def assemble (text : String) : Except AssemblyError Program := do
  (← Assembly.Draft.addLines {} 1 (Text.lines text.toList)).resolve

end StackMachine
