import StackMachine.Instruction

/-! Programs: instructions and the labels of their positions. -/
namespace StackMachine

/-- Labels are in the order of their definition. A label may stand past the last instruction. -/
structure Program where
  instructions : Array Instruction := #[]
  labels : List (String × Int) := []
  deriving DecidableEq, Repr

namespace Program

def size (p : Program) : Nat := p.instructions.size

/-- A negative position counts back from the end of the program. -/
def at? (p : Program) (pc : Int) : Option Instruction :=
  let position := if pc < 0 then pc + p.size else pc
  if position < 0 then none else p.instructions[position.toNat]?

def render (p : Program) : List String := p.instructions.toList.map Instruction.render

/-- The labels of a position in increasing order. -/
def labelsAt (p : Program) (position : Int) : List String :=
  ((p.labels.filter (·.2 == position)).map (·.1)).mergeSort

def padLeft (width : Nat) (s : String) : String :=
  String.ofList (List.replicate (width - s.length) ' ') ++ s

def numbered (position : Nat) (i : Instruction) : String :=
  "  " ++ padLeft 4 (toString position) ++ "  " ++ i.render

def header (label : String) : String := label ++ ":"

def listingFrom (p : Program) : Nat → List Instruction → List String
  | position, [] => (p.labelsAt position).map header
  | position, i :: rest =>
      (p.labelsAt position).map header ++ numbered position i :: listingFrom p (position + 1) rest

/-- One line for each instruction, with headers for the labels before it, and at the end headers for
the labels past the last instruction. -/
def listing (p : Program) : List String := p.listingFrom 0 p.instructions.toList

@[simp] theorem at?_nat (p : Program) (n : Nat) : p.at? (n : Int) = p.instructions[n]? := by
  have h : ¬ (n : Int) < 0 := by omega
  simp [at?, h]

end Program

end StackMachine
