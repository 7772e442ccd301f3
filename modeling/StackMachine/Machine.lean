import StackMachine.Heap
import StackMachine.Memory
import StackMachine.Program

/-! The state of a machine that runs a program. -/
namespace StackMachine

/-- The top of the stack comes first. The output is a list of pieces, one for each printing
instruction. -/
structure Machine where
  program : Program
  stack : List Value := []
  memory : Memory := {}
  heap : Heap := {}
  pc : Int := 0
  halted : Bool := false
  output : Array String := #[]
  steps : Nat := 0
  deriving Repr

inductive Status where
  | idle | loaded | halted
  deriving DecidableEq, Repr

def Status.word : Status → String
  | idle => "idle"
  | loaded => "loaded"
  | halted => "halted"

namespace Machine

def ofProgram (p : Program) : Machine := { program := p }

/-- Halted, or past the last instruction. -/
def finished (m : Machine) : Bool := m.halted || (m.program.size : Int) ≤ m.pc

def status (m : Machine) : Status := if m.finished then .halted else .loaded

end Machine

end StackMachine
