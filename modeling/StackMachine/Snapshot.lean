import StackMachine.Machine

/-! What an observer sees of a machine. -/
namespace StackMachine

/-- Values are bare integers and the stack is listed from the bottom. -/
structure Snapshot where
  stack : List Int := []
  memory : List (String × Int) := []
  pc : Int := 0
  instructions : List String := []
  output : List String := []
  halted : Bool := false
  deriving DecidableEq, Repr

namespace Snapshot

def empty : Snapshot := {}

def ofMachine (m : Machine) : Snapshot :=
  { stack := (m.stack.map Value.wire).reverse
    memory := m.memory.entries.map fun (name, v) => (name, v.wire)
    pc := m.pc
    instructions := m.program.render
    output := m.output.toList
    halted := m.finished }

/-- No snapshot has a negative program counter. -/
def Valid (s : Snapshot) : Prop := 0 ≤ s.pc

instance (s : Snapshot) : Decidable s.Valid := inferInstanceAs (Decidable (0 ≤ s.pc))

/-- The snapshot of a machine, unless it is refused. -/
def ofMachine? (m : Machine) : Option Snapshot :=
  if (ofMachine m).Valid then some (ofMachine m) else none

/-- The printed pieces in one text. -/
def text (s : Snapshot) : String := String.join s.output

end Snapshot

end StackMachine
