import StackMachine.Entries
import StackMachine.Value

/-! Named variables, in the order in which they were first stored. -/
namespace StackMachine

structure Memory where
  entries : List (String × Value) := []
  deriving DecidableEq, Repr

namespace Memory

def get? (m : Memory) (name : String) : Option Value := m.entries.lookup name

def names (m : Memory) : List String := m.entries.map (·.1)

/-- A name that is stored again keeps its place. -/
def store (m : Memory) (name : String) (v : Value) : Memory := ⟨Entries.put name v m.entries⟩

@[simp] theorem get?_store (m : Memory) (name other : String) (v : Value) :
    (m.store name v).get? other = if other = name then some v else m.get? other := by
  simp [get?, store]

theorem mem_names_iff {m : Memory} {name : String} :
    name ∈ m.names ↔ ∃ v, m.get? name = some v :=
  Entries.mem_keys_iff

@[simp] theorem names_store (m : Memory) (name : String) (v : Value) :
    (m.store name v).names = if name ∈ m.names then m.names else m.names ++ [name] :=
  Entries.keys_put name v m.entries

end Memory

end StackMachine
