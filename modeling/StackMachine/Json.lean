/-! JSON documents. -/
namespace StackMachine

/-- A number keeps its spelling; an object keeps its members in order, duplicates included. -/
inductive Json where
  | null
  | bool (b : Bool)
  | number (literal : String)
  | string (s : String)
  | array (items : List Json)
  | object (members : List (String × Json))
  deriving Repr

namespace Json

def ofInt (n : Int) : Json := number (toString n)

def ofOption {α : Type} (f : α → Json) : Option α → Json
  | some a => f a
  | none => null

/-- Of members with the same key the last one counts. -/
def member? (key : String) (members : List (String × Json)) : Option Json :=
  members.reverse.lookup key

end Json

end StackMachine
