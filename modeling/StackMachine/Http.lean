import StackMachine.Text.Blank

/-! Requests and responses of the web interface. -/
namespace StackMachine.Http

inductive Method where
  | get | post | options
  deriving DecidableEq, Repr

def Method.word : Method → String
  | get => "GET"
  | post => "POST"
  | options => "OPTIONS"

structure Request where
  method : Method
  path : String
  headers : List (String × String) := []
  body : ByteArray := .empty

structure Response where
  status : Nat
  headers : List (String × String)
  body : String
  deriving DecidableEq, Repr

namespace Request

/-- The path without blanks around it. Several slashes at its start are one. -/
def route (r : Request) : String :=
  match Text.strip Text.isBlank r.path.toList with
  | '/' :: '/' :: rest => "/" ++ String.ofList (rest.dropWhile (· == '/'))
  | path => String.ofList path

/-- The first header of a name counts, in whatever case it is written. -/
def header? (r : Request) (name : String) : Option String :=
  (r.headers.find? fun h => h.1.toList.map Char.toLower == name.toList.map Char.toLower).map (·.2)

end Request

end StackMachine.Http
