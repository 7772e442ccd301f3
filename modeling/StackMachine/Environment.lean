import StackMachine.Text.Quoted

/-! The environment of a program: its variables and the files that it can read. -/
namespace StackMachine

/-- Variables by name. Of entries with the same name the first one counts. -/
abbrev Variables := List (String × String)

namespace Variables

def get? (vars : Variables) (name : String) : Option String := vars.lookup name

/-- A variable that is there already keeps its value, even an empty one. -/
def addMissing (vars : Variables) (name value : String) : Variables :=
  if (vars.get? name).isSome then vars else vars ++ [(name, value)]

end Variables

/-- What a path leads to. A directory counts as no file; a path can also be too long to be followed.
-/
inductive Entry where
  | file (content : ByteArray)
  | missing
  | tooLong

def Entry.content? : Entry → Option ByteArray
  | file content => some content
  | _ => none

/-- The names in a path that tell a step: neither empty nor a single dot. -/
def pathParts (path : String) : List String :=
  ((path.toList.splitOn '/').map String.ofList).filter fun part => part != "" && part != "."

/-- The slash at the start of a path from the root. Two of them, but not three, are kept. -/
def pathRoot (path : String) : String :=
  match path.toList with
  | '/' :: '/' :: '/' :: _ => "/"
  | '/' :: '/' :: _ => "//"
  | '/' :: _ => "/"
  | _ => ""

def normalPath (path : String) : String := pathRoot path ++ "/".intercalate (pathParts path)

def tooLongMessage (path : String) : String :=
  "[Errno 36] File name too long: " ++ Text.quoted (normalPath path)

def holdsNul (s : String) : Bool := s.toList.contains '\x00'

/-- Entries are found by a normal path from the working directory. `depth` tells how many
directories there are above it, and `home` is the directory that the program comes from. -/
structure Environment where
  vars : Variables := []
  entry : String → Entry := fun _ => .missing
  depth : Nat := 0
  home : String := ""

namespace Environment

/-- No file has a path with a NUL in it, however long. -/
def find (e : Environment) (path : String) : Entry :=
  if holdsNul path then .missing else e.entry (normalPath path)

def read? (e : Environment) (path : String) : Option ByteArray := (e.find path).content?

def isFile (e : Environment) (path : String) : Bool := (e.read? path).isSome

end Environment

end StackMachine
