import StackMachine.Environment

/-! Files that are held in memory, and the way along a path to one of them. -/
namespace StackMachine

/-- Files with the names on the way to them from the root. The working directory is there even if it
holds no file. -/
structure FileTree where
  files : List (List String × ByteArray) := []
  workingDirectory : List String := []

namespace FileTree

/-- The most bytes that a name in a path can have. -/
def nameLimit : Nat := 255

/-- The most bytes that a path can have. -/
def pathLimit : Nat := 4095

def isDirectory (t : FileTree) (path : List String) : Bool :=
  path.isPrefixOf t.workingDirectory ||
    t.files.any fun (file, _) => path.isPrefixOf file && path != file

/-- Directories above the root are all taken for one, of which nothing else is known. -/
def above : Option (List String) → Option (List String)
  | none | some [] => none
  | some path => some path.dropLast

/-- Follows names from a directory. Each is looked up only if the ones before it led to a
directory. -/
def follow (t : FileTree) (here? : Option (List String)) : List String → Entry
  | [] => .missing
  | part :: rest =>
      if nameLimit < part.utf8ByteSize then .tooLong
      else if part == ".." then t.follow (above here?) rest
      else
        match here?.map (· ++ [part]) with
        | none => .missing
        | some there =>
            match t.files.lookup there with
            | some content => if rest.isEmpty then .file content else .missing
            | none => if t.isDirectory there then t.follow (some there) rest else .missing

def entry (t : FileTree) (path : String) : Entry :=
  if pathLimit < path.utf8ByteSize then .tooLong
  else t.follow (if (pathRoot path).isEmpty then some t.workingDirectory else none) (pathParts path)

/-- The environment of a program that sees this tree and nothing else. -/
def environment (t : FileTree) (vars : Variables) : Environment :=
  { vars, entry := t.entry, depth := t.workingDirectory.length }

end FileTree

end StackMachine
