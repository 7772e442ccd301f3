/-! Line endings of text files. -/
namespace StackMachine.Text

/-- Every line of a file ends in a line feed, whichever of the three common endings it has. -/
def unifyNewlines : List Char → List Char
  | [] => []
  | '\r' :: '\n' :: rest => '\n' :: unifyNewlines rest
  | c :: rest => (if c == '\r' then '\n' else c) :: unifyNewlines rest

/-- The text of a file, if its bytes are UTF-8. -/
def ofFile? (bytes : ByteArray) : Option String :=
  (String.fromUTF8? bytes).map fun s => String.ofList (unifyNewlines s.toList)

end StackMachine.Text
