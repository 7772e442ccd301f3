import StackMachine.Http

/-! Reading of the header fields and the body of a request from the bytes that follow its first
line. -/
namespace StackMachine.Http

/-- Splits bytes after the first empty line, which ends the header fields. `fresh` tells that a line
starts here. -/
def splitHead (fresh : Bool) : List UInt8 → List UInt8 × List UInt8
  | [] => ([], [])
  | 13 :: 10 :: rest =>
      if fresh then ([13, 10], rest)
      else
        let (head, body) := splitHead true rest
        (13 :: 10 :: head, body)
  | b :: rest =>
      if fresh && b == 10 then ([b], rest)
      else
        let (head, body) := splitHead (b == 10) rest
        (b :: head, body)

def isLineEnd (c : Char) : Bool := c == '\r' || c == '\n'

/-- The lines of the header fields, each with its end. -/
def fieldLines : List Char → List (List Char)
  | [] => []
  | '\r' :: '\n' :: rest => ['\r', '\n'] :: fieldLines rest
  | c :: rest =>
      if isLineEnd c then [c] :: fieldLines rest
      else match fieldLines rest with
        | [] => [[c]]
        | line :: others => (c :: line) :: others

/-- Visible ASCII except the colon. -/
def isNameChar (c : Char) : Bool := 0x21 ≤ c.toNat && c.toNat ≤ 0x7E && c != ':'

def isIndent (c : Char) : Bool := c == ' ' || c == '\t'

/-- What a line is: the start of a field, more of the field before it, a line without meaning, or
one that is no header line and so ends the fields. -/
inductive FieldLine where
  | field (name value : List Char)
  | more
  | idle
  | foreign
  deriving DecidableEq, Repr

/-- A line that names a sender as mail boxes do means nothing, and neither does a field without a
name. -/
def classifyLine (line : List Char) : FieldLine :=
  if line.head?.any isIndent then .more
  else if "From ".toList.isPrefixOf line then .idle
  else match line.dropWhile isNameChar with
    | ':' :: value =>
        match line.takeWhile isNameChar with
        | [] => .idle
        | name => .field name value
    | _ => .foreign

/-- A field without the blanks before its value and the line ends after it. -/
def closeField (field : List Char × List Char) : String × String :=
  (String.ofList field.1,
    String.ofList ((field.2.dropWhile isIndent).reverse.dropWhile isLineEnd).reverse)

/-- The fields of a block of lines. A field stays open for lines that continue it. -/
def fields : Option (List Char × List Char) → List (List Char) → List (String × String)
  | opened?, [] => (opened?.map closeField).toList
  | opened?, line :: rest =>
      match classifyLine line, opened? with
      | .more, some (name, value) => fields (some (name, value ++ line)) rest
      | .more, none => fields none rest
      | .idle, _ => (opened?.map closeField).toList ++ fields none rest
      | .field name value, _ => (opened?.map closeField).toList ++ fields (some (name, value)) rest
      | .foreign, _ => (opened?.map closeField).toList

/-- Each byte of the header fields is one character. -/
def Request.ofMessage (method : Method) (path : String) (message : ByteArray) : Request :=
  let (head, body) := splitHead true message.toList
  { method
    path
    headers := fields none (fieldLines (head.map fun b => Char.ofNat b.toNat))
    body := ⟨body.toArray⟩ }

end StackMachine.Http
