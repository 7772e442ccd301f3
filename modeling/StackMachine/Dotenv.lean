import StackMachine.Text.Blank

/-! Files of assignments to environment variables. A line gives a name, an equals sign and a value,
which may stand in quotes. Lines have been brought to end in line feeds. -/
namespace StackMachine.Dotenv
open Text

/-- A name alone assigns nothing. -/
structure Assignment where
  name : String
  value? : Option String
  deriving DecidableEq, Repr

/-- White space within a line. -/
def isInnerBlank (c : Char) : Bool := isBlank c && c != '\n' && c != '\r'

def isNamePart (c : Char) : Bool := c != '=' && c != '#' && !isBlank c

/-- Drops the word that marks a variable for export, if a name can follow it. -/
def dropExport (cs : List Char) : List Char :=
  match cs with
  | 'e' :: 'x' :: 'p' :: 'o' :: 'r' :: 't' :: c :: rest =>
      if isInnerBlank c then rest.dropWhile isInnerBlank else cs
  | _ => cs

/-- A name, in single quotes or without. -/
def name? (cs : List Char) : Option (List Char × List Char) :=
  match cs with
  | '\x27' :: rest =>
      match rest.takeWhile (· != '\x27'), rest.dropWhile (· != '\x27') with
      | [], _ | _, [] => none
      | name, _ :: rest => some (name, rest)
  | cs =>
      match cs.takeWhile isNamePart with
      | [] => none
      | name => some (name, cs.dropWhile isNamePart)

/-- The text up to the closing quote, and what follows the quote. A quote after a backslash closes
the text only if no later quote does. -/
def quotedBody? (mark : Char) : List Char → Option (List Char × List Char)
  | [] => none
  | '\\' :: c :: rest =>
      if c == mark then
        match quotedBody? mark rest with
        | some (body, after) => some ('\\' :: c :: body, after)
        | none => some (['\\'], rest)
      else (quotedBody? mark (c :: rest)).map fun (body, after) => ('\\' :: body, after)
  | c :: rest =>
      if c == mark then some ([], rest)
      else (quotedBody? mark rest).map fun (body, after) => (c :: body, after)

/-- What a character after a backslash stands for in double quotes. -/
def escape? : Char → Option Char
  | '\\' => some '\\'
  | '\x27' => some '\x27'
  | '"' => some '"'
  | 'a' => some '\x07'
  | 'b' => some '\x08'
  | 'f' => some '\x0c'
  | 'n' => some '\n'
  | 'r' => some '\r'
  | 't' => some '\t'
  | 'v' => some '\x0b'
  | _ => none

/-- In single quotes only a backslash and the quote itself can be escaped. -/
def singleEscape? (c : Char) : Option Char :=
  if c == '\\' || c == '\x27' then some c else none

def unescape (decode? : Char → Option Char) : List Char → List Char
  | '\\' :: c :: rest =>
      match decode? c with
      | some d => d :: unescape decode? rest
      | none => '\\' :: unescape decode? (c :: rest)
  | c :: rest => c :: unescape decode? rest
  | [] => []

/-- A comment in an unquoted value starts after white space. -/
def cutComment : List Char → List Char
  | [] => []
  | c :: rest =>
      if isBlank c && (rest.dropWhile isBlank).head? == some '#' then []
      else c :: cutComment rest

def dropEnd (p : Char → Bool) (cs : List Char) : List Char := (cs.reverse.dropWhile p).reverse

def isLineFeed (c : Char) : Bool := c == '\n'

/-- A value and what follows it. -/
def value? (cs : List Char) : Option (List Char × List Char) :=
  match cs with
  | '\x27' :: rest =>
      (quotedBody? '\x27' rest).map fun (body, after) => (unescape singleEscape? body, after)
  | '"' :: rest => (quotedBody? '"' rest).map fun (body, after) => (unescape escape? body, after)
  | cs =>
      some (dropEnd isBlank (cutComment (cs.takeWhile (!isLineFeed ·))),
        cs.dropWhile (!isLineFeed ·))

/-- The rest of a line may hold a comment and nothing else. -/
def lineEnd? (cs : List Char) : Option (List Char) :=
  let after := match cs.dropWhile isInnerBlank with
    | '#' :: rest => rest.dropWhile (!isLineFeed ·)
    | rest => rest
  match after with
  | [] => some []
  | c :: rest => if isLineFeed c then some rest else none

def nextLine (cs : List Char) : List Char := (cs.dropWhile (!isLineFeed ·)).drop 1

/-- What is read from a file at once. Blank lines and comments say nothing. -/
inductive Statement where
  | assignment (a : Assignment)
  | blank
  | unreadable
  deriving DecidableEq, Repr

def Statement.assignment? : Statement → Option Assignment
  | assignment a => some a
  | _ => none

/-- What cannot be read extends to the end of its line. -/
def unreadable (cs : List Char) : Statement × List Char := (.unreadable, nextLine cs)

/-- An assignment is one only if nothing but a comment stands behind it. -/
def ended (a : Assignment) (cs : List Char) : Statement × List Char :=
  match lineEnd? cs with
  | none => unreadable cs
  | some rest => (.assignment a, rest)

/-- The statement at the start of a text, and what follows it. Blank lines before it belong to it.
-/
def statement (cs : List Char) : Statement × List Char :=
  let cs := cs.dropWhile isBlank
  if cs.isEmpty then (.blank, [])
  else
    let cs := dropExport cs
    if cs.head? == some '#' then (.blank, nextLine cs)
    else
      match name? cs with
      | none => unreadable cs
      | some (name, rest) =>
          match rest.dropWhile isInnerBlank with
          | '=' :: rest =>
              let rest := rest.dropWhile isInnerBlank
              match value? rest with
              | none => unreadable rest
              | some (value, rest) =>
                  ended ⟨String.ofList name, some (String.ofList value)⟩ rest
          | rest => ended ⟨String.ofList name, none⟩ rest

def lineFeeds (cs : List Char) : Nat := cs.countP isLineFeed

/-- The statements of a text, each with the number of the line on which it starts. Every statement
takes at least one character, which bounds their number. -/
def statements : Nat → Nat → List Char → List (Nat × Statement)
  | 0, _, _ => []
  | fuel + 1, line, cs =>
      if cs.isEmpty then []
      else
        let (s, rest) := statement cs
        (line, s) :: statements fuel (line + (lineFeeds cs - lineFeeds rest)) rest

/-- The first line of a file has the number one. -/
def numbered (text : String) : List (Nat × Statement) := statements text.length 1 text.toList

/-- The assignments of a file in their order. -/
def assignments (text : String) : List Assignment :=
  (numbered text).filterMap fun (_, s) => s.assignment?

/-- The lines on which the unreadable statements of a file start. -/
def unreadableLines (text : String) : List Nat :=
  (numbered text).filterMap fun (line, s) => if s = .unreadable then some line else none

def unreadableMessage (line : Nat) : String :=
  "python-dotenv could not parse statement starting at line " ++ toString line

end StackMachine.Dotenv
