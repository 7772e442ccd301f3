import StackMachine.Json
import StackMachine.Text.Hex

/-! Reading of JSON documents. The one extension of the format is that numbers may be infinite or no
number. Each reader gives the value and the characters after it. -/
namespace StackMachine.Json
open Text

/-- How deep arrays and objects may be nested; those that are empty do not count. -/
def maxDepth : Nat := 200

/-- The most characters that the whole part of a number may have, its sign included. -/
def maxWhole : Nat := 4300

def skipSpace (cs : List Char) : List Char :=
  cs.dropWhile fun c => c == ' ' || c == '\t' || c == '\n' || c == '\r'

/-- Four hexadecimal digits. -/
def hexUnit? : List Char → Option (Nat × List Char)
  | a :: b :: c :: d :: rest => do
      let n := 16 * (16 * (16 * (← hexValue? a) + (← hexValue? b)) + (← hexValue? c)) +
        (← hexValue? d)
      return (n, rest)
  | _ => none

def isHighHalf (n : Nat) : Bool := 0xD800 ≤ n && n ≤ 0xDBFF

def isLowHalf (n : Nat) : Bool := 0xDC00 ≤ n && n ≤ 0xDFFF

/-- The character of a `\u` escape. The halves of a pair must stand together. -/
def escapedUnit? (cs : List Char) : Option (Char × List Char) := do
  let (n, rest) ← hexUnit? cs
  if isLowHalf n then none
  else if isHighHalf n then
    match rest with
    | '\\' :: 'u' :: rest => do
        let (low, rest) ← hexUnit? rest
        guard (isLowHalf low)
        return (Char.ofNat (0x10000 + (n - 0xD800) * 0x400 + (low - 0xDC00)), rest)
    | _ => none
  else return (Char.ofNat n, rest)

def escapedChar? : List Char → Option (Char × List Char)
  | '"' :: rest => some ('"', rest)
  | '\\' :: rest => some ('\\', rest)
  | '/' :: rest => some ('/', rest)
  | 'b' :: rest => some ('\x08', rest)
  | 'f' :: rest => some ('\x0c', rest)
  | 'n' :: rest => some ('\n', rest)
  | 'r' :: rest => some ('\r', rest)
  | 't' :: rest => some ('\t', rest)
  | 'u' :: rest => escapedUnit? rest
  | _ => none

/-- The rest of a string after its opening quote. The fuel bounds the number of characters. -/
def stringRest? : Nat → List Char → Option (List Char × List Char)
  | _, '"' :: rest => some ([], rest)
  | fuel + 1, '\\' :: rest => do
      let (c, rest) ← escapedChar? rest
      let (cs, rest) ← stringRest? fuel rest
      return (c :: cs, rest)
  | fuel + 1, c :: rest => do
      guard (0x20 ≤ c.toNat)
      let (cs, rest) ← stringRest? fuel rest
      return (c :: cs, rest)
  | _, _ => none

def string? : List Char → Option (String × List Char)
  | '"' :: rest => do
      let (cs, rest) ← stringRest? rest.length rest
      return (String.ofList cs, rest)
  | _ => none

/-- At least one digit. -/
def digits? (cs : List Char) : Option (List Char × List Char) :=
  match cs.takeWhile Char.isDigit with
  | [] => none
  | ds => some (ds, cs.dropWhile Char.isDigit)

/-- No zero stands before another digit. -/
def whole? : List Char → Option (List Char × List Char)
  | '0' :: rest => some (['0'], rest)
  | cs => digits? cs

def fraction? : List Char → Option (List Char × List Char)
  | '.' :: rest => do
      let (ds, rest) ← digits? rest
      return ('.' :: ds, rest)
  | cs => some ([], cs)

def exponentSign : List Char → List Char × List Char
  | '+' :: rest => (['+'], rest)
  | '-' :: rest => (['-'], rest)
  | cs => ([], cs)

def exponent? : List Char → Option (List Char × List Char)
  | c :: rest =>
      if c == 'e' || c == 'E' then do
        let (sign, rest) := exponentSign rest
        let (ds, rest) ← digits? rest
        return (c :: sign ++ ds, rest)
      else some ([], c :: rest)
  | [] => some ([], [])

def minus : List Char → List Char × List Char
  | '-' :: rest => (['-'], rest)
  | cs => ([], cs)

def number? (cs : List Char) : Option (Json × List Char) := do
  let (sign, rest) := minus cs
  let (whole, rest) ← whole? rest
  guard (sign.length + whole.length ≤ maxWhole)
  let (fraction, rest) ← fraction? rest
  let (exponent, rest) ← exponent? rest
  return (number (String.ofList (sign ++ whole ++ fraction ++ exponent)), rest)

def literal? (cs : List Char) : Option (Json × List Char) :=
  match cs with
  | 'n' :: 'u' :: 'l' :: 'l' :: rest => some (null, rest)
  | 't' :: 'r' :: 'u' :: 'e' :: rest => some (bool true, rest)
  | 'f' :: 'a' :: 'l' :: 's' :: 'e' :: rest => some (bool false, rest)
  | 'N' :: 'a' :: 'N' :: rest => some (number "NaN", rest)
  | 'I' :: 'n' :: 'f' :: 'i' :: 'n' :: 'i' :: 't' :: 'y' :: rest => some (number "Infinity", rest)
  | '-' :: 'I' :: 'n' :: 'f' :: 'i' :: 'n' :: 'i' :: 't' :: 'y' :: rest =>
      some (number "-Infinity", rest)
  | cs => number? cs

/-- The items of a sequence up to its closing bracket. The fuel bounds their number. -/
def sequence? {α : Type} (item : List Char → Option (α × List Char)) (close : Char) :
    Nat → List Char → Option (List α × List Char)
  | 0, _ => none
  | fuel + 1, cs => do
      let (a, rest) ← item (skipSpace cs)
      match skipSpace rest with
      | [] => none
      | c :: rest =>
          if c == close then return ([a], rest)
          else if c == ',' then do
            let (more, rest) ← sequence? item close fuel rest
            return (a :: more, rest)
          else none

/-- What stands between a bracket and its closing bracket. Without an item reader there may be
nothing. -/
def bracketed? {α : Type} (item? : Option (List Char → Option (α × List Char))) (close : Char)
    (cs : List Char) : Option (List α × List Char) :=
  match skipSpace cs with
  | [] => none
  | c :: rest =>
      if c == close then some ([], rest)
      else item?.bind fun item => sequence? item close cs.length cs

def keyed? (value : List Char → Option (Json × List Char)) (cs : List Char) :
    Option ((String × Json) × List Char) := do
  let (key, rest) ← string? cs
  match skipSpace rest with
  | ':' :: rest => do
      let (v, rest) ← value (skipSpace rest)
      return ((key, v), rest)
  | _ => none

/-- A value, given the reader of the values within it. -/
def valueOver? (inner? : Option (List Char → Option (Json × List Char))) :
    List Char → Option (Json × List Char)
  | '"' :: rest => do
      let (s, rest) ← string? ('"' :: rest)
      return (string s, rest)
  | '[' :: rest => do
      let (items, rest) ← bracketed? inner? ']' rest
      return (array items, rest)
  | '\x7b' :: rest => do
      let (members, rest) ← bracketed? (inner?.map keyed?) '\x7d' rest
      return (object members, rest)
  | cs => literal? cs

/-- A value with at most `depth` levels of nesting. -/
def value? : Nat → List Char → Option (Json × List Char)
  | 0 => valueOver? none
  | depth + 1 => valueOver? (some (value? depth))

/-- A document is one value with white space around it. -/
def read? (s : String) : Option Json := do
  let (v, rest) ← value? maxDepth (skipSpace s.toList)
  guard (skipSpace rest).isEmpty
  return v

end StackMachine.Json
