import StackMachine.Json
import StackMachine.Text.Hex

/-! JSON on one line in ASCII: a space follows each comma and colon, and every character outside the
printable ASCII range is written as an escape. -/
namespace StackMachine.Json
open Text

def unit (n : Nat) : List Char := '\\' :: 'u' :: hexDigits 4 n

/-- Characters beyond the basic plane take two escapes. -/
def escapeCode (n : Nat) : List Char :=
  if n < 0x10000 then unit n
  else unit (0xD800 + (n - 0x10000) / 0x400) ++ unit (0xDC00 + (n - 0x10000) % 0x400)

def stringChar (c : Char) : List Char :=
  if c == '"' || c == '\\' then ['\\', c]
  else if c == '\n' then ['\\', 'n']
  else if c == '\r' then ['\\', 'r']
  else if c == '\t' then ['\\', 't']
  else if c == '\x08' then ['\\', 'b']
  else if c == '\x0c' then ['\\', 'f']
  else if 0x20 ≤ c.toNat && c.toNat ≤ 0x7E then [c]
  else escapeCode c.toNat

def renderString (s : String) : String :=
  "\"" ++ String.ofList (s.toList.flatMap stringChar) ++ "\""

mutual

def render : Json → String
  | null => "null"
  | bool true => "true"
  | bool false => "false"
  | number literal => literal
  | string s => renderString s
  | array items => "[" ++ ", ".intercalate (renderItems items) ++ "]"
  | object members => "\x7b" ++ ", ".intercalate (renderMembers members) ++ "\x7d"

def renderItems : List Json → List String
  | [] => []
  | item :: rest => item.render :: renderItems rest

def renderMembers : List (String × Json) → List String
  | [] => []
  | (key, value) :: rest => (renderString key ++ ": " ++ value.render) :: renderMembers rest

end

end StackMachine.Json
