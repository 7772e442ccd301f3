import StackMachine.ParseError
import StackMachine.Text.Blank
import StackMachine.Text.Letter
import StackMachine.Text.Numeric

/-! Tokens of a program line and the scanner that finds them. -/
namespace StackMachine

inductive TokenKind where
  | ident | int | string | colon
  deriving DecidableEq, Repr

/-- A string token carries its decoded text without the quotes, an integer its sign. Columns count
characters from one. -/
structure Token where
  kind : TokenKind
  text : String
  line : Int
  col : Nat
  deriving DecidableEq, Repr

namespace Token
open Text

def isIdentStart (c : Char) : Bool := isLetter c || c == '_'

def isIdentPart (c : Char) : Bool := isLetter c || isNumeric c || c == '_'

def isGap (c : Char) : Bool := c == ' ' || c == '\t' || c == '\r' || c == ','

def isSign (c : Char) : Bool := c == '+' || c == '-'

/-- The characters that may follow a backslash, and what they stand for. -/
def unescape? : Char → Option Char
  | 'n' => some '\n'
  | 't' => some '\t'
  | '"' => some '"'
  | '\\' => some '\\'
  | _ => none

/-- Reads on behind the opening quote of a string that starts at column `start`. The result is the
decoded text, the column after the closing quote, and the characters there. -/
def stringBody (start : Nat) : Nat → List Char → Except ParseCause (List Char × Nat × List Char)
  | _, [] => .error (.unterminatedString start)
  | col, '"' :: rest => .ok ([], col + 1, rest)
  | col, '\\' :: c :: rest =>
      match unescape? c with
      | none => .error (.unknownEscape c col)
      | some d =>
          match stringBody start (col + 2) rest with
          | .error e => .error e
          | .ok (text, after) => .ok (d :: text, after)
  | col, c :: rest =>
      match stringBody start (col + 1) rest with
      | .error e => .error e
      | .ok (text, after) => .ok (c :: text, after)

/-- A closing quote at least is read. -/
theorem stringBody_length {start col : Nat} {cs text rest : List Char} {after : Nat}
    (h : stringBody start col cs = .ok (text, after, rest)) : rest.length < cs.length := by
  fun_induction stringBody start col cs generalizing text with
  | case1 => simp at h
  | case2 => simp_all
  | case3 => simp at h
  | case4 => simp at h
  | case5 col c cs d hd text' after' ht ih =>
      simp only [Except.ok.injEq, Prod.mk.injEq] at h
      have := @ih text' (by rw [ht, h.2])
      simp only [List.length_cons]
      omega
  | case6 => simp at h
  | case7 col c cs _ _ text' after' ht ih =>
      simp only [Except.ok.injEq, Prod.mk.injEq] at h
      have := @ih text' (by rw [ht, h.2])
      simp only [List.length_cons]
      omega

/-- Whether a number starts with this character before these. -/
def startsNumber (c : Char) (rest : List Char) : Bool :=
  c.isDigit || isSign c && rest.head?.any Char.isDigit

/-- The tokens from a column on. A comment ends the line. A number is not followed directly by a
character of an identifier. -/
def scanFrom (line : Int) (col : Nat) (cs : List Char) : Except ParseError (List Token) :=
  match cs with
  | [] => .ok []
  | c :: rest =>
    if isGap c then scanFrom line (col + 1) rest
    else if c == '/' && rest.head? == some '/' then .ok []
    else if c == ':' then do
      return ⟨.colon, ":", line, col⟩ :: (← scanFrom line (col + 1) rest)
    else if c == '"' then
      match _h : stringBody col (col + 1) rest with
      | .error cause => .error ⟨line, cause⟩
      | .ok (text, after, rest') => do
          return ⟨.string, String.ofList text, line, col⟩ :: (← scanFrom line after rest')
    else if startsNumber c rest then
      let digits := rest.takeWhile Char.isDigit
      let rest' := rest.dropWhile Char.isDigit
      if rest'.head?.any isIdentPart then
        let word := (c :: rest).takeWhile fun d => !isBlank d
        .error ⟨line, .malformedNumber (String.ofList word) col⟩
      else do
        return ⟨.int, String.ofList (c :: digits), line, col⟩ ::
          (← scanFrom line (col + 1 + digits.length) rest')
    else if isIdentStart c then do
      let letters := rest.takeWhile isIdentPart
      return ⟨.ident, String.ofList (c :: letters), line, col⟩ ::
        (← scanFrom line (col + 1 + letters.length) (rest.dropWhile isIdentPart))
    else .error ⟨line, .unexpectedCharacter c col⟩
termination_by cs.length
decreasing_by
  · simp
  · simp
  · have := stringBody_length _h
    simp only [List.length_cons]
    omega
  · have := (List.dropWhile_suffix Char.isDigit (l := rest)).length_le
    simp only [List.length_cons]
    omega
  · have := (List.dropWhile_suffix isIdentPart (l := rest)).length_le
    simp only [List.length_cons]
    omega

/-- The tokens of one line, which is given its number. -/
def scan (line : Int) (cs : List Char) : Except ParseError (List Token) := scanFrom line 1 cs

end Token

end StackMachine
