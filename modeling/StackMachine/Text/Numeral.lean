import StackMachine.Text.Blank
import StackMachine.Text.Digit

/-! Integers written in decimal. A numeral of more than `maxDigits` digits is not converted. -/
namespace StackMachine.Text.Numeral

def maxDigits : Nat := 4300

/-- Whether the numeral is negative, and what follows its sign. -/
def splitSign : List Char → Bool × List Char
  | '-' :: rest => (true, rest)
  | '+' :: rest => (false, rest)
  | cs => (false, cs)

def signed (negative : Bool) (n : Nat) : Int := if negative then -(n : Int) else n

/-- The value of an optional sign and digits, of any length. -/
def value (cs : List Char) : Int :=
  let (negative, digits) := splitSign cs
  signed negative (Nat.ofDigitChars 10 digits 0)

def digitCount (cs : List Char) : Nat := (splitSign cs).2.length

/-- Reads an optional sign and digits; a numeral that is too long is refused with the number of
its digits. -/
def convert (cs : List Char) : Except Nat Int :=
  if digitCount cs ≤ maxDigits then .ok (value cs) else .error (digitCount cs)

def tooLongMessage (digits : Nat) : String :=
  "Exceeds the limit (" ++ toString maxDigits ++ " digits) for integer string conversion: " ++
    "value has " ++ toString digits ++
    " digits; use sys.set_int_max_str_digits() to increase the limit"

theorem convert_of_le {cs : List Char} (h : digitCount cs ≤ maxDigits) :
    convert cs = .ok (value cs) := by simp [convert, h]

theorem convert_of_lt {cs : List Char} (h : maxDigits < digitCount cs) :
    convert cs = .error (digitCount cs) := by simp [convert, Nat.not_le.2 h]

/-- The rest of a numeral after a digit: more digits, each of which may have one underscore before
it. -/
def moreDigits? : List Char → Option (List Nat)
  | [] => some []
  | '_' :: c :: rest => do return (← digitValue? c) :: (← moreDigits? rest)
  | c :: rest => do return (← digitValue? c) :: (← moreDigits? rest)

/-- Digits of any script, grouped by single underscores. -/
def digits? : List Char → Option (List Nat)
  | [] => none
  | c :: rest => do return (← digitValue? c) :: (← moreDigits? rest)

/-- White space around a numeral, which the four information separators are not. -/
def isPadding (c : Char) : Bool := isBlank c && !(0x1C ≤ c.toNat && c.toNat ≤ 0x1F)

/-- The integer that a setting or an option gives, if its text is one. -/
def read? (s : String) : Option Int := do
  let (negative, rest) := splitSign (strip isPadding s.toList)
  let digits ← digits? rest
  guard (digits.length ≤ maxDigits)
  return signed negative (digits.foldl (fun n d => 10 * n + d) 0)

end StackMachine.Text.Numeral
