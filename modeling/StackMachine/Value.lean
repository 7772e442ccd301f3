/-! Values: numbers of 64 bits and handles to heap objects. -/
namespace StackMachine

def minInt : Int := Int64.minValue.toInt

def maxInt : Int := Int64.maxValue.toInt

/-- How many numbers there are. -/
def modulus : Nat := 1 <<< 64

/-- The bits of an integer in two's complement that a mask selects. -/
def masked (mask : Nat) : Int → Nat
  | .ofNat n => n &&& mask
  | .negSucc n => mask ^^^ (n &&& mask)

/-- The low 64 bits of an integer, the highest of which is the sign. -/
def wrap (n : Int) : Int :=
  let low : Int := masked (modulus - 1) n
  if maxInt < low then low - modulus else low

theorem masked_lt (n : Int) : masked (modulus - 1) n < modulus := by
  have hmask (k : Nat) : k &&& (modulus - 1) < modulus :=
    Nat.lt_of_le_of_lt Nat.and_le_right (by decide)
  cases n with
  | ofNat n => exact hmask n
  | negSucc n => exact Nat.xor_lt_two_pow (n := 64) (by decide) (hmask n)

theorem wrap_bounds (n : Int) : minInt ≤ wrap n ∧ wrap n ≤ maxInt := by
  have hlow := masked_lt n
  have hmin : minInt = -9223372036854775808 := by decide
  have hmax : maxInt = 9223372036854775807 := by decide
  have hmodulus : modulus = 18446744073709551616 := by decide
  simp only [wrap]
  split <;> omega

/-- Arithmetic on numbers wraps. A handle holds the position of a slot in its arena, from one; a
position that was never issued is a forged handle. -/
inductive Value where
  | number (n : Int64)
  | array (id : Int)
  | string (id : Int)
  deriving DecidableEq, Repr

namespace Value

/-- A number holds what the integer wraps to. -/
def ofInt (n : Int) : Value :=
  number (Int64.ofIntLE (wrap n) (wrap_bounds n).1 (wrap_bounds n).2)

/-- The bare integer by which a value appears outside the machine. -/
def wire : Value → Int
  | number n => n.toInt
  | array id => id
  | string id => id

def describe : Value → String
  | number _ => "number"
  | array _ => "array handle"
  | string _ => "string handle"

def render : Value → String
  | number n => toString n.toInt
  | array id => "array#" ++ toString id
  | string id => "string#" ++ toString id

/-- One or zero. -/
def ofBool (b : Bool) : Value := number (if b then 1 else 0)

@[simp] theorem wire_number (n : Int64) : (number n).wire = n.toInt := rfl

@[simp] theorem wire_array (id : Int) : (array id).wire = id := rfl

@[simp] theorem wire_string (id : Int) : (string id).wire = id := rfl

theorem wire_ofInt (n : Int) : (ofInt n).wire = wrap n := Int64.toInt_ofIntLE

end Value

end StackMachine
