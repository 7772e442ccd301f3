import StackMachine.Step

/-! Integers wrapped to 64 bits. Wrapping the exact results of arithmetic gives the operations on
words. -/
namespace StackMachine

theorem masked_eq_emod (n : Int) : (masked (modulus - 1) n : Int) = n % modulus := by
  have hmask (k : Nat) : k &&& (modulus - 1) = k % modulus :=
    Nat.and_two_pow_sub_one_eq_mod k 64
  cases n with
  | ofNat n => exact congrArg Int.ofNat (hmask n)
  | negSucc n =>
    -- Under a mask of ones the complement is a difference, which is known of bit vectors.
    have hxor : (modulus - 1) ^^^ n % modulus = modulus - 1 - n % modulus := by
      have hnot : (BitVec.allOnes 64 ^^^ BitVec.ofNat 64 n).toNat = (~~~BitVec.ofNat 64 n).toNat :=
        congrArg BitVec.toNat BitVec.allOnes_xor
      rw [BitVec.toNat_xor, BitVec.toNat_not, BitVec.toNat_allOnes, BitVec.toNat_ofNat] at hnot
      exact hnot
    have hlt : n % modulus < modulus := Nat.mod_lt n (by decide)
    show (((modulus - 1) ^^^ (n &&& (modulus - 1)) : Nat) : Int) = _
    rw [hmask, hxor, Int.negSucc_emod n (by decide), ← Int.natCast_emod]
    omega

theorem wrap_eq_bmod (n : Int) : wrap n = n.bmod modulus := by
  have hmax : maxInt = 9223372036854775807 := by decide
  have hmodulus : modulus = 18446744073709551616 := by decide
  simp only [wrap, masked_eq_emod, Int.bmod_def]
  split <;> split <;> omega

theorem toInt_eq_zero_iff {n : Int64} : n.toInt = 0 ↔ n = 0 := by
  rw [← Int64.toInt_inj, Int64.toInt_zero]

namespace Value

theorem ofInt_eq (n : Int) : ofInt n = number (Int64.ofInt n) := by
  have hn : (ofInt n).wire = (Int64.ofInt n).toInt := by
    rw [wire_ofInt, wrap_eq_bmod, Int64.toInt_ofInt]
    rfl
  exact congrArg number (Int64.toInt_inj.mp hn)

theorem ofInt_toInt (n : Int64) : ofInt n.toInt = number n := by
  rw [ofInt_eq, Int64.ofInt_toInt]

/-- A number that is wrapped already is not changed by wrapping it again. -/
theorem ofInt_wrap (n : Int) : ofInt (wrap n) = ofInt n := by
  rw [← wire_ofInt n, ofInt_eq n, wire_number, ofInt_toInt]

theorem ofInt_natCast (n : Nat) : ofInt n = number (Int64.ofNat n) := by
  rw [ofInt_eq, Int64.ofInt_eq_ofNat]

theorem ofInt_one_or_zero (b : Bool) : ofInt (if b then 1 else 0) = ofBool b := by
  cases b <;> rfl

variable (a b : Int64)

theorem ofInt_add : ofInt (a.toInt + b.toInt) = number (a + b) := by
  rw [ofInt_eq, Int64.ofInt_add, Int64.ofInt_toInt, Int64.ofInt_toInt]

theorem ofInt_sub : ofInt (a.toInt - b.toInt) = number (a - b) := by
  rw [ofInt_eq, Int64.ofInt_sub, Int64.ofInt_toInt, Int64.ofInt_toInt]

theorem ofInt_mul : ofInt (a.toInt * b.toInt) = number (a * b) := by
  rw [ofInt_eq, Int64.ofInt_mul, Int64.ofInt_toInt, Int64.ofInt_toInt]

theorem ofInt_tdiv : ofInt (a.toInt.tdiv b.toInt) = number (a / b) := by
  have hq : (Int64.ofInt (a.toInt.tdiv b.toInt)).toInt = (a / b).toInt := by
    rw [Int64.toInt_ofInt, Int64.toInt_div]
  rw [ofInt_eq, Int64.toInt_inj.mp hq]

end Value

namespace Instruction

/-- The quotient of the absolute values is rounded toward zero with either sign. -/
theorem quotient_eq (a b : Int) :
    quotient a b = if b = 0 then .error .divisionByZero else .ok (a.tdiv b) := by
  have hnonneg (k : Nat) : ¬ Int.ofNat k < 0 := Int.not_lt.mpr (Int.natCast_nonneg k)
  have hneg (k : Nat) : Int.negSucc k < 0 := Int.negSucc_lt_zero k
  have hsigned : (if a < 0 ↔ b < 0 then ((a.natAbs / b.natAbs : Nat) : Int)
      else -(a.natAbs / b.natAbs : Nat)) = a.tdiv b := by
    cases a with
    | ofNat m =>
      cases b with
      | ofNat n => exact if_pos (iff_of_false (hnonneg m) (hnonneg n))
      | negSucc n => exact if_neg fun h => hnonneg m (h.mpr (hneg n))
    | negSucc m =>
      cases b with
      | ofNat n => exact if_neg fun h => hnonneg n (h.mp (hneg m))
      | negSucc n => exact if_pos (iff_of_true (hneg m) (hneg n))
  simp only [quotient, hsigned]

end Instruction

end StackMachine
