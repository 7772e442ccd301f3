import Mathlib.Algebra.Order.Ring.Abs
import Mathlib.Algebra.Order.Ring.Int
import Mathlib.Data.Int.ModEq
import StackMachine.Proofs.Execution
import StackMachine.Proofs.Lockstep

/-! Arithmetic of 64 bits beside that of all integers. Sums, differences and products may be wrapped
once at the end of a computation, whatever was wrapped on the way. -/
namespace StackMachine

/-- The one integer of 64 bits that is congruent to the exact one. -/
structure Wraps (exact n : Int) : Prop where
  range : -2 ^ 63 ≤ n ∧ n < 2 ^ 63
  modEq : n ≡ exact [ZMOD 2 ^ 64]
  unique : ∀ x, -2 ^ 63 ≤ x → x < 2 ^ 63 → x ≡ exact [ZMOD 2 ^ 64] → x = n

theorem wraps_wrap (z : Int) : Wraps z (wrap z) := by
  have hrange : -2 ^ 63 ≤ wrap z ∧ wrap z < 2 ^ 63 := by
    obtain ⟨hlo, hhi⟩ := wrap_bounds z
    exact ⟨hlo, Int.lt_add_one_iff.mpr hhi⟩
  have hmod : wrap z ≡ z [ZMOD 2 ^ 64] := by
    rw [wrap_eq_bmod]
    exact Int.bmod_emod
  refine ⟨hrange, hmod, ?_⟩
  intro x hlo hhi hx
  have heq : x % 2 ^ 64 = wrap z % 2 ^ 64 := hx.trans hmod.symm
  omega

theorem wraps_of_ofInt {z : Int} {n : Int64} (h : Value.ofInt z = .number n) : Wraps z n.toInt := by
  have hn : wrap z = n.toInt := by rw [← Value.wire_ofInt, h, Value.wire_number]
  rw [← hn]
  exact wraps_wrap z

/-- What is left of the dividend is smaller than the divisor, and zero or of the dividend's sign. -/
def Truncates (a b q : Int) : Prop := ∃ r, a = q * b + r ∧ |r| < |b| ∧ (r = 0 ∨ r.sign = a.sign)

theorem truncates_tdiv {a b : Int} (hb : b ≠ 0) : Truncates a b (a.tdiv b) := by
  refine ⟨a.tmod b, (Int.tdiv_mul_add_tmod a b).symm, ?_, ?_⟩
  · rw [Int.abs_eq_natAbs, Int.abs_eq_natAbs, Int.natAbs_tmod]
    exact Int.ofNat_lt.mpr (Nat.mod_lt _ (Int.natAbs_pos.mpr hb))
  · by_cases hd : b ∣ a
    · exact .inl (Int.tmod_eq_zero_of_dvd hd)
    · exact .inr (by rw [Int.sign_tmod, if_neg hd])

theorem remainder_bounds {a r : Int} (hs : r = 0 ∨ r.sign = a.sign) :
    (0 ≤ a → 0 ≤ r) ∧ (a ≤ 0 → r ≤ 0) := by
  rcases hs with rfl | hs
  · exact ⟨fun _ => Int.le_refl 0, fun _ => Int.le_refl 0⟩
  · rw [← Int.sign_nonneg_iff, ← Int.sign_nonneg_iff (x := r), ← Int.sign_nonpos_iff,
      ← Int.sign_nonpos_iff (x := r), hs]
    exact ⟨fun h => h, fun h => h⟩

/-- Two remainders are on the same side of zero, too close for different quotients. -/
theorem Truncates.unique {a b q q' : Int} (h : Truncates a b q) (h' : Truncates a b q') :
    q = q' := by
  obtain ⟨r, he, hr, hs⟩ := h
  obtain ⟨r', he', hr', hs'⟩ := h'
  have hb : b ≠ 0 := by
    rintro rfl
    exact absurd hr (Int.not_lt.mpr (by simp))
  have hclose : |r' - r| < |b| := by
    have hside := remainder_bounds hs
    have hside' := remainder_bounds hs'
    rw [abs_lt] at hr hr' ⊢
    generalize |b| = n at hr hr' ⊢
    omega
  have hdvd : b ∣ r' - r := by
    refine ⟨q - q', ?_⟩
    rw [Int.mul_sub, Int.mul_comm b q, Int.mul_comm b q']
    omega
  have hzero : r' - r = 0 := Int.eq_zero_of_abs_lt_dvd ((abs_dvd b _).mpr hdvd) hclose
  refine Int.eq_of_mul_eq_mul_right hb ?_
  omega

theorem quotient_truncates {a b : Int} (hb : b ≠ 0) :
    ∃ q, Instruction.quotient a b = .ok q ∧ Truncates a b q ∧ ∀ x, Truncates a b x → x = q := by
  refine ⟨a.tdiv b, ?_, truncates_tdiv hb, fun x hx => hx.unique (truncates_tdiv hb)⟩
  rw [Instruction.quotient_eq, if_neg hb]

/-- What division by a number other than zero gives. Only the least number divided by minus one has
no quotient of 64 bits. -/
def IsQuotient (a b q : Int64) : Prop :=
  if a = Int64.minValue ∧ b = -1 then q = Int64.minValue
  else Truncates a.toInt b.toInt q.toInt ∧ ∀ x, Truncates a.toInt b.toInt x → x = q.toInt

theorem isQuotient_div {a b : Int64} (hb : b ≠ 0) : IsQuotient a b (a / b) := by
  unfold IsQuotient
  by_cases h : a = Int64.minValue ∧ b = -1
  · rw [if_pos h, h.1, h.2]
    decide
  · rw [if_neg h]
    have hb' : b.toInt ≠ 0 := by simpa [← Int64.toInt_inj] using hb
    have hq : (a / b).toInt = a.toInt.tdiv b.toInt := by
      rcases not_and_or.mp h with ha | hminus
      · exact Int64.toInt_div_of_ne_left a b ha
      · exact Int64.toInt_div_of_ne_right a b hminus
    rw [hq]
    exact ⟨truncates_tdiv hb', fun x hx => hx.unique (truncates_tdiv hb')⟩

/-! ### Computations on unbounded integers -/

namespace Opcode

/-- The operations that may be wrapped at the end. -/
def unbounded? : Opcode → Int → Int → Option Int
  | add, a, b => some (a + b)
  | sub, a, b => some (a - b)
  | mul, a, b => some (a * b)
  | _, _, _ => none

/-- Instructions for a stack of numbers that neither divide nor compare. -/
def linear : List Opcode := [push, pop, dup, swap, add, sub, mul]

end Opcode

/-- The instruction on a stack of unbounded integers, the top first. -/
def Instruction.unbounded? (i : Instruction) (stack : List Int) : Option (List Int) :=
  match i.opcode, i.operand, stack with
  | .push, .int n, rest => some (n :: rest)
  | .pop, _, _ :: rest => some rest
  | .dup, _, a :: rest => some (a :: a :: rest)
  | .swap, _, b :: a :: rest => some (a :: b :: rest)
  | op, _, b :: a :: rest => (op.unbounded? a b).map (· :: rest)
  | _, _, _ => none

/-- Instructions one after the other on unbounded integers. -/
def unboundedRun? (code : List Instruction) (stack : List Int) : Option (List Int) :=
  code.foldlM (fun stack i => i.unbounded? stack) stack

namespace Machine
open Value
variable {m m' : Machine} {i : Instruction} {zs : List Int}

/-- What a step does to a stack of wrapped integers, the exact one does to the integers. -/
theorem unbounded_of_next (h : m.next = .ok m') (hi : m.program.at? m.pc = some i)
    (hop : i.opcode ∈ Opcode.linear) (hs : m.stack = zs.map ofInt) :
    ∃ zs', i.unbounded? zs = some zs' ∧ m'.stack = zs'.map ofInt ∧ m'.pc = m.pc + 1 ∧
      m'.program = m.program := by
  have hofInt : ofInt = fun z => number (Int64.ofInt z) := funext ofInt_eq
  rw [hofInt] at hs ⊢
  obtain ⟨j, operands, c, -, hj, hr, hc, rfl⟩ := exists_change_of_next h
  cases hj.symm.trans hi
  obtain ⟨op, operand, line⟩ := i
  rw [hs] at hr
  cases op with
  | push =>
    cases operand with
    | int n =>
      cases hc
      exact ⟨n :: zs, rfl, by simp [apply, hs, Opcode.demands], rfl, rfl⟩
    | none | text => cases hc
  | pop =>
    cases zs with
    | nil => cases hr
    | cons z zs =>
      cases hr
      cases hc
      exact ⟨zs, rfl, by simp [apply, hs, Opcode.demands], rfl, rfl⟩
  | dup =>
    cases zs with
    | nil => cases hr
    | cons z zs =>
      cases hr
      cases hc
      exact ⟨z :: z :: zs, rfl, by simp [apply, hs, Opcode.demands], rfl, rfl⟩
  | swap =>
    obtain _ | ⟨b, _ | ⟨a, zs⟩⟩ := zs
    · cases hr
    · cases hr
    · cases hr
      cases hc
      exact ⟨a :: b :: zs, rfl, by simp [apply, hs, Opcode.demands], rfl, rfl⟩
  | add | sub | mul =>
    obtain _ | ⟨b, _ | ⟨a, zs⟩⟩ := zs
    · cases hr
    · cases hr
    · cases hr
      cases hc
      refine ⟨_, rfl, ?_, rfl, rfl⟩
      simp [apply, hs, Opcode.demands, Int64.ofInt_add, Int64.ofInt_sub, Int64.ofInt_mul]
  | _ => simp [Opcode.linear] at hop

theorem unboundedRun_of_after? {code : List Instruction} (h : m.after? code.length = some m')
    (hcode : ∀ (k : Nat) i, code[k]? = some i → m.program.at? (m.pc + k) = some i)
    (hop : ∀ i ∈ code, i.opcode ∈ Opcode.linear) (hs : m.stack = zs.map ofInt) :
    ∃ zs', unboundedRun? code zs = some zs' ∧ m'.stack = zs'.map ofInt := by
  induction code generalizing m zs with
  | nil =>
    cases h
    exact ⟨zs, rfl, hs⟩
  | cons i code ih =>
    obtain ⟨m₁, hn, h⟩ := exists_next_of_after? h
    have hi : m.program.at? m.pc = some i := by simpa using hcode 0 i rfl
    obtain ⟨hopi, hopcode⟩ := List.forall_mem_cons.mp hop
    obtain ⟨zs₁, he, hs₁, hpc, hprogram⟩ := unbounded_of_next hn hi hopi hs
    have hcode₁ : ∀ (k : Nat) i, code[k]? = some i → m₁.program.at? (m₁.pc + k) = some i := by
      intro k i' hk
      have hk' := hcode (k + 1) i' hk
      rw [hprogram, hpc]
      rwa [Nat.cast_succ, Int.add_comm (k : Int), ← Int.add_assoc] at hk'
    obtain ⟨zs', hrun, hs'⟩ := ih h hcode₁ hopcode hs₁
    refine ⟨zs', ?_, hs'⟩
    rw [unboundedRun?, List.foldlM_cons, he]
    exact hrun

/-- The next instruction is an operation on two numbers. -/
structure Faces (m : Machine) (op : Opcode) (a b : Int64) (rest : List Value) : Prop where
  fetch : ∃ i, m.fetch = .ok i ∧ i.opcode = op
  stack : m.stack = .number b :: .number a :: rest

section
variable {op : Opcode} {a b : Int64} {rest : List Value}

/-- The operands of the next instruction. -/
theorem Faces.read (h : m.Faces op a b rest) :
    Operands.read m.stack.length [.number, .number] m.stack = .ok (b, a, ()) ∧
      m.stack.drop 2 = rest := by
  rw [h.stack]
  exact ⟨rfl, rfl⟩

theorem step_of_unbounded {z : Int} (h : m.Faces op a b rest)
    (hz : op.unbounded? a.toInt b.toInt = some z) :
    ∃ n, m.step = .ok () (m.pushing [.number n] rest) ∧ Wraps z n.toInt := by
  obtain ⟨hr, rfl⟩ := h.read
  obtain ⟨⟨op, operand, line⟩, hi, rfl⟩ := h.fetch
  simp only [step_eq_ok_iff, ← apply_pushed]
  cases op with
  | add =>
    cases hz
    exact ⟨a + b, next_of_change hi hr rfl, wraps_of_ofInt (ofInt_add a b)⟩
  | sub =>
    cases hz
    exact ⟨a - b, next_of_change hi hr rfl, wraps_of_ofInt (ofInt_sub a b)⟩
  | mul =>
    cases hz
    exact ⟨a * b, next_of_change hi hr rfl, wraps_of_ofInt (ofInt_mul a b)⟩
  | _ => cases hz

theorem step_of_div (h : m.Faces .div a b rest) (hb : b ≠ 0) :
    m.step = .ok () (m.pushing [.number (a / b)] rest) := by
  obtain ⟨hr, rfl⟩ := h.read
  obtain ⟨⟨op, operand, line⟩, hi, rfl⟩ := h.fetch
  rw [step_eq_ok_iff, ← apply_pushed]
  exact next_of_change hi hr (if_neg hb)

end

/-- Arithmetic is that of all integers, wrapped to 64 bits. It makes no difference to a computation
that does not divide whether numbers are wrapped at each step or once at the end. -/
theorem arithmetic_exact :
    (∀ z, Wraps z (wrap z) ∧ (Value.ofInt z).wire = wrap z) ∧
    (∀ a b : Int, b ≠ 0 →
      ∃ q, Instruction.quotient a b = .ok q ∧ Truncates a b q ∧ ∀ x, Truncates a b x → x = q) ∧
    (∀ (m : Machine) op a b rest z, m.Faces op a b rest →
      op.unbounded? a.toInt b.toInt = some z →
      ∃ n, m.step = .ok () (m.pushing [.number n] rest) ∧ Wraps z n.toInt) ∧
    (∀ (m : Machine) a b rest, m.Faces .div a b rest → b ≠ 0 →
      ∃ q, m.step = .ok () (m.pushing [.number q] rest) ∧ IsQuotient a b q) ∧
    (∀ (m m' : Machine) (code : List Instruction) (ns : List Int64),
      m.stack = ns.map .number →
      (∀ (k : Nat) i, code[k]? = some i → m.program.at? (m.pc + k) = some i) →
      (∀ i ∈ code, i.opcode ∈ Opcode.linear) →
      m.after? code.length = some m' →
      ∃ zs, unboundedRun? code (ns.map Int64.toInt) = some zs ∧ m'.stack = zs.map .ofInt) := by
  refine ⟨fun z => ⟨wraps_wrap z, wire_ofInt z⟩, fun a b hb => quotient_truncates hb, ?_, ?_, ?_⟩
  · intro m op a b rest z h hz
    exact step_of_unbounded h hz
  · intro m a b rest h hb
    exact ⟨a / b, step_of_div h hb, isQuotient_div hb⟩
  · intro m m' code ns hs hcode hop h
    refine unboundedRun_of_after? h hcode hop ?_
    rw [hs, List.map_map]
    exact List.map_congr_left fun n _ => (ofInt_toInt n).symm

/-- A sum that does not fit, and what is left of it. -/
def overflowing : Machine where
  program := ⟨#[⟨.add, .none, none⟩, ⟨.push, .int 1, none⟩, ⟨.sub, .none, none⟩], []⟩
  stack := [.number 1, .number Int64.maxValue]

/-- The least number divided by minus one. -/
def dividing : Machine where
  program := ⟨#[⟨.div, .none, none⟩], []⟩
  stack := [.number (-1), .number Int64.minValue]

theorem arithmetic_exact_at_bounds :
    wrap (2 ^ 63) = -2 ^ 63 ∧
    Instruction.quotient (-7) 2 = .ok (-3) ∧
    overflowing.step = .ok () (overflowing.pushing [.number Int64.minValue] []) ∧
    dividing.step = .ok () (dividing.pushing [.number Int64.minValue] []) ∧
    (overflowing.after? 3).map (·.stack) = some [.ofInt (2 ^ 63 - 1)] := by
  obtain ⟨hwrap, hquotient, hstep, hdiv, hrun⟩ := arithmetic_exact
  have hleast : (-2 ^ 63 : Int) ≡ 2 ^ 63 [ZMOD 2 ^ 64] := by decide
  refine ⟨?_, ?_, ?_, ?_, ?_⟩
  · exact ((hwrap (2 ^ 63)).1.unique (-2 ^ 63) (by decide) (by decide) hleast).symm
  · obtain ⟨q, hq, -, hunique⟩ := hquotient (-7) 2 (by decide)
    rw [hq, ← hunique (-3) ⟨-1, by decide, by decide, .inr rfl⟩]
  · obtain ⟨n, hn, hwraps⟩ :=
      hstep overflowing .add Int64.maxValue 1 [] (2 ^ 63) ⟨⟨_, rfl, rfl⟩, rfl⟩ rfl
    have hvalue : Int64.minValue.toInt = n.toInt :=
      hwraps.unique (-2 ^ 63) (by decide) (by decide) hleast
    rw [hn, ← Int64.toInt_inj.mp hvalue]
  · obtain ⟨q, hq, hquot⟩ := hdiv dividing Int64.minValue (-1) [] ⟨⟨_, rfl, rfl⟩, rfl⟩ (by decide)
    rw [IsQuotient, if_pos ⟨rfl, rfl⟩] at hquot
    rw [hq, hquot]
  · obtain ⟨m', hm'⟩ := Option.isSome_iff_exists.mp
      (by decide +kernel : (overflowing.after? 3).isSome = true)
    have hcode (k : Nat) (i) (hk : overflowing.program.instructions.toList[k]? = some i) :
        overflowing.program.at? (overflowing.pc + k) = some i := by
      have hpc : overflowing.pc + k = (k : Int) := Int.zero_add _
      rw [hpc, Program.at?_nat, ← Array.getElem?_toList]
      exact hk
    obtain ⟨zs, hzs, hstack⟩ := hrun overflowing m' overflowing.program.instructions.toList
      [1, Int64.maxValue] rfl hcode (by decide) hm'
    have hexact : unboundedRun? overflowing.program.instructions.toList
      ([1, Int64.maxValue].map Int64.toInt) = some [2 ^ 63 - 1] := by decide
    cases hexact.symm.trans hzs
    rw [hm', Option.map_some, hstack]
    rfl

end Machine

end StackMachine
