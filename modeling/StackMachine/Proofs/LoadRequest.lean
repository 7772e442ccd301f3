import StackMachine.Api
import StackMachine.Proofs.Outcome

/-! What a request must say to load a program. It claims a length for its body, in digits, and so
many bytes of its body are a document that holds the text. -/
namespace StackMachine

namespace Http.Request
open Text

/-- The first length field, without blanks around it. -/
def lengthText? (r : Request) : Option (List Char) :=
  (r.header? "Content-Length").map fun value => strip isBlank value.toList

end Http.Request

namespace Api
open Http Text

def IsNumeral (cs : List Char) : Prop := cs ≠ [] ∧ ∀ c ∈ cs, c.isDigit = true

instance (cs : List Char) : Decidable (IsNumeral cs) := inferInstanceAs (Decidable (_ ∧ _))

/-- The number that digits denote, however many they are. -/
def denoted (digits : List Char) : Nat := Nat.ofDigitChars 10 digits 0

theorem isNumeral_iff {cs : List Char} :
    IsNumeral cs ↔ (cs.isEmpty || !cs.all Char.isDigit) = false := by
  simp [IsNumeral]

theorem IsNumeral.splitSign {digits : List Char} (h : IsNumeral digits) :
    Numeral.splitSign digits = (false, digits) := by
  obtain ⟨hne, hd⟩ := h
  obtain ⟨c, rest, rfl⟩ := List.exists_cons_of_ne_nil hne
  have hc : c.isDigit = true := hd c List.mem_cons_self
  unfold Numeral.splitSign
  split
  · rename_i heq
    cases heq
    cases hc
  · rename_i heq
    cases heq
    cases hc
  · rfl

theorem IsNumeral.convert {digits : List Char} (h : IsNumeral digits) :
    Numeral.convert digits =
      if digits.length ≤ Numeral.maxDigits then .ok (denoted digits : Int)
      else .error digits.length := by
  unfold Numeral.convert Numeral.digitCount Numeral.value
  rw [h.splitSign]
  rfl

/-! ### The claimed length -/

/-- The length that a text without blanks around it claims. -/
def lengthOf (text : List Char) : Except Nat (Except Refusal Nat) :=
  if text.isEmpty || !text.all Char.isDigit then
    .ok (.error (.badLength (String.ofList text)))
  else match Numeral.convert text with
    | .error count => .error count
    | .ok n => .ok (if n > maxBody then .error .bodyTooLarge else .ok n.toNat)

theorem lengthOf_numeral {digits : List Char} (h : IsNumeral digits) :
    lengthOf digits = if digits.length ≤ Numeral.maxDigits then
        .ok (if maxBody < denoted digits then .error .bodyTooLarge else .ok (denoted digits))
      else .error digits.length := by
  have hcast : (denoted digits : Int) > (maxBody : Int) ↔ maxBody < denoted digits := Int.ofNat_lt
  unfold lengthOf
  rw [isNumeral_iff.mp h, h.convert]
  by_cases hl : digits.length ≤ Numeral.maxDigits
  · simp only [hl, Bool.false_eq_true, ↓reduceIte, hcast, Int.toNat_natCast]
  · simp only [hl, Bool.false_eq_true, ↓reduceIte]

theorem lengthOf_not_numeral {text : List Char} (h : ¬ IsNumeral text) :
    lengthOf text = .ok (.error (.badLength (String.ofList text))) := by
  rw [isNumeral_iff, Bool.not_eq_false] at h
  unfold lengthOf
  rw [if_pos h]

/-- A request whose length field is missing or empty claims no bytes. -/
theorem claimedLength_eq (r : Request) : claimedLength r = .ok (.ok 0) ∧
      (r.lengthText? = none ∨ r.lengthText? = some []) ∨
    ∃ text, r.lengthText? = some text ∧ claimedLength r = lengthOf text := by
  cases hv : r.header? "Content-Length" with
  | none =>
    refine .inl ⟨?_, .inl (by rw [Request.lengthText?, hv]; rfl)⟩
    unfold claimedLength
    rw [hv]
    rfl
  | some value =>
    have ht : r.lengthText? = some (strip isBlank value.toList) := by
      rw [Request.lengthText?, hv]
      rfl
    unfold claimedLength
    cases hempty : value.isEmpty with
    | true =>
      rw [String.isEmpty_iff.mp hempty] at ht
      simp only [hv, hempty, ↓reduceIte]
      exact .inl ⟨rfl, .inr ht⟩
    | false =>
      simp only [hv, hempty, Bool.false_eq_true, ↓reduceIte]
      exact .inr ⟨_, ht, rfl⟩

/-! ### The document in the body -/

/-- No document has no bytes at all. -/
theorem readCode_empty (body : ByteArray) : readCode (body.extract 0 0) = .error .notJson := by
  have hbytes : body.extract 0 0 = ByteArray.empty := by
    simp
  have htext : String.fromUTF8? ByteArray.empty = some "" := rfl
  have hread : Json.read? "" = none := rfl
  unfold readCode
  rw [hbytes, htext]
  simp only [Option.bind_some, hread]

end Api

/-! ### The program text that is asked for -/

namespace Http.Request
open Api Text

/-- The length field has few enough digits for a conversion. -/
def LengthConverts (r : Request) : Prop :=
  ∀ digits, r.lengthText? = some digits → IsNumeral digits → digits.length ≤ Numeral.maxDigits

end Http.Request

namespace Api
open Http Text
variable {r : Request} {code : String}

theorem not_isNumeral_nil : ¬ IsNumeral [] := fun h => h.1 rfl

theorem requestedCode_of_claimed {c : Except Refusal Nat} (h : claimedLength r = .ok c) :
    requestedCode r = .ok (c >>= fun n => readCode (r.body.extract 0 n)) := by
  unfold requestedCode
  rw [h]
  cases c <;> rfl

theorem claimedLength_numeral {digits : List Char} (h : r.lengthText? = some digits)
    (hn : IsNumeral digits) : claimedLength r = lengthOf digits := by
  rcases claimedLength_eq r with ⟨-, hnone | hnil⟩ | ⟨text, ht, hc⟩
  · cases h.symm.trans hnone
  · cases h.symm.trans hnil
    exact absurd hn not_isNumeral_nil
  · cases h.symm.trans ht
    exact hc

theorem requestedCode_numeral {digits : List Char} (h : r.lengthText? = some digits)
    (hn : IsNumeral digits) (hl : digits.length ≤ Numeral.maxDigits) :
    requestedCode r = .ok (if maxBody < denoted digits then .error .bodyTooLarge
      else readCode (r.body.extract 0 (denoted digits))) := by
  have hc := claimedLength_numeral h hn
  rw [lengthOf_numeral hn, if_pos hl] at hc
  rw [requestedCode_of_claimed hc]
  split <;> rfl

theorem requestedCode_tooManyDigits {digits : List Char} (h : r.lengthText? = some digits)
    (hn : IsNumeral digits) (hl : Numeral.maxDigits < digits.length) :
    requestedCode r = .error digits.length := by
  have hc := claimedLength_numeral h hn
  rw [lengthOf_numeral hn, if_neg (by omega)] at hc
  unfold requestedCode
  rw [hc]
  rfl

/-- Without a numeral there is nothing to read. -/
theorem requestedCode_not_numeral (h : ∀ digits, r.lengthText? = some digits → ¬ IsNumeral digits) :
    ∃ refusal, requestedCode r = .ok (.error refusal) := by
  rcases claimedLength_eq r with ⟨hc, -⟩ | ⟨text, ht, hc⟩
  · refine ⟨.notJson, ?_⟩
    rw [requestedCode_of_claimed hc, ok_bind, readCode_empty]
  · rw [lengthOf_not_numeral (h text ht)] at hc
    exact ⟨_, requestedCode_of_claimed hc⟩

/-- Only a numeral of too many digits keeps a request from being read or refused. -/
theorem requestedCode_converts (r : Request) :
    r.LengthConverts ∧ (∃ c, requestedCode r = .ok c) ∨
      ¬ r.LengthConverts ∧ ∃ count, requestedCode r = .error count := by
  by_cases hn : ∃ digits, r.lengthText? = some digits ∧ IsNumeral digits
  · obtain ⟨digits, ht, hn⟩ := hn
    by_cases hl : digits.length ≤ Numeral.maxDigits
    · refine .inl ⟨?_, _, requestedCode_numeral ht hn hl⟩
      intro digits' ht' _
      cases ht.symm.trans ht'
      exact hl
    · refine .inr ⟨?_, _, requestedCode_tooManyDigits ht hn (Nat.lt_of_not_le hl)⟩
      intro h
      exact hl (h digits ht hn)
  · have hnone : ∀ digits, r.lengthText? = some digits → ¬ IsNumeral digits :=
      fun digits ht hd => hn ⟨digits, ht, hd⟩
    obtain ⟨refusal, href⟩ := requestedCode_not_numeral hnone
    exact .inl ⟨fun digits ht hd => absurd hd (hnone digits ht), _, href⟩

end Api

end StackMachine
