import StackMachine.Heap
import StackMachine.Proofs.Outcome

/-! What the operations on a heap do. Each of them makes its checks first and writes at most once,
so one that fails leaves the heap as it was; one that only reads leaves it so in any case. -/
namespace StackMachine

namespace Arena
variable {α : Type} {refusal : ArenaName → Int → Fault} {name : ArenaName} {a : Arena α} {id : Int}

theorem liveSlot_eq_ok_iff {s : Slot α} :
    a.liveSlot refusal name id = .ok s ↔ a.slot? id = some s ∧ s.live = true := by
  unfold liveSlot
  cases hs : a.slot? id with
  | none => simp
  | some t =>
    by_cases ht : t.live = true
    · simp only [ht, ↓reduceIte, Except.ok.injEq, Option.some.injEq]
      constructor
      · rintro rfl
        exact ⟨rfl, ht⟩
      · exact And.left
    · simp only [ht, Bool.false_eq_true, ↓reduceIte, reduceCtorEq, Option.some.injEq, false_iff,
        not_and]
      rintro rfl
      exact ht

theorem liveSlot_eq_error_iff {f : Fault} :
    a.liveSlot refusal name id = .error f ↔
      (a.slot? id = none ∧ f = .neverAllocated name id) ∨
        ∃ s, a.slot? id = some s ∧ s.live = false ∧ f = refusal name id := by
  unfold liveSlot
  cases hs : a.slot? id with
  | none =>
    constructor
    · intro h
      exact .inl ⟨rfl, (Except.error.inj h).symm⟩
    · rintro (⟨-, rfl⟩ | ⟨s, hs, -⟩)
      · rfl
      · cases hs
  | some t =>
    constructor
    · intro h
      by_cases ht : t.live = true
      · simp only [ht, ↓reduceIte, reduceCtorEq] at h
      · simp only [ht, Bool.false_eq_true, ↓reduceIte, Except.error.injEq] at h
        exact .inr ⟨t, rfl, by simpa using ht, h.symm⟩
    · rintro (⟨hs, -⟩ | ⟨s, hs, hl, rfl⟩)
      · cases hs
      · cases hs
        simp only [hl, Bool.false_eq_true, ↓reduceIte]

end Arena

namespace Heap
namespace Action
variable {α β : Type}

/-- The result and the heap that an operation leaves if it succeeds. -/
def attempt (a : Action α) (h : Heap) : Except Fault (α × Heap) :=
  match a h with
  | .ok x h' => .ok (x, h')
  | .error e _ => .error e

/-- A failure leaves the heap as it was. -/
def Atomic (a : Action α) : Prop := ∀ ⦃h e h'⦄, a h = .error e h' → h' = h

/-- The heap stays as it was whatever comes of the operation. -/
structure ReadOnly (a : Action α) : Prop where
  atomic : a.Atomic
  kept : ∀ ⦃h x h'⦄, a h = .ok x h' → h' = h

theorem bind_apply (a : Action α) (k : α → Action β) (h : Heap) :
    (a >>= k) h = match a h with
      | .ok x h' => k x h'
      | .error e h' => .error e h' := by
  cases ha : a h <;> simp [bind, EStateM.bind, ha]

theorem attempt_bind (a : Action α) (k : α → Action β) (h : Heap) :
    Action.attempt (a >>= k) h = Action.attempt a h >>= fun r => Action.attempt (k r.1) r.2 := by
  cases ha : a h with
  | ok x h' => simp only [attempt, bind_apply, ha]; rfl
  | error e h' => simp only [attempt, bind_apply, ha]; rfl

@[simp] theorem attempt_pure (x : α) (h : Heap) :
    Action.attempt (pure x) h = .ok (x, h) := rfl

@[simp] theorem attempt_check (f : Heap → Except Fault α) (h : Heap) :
    Action.attempt (check f) h = f h >>= fun x => .ok (x, h) := by
  cases hf : f h <;> simp only [attempt, check, hf] <;> rfl

@[simp] theorem attempt_modify (f : Heap → Heap) (h : Heap) :
    Action.attempt (modify f) h = .ok ((), f h) := rfl

theorem check_readOnly (f : Heap → Except Fault α) : ReadOnly (check f) := by
  constructor
  · intro h e h' he
    unfold check at he
    split at he <;> cases he
    rfl
  · intro h x h' hx
    unfold check at hx
    split at hx <;> cases hx
    rfl

theorem pure_readOnly (x : α) : ReadOnly (pure x : Action α) :=
  ⟨fun _ _ _ he => (by cases he), fun _ _ _ hx => (by cases hx; rfl)⟩

theorem modify_atomic (f : Heap → Heap) : Atomic (modify f : Action Unit) :=
  fun _ _ _ he => by cases he

theorem ReadOnly.bind_atomic {a : Action α} (ha : a.ReadOnly) {k : α → Action β}
    (hk : ∀ x, (k x).Atomic) : Action.Atomic (a >>= k) := by
  intro h e h' he
  rw [bind_apply] at he
  cases hr : a h with
  | ok x h₁ =>
    rw [hr] at he
    rw [← ha.kept hr]
    exact hk x he
  | error e₁ h₁ =>
    rw [hr] at he
    cases he
    exact ha.atomic hr

theorem ReadOnly.bind {a : Action α} (ha : a.ReadOnly) {k : α → Action β}
    (hk : ∀ x, (k x).ReadOnly) : Action.ReadOnly (a >>= k) := by
  refine ⟨ha.bind_atomic fun x => (hk x).atomic, ?_⟩
  intro h y h' hy
  rw [bind_apply] at hy
  cases hr : a h with
  | ok x h₁ =>
    rw [hr] at hy
    rw [← ha.kept hr]
    exact (hk x).kept hy
  | error e h₁ => rw [hr] at hy; cases hy

end Action

open Heap.Action

theorem getArray_readOnly (handle : Value) : (getArray handle).ReadOnly :=
  (check_readOnly _).bind fun _ => pure_readOnly _

theorem arrayLength_readOnly (handle : Value) : (arrayLength handle).ReadOnly :=
  (getArray_readOnly handle).bind fun _ => pure_readOnly _

theorem readCell_readOnly (handle : Value) (index : Int) : (readCell handle index).ReadOnly :=
  (getArray_readOnly handle).bind fun _ => (check_readOnly _).bind fun _ => pure_readOnly _

theorem getString_readOnly (handle : Value) : (getString handle).ReadOnly := check_readOnly _

theorem stringLength_readOnly (handle : Value) : (stringLength handle).ReadOnly :=
  (getString_readOnly handle).bind fun _ => pure_readOnly _

theorem writeCell_atomic (handle : Value) (index : Int) (v : Value) :
    (writeCell handle index v).Atomic :=
  (check_readOnly _).bind_atomic fun _ => (check_readOnly _).bind_atomic fun _ => modify_atomic _

theorem freeArray_atomic (handle : Value) : (freeArray handle).Atomic :=
  (check_readOnly _).bind_atomic fun _ => (check_readOnly _).bind_atomic fun _ => modify_atomic _

theorem freeString_atomic (handle : Value) : (freeString handle).Atomic :=
  (check_readOnly _).bind_atomic fun _ => (check_readOnly _).bind_atomic fun _ => modify_atomic _

theorem allocateString_atomic (s : String) : (allocateString s).Atomic :=
  fun _ _ _ he => by cases he

theorem concat_atomic (a b : Value) : (concat a b).Atomic :=
  (getString_readOnly a).bind_atomic fun _ =>
    (getString_readOnly b).bind_atomic fun _ => allocateString_atomic _

theorem allocateArray_atomic (size : Int) : (allocateArray size).Atomic := by
  intro h e h' he
  unfold allocateArray at he
  by_cases hn : size < 0
  · simp only [hn, ↓reduceIte] at he
    cases he
    rfl
  · by_cases hb : size ≥ sizeBound
    · simp only [hn, hb, ↓reduceIte] at he
      cases he
      rfl
    · simp only [hn, hb, ↓reduceIte] at he
      cases he

theorem attempt_allocateArray (size : Int) (h : Heap) :
    (allocateArray size).attempt h =
      if size < 0 then .error (.negativeSize size)
      else if size ≥ sizeBound then .error (.sizeTooLarge size)
      else .ok (.array h.arrays.nextId, { h with
        arrays := h.arrays.allocate (Array.replicate size.toNat (.number 0)) }) := by
  unfold allocateArray
  by_cases hn : size < 0
  · simp only [hn, ↓reduceIte]
    rfl
  · by_cases hb : size ≥ sizeBound
    · simp only [hn, hb, ↓reduceIte]
      rfl
    · simp only [hn, hb, ↓reduceIte]
      rfl

theorem attempt_getArray (handle : Value) (h : Heap) :
    (getArray handle).attempt h = liveArray handle h >>= fun r => .ok (r.2, h) := by
  simp only [getArray, attempt_bind, attempt_check, attempt_pure, bind_assoc, ok_bind]

theorem attempt_arrayLength (handle : Value) (h : Heap) :
    (arrayLength handle).attempt h = liveArray handle h >>= fun r => .ok (r.2.size, h) := by
  simp only [arrayLength, attempt_bind, attempt_getArray, attempt_pure, bind_assoc, ok_bind]

theorem attempt_readCell (handle : Value) (index : Int) (h : Heap) :
    (readCell handle index).attempt h = liveArray handle h >>= fun r =>
      checkIndex index r.2.size >>= fun i => .ok (r.2.getD i (.number 0), h) := by
  simp only [readCell, attempt_bind, attempt_getArray, attempt_check, attempt_pure, bind_assoc,
    ok_bind]

theorem attempt_writeCell (handle : Value) (index : Int) (v : Value) (h : Heap) :
    (writeCell handle index v).attempt h = liveArray handle h >>= fun r =>
      checkIndex index r.2.size >>= fun i => .ok ((), { h with
        arrays := h.arrays.setSlot r.1 { payload := r.2.setIfInBounds i v } }) := by
  simp only [writeCell, attempt_bind, attempt_check, attempt_modify, bind_assoc, ok_bind]

theorem attempt_freeArray (handle : Value) (h : Heap) :
    (freeArray handle).attempt h = arrayId handle >>= fun id =>
      h.arrays.liveSlot .freedTwice .array id >>= fun s => .ok ((), { h with
        arrays := h.arrays.setSlot id { s with live := false } }) := by
  simp only [freeArray, attempt_bind, attempt_check, attempt_modify, bind_assoc, ok_bind]

theorem attempt_allocateString (s : String) (h : Heap) :
    (allocateString s).attempt h =
      .ok (.string h.strings.nextId, { h with strings := h.strings.allocate s }) := rfl

theorem attempt_getString (handle : Value) (h : Heap) :
    (getString handle).attempt h = liveString handle h >>= fun s => .ok (s, h) :=
  attempt_check _ _

theorem attempt_stringLength (handle : Value) (h : Heap) :
    (stringLength handle).attempt h = liveString handle h >>= fun s => .ok (s.length, h) := by
  simp only [stringLength, attempt_bind, attempt_getString, attempt_pure, bind_assoc, ok_bind]

theorem attempt_freeString (handle : Value) (h : Heap) :
    (freeString handle).attempt h = stringId handle >>= fun id =>
      h.strings.liveSlot .freedTwice .string id >>= fun s => .ok ((), { h with
        strings := h.strings.setSlot id { s with live := false } }) := by
  simp only [freeString, attempt_bind, attempt_check, attempt_modify, bind_assoc, ok_bind]

theorem attempt_concat (a b : Value) (h : Heap) :
    (concat a b).attempt h = liveString a h >>= fun left => liveString b h >>= fun right =>
      .ok (.string h.strings.nextId,
        { h with strings := h.strings.allocate (left ++ right) }) := by
  simp only [concat, attempt_bind, attempt_getString, attempt_allocateString, bind_assoc, ok_bind]

section Checks
variable {h : Heap} {handle : Value} {f : Fault}

theorem arrayId_eq_ok_iff {id : Int} : arrayId handle = .ok id ↔ handle = .array id := by
  cases handle <;> simp [arrayId]

theorem stringId_eq_ok_iff {id : Int} : stringId handle = .ok id ↔ handle = .string id := by
  cases handle <;> simp [stringId]

theorem liveArray_eq_ok_iff {r : Int × Array Value} :
    liveArray handle h = .ok r ↔
      handle = .array r.1 ∧ h.arrays.slot? r.1 = some { payload := r.2 } := by
  constructor
  · intro hr
    obtain ⟨id, hid, hr⟩ := bind_eq_ok_iff.mp hr
    obtain ⟨s, hs, hr⟩ := bind_eq_ok_iff.mp hr
    obtain ⟨hs, hl⟩ := Arena.liveSlot_eq_ok_iff.mp hs
    cases hr
    exact ⟨arrayId_eq_ok_iff.mp hid, by rw [hs, ← hl]⟩
  · rintro ⟨rfl, hs⟩
    have hl : h.arrays.liveSlot .freed .array r.1 = .ok { payload := r.2 } :=
      Arena.liveSlot_eq_ok_iff.mpr ⟨hs, rfl⟩
    simp only [liveArray, arrayId, hl, ok_bind]
    rfl

theorem liveString_eq_ok_iff {text : String} :
    liveString handle h = .ok text ↔
      ∃ id, handle = .string id ∧ h.strings.slot? id = some { payload := text } := by
  constructor
  · intro hr
    obtain ⟨id, hid, hr⟩ := bind_eq_ok_iff.mp hr
    obtain ⟨s, hs, hr⟩ := bind_eq_ok_iff.mp hr
    obtain ⟨hs, hl⟩ := Arena.liveSlot_eq_ok_iff.mp hs
    cases hr
    exact ⟨id, stringId_eq_ok_iff.mp hid, by rw [hs, ← hl]⟩
  · rintro ⟨id, rfl, hs⟩
    have hl : h.strings.liveSlot .freed .string id = .ok { payload := text } :=
      Arena.liveSlot_eq_ok_iff.mpr ⟨hs, rfl⟩
    simp only [liveString, stringId, hl, ok_bind]
    rfl

theorem checkIndex_eq_ok_iff {index : Int} {length i : Nat} :
    checkIndex index length = .ok i ↔ index = i ∧ i < length := by
  unfold checkIndex
  split
  · rw [Except.ok.injEq]
    omega
  · simp only [reduceCtorEq, false_iff]
    omega

end Checks

section Successes
variable {h : Heap} {handle : Value}

theorem allocateArray_ok {size : Int} {r : Value × Heap}
    (hr : (allocateArray size).attempt h = .ok r) : 0 ≤ size ∧ size < sizeBound ∧
      r = (.array h.arrays.nextId, { h with
        arrays := h.arrays.allocate (Array.replicate size.toNat (.number 0)) }) := by
  rw [attempt_allocateArray] at hr
  by_cases hn : size < 0
  · simp only [hn, ↓reduceIte, reduceCtorEq] at hr
  · by_cases hb : size ≥ sizeBound
    · simp only [hn, hb, ↓reduceIte, reduceCtorEq] at hr
    · simp only [hn, hb, ↓reduceIte, Except.ok.injEq] at hr
      exact ⟨Int.not_lt.mp hn, Int.not_le.mp hb, hr.symm⟩

theorem getArray_ok {r : Array Value × Heap} (hr : (getArray handle).attempt h = .ok r) :
    ∃ id, handle = .array id ∧ h.arrays.slot? id = some { payload := r.1 } ∧ r.2 = h := by
  rw [attempt_getArray] at hr
  obtain ⟨⟨id, cells⟩, hl, hk⟩ := bind_eq_ok_iff.mp hr
  obtain ⟨rfl, hs⟩ := liveArray_eq_ok_iff.mp hl
  cases hk
  exact ⟨id, rfl, hs, rfl⟩

theorem arrayLength_ok {r : Nat × Heap} (hr : (arrayLength handle).attempt h = .ok r) :
    ∃ id cells, handle = .array id ∧ h.arrays.slot? id = some { payload := cells } ∧
      r = (cells.size, h) := by
  rw [attempt_arrayLength] at hr
  obtain ⟨⟨id, cells⟩, hl, hk⟩ := bind_eq_ok_iff.mp hr
  obtain ⟨rfl, hs⟩ := liveArray_eq_ok_iff.mp hl
  cases hk
  exact ⟨id, cells, rfl, hs, rfl⟩

theorem readCell_ok {index : Int} {r : Value × Heap}
    (hr : (readCell handle index).attempt h = .ok r) :
    ∃ id cells i, handle = .array id ∧ h.arrays.slot? id = some { payload := cells } ∧
      index = (i : Nat) ∧ cells[i]? = some r.1 ∧ r.2 = h := by
  rw [attempt_readCell] at hr
  obtain ⟨⟨id, cells⟩, hl, hk⟩ := bind_eq_ok_iff.mp hr
  obtain ⟨rfl, hs⟩ := liveArray_eq_ok_iff.mp hl
  obtain ⟨i, hi, hc⟩ := bind_eq_ok_iff.mp hk
  obtain ⟨hindex, hlt⟩ := checkIndex_eq_ok_iff.mp hi
  cases hc
  have hcell : cells[i]? = some (cells.getD i (.number 0)) := by
    rw [Array.getD_eq_getD_getElem?, Array.getElem?_eq_getElem hlt]
    rfl
  exact ⟨id, cells, i, rfl, hs, hindex, hcell, rfl⟩

theorem writeCell_ok {index : Int} {v : Value} {r : Unit × Heap}
    (hr : (writeCell handle index v).attempt h = .ok r) :
    ∃ id cells i, handle = .array id ∧ h.arrays.slot? id = some { payload := cells } ∧
      index = (i : Nat) ∧ i < cells.size ∧ r = ((), { h with
        arrays := h.arrays.setSlot id { payload := cells.setIfInBounds i v } }) := by
  rw [attempt_writeCell] at hr
  obtain ⟨⟨id, cells⟩, hl, hk⟩ := bind_eq_ok_iff.mp hr
  obtain ⟨rfl, hs⟩ := liveArray_eq_ok_iff.mp hl
  obtain ⟨i, hi, hc⟩ := bind_eq_ok_iff.mp hk
  obtain ⟨hindex, hlt⟩ := checkIndex_eq_ok_iff.mp hi
  cases hc
  exact ⟨id, cells, i, rfl, hs, hindex, hlt, rfl⟩

theorem freeArray_ok {r : Unit × Heap} (hr : (freeArray handle).attempt h = .ok r) :
    ∃ id cells, handle = .array id ∧ h.arrays.slot? id = some { payload := cells } ∧
      r = ((), { h with
        arrays := h.arrays.setSlot id { payload := cells, live := false } }) := by
  rw [attempt_freeArray] at hr
  obtain ⟨id, hid, hk⟩ := bind_eq_ok_iff.mp hr
  obtain ⟨⟨cells, live⟩, hs, hk⟩ := bind_eq_ok_iff.mp hk
  obtain ⟨hs, rfl⟩ := Arena.liveSlot_eq_ok_iff.mp hs
  cases hk
  exact ⟨id, cells, arrayId_eq_ok_iff.mp hid, hs, rfl⟩

theorem getString_ok {r : String × Heap} (hr : (getString handle).attempt h = .ok r) :
    ∃ id, handle = .string id ∧ h.strings.slot? id = some { payload := r.1 } ∧ r.2 = h := by
  rw [attempt_getString] at hr
  obtain ⟨text, hl, hk⟩ := bind_eq_ok_iff.mp hr
  obtain ⟨id, rfl, hs⟩ := liveString_eq_ok_iff.mp hl
  cases hk
  exact ⟨id, rfl, hs, rfl⟩

theorem stringLength_ok {r : Nat × Heap} (hr : (stringLength handle).attempt h = .ok r) :
    ∃ id text, handle = .string id ∧ h.strings.slot? id = some { payload := text } ∧
      r = (text.length, h) := by
  rw [attempt_stringLength] at hr
  obtain ⟨text, hl, hk⟩ := bind_eq_ok_iff.mp hr
  obtain ⟨id, rfl, hs⟩ := liveString_eq_ok_iff.mp hl
  cases hk
  exact ⟨id, text, rfl, hs, rfl⟩

theorem freeString_ok {r : Unit × Heap} (hr : (freeString handle).attempt h = .ok r) :
    ∃ id text, handle = .string id ∧ h.strings.slot? id = some { payload := text } ∧
      r = ((), { h with
        strings := h.strings.setSlot id { payload := text, live := false } }) := by
  rw [attempt_freeString] at hr
  obtain ⟨id, hid, hk⟩ := bind_eq_ok_iff.mp hr
  obtain ⟨⟨text, live⟩, hs, hk⟩ := bind_eq_ok_iff.mp hk
  obtain ⟨hs, rfl⟩ := Arena.liveSlot_eq_ok_iff.mp hs
  cases hk
  exact ⟨id, text, stringId_eq_ok_iff.mp hid, hs, rfl⟩

theorem concat_ok {a b : Value} {r : Value × Heap} (hr : (concat a b).attempt h = .ok r) :
    ∃ left right, liveString a h = .ok left ∧ liveString b h = .ok right ∧
      r = (.string h.strings.nextId,
        { h with strings := h.strings.allocate (left ++ right) }) := by
  rw [attempt_concat] at hr
  obtain ⟨left, hl, hk⟩ := bind_eq_ok_iff.mp hr
  obtain ⟨right, hb, hk⟩ := bind_eq_ok_iff.mp hk
  cases hk
  exact ⟨left, right, hl, hb, rfl⟩

end Successes

end Heap

end StackMachine