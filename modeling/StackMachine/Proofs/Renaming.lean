import Mathlib.Data.List.Forall2
import Mathlib.Data.PEquiv
import StackMachine.Proofs.Arena
import StackMachine.Proofs.Outcome

/-! The same objects under other ids. Two heaps hold the same objects as far as a pair of partial
bijections between their ids goes, and either may hold more. No operation on the heap can tell one
from the other, and a new object extends the bijections. -/
namespace StackMachine

/-- Which id of a second heap stands for which id of a first one, in each arena. -/
structure Renaming where
  arrays : PEquiv Int Int
  strings : PEquiv Int Int

/-- Faults of one class. Their messages may name different ids. -/
def Fault.Alike (f g : Fault) : Prop := f.kind = g.kind

theorem Fault.Alike.refl (f : Fault) : f.Alike f := rfl

namespace Renaming
variable {ρ σ τ : Renaming} {v w : Value} {vs ws : List Value}

def ExtendedBy (ρ σ : Renaming) : Prop := ρ.arrays ≤ σ.arrays ∧ ρ.strings ≤ σ.strings

theorem ExtendedBy.refl (ρ : Renaming) : ρ.ExtendedBy ρ := ⟨le_rfl, le_rfl⟩

theorem ExtendedBy.trans (h : ρ.ExtendedBy σ) (h' : σ.ExtendedBy τ) : ρ.ExtendedBy τ :=
  ⟨h.1.trans h'.1, h.2.trans h'.2⟩

/-- A value of the first machine and the one that stands for it. -/
inductive Maps (ρ : Renaming) : Value → Value → Prop
  | number (n : Int64) : Maps ρ (.number n) (.number n)
  | array {id twin : Int} (h : twin ∈ ρ.arrays id) : Maps ρ (.array id) (.array twin)
  | string {id twin : Int} (h : twin ∈ ρ.strings id) : Maps ρ (.string id) (.string twin)

theorem Maps.extend (h : ρ.Maps v w) (he : ρ.ExtendedBy σ) : σ.Maps v w := by
  cases h with
  | number n => exact .number n
  | array h => exact .array (PEquiv.le_def.mp he.1 _ _ h)
  | string h => exact .string (PEquiv.le_def.mp he.2 _ _ h)

theorem maps_extend (h : List.Forall₂ ρ.Maps vs ws) (he : ρ.ExtendedBy σ) :
    List.Forall₂ σ.Maps vs ws := h.imp fun _ _ hv => hv.extend he

theorem maps_replicate (n : Nat) (h : ρ.Maps v w) :
    List.Forall₂ ρ.Maps (List.replicate n v) (List.replicate n w) := by
  induction n with
  | zero => exact .nil
  | succ n ih => exact .cons h ih

theorem maps_set (h : List.Forall₂ ρ.Maps vs ws) (hv : ρ.Maps v w) (k : Nat) :
    List.Forall₂ ρ.Maps (vs.set k v) (ws.set k w) := by
  induction h generalizing k with
  | nil => exact .nil
  | cons hx hr ih =>
    cases k with
    | zero => exact .cons hv hr
    | succ k => exact .cons hx (ih k)

theorem maps_getD (h : List.Forall₂ ρ.Maps vs ws) (hv : ρ.Maps v w) (k : Nat) :
    ρ.Maps (vs.getD k v) (ws.getD k w) := by
  induction h generalizing k with
  | nil => exact hv
  | cons hx hr ih =>
    cases k with
    | zero => exact hx
    | succ k => exact ih k

/-- A map of ids with one more pair, neither of which it knows. -/
def withPair (f : PEquiv Int Int) (id twin : Int) (hid : f id = none) (ht : f.symm twin = none) :
    PEquiv Int Int where
  toFun a := if a = id then some twin else f a
  invFun b := if b = twin then some id else f.symm b
  inv a b := by
    have hf : f.symm b = some a ↔ f a = some b := f.eq_some_iff
    by_cases ha : a = id <;> by_cases hb : b = twin
    · simp [ha, hb]
    · subst ha
      simp [hb, hf, hid, Ne.symm hb]
    · subst hb
      simp [ha, ← hf, ht, Ne.symm ha]
    · simp [ha, hb, hf]

theorem withPair_apply (f : PEquiv Int Int) {id twin : Int} (hid : f id = none)
    (ht : f.symm twin = none) (a : Int) :
    withPair f id twin hid ht a = if a = id then some twin else f a := rfl

theorem mem_withPair (f : PEquiv Int Int) {id twin : Int} (hid : f id = none)
    (ht : f.symm twin = none) : twin ∈ withPair f id twin hid ht id := by
  rw [withPair_apply, if_pos rfl]
  rfl

theorem le_withPair (f : PEquiv Int Int) {id twin : Int} (hid : f id = none)
    (ht : f.symm twin = none) : f ≤ withPair f id twin hid ht := by
  intro a b hb
  have hne : a ≠ id := by
    rintro rfl
    rw [hid] at hb
    cases hb
  rw [withPair_apply, if_neg hne]
  exact hb

end Renaming

/-! ### Slots and arenas -/

/-- Both slots are freed, or both are live and hold the same. -/
structure Slot.Alike {α : Type} (same : α → α → Prop) (s t : Slot α) : Prop where
  live : s.live = t.live
  payload : s.live = true → same s.payload t.payload

namespace Arena
variable {α : Type} {same : α → α → Prop} {f : PEquiv Int Int} {a b : Arena α} {id twin : Int}
  {s t : Slot α} {x y : α}

/-- The objects of two arenas are the same as far as the map of their ids goes. -/
structure Renamed (f : PEquiv Int Int) (same : α → α → Prop) (a b : Arena α) : Prop where
  left : a.Numbered
  right : b.Numbered
  slots : ∀ ⦃id twin⦄, twin ∈ f id →
    ∃ s t, a.slot? id = some s ∧ b.slot? twin = some t ∧ s.Alike same t

namespace Renamed

theorem of_numbered (ha : a.Numbered) (hb : b.Numbered) : a.Renamed ⊥ same b :=
  ⟨ha, hb, fun _ _ ht => by cases ht⟩

theorem mono {same' : α → α → Prop} (h : a.Renamed f same b)
    (hs : ∀ {x y}, same x y → same' x y) : a.Renamed f same' b := by
  refine ⟨h.left, h.right, ?_⟩
  intro id twin ht
  obtain ⟨s, t, ha, hb, hst⟩ := h.slots ht
  exact ⟨s, t, ha, hb, hst.live, fun hl => hs (hst.payload hl)⟩

theorem nextId_unmapped (h : a.Renamed f same b) : f a.nextId = none := by
  cases ht : f a.nextId with
  | none => rfl
  | some twin =>
    obtain ⟨s, t, hs, -⟩ := h.slots ht
    rw [h.left.slot?_nextId] at hs
    cases hs

theorem nextId_unused (h : a.Renamed f same b) : f.symm b.nextId = none := by
  cases hid : f.symm b.nextId with
  | none => rfl
  | some id =>
    obtain ⟨s, t, -, ht, -⟩ := h.slots (f.eq_some_iff.mp hid)
    rw [h.right.slot?_nextId] at ht
    cases ht

theorem allocate (h : a.Renamed f same b) (hxy : same x y) :
    (a.allocate x).Renamed (Renaming.withPair f a.nextId b.nextId h.nextId_unmapped h.nextId_unused)
      same (b.allocate y) := by
  refine ⟨h.left.allocate x, h.right.allocate y, ?_⟩
  intro id twin ht
  rw [Option.mem_def, Renaming.withPair_apply] at ht
  rw [slot?_allocate, slot?_allocate]
  by_cases hid : id = a.nextId
  · rw [if_pos hid] at ht
    cases ht
    rw [if_pos hid, if_pos rfl]
    exact ⟨_, _, rfl, rfl, rfl, fun _ => hxy⟩
  · rw [if_neg hid] at ht
    have hne : twin ≠ b.nextId := by
      rintro rfl
      have hu := h.nextId_unused
      rw [f.eq_some_iff.mpr ht] at hu
      cases hu
    rw [if_neg hid, if_neg hne]
    exact h.slots ht

theorem setSlot (h : a.Renamed f same b) (ht : twin ∈ f id) (hst : s.Alike same t) :
    (a.setSlot id s).Renamed f same (b.setSlot twin t) := by
  obtain ⟨s₀, t₀, hs₀, ht₀, -⟩ := h.slots ht
  refine ⟨h.left.setSlot hs₀, h.right.setSlot ht₀, ?_⟩
  intro other image ho
  rw [slot?_setSlot, slot?_setSlot]
  by_cases hid : other = id
  · have hi : image = twin := by
      rw [hid] at ho
      exact Option.mem_unique ho ht
    rw [if_pos hid, if_pos hi]
    exact ⟨s, t, rfl, rfl, hst⟩
  · -- The map sends no two ids to one, so that another slot is another slot in both arenas.
    have hi : image ≠ twin := by
      rintro rfl
      exact hid (f.inj ho ht)
    rw [if_neg hid, if_neg hi]
    exact h.slots ho

theorem liveSlot (h : a.Renamed f same b) (ht : twin ∈ f id) (refusal : ArenaName → Int → Fault)
    (name : ArenaName) (hr : (refusal name id).Alike (refusal name twin)) :
    Agree Fault.Alike (fun s t => s.live = true ∧ t.live = true ∧ same s.payload t.payload)
      (a.liveSlot refusal name id) (b.liveSlot refusal name twin) := by
  obtain ⟨s, t, hs, ht, hst⟩ := h.slots ht
  unfold Arena.liveSlot
  rw [hs, ht]
  have hlive := hst.live
  cases hl : s.live with
  | true =>
    rw [hl] at hlive
    simp only [hl, ← hlive, ↓reduceIte]
    exact .ok ⟨hl, hlive.symm, hst.payload hl⟩
  | false =>
    rw [hl] at hlive
    simp only [hl, ← hlive, Bool.false_eq_true, ↓reduceIte]
    exact .error hr

end Renamed

end Arena

end StackMachine
