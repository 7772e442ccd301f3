import StackMachine.Heap

/-! Arenas in the course of time. An arena issues its ids from one upwards and keeps the slot of
each, so that a slot is either live or has been freed for good. -/
namespace StackMachine.Arena
variable {α : Type} {a b c : Arena α} {id : Int} {s t : Slot α} {n : Nat}

def ids (a : Arena α) : List Int := a.slots.map (·.1)

theorem mem_ids_iff : id ∈ a.ids ↔ ∃ s, a.slot? id = some s := Entries.mem_keys_iff

theorem ids_setSlot (hs : a.slot? id = some s) : (a.setSlot id t).ids = a.ids := by
  have hid : id ∈ a.ids := mem_ids_iff.mpr ⟨s, hs⟩
  unfold ids setSlot at *
  rw [Entries.keys_put, if_pos hid]

theorem ids_allocate (payload : α) (hn : a.nextId ∉ a.ids) :
    (a.allocate payload).ids = a.ids ++ [a.nextId] := by
  unfold ids allocate at *
  rw [Entries.keys_put, if_neg hn]

/-! ### The ids that are issued -/

/-- The slots of an arena are those of the ids that it has issued. -/
structure Numbered (a : Arena α) : Prop where
  pos : 1 ≤ a.nextId
  slot_iff : ∀ id, (∃ s, a.slot? id = some s) ↔ 1 ≤ id ∧ id < a.nextId

theorem Numbered.slot?_nextId (h : a.Numbered) : a.slot? a.nextId = none := by
  cases hs : a.slot? a.nextId with
  | none => rfl
  | some s =>
    have hid := (h.slot_iff a.nextId).mp ⟨s, hs⟩
    omega

theorem Numbered.allocate (h : a.Numbered) (x : α) : (a.allocate x).Numbered := by
  have hpos := h.pos
  constructor
  · rw [nextId_allocate]
    omega
  · intro id
    rw [slot?_allocate, nextId_allocate]
    by_cases hid : id = a.nextId
    · rw [if_pos hid]
      constructor
      · intro _
        omega
      · intro _
        exact ⟨_, rfl⟩
    · rw [if_neg hid, h.slot_iff]
      omega

theorem Numbered.setSlot (h : a.Numbered) (hs : a.slot? id = some s) :
    (a.setSlot id t).Numbered := by
  refine ⟨h.pos, ?_⟩
  intro other
  rw [slot?_setSlot, nextId_setSlot]
  by_cases ho : other = id
  · have hid := (h.slot_iff id).mp ⟨s, hs⟩
    simp [ho, hid]
  · rw [if_neg ho, h.slot_iff]

def firstIds (n : Nat) : List Int := (List.range n).map fun k : Nat => (k : Int) + 1

theorem firstIds_succ (n : Nat) : firstIds (n + 1) = firstIds n ++ [(n : Int) + 1] := by
  simp [firstIds, List.range_succ]

theorem mem_firstIds : id ∈ firstIds n ↔ 1 ≤ id ∧ id ≤ n := by
  simp only [firstIds, List.mem_map, List.mem_range]
  constructor
  · rintro ⟨k, hk, rfl⟩
    omega
  · intro h
    exact ⟨(id - 1).toNat, by omega, by omega⟩

/-- An arena that has issued so many ids. -/
structure Issued (a : Arena α) (n : Nat) : Prop where
  ids : a.ids = firstIds n
  nextId : a.nextId = n + 1

namespace Issued

theorem empty : Issued ({} : Arena α) 0 := ⟨rfl, rfl⟩

theorem mem_ids_iff (h : a.Issued n) : id ∈ a.ids ↔ 1 ≤ id ∧ id < a.nextId := by
  rw [h.ids, mem_firstIds, h.nextId]
  omega

theorem exists_slot (h : a.Issued n) (hid : 1 ≤ id ∧ id < a.nextId) : ∃ s, a.slot? id = some s :=
  Arena.mem_ids_iff.mp (h.mem_ids_iff.mpr hid)

theorem numbered (h : a.Issued n) : a.Numbered := by
  constructor
  · rw [h.nextId]
    omega
  · intro id
    rw [← Arena.mem_ids_iff, h.mem_ids_iff]

theorem slot?_nextId (h : a.Issued n) : a.slot? a.nextId = none := h.numbered.slot?_nextId

theorem allocate (h : a.Issued n) (payload : α) : (a.allocate payload).Issued (n + 1) := by
  constructor
  · rw [ids_allocate payload fun hid => absurd (h.mem_ids_iff.mp hid).2 (Int.lt_irrefl _), h.ids,
      h.nextId, firstIds_succ]
  · rw [nextId_allocate, h.nextId]
    rfl

theorem setSlot (h : a.Issued n) (hs : a.slot? id = some s) : (a.setSlot id t).Issued n :=
  ⟨(ids_setSlot hs).trans h.ids, h.nextId⟩

end Issued

/-! ### The objects that are live -/

theorem liveCount_setSlot (hs : a.slot? id = some s) :
    (a.setSlot id t).liveCount + (if s.live then 1 else 0) =
      a.liveCount + (if t.live then 1 else 0) := by
  have hc := Entries.countP_put (fun e => e.2.live) id t a.slots
  rw [show a.slots.lookup id = some s from hs] at hc
  simpa [liveCount, Arena.setSlot, List.countP_cons] using hc

theorem liveCount_allocate (payload : α) (hn : a.slot? a.nextId = none) :
    (a.allocate payload).liveCount = a.liveCount + 1 := by
  have hc := Entries.countP_put (fun e => e.2.live) a.nextId { payload } a.slots
  rw [show a.slots.lookup a.nextId = none from hn] at hc
  simpa [liveCount, Arena.allocate] using hc

/-- An arena that has issued so many ids and freed so many of their objects. -/
structure Ledger (a : Arena α) (issued freed : Nat) : Prop where
  numbered : a.Issued issued
  live : a.liveCount + freed = issued

namespace Ledger
variable {issued freed : Nat}

theorem empty : Ledger ({} : Arena α) 0 0 := ⟨.empty, rfl⟩

theorem allocate (h : a.Ledger issued freed) (payload : α) :
    (a.allocate payload).Ledger (issued + 1) freed := by
  refine ⟨h.numbered.allocate payload, ?_⟩
  have hl := h.live
  rw [liveCount_allocate payload h.numbered.slot?_nextId]
  omega

theorem write (h : a.Ledger issued freed) (hs : a.slot? id = some s) (ht : t.live = s.live) :
    (a.setSlot id t).Ledger issued freed := by
  refine ⟨h.numbered.setSlot hs, ?_⟩
  have hl := h.live
  have hc : (a.setSlot id t).liveCount + _ = _ := liveCount_setSlot hs
  rw [ht] at hc
  omega

theorem free (h : a.Ledger issued freed) (hs : a.slot? id = some s) (hl : s.live = true)
    (ht : t.live = false) : (a.setSlot id t).Ledger issued (freed + 1) := by
  refine ⟨h.numbered.setSlot hs, ?_⟩
  have hk := h.live
  have hc : (a.setSlot id t).liveCount + _ = _ := liveCount_setSlot hs
  simp only [hl, ht, ↓reduceIte, Bool.false_eq_true] at hc
  omega

end Ledger

/-! ### Later states -/

/-- Whether every slot of the first arena is in the second, holds an object that is the same in the
given sense, and has not come to life again. -/
def Later (same : α → α → Prop) (a b : Arena α) : Prop :=
  ∀ ⦃id s⦄, a.slot? id = some s →
    ∃ t, b.slot? id = some t ∧ same s.payload t.payload ∧ (s.live = false → t.live = false)

namespace Later
variable {same : α → α → Prop}

theorem refl (hr : ∀ x, same x x) (a : Arena α) : a.Later same a :=
  fun _ s hs => ⟨s, hs, hr _, fun h => h⟩

theorem trans (ht : ∀ {x y z}, same x y → same y z → same x z) (h : a.Later same b)
    (h' : b.Later same c) : a.Later same c := by
  intro id s hs
  obtain ⟨t, hb, hst, hl⟩ := h hs
  obtain ⟨u, hc, htu, hl'⟩ := h' hb
  exact ⟨u, hc, ht hst htu, hl' ∘ hl⟩

theorem allocate (hr : ∀ x, same x x) (payload : α) (hn : a.slot? a.nextId = none) :
    a.Later same (a.allocate payload) := by
  intro id s hs
  have hne : id ≠ a.nextId := by
    rintro rfl
    rw [hn] at hs
    cases hs
  rw [slot?_allocate, if_neg hne]
  exact ⟨s, hs, hr _, fun h => h⟩

theorem setSlot (hr : ∀ x, same x x) (hs : a.slot? id = some s) (hp : same s.payload t.payload)
    (hl : s.live = false → t.live = false) : a.Later same (a.setSlot id t) := by
  intro other u hu
  rw [slot?_setSlot]
  by_cases ho : other = id
  · rw [ho, hs] at hu
    cases hu
    rw [if_pos ho]
    exact ⟨t, rfl, hp, hl⟩
  · rw [if_neg ho]
    exact ⟨u, hu, hr _, fun h => h⟩

end Later

end StackMachine.Arena
