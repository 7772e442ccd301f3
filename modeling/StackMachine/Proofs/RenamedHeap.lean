import StackMachine.Proofs.HeapAction
import StackMachine.Proofs.Renaming

/-! Operations on two heaps that hold the same objects under other ids. They succeed or fail
together, read the same, and leave heaps that hold the same objects again. -/
namespace StackMachine

/-- Two heaps with the same objects, as far as the ids are mapped. -/
structure Heap.Renamed (ρ : Renaming) (h k : Heap) : Prop where
  arrays : h.arrays.Renamed ρ.arrays
    (fun cells others => List.Forall₂ ρ.Maps cells.toList others.toList) k.arrays
  strings : h.strings.Renamed ρ.strings Eq k.strings

/-- Results of one operation on two heaps. Their values are the same in the given sense, once the
ids of new objects are mapped. -/
def Renaming.Yields {α : Type} (ρ : Renaming) (same : Renaming → α → α → Prop) :
    Except Fault (α × Heap) → Except Fault (α × Heap) → Prop :=
  Agree Fault.Alike fun r s => ∃ σ, ρ.ExtendedBy σ ∧ same σ r.1 s.1 ∧ r.2.Renamed σ s.2

namespace Heap
variable {ρ : Renaming} {h k : Heap} {v w handle other : Value}

theorem Renamed.yields {α : Type} {same : Renaming → α → α → Prop} {x y : α}
    (hh : h.Renamed ρ k) (hxy : same ρ x y) : ρ.Yields same (.ok (x, h)) (.ok (y, k)) :=
  .ok ⟨ρ, .refl ρ, hxy, hh⟩

theorem allocateArray_renamed (hh : h.Renamed ρ k) (size : Int) :
    ρ.Yields Renaming.Maps ((allocateArray size).attempt h) ((allocateArray size).attempt k) := by
  rw [attempt_allocateArray, attempt_allocateArray]
  by_cases hn : size < 0
  · simp only [hn, ↓reduceIte]
    exact .error rfl
  · by_cases hb : size ≥ sizeBound
    · simp only [hn, hb, ↓reduceIte]
      exact .error rfl
    · simp only [hn, hb, ↓reduceIte]
      have hid := hh.arrays.nextId_unmapped
      have ht := hh.arrays.nextId_unused
      let σ : Renaming := ⟨Renaming.withPair ρ.arrays _ _ hid ht, ρ.strings⟩
      have he : ρ.ExtendedBy σ := ⟨Renaming.le_withPair _ hid ht, le_rfl⟩
      have hcells : List.Forall₂ ρ.Maps (Array.replicate size.toNat (Value.number 0)).toList
          (Array.replicate size.toNat (Value.number 0)).toList := by
        rw [Array.toList_replicate]
        exact Renaming.maps_replicate _ (.number 0)
      have hnew : k.arrays.nextId ∈ σ.arrays h.arrays.nextId :=
        Renaming.mem_withPair _ hid ht
      refine .ok ⟨σ, he, .array hnew, ?_, hh.strings⟩
      exact (hh.arrays.allocate hcells).mono fun hc => Renaming.maps_extend hc he

theorem allocateString_renamed (hh : h.Renamed ρ k) (text : String) :
    ρ.Yields Renaming.Maps ((allocateString text).attempt h)
      ((allocateString text).attempt k) := by
  have hid := hh.strings.nextId_unmapped
  have ht := hh.strings.nextId_unused
  let σ : Renaming := ⟨ρ.arrays, Renaming.withPair ρ.strings _ _ hid ht⟩
  have he : ρ.ExtendedBy σ := ⟨le_rfl, Renaming.le_withPair _ hid ht⟩
  have hnew : k.strings.nextId ∈ σ.strings h.strings.nextId :=
    Renaming.mem_withPair _ hid ht
  rw [attempt_allocateString, attempt_allocateString]
  refine .ok ⟨σ, he, .string hnew, ?_, hh.strings.allocate rfl⟩
  exact hh.arrays.mono fun hc => Renaming.maps_extend hc he

theorem arrayId_renamed (hv : ρ.Maps v w) :
    Agree Fault.Alike (fun id twin => twin ∈ ρ.arrays id) (arrayId v) (arrayId w) := by
  cases hv with
  | number n => exact .error rfl
  | array h => exact .ok h
  | string h => exact .error rfl

theorem stringId_renamed (hv : ρ.Maps v w) :
    Agree Fault.Alike (fun id twin => twin ∈ ρ.strings id) (stringId v) (stringId w) := by
  cases hv with
  | number n => exact .error rfl
  | array h => exact .error rfl
  | string h => exact .ok h

theorem liveArray_renamed (hh : h.Renamed ρ k) (hv : ρ.Maps v w) :
    Agree Fault.Alike
      (fun r s => s.1 ∈ ρ.arrays r.1 ∧ List.Forall₂ ρ.Maps r.2.toList s.2.toList)
      (liveArray v h) (liveArray w k) := by
  refine (arrayId_renamed hv).bind fun ht => ?_
  refine (hh.arrays.liveSlot ht .freed .array rfl).bind fun hst => ?_
  exact .ok ⟨ht, hst.2.2⟩

theorem liveString_renamed (hh : h.Renamed ρ k) (hv : ρ.Maps v w) :
    Agree Fault.Alike Eq (liveString v h) (liveString w k) := by
  refine (stringId_renamed hv).bind fun ht => ?_
  refine (hh.strings.liveSlot ht .freed .string rfl).bind fun hst => ?_
  exact .ok hst.2.2

theorem checkIndex_renamed (index : Int) {cells others : Array Value}
    (hc : List.Forall₂ ρ.Maps cells.toList others.toList) :
    Agree Fault.Alike Eq (checkIndex index cells.size) (checkIndex index others.size) := by
  have hs : cells.size = others.size := hc.length_eq
  rw [hs]
  cases checkIndex index others.size with
  | ok i => exact .ok rfl
  | error f => exact .error rfl

theorem arrayLength_renamed (hh : h.Renamed ρ k) (hv : ρ.Maps v w) :
    ρ.Yields (fun _ => Eq) ((arrayLength v).attempt h) ((arrayLength w).attempt k) := by
  rw [attempt_arrayLength, attempt_arrayLength]
  exact (liveArray_renamed hh hv).bind fun hc => hh.yields hc.2.length_eq

theorem readCell_renamed (hh : h.Renamed ρ k) (hv : ρ.Maps v w) (index : Int) :
    ρ.Yields Renaming.Maps ((readCell v index).attempt h) ((readCell w index).attempt k) := by
  rw [attempt_readCell, attempt_readCell]
  refine (liveArray_renamed hh hv).bind fun {r s} hc => ?_
  refine (checkIndex_renamed index hc.2).bind fun {i j} hi => ?_
  rw [← hi]
  apply hh.yields
  rw [Array.getD_eq_getD_getElem?, Array.getD_eq_getD_getElem?, ← Array.getElem?_toList,
    ← Array.getElem?_toList, ← List.getD_eq_getElem?_getD, ← List.getD_eq_getElem?_getD]
  exact Renaming.maps_getD hc.2 (.number 0) i

theorem writeCell_renamed (hh : h.Renamed ρ k) (hv : ρ.Maps v w) (ho : ρ.Maps handle other)
    (index : Int) :
    ρ.Yields (fun _ => Eq) ((writeCell handle index v).attempt h)
      ((writeCell other index w).attempt k) := by
  rw [attempt_writeCell, attempt_writeCell]
  refine (liveArray_renamed hh ho).bind fun {r s} hc => ?_
  refine (checkIndex_renamed index hc.2).bind fun {i j} hi => ?_
  rw [← hi]
  have hset : List.Forall₂ ρ.Maps (r.2.setIfInBounds i v).toList
      (s.2.setIfInBounds i w).toList := by
    rw [Array.toList_setIfInBounds, Array.toList_setIfInBounds]
    exact Renaming.maps_set hc.2 hv i
  exact .ok ⟨ρ, .refl ρ, rfl, hh.arrays.setSlot hc.1 ⟨rfl, fun _ => hset⟩, hh.strings⟩

theorem freeArray_renamed (hh : h.Renamed ρ k) (hv : ρ.Maps v w) :
    ρ.Yields (fun _ => Eq) ((freeArray v).attempt h) ((freeArray w).attempt k) := by
  rw [attempt_freeArray, attempt_freeArray]
  refine (arrayId_renamed hv).bind fun ht => ?_
  refine (hh.arrays.liveSlot ht .freedTwice .array rfl).bind fun hst => ?_
  exact .ok ⟨ρ, .refl ρ, rfl, hh.arrays.setSlot ht ⟨rfl, fun _ => hst.2.2⟩, hh.strings⟩

theorem freeString_renamed (hh : h.Renamed ρ k) (hv : ρ.Maps v w) :
    ρ.Yields (fun _ => Eq) ((freeString v).attempt h) ((freeString w).attempt k) := by
  rw [attempt_freeString, attempt_freeString]
  refine (stringId_renamed hv).bind fun ht => ?_
  refine (hh.strings.liveSlot ht .freedTwice .string rfl).bind fun hst => ?_
  exact .ok ⟨ρ, .refl ρ, rfl, hh.arrays, hh.strings.setSlot ht ⟨rfl, fun _ => hst.2.2⟩⟩

theorem getString_renamed (hh : h.Renamed ρ k) (hv : ρ.Maps v w) :
    ρ.Yields (fun _ => Eq) ((getString v).attempt h) ((getString w).attempt k) := by
  rw [attempt_getString, attempt_getString]
  exact (liveString_renamed hh hv).bind fun ht => hh.yields ht

theorem stringLength_renamed (hh : h.Renamed ρ k) (hv : ρ.Maps v w) :
    ρ.Yields (fun _ => Eq) ((stringLength v).attempt h) ((stringLength w).attempt k) := by
  rw [attempt_stringLength, attempt_stringLength]
  exact (liveString_renamed hh hv).bind fun ht => hh.yields (congrArg String.length ht)

/-- The joined text is the same, whatever the ids of its parts. -/
theorem concat_renamed (hh : h.Renamed ρ k) (hv : ρ.Maps v w) (ho : ρ.Maps handle other) :
    ρ.Yields Renaming.Maps ((concat v handle).attempt h) ((concat w other).attempt k) := by
  rw [attempt_concat, attempt_concat]
  refine (liveString_renamed hh hv).bind fun {left left'} hl => ?_
  refine (liveString_renamed hh ho).bind fun {right right'} hr => ?_
  rw [← hl, ← hr]
  exact allocateString_renamed hh (left ++ right)

end Heap

end StackMachine
