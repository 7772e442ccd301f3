import StackMachine.Proofs.Arena
import StackMachine.Proofs.HeapAction

/-! Histories of a heap: any calls of its operations, with any arguments, in any order. What a call
does to the heap is one of six transitions, and each statement about histories comes from those. -/
namespace StackMachine

def ArenaName.handle : ArenaName → Int → Value
  | array => .array
  | string => .string

namespace Heap

/-- A call of an operation. -/
inductive Call where
  | allocateArray (size : Int)
  | getArray (handle : Value)
  | arrayLength (handle : Value)
  | readCell (handle : Value) (index : Int)
  | writeCell (handle : Value) (index : Int) (v : Value)
  | freeArray (handle : Value)
  | allocateString (text : String)
  | getString (handle : Value)
  | stringLength (handle : Value)
  | freeString (handle : Value)
  | concat (a b : Value)
  deriving DecidableEq, Repr

/-- What a call returns. -/
inductive Reply where
  | done
  | value (v : Value)
  | length (n : Nat)
  | cells (cells : Array Value)
  | text (text : String)
  deriving DecidableEq, Repr

/-- A call that was made and its result. -/
structure Event where
  call : Call
  result : Except Fault Reply

/-- The result of an operation and the heap that it leaves, also where it fails. -/
def Action.outcome (a : Action Reply) (h : Heap) : Except Fault Reply × Heap :=
  match a h with
  | .ok r h' => (.ok r, h')
  | .error f h' => (.error f, h')

namespace Call

def perform : Call → Action Reply
  | allocateArray size => .value <$> Heap.allocateArray size
  | getArray handle => .cells <$> Heap.getArray handle
  | arrayLength handle => .length <$> Heap.arrayLength handle
  | readCell handle index => .value <$> Heap.readCell handle index
  | writeCell handle index v => (fun _ => .done) <$> Heap.writeCell handle index v
  | freeArray handle => (fun _ => .done) <$> Heap.freeArray handle
  | allocateString text => .value <$> Heap.allocateString text
  | getString handle => .text <$> Heap.getString handle
  | stringLength handle => .length <$> Heap.stringLength handle
  | freeString handle => (fun _ => .done) <$> Heap.freeString handle
  | concat a b => .value <$> Heap.concat a b

def outcome (c : Call) (h : Heap) : Except Fault Reply × Heap := c.perform.outcome h

/-- The arena that the call works on. -/
def arena : Call → ArenaName
  | allocateArray _ | getArray _ | arrayLength _ => .array
  | readCell .. | writeCell .. | freeArray _ => .array
  | allocateString _ | getString _ | stringLength _ | freeString _ | concat .. => .string

def allocates : Call → Bool
  | allocateArray _ | allocateString _ | concat .. => true
  | _ => false

def frees : Call → Bool
  | freeArray _ | freeString _ => true
  | _ => false

end Call

/-- Makes the calls one after another, whatever comes of them. -/
def replay : List Call → Heap → List Event × Heap
  | [], h => ([], h)
  | c :: calls, h =>
      (⟨c, (c.outcome h).1⟩ :: (replay calls (c.outcome h).2).1, (replay calls (c.outcome h).2).2)

/-! ### What one call does -/

/-- The ways in which a call can leave the heap. -/
inductive Transition (h : Heap) : Event → Heap → Prop
  | kept {c : Call} {r : Except Fault Reply}
      (hr : r.isOk = true → c.allocates = false ∧ c.frees = false) : Transition h ⟨c, r⟩ h
  | newArray (size : Int) (cells : Array Value) :
      Transition h ⟨.allocateArray size, .ok (.value (.array h.arrays.nextId))⟩
        { h with arrays := h.arrays.allocate cells }
  | written {id index : Int} {cells : Array Value} (i : Nat) (v : Value)
      (hs : h.arrays.slot? id = some { payload := cells }) :
      Transition h ⟨.writeCell (.array id) index v, .ok .done⟩
        { h with arrays := h.arrays.setSlot id { payload := cells.setIfInBounds i v } }
  | freedArray {id : Int} {cells : Array Value}
      (hs : h.arrays.slot? id = some { payload := cells }) :
      Transition h ⟨.freeArray (.array id), .ok .done⟩
        { h with arrays := h.arrays.setSlot id { payload := cells, live := false } }
  | newString {c : Call} (text : String) (hc : c.allocates = true) (ha : c.arena = .string)
      (hf : c.frees = false) :
      Transition h ⟨c, .ok (.value (.string h.strings.nextId))⟩
        { h with strings := h.strings.allocate text }
  | freedString {id : Int} {text : String}
      (hs : h.strings.slot? id = some { payload := text }) :
      Transition h ⟨.freeString (.string id), .ok .done⟩
        { h with strings := h.strings.setSlot id { payload := text, live := false } }

theorem outcome_map {α : Type} {a : Action α} (ha : a.Atomic) (f : α → Reply) (h : Heap) :
    Action.outcome (f <$> a) h = match a.attempt h with
      | .ok r => (.ok (f r.1), r.2)
      | .error e => (.error e, h) := by
  cases hr : a h with
  | ok x h' => simp only [Action.outcome, Action.attempt, Functor.map, EStateM.map, hr]
  | error e h' =>
    simp only [Action.outcome, Action.attempt, Functor.map, EStateM.map, hr]
    rw [ha hr]

theorem transition_map {α : Type} {a : Action α} (ha : a.Atomic) (f : α → Reply) {c : Call}
    {h : Heap} (hc : ∀ {r}, a.attempt h = .ok r → Transition h ⟨c, .ok (f r.1)⟩ r.2) :
    Transition h ⟨c, (Action.outcome (f <$> a) h).1⟩ (Action.outcome (f <$> a) h).2 := by
  rw [outcome_map ha]
  cases hr : a.attempt h with
  | ok r => exact hc hr
  | error e => exact .kept fun he => by cases he

theorem transition_outcome (c : Call) (h : Heap) :
    Transition h ⟨c, (c.outcome h).1⟩ (c.outcome h).2 := by
  cases c with
  | allocateArray size =>
    refine transition_map (allocateArray_atomic size) _ fun hr => ?_
    obtain ⟨-, -, rfl⟩ := allocateArray_ok hr
    exact .newArray size _
  | getArray handle =>
    refine transition_map (getArray_readOnly handle).atomic _ fun hr => ?_
    obtain ⟨id, -, -, hr⟩ := getArray_ok hr
    rw [hr]
    exact .kept fun _ => ⟨rfl, rfl⟩
  | arrayLength handle =>
    refine transition_map (arrayLength_readOnly handle).atomic _ fun hr => ?_
    obtain ⟨id, cells, -, -, rfl⟩ := arrayLength_ok hr
    exact .kept fun _ => ⟨rfl, rfl⟩
  | readCell handle index =>
    refine transition_map (readCell_readOnly handle index).atomic _ fun hr => ?_
    obtain ⟨id, cells, i, -, -, -, -, hr⟩ := readCell_ok hr
    rw [hr]
    exact .kept fun _ => ⟨rfl, rfl⟩
  | writeCell handle index v =>
    refine transition_map (writeCell_atomic handle index v) _ fun hr => ?_
    obtain ⟨id, cells, i, rfl, hs, -, -, rfl⟩ := writeCell_ok hr
    exact .written i v hs
  | freeArray handle =>
    refine transition_map (freeArray_atomic handle) _ fun hr => ?_
    obtain ⟨id, cells, rfl, hs, rfl⟩ := freeArray_ok hr
    exact .freedArray hs
  | allocateString text =>
    refine transition_map (allocateString_atomic text) _ fun hr => ?_
    cases hr
    exact .newString text rfl rfl rfl
  | getString handle =>
    refine transition_map (getString_readOnly handle).atomic _ fun hr => ?_
    obtain ⟨id, -, -, hr⟩ := getString_ok hr
    rw [hr]
    exact .kept fun _ => ⟨rfl, rfl⟩
  | stringLength handle =>
    refine transition_map (stringLength_readOnly handle).atomic _ fun hr => ?_
    obtain ⟨id, text, -, -, rfl⟩ := stringLength_ok hr
    exact .kept fun _ => ⟨rfl, rfl⟩
  | freeString handle =>
    refine transition_map (freeString_atomic handle) _ fun hr => ?_
    obtain ⟨id, text, rfl, hs, rfl⟩ := freeString_ok hr
    exact .freedString hs
  | concat a b =>
    refine transition_map (concat_atomic a b) _ fun hr => ?_
    obtain ⟨left, right, -, -, rfl⟩ := concat_ok hr
    exact .newString _ rfl rfl rfl

end Heap

end StackMachine
