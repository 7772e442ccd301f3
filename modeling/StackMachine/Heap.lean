import StackMachine.Entries
import StackMachine.Fault

/-! The heap: one arena of arrays and one of strings. A freed slot stays in its arena, so that a
handle never comes to mean another object. -/
namespace StackMachine

structure Slot (α : Type) where
  payload : α
  live : Bool := true
  deriving DecidableEq, Repr

/-- Slots by id, and the id of the next object. -/
structure Arena (α : Type) where
  slots : List (Int × Slot α) := []
  nextId : Int := 1
  deriving DecidableEq, Repr

namespace Arena
variable {α : Type}

def slot? (a : Arena α) (id : Int) : Option (Slot α) := a.slots.lookup id

def setSlot (a : Arena α) (id : Int) (s : Slot α) : Arena α :=
  { a with slots := Entries.put id s a.slots }

def allocate (a : Arena α) (payload : α) : Arena α :=
  { slots := Entries.put a.nextId { payload } a.slots, nextId := a.nextId + 1 }

/-- The slot of an object that is live. A freed one is refused for the given reason. -/
def liveSlot (refusal : ArenaName → Int → Fault) (name : ArenaName) (a : Arena α) (id : Int) :
    Except Fault (Slot α) :=
  match a.slot? id with
  | none => .error (.neverAllocated name id)
  | some s => if s.live then .ok s else .error (refusal name id)

def liveCount (a : Arena α) : Nat := a.slots.countP (·.2.live)

@[simp] theorem nextId_setSlot (a : Arena α) (id : Int) (s : Slot α) :
    (a.setSlot id s).nextId = a.nextId := rfl

@[simp] theorem nextId_allocate (a : Arena α) (payload : α) :
    (a.allocate payload).nextId = a.nextId + 1 := rfl

@[simp] theorem slot?_setSlot (a : Arena α) (id other : Int) (s : Slot α) :
    (a.setSlot id s).slot? other = if other = id then some s else a.slot? other := by
  simp [slot?, setSlot]

@[simp] theorem slot?_allocate (a : Arena α) (payload : α) (id : Int) :
    (a.allocate payload).slot? id = if id = a.nextId then some { payload } else a.slot? id := by
  simp [slot?, allocate]

end Arena

structure Heap where
  arrays : Arena (Array Value) := {}
  strings : Arena String := {}
  deriving DecidableEq, Repr

namespace Heap

/-- An operation on a heap. One that fails leaves what it has written so far. -/
abbrev Action := EStateM Fault Heap

/-- The least number of elements that no array can have. -/
def sizeBound : Int := Int.pow 2 60

def liveArrays (h : Heap) : Nat := h.arrays.liveCount

def liveStrings (h : Heap) : Nat := h.strings.liveCount

def arrayId : Value → Except Fault Int
  | .array id => .ok id
  | v => .error (.notHandle .array v)

def stringId : Value → Except Fault Int
  | .string id => .ok id
  | v => .error (.notHandle .string v)

/-- A check of the heap that changes nothing. -/
def check {α : Type} (f : Heap → Except Fault α) : Action α := fun h =>
  match f h with
  | .ok a => .ok a h
  | .error e => .error e h

def liveArray (handle : Value) (h : Heap) : Except Fault (Int × Array Value) := do
  let id ← arrayId handle
  return (id, (← h.arrays.liveSlot .freed .array id).payload)

def liveString (handle : Value) (h : Heap) : Except Fault String := do
  let id ← stringId handle
  return (← h.strings.liveSlot .freed .string id).payload

/-- A new array holds zeros. -/
def allocateArray (size : Int) : Action Value := do
  if size < 0 then throw (.negativeSize size)
  if size ≥ sizeBound then throw (.sizeTooLarge size)
  let id := (← get).arrays.nextId
  modify fun h => { h with arrays := h.arrays.allocate (Array.replicate size.toNat (.number 0)) }
  return .array id

def getArray (handle : Value) : Action (Array Value) := do
  return (← check (liveArray handle)).2

def arrayLength (handle : Value) : Action Nat := do
  return (← getArray handle).size

def checkIndex (index : Int) (length : Nat) : Except Fault Nat :=
  if 0 ≤ index ∧ index < length then .ok index.toNat else .error (.indexOutside index length)

def readCell (handle : Value) (index : Int) : Action Value := do
  let cells ← getArray handle
  let i ← check fun _ => checkIndex index cells.size
  return cells.getD i (.number 0)

def writeCell (handle : Value) (index : Int) (v : Value) : Action Unit := do
  let (id, cells) ← check (liveArray handle)
  let i ← check fun _ => checkIndex index cells.size
  modify fun h => { h with arrays := h.arrays.setSlot id { payload := cells.setIfInBounds i v } }

def freeArray (handle : Value) : Action Unit := do
  let id ← check fun _ => arrayId handle
  let slot ← check fun h => h.arrays.liveSlot .freedTwice .array id
  modify fun h => { h with arrays := h.arrays.setSlot id { slot with live := false } }

def allocateString (s : String) : Action Value := do
  let id := (← get).strings.nextId
  modify fun h => { h with strings := h.strings.allocate s }
  return .string id

def getString (handle : Value) : Action String := check (liveString handle)

def stringLength (handle : Value) : Action Nat := do
  return (← getString handle).length

def freeString (handle : Value) : Action Unit := do
  let id ← check fun _ => stringId handle
  let slot ← check fun h => h.strings.liveSlot .freedTwice .string id
  modify fun h => { h with strings := h.strings.setSlot id { slot with live := false } }

/-- The joined text is a new string; the parts stay as they are. -/
def concat (a b : Value) : Action Value := do
  let left ← getString a
  let right ← getString b
  allocateString (left ++ right)

end Heap

end StackMachine
