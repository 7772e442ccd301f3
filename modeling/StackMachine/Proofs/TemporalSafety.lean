import StackMachine.Proofs.HeapHistory

/-! What any history of a heap keeps: ids are never issued twice, a slot never holds another object,
and a freed one is never live again. -/
namespace StackMachine.Heap
variable {h h' : Heap} {log : List Event} {e : Event} {name : ArenaName}

/-- A successful allocation in the arena. -/
def Event.allocatesIn (name : ArenaName) (e : Event) : Bool :=
  e.call.arena == name && e.call.allocates && e.result.isOk

/-- A successful free in the arena. -/
def Event.freesIn (name : ArenaName) (e : Event) : Bool :=
  e.call.arena == name && e.call.frees && e.result.isOk

/-- The results of the successful allocations in an arena, in their order. -/
def issues (name : ArenaName) (log : List Event) : List (Except Fault Reply) :=
  (log.filter (·.allocatesIn name)).map (·.result)

def allocations (name : ArenaName) (log : List Event) : Nat := log.countP (·.allocatesIn name)

def releases (name : ArenaName) (log : List Event) : Nat := log.countP (·.freesIn name)

/-- The results of allocations that return the first handles of an arena. -/
def firstHandles (name : ArenaName) (n : Nat) : List (Except Fault Reply) :=
  (Arena.firstIds n).map fun id => .ok (.value (name.handle id))

theorem firstHandles_succ (name : ArenaName) (n : Nat) :
    firstHandles name (n + 1) = firstHandles name n ++ [.ok (.value (name.handle (n + 1)))] := by
  simp only [firstHandles, Arena.firstIds_succ, List.map_append, List.map_cons, List.map_nil]

theorem allocations_append (name : ArenaName) (log : List Event) (e : Event) :
    allocations name (log ++ [e]) =
      allocations name log + if e.allocatesIn name then 1 else 0 := by
  rw [allocations, List.countP_append, List.countP_singleton]
  rfl

theorem releases_append (name : ArenaName) (log : List Event) (e : Event) :
    releases name (log ++ [e]) = releases name log + if e.freesIn name then 1 else 0 := by
  rw [releases, List.countP_append, List.countP_singleton]
  rfl

theorem issues_append (name : ArenaName) (log : List Event) (e : Event) :
    issues name (log ++ [e]) =
      issues name log ++ if e.allocatesIn name then [e.result] else [] := by
  cases he : e.allocatesIn name <;> simp [issues, he]

/-- A heap whose ids and live objects are those that a history accounts for. -/
structure Accounts (log : List Event) (h : Heap) : Prop where
  arrays : h.arrays.Ledger (allocations .array log) (releases .array log)
  strings : h.strings.Ledger (allocations .string log) (releases .string log)
  issues : ∀ name, issues name log = firstHandles name (allocations name log)

namespace Accounts

theorem empty : Accounts [] {} := ⟨.empty, .empty, fun _ => rfl⟩

theorem extend (ha : Accounts log h)
    (harrays : h'.arrays.Ledger
      (allocations .array log + if e.allocatesIn .array then 1 else 0)
      (releases .array log + if e.freesIn .array then 1 else 0))
    (hstrings : h'.strings.Ledger
      (allocations .string log + if e.allocatesIn .string then 1 else 0)
      (releases .string log + if e.freesIn .string then 1 else 0))
    (hissues : ∀ name, e.allocatesIn name = true →
      e.result = .ok (.value (name.handle (allocations name log + 1)))) :
    Accounts (log ++ [e]) h' := by
  refine ⟨?_, ?_, fun name => ?_⟩
  · rw [allocations_append, releases_append]
    exact harrays
  · rw [allocations_append, releases_append]
    exact hstrings
  · rw [issues_append, allocations_append, ha.issues]
    cases hn : e.allocatesIn name with
    | true =>
      rw [hissues name hn]
      exact (firstHandles_succ ..).symm
    | false => exact List.append_nil _

theorem step (ha : Accounts log h) (ht : Transition h e h') : Accounts (log ++ [e]) h' := by
  cases ht with
  | @kept c r hr =>
    -- Whether it failed or only read: the event is in neither count.
    have halloc (name : ArenaName) : Event.allocatesIn name ⟨c, r⟩ = false := by
      cases hk : r.isOk with
      | true => simp [Event.allocatesIn, hr hk]
      | false => simp [Event.allocatesIn, hk]
    have hfree (name : ArenaName) : Event.freesIn name ⟨c, r⟩ = false := by
      cases hk : r.isOk with
      | true => simp [Event.freesIn, hr hk]
      | false => simp [Event.freesIn, hk]
    refine ha.extend ?_ ?_ fun name hn => ?_
    · rw [halloc, hfree]
      exact ha.arrays
    · rw [halloc, hfree]
      exact ha.strings
    · rw [halloc] at hn
      cases hn
  | newArray size cells =>
    refine ha.extend (ha.arrays.allocate cells) ha.strings fun name hn => ?_
    cases name with
    | array => rw [ha.arrays.numbered.nextId]; rfl
    | string => cases hn
  | written i v hs =>
    refine ha.extend (ha.arrays.write hs rfl) ha.strings fun name hn => ?_
    cases name <;> cases hn
  | freedArray hs =>
    refine ha.extend (ha.arrays.free hs rfl rfl) ha.strings fun name hn => ?_
    cases name <;> cases hn
  | @newString c text hc hname hf =>
    refine ha.extend ?_ ?_ fun name hn => ?_
    · simpa [Event.allocatesIn, Event.freesIn, hname, hf] using ha.arrays
    · simpa [Event.allocatesIn, Event.freesIn, hname, hf, hc, Except.isOk, Except.toBool] using
        ha.strings.allocate text
    · cases name with
      | array => simp [Event.allocatesIn, hname] at hn
      | string => rw [ha.strings.numbered.nextId]; rfl
  | freedString hs =>
    refine ha.extend ha.arrays (ha.strings.free hs rfl rfl) fun name hn => ?_
    cases name <;> cases hn

theorem replay (ha : Accounts log h) (calls : List Call) :
    Accounts (log ++ (replay calls h).1) (Heap.replay calls h).2 := by
  induction calls generalizing log h with
  | nil =>
    rw [Heap.replay, List.append_nil]
    exact ha
  | cons c calls ih =>
    have hs := ih (ha.step (transition_outcome c h))
    rw [List.append_assoc] at hs
    exact hs

end Accounts

def SameSize (x y : Array Value) : Prop := x.size = y.size

theorem SameSize.refl (x : Array Value) : SameSize x x := rfl

/-- A heap that can come later: no slot is lost, revived or given to another object. -/
structure Later (h h' : Heap) : Prop where
  arrays : h.arrays.Later SameSize h'.arrays
  strings : h.strings.Later (· = ·) h'.strings

namespace Later

theorem refl (h : Heap) : h.Later h :=
  ⟨.refl SameSize.refl _, .refl Eq.refl _⟩

theorem trans {h'' : Heap} (hl : h.Later h') (hl' : h'.Later h'') : h.Later h'' :=
  ⟨hl.arrays.trans Eq.trans hl'.arrays, hl.strings.trans Eq.trans hl'.strings⟩

theorem step (ha : Accounts log h) (ht : Transition h e h') : h.Later h' := by
  have hr := refl h
  cases ht with
  | kept => exact hr
  | newArray size cells =>
    exact ⟨.allocate SameSize.refl cells ha.arrays.numbered.slot?_nextId, hr.strings⟩
  | written i v hs =>
    exact ⟨.setSlot SameSize.refl hs (Array.size_setIfInBounds ..).symm nofun, hr.strings⟩
  | freedArray hs => exact ⟨.setSlot SameSize.refl hs rfl fun _ => rfl, hr.strings⟩
  | newString text =>
    exact ⟨hr.arrays, .allocate Eq.refl text ha.strings.numbered.slot?_nextId⟩
  | freedString hs => exact ⟨hr.arrays, .setSlot Eq.refl hs rfl fun _ => rfl⟩

theorem replay (ha : Accounts log h) (calls : List Call) : h.Later (Heap.replay calls h).2 := by
  induction calls generalizing log h with
  | nil => exact refl h
  | cons c calls ih =>
    have ht := transition_outcome c h
    exact (step ha ht).trans (ih (ha.step ht))

end Later

/-! ### Freed objects -/

/-- Whether the object of an id has been freed. -/
def Freed (h : Heap) : ArenaName → Int → Prop
  | .array, id => ∃ s, h.arrays.slot? id = some s ∧ s.live = false
  | .string, id => ∃ s, h.strings.slot? id = some s ∧ s.live = false

def Call.free : ArenaName → Int → Call
  | .array, id => .freeArray (.array id)
  | .string, id => .freeString (.string id)

variable {id : Int} {c : Call}

theorem Freed.later (hf : h.Freed name id) (hl : h.Later h') : h'.Freed name id := by
  cases name with
  | array =>
    obtain ⟨s, hs, hd⟩ := hf
    obtain ⟨t, ht, -, hk⟩ := hl.arrays hs
    exact ⟨t, ht, hk hd⟩
  | string =>
    obtain ⟨s, hs, hd⟩ := hf
    obtain ⟨t, ht, -, hk⟩ := hl.strings hs
    exact ⟨t, ht, hk hd⟩

theorem Freed.liveArray (hf : h.Freed .array id) :
    liveArray (.array id) h = .error (.freed .array id) := by
  obtain ⟨s, hs, hd⟩ := hf
  have he : h.arrays.liveSlot .freed .array id = .error (.freed .array id) :=
    Arena.liveSlot_eq_error_iff.mpr (.inr ⟨s, hs, hd, rfl⟩)
  simp only [Heap.liveArray, arrayId, ok_bind, he, error_bind]

theorem Freed.liveString (hf : h.Freed .string id) :
    liveString (.string id) h = .error (.freed .string id) := by
  obtain ⟨s, hs, hd⟩ := hf
  have he : h.strings.liveSlot .freed .string id = .error (.freed .string id) :=
    Arena.liveSlot_eq_error_iff.mpr (.inr ⟨s, hs, hd, rfl⟩)
  simp only [Heap.liveString, stringId, ok_bind, he, error_bind]

/-- Both arenas count from one, and the handle of the freed text does not reach the next one. -/
example : (replay [.allocateArray 2, .allocateString "a", .freeString (.string 1),
    .allocateString "b", .stringLength (.string 1)] {}).1.map (·.result) =
      [.ok (.value (.array 1)), .ok (.value (.string 1)), .ok .done, .ok (.value (.string 2)),
        .error (.freed .string 1)] := rfl

end StackMachine.Heap
