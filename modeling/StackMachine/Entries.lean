/-! Entries by key, in the order in which the keys were first put. The first one of a key counts. -/
namespace StackMachine.Entries
variable {κ α : Type} [BEq κ]

/-- A key that is put again keeps its place. -/
def put (key : κ) (v : α) : List (κ × α) → List (κ × α)
  | [] => [(key, v)]
  | (k, w) :: rest => if k == key then (k, v) :: rest else (k, w) :: put key v rest

variable [LawfulBEq κ]

@[simp] theorem lookup_put (key other : κ) (v : α) (entries : List (κ × α)) :
    (put key v entries).lookup other =
      if other == key then some v else entries.lookup other := by
  induction entries with
  | nil =>
      by_cases h : other = key
      · simp [put, h]
      · simp [put, List.lookup_cons, beq_false_of_ne h]
  | cons e rest ih =>
      obtain ⟨k, w⟩ := e
      by_cases hk : k = key
      · by_cases h : other = key
        · simp [put, hk, h]
        · simp [put, List.lookup_cons, hk, beq_false_of_ne h]
      · by_cases h : other = k
        · simp [put, hk, h]
        · simp [put, List.lookup_cons, hk, ih, beq_false_of_ne h]

@[simp] theorem keys_put (key : κ) (v : α) (entries : List (κ × α)) :
    (put key v entries).map (·.1) =
      if key ∈ entries.map (·.1) then entries.map (·.1) else entries.map (·.1) ++ [key] := by
  induction entries with
  | nil => simp [put]
  | cons e rest ih =>
      obtain ⟨k, w⟩ := e
      by_cases hk : k = key
      · simp [put, hk]
      · simp only [put, beq_false_of_ne hk, Bool.false_eq_true, ↓reduceIte, List.map_cons, ih,
          List.mem_cons, Ne.symm hk, false_or]
        by_cases h : key ∈ rest.map (·.1) <;> simp [h]

theorem mem_keys_iff {key : κ} {entries : List (κ × α)} :
    key ∈ entries.map (·.1) ↔ ∃ v, entries.lookup key = some v := by
  rw [← Option.isSome_iff_exists, List.lookup_isSome_iff, List.mem_map]
  constructor
  · rintro ⟨e, he, rfl⟩
    exact ⟨e, he, BEq.rfl⟩
  · rintro ⟨e, he, hkey⟩
    exact ⟨e, he, (beq_iff_eq.mp hkey).symm⟩

/-- A put adds its entry to a count and takes away the one that it replaces. -/
theorem countP_put (p : κ × α → Bool) (key : κ) (v : α) (entries : List (κ × α)) :
    (put key v entries).countP p + ((entries.lookup key).toList.countP fun w => p (key, w)) =
      entries.countP p + if p (key, v) then 1 else 0 := by
  induction entries with
  | nil => simp [put, List.countP_cons]
  | cons e rest ih =>
      obtain ⟨k, w⟩ := e
      by_cases hk : k = key
      · simp only [put, hk, BEq.rfl, ↓reduceIte, List.countP_cons, List.lookup_cons,
          Option.toList_some, List.countP_nil]
        omega
      · simp only [put, beq_false_of_ne hk, beq_false_of_ne (Ne.symm hk), Bool.false_eq_true,
          ↓reduceIte, List.countP_cons, List.lookup_cons]
        omega

theorem mem_put {key : κ} {v : α} {entries : List (κ × α)} {e : κ × α}
    (h : e ∈ put key v entries) : e = (key, v) ∨ e ∈ entries := by
  induction entries with
  | nil => exact .inl (List.mem_singleton.mp h)
  | cons first rest ih =>
      obtain ⟨k, w⟩ := first
      by_cases hk : k = key
      · simp only [put, hk, BEq.rfl, ↓reduceIte, List.mem_cons] at h
        exact h.imp_right (List.mem_cons_of_mem _)
      · simp only [put, beq_false_of_ne hk, Bool.false_eq_true, ↓reduceIte, List.mem_cons] at h
        obtain rfl | h := h
        · exact .inr (List.mem_cons_self ..)
        · exact (ih h).imp_right (List.mem_cons_of_mem _)

/-- Where no key occurs twice, every entry is found. -/
theorem lookup_eq_some_iff_mem {entries : List (κ × α)} (hn : (entries.map (·.1)).Nodup) {key : κ}
    {v : α} : entries.lookup key = some v ↔ (key, v) ∈ entries := by
  induction entries with
  | nil => simp
  | cons first rest ih =>
      obtain ⟨k, w⟩ := first
      obtain ⟨hk, hrest⟩ := List.nodup_cons.mp hn
      by_cases h : key = k
      · have hnot : (k, v) ∉ rest := fun hmem => hk (List.mem_map_of_mem (f := (·.1)) hmem)
        simp [h, hnot, eq_comm]
      · simp [List.lookup_cons, beq_false_of_ne h, h, ih hrest]

theorem lookup_perm {entries entries' : List (κ × α)} (hp : entries.Perm entries')
    (hn : (entries.map (·.1)).Nodup) (key : κ) : entries.lookup key = entries'.lookup key := by
  have hn' : (entries'.map (·.1)).Nodup := (hp.map _).nodup_iff.mp hn
  refine Option.ext fun v => ?_
  rw [lookup_eq_some_iff_mem hn, lookup_eq_some_iff_mem hn', hp.mem_iff]

end StackMachine.Entries
