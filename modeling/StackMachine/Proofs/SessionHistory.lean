import StackMachine.Proofs.AssembledRun
import StackMachine.Session

/-! Histories of a session. Only the calls that succeed and do not just look count for what follows,
and after a load or a reset only those from there on. -/
namespace StackMachine

/-- The status that a snapshot stands for. -/
def Snapshot.status (shot : Snapshot) : Status :=
  if shot.halted then .halted else if shot.instructions.isEmpty then .idle else .loaded

namespace Session

inductive Call where
  | load (text : String)
  | step | reset | state | status
  deriving DecidableEq, Repr

inductive Reply where
  | snapshot (shot : Snapshot)
  | status (status : Status)
  | failure (e : SessionError)
  deriving DecidableEq, Repr

variable {s s' : Session} {c : Call}

def conclude : EStateM.Result SessionError Session Snapshot → Reply × Session
  | .ok shot s => (.snapshot shot, s)
  | .error e s => (.failure e, s)

/-- The reply to a call, and the session after it. -/
def perform (s : Session) : Call → Reply × Session
  | .load text => conclude (load text s)
  | .step => conclude (step s)
  | .reset => conclude (reset s)
  | .state => conclude (state s)
  | .status => (.status s.status, s)

/-- The calls with their replies. -/
def trace : Session → List Call → List (Call × Reply)
  | _, [] => []
  | s, c :: rest => (c, (s.perform c).1) :: trace (s.perform c).2 rest

/-- The session after the calls. -/
def after : Session → List Call → Session
  | s, [] => s
  | s, c :: rest => after (s.perform c).2 rest

/-- The call succeeded, and it is one that may change a session. -/
def counts : Call × Reply → Bool
  | (.state, _) | (.status, _) | (_, .failure _) => false
  | _ => true

/-- The ways in which a call can change a session. -/
inductive Moves (s : Session) : Call → Session → Prop
  | load {text : String} {p : Program} : assemble text = .ok p →
      Moves s (.load text) ⟨some (.ofProgram p)⟩
  | step {m m' : Machine} : s.machine? = some m → m.next = .ok m' → Moves s .step ⟨some m'⟩
  | reset : Moves s .reset {}

theorem perform_load_of_ok {text : String} {p : Program} (h : assemble text = .ok p) :
    s.perform (.load text) =
      (.snapshot (.ofMachine (.ofProgram p)), ⟨some (.ofProgram p)⟩) := by
  have hl : load text s =
      .ok (Snapshot.ofMachine (.ofProgram p)) ⟨some (.ofProgram p)⟩ := by
    unfold load
    rw [h]
    rfl
  rw [perform, hl]
  rfl

theorem perform_load_of_error {text : String} {e : AssemblyError} (h : assemble text = .error e) :
    s.perform (.load text) = (.failure (.assembly e), s) := by
  have hl : load text s = .error (.assembly e) s := by
    unfold load
    rw [h]
    rfl
  rw [perform, hl]
  rfl

theorem perform_step_of_none (h : s.machine? = none) :
    s.perform .step = (.failure (.step (.fault { fault := .nothingLoaded })), s) := by
  obtain ⟨_⟩ := s
  cases h
  rfl

theorem perform_step_of_ok {m m' : Machine} (h : s.machine? = some m) (hm : m.next = .ok m') :
    s.perform .step = (.snapshot (.ofMachine m'), ⟨some m'⟩) := by
  obtain ⟨_⟩ := s
  cases h
  have hstep : m.step = .ok () m' := Machine.step_eq_ok_iff.mpr hm
  have hadvance : advance ⟨some m⟩ = .ok () ⟨some m'⟩ := by simp only [advance, hstep]
  have hs : step ⟨some m⟩ = .ok (Snapshot.ofMachine m') ⟨some m'⟩ := by
    show EStateM.bind advance (fun _ => state) ⟨some m⟩ = _
    simp only [EStateM.bind, hadvance]
    rfl
  rw [perform, hs]
  rfl

theorem perform_step_of_error {m : Machine} {e : StepError} (h : s.machine? = some m)
    (hm : m.next = .error e) : s.perform .step = (.failure (.step e), s) := by
  obtain ⟨_⟩ := s
  cases h
  have hstep : m.step = .error e m := Machine.step_eq_error_iff.mpr ⟨hm, rfl⟩
  have hadvance : advance ⟨some m⟩ = .error (.step e) ⟨some m⟩ := by simp only [advance, hstep]
  have hs : step ⟨some m⟩ = .error (.step e) ⟨some m⟩ := by
    show EStateM.bind advance (fun _ => state) ⟨some m⟩ = _
    simp only [EStateM.bind, hadvance]
  rw [perform, hs]
  rfl

/-- A call that does not count leaves the session as it was; any other shows the new one. -/
theorem perform_cases (s : Session) (c : Call) :
    counts (c, (s.perform c).1) = false ∧ (s.perform c).2 = s ∨
      counts (c, (s.perform c).1) = true ∧ Moves s c (s.perform c).2 ∧
        (s.perform c).1 = .snapshot (s.perform c).2.snapshot := by
  cases c with
  | load text =>
    cases h : assemble text with
    | error e => exact .inl (by simp [perform_load_of_error h, counts])
    | ok p =>
      rw [perform_load_of_ok h]
      exact .inr ⟨rfl, .load h, rfl⟩
  | step =>
    cases h : s.machine? with
    | none => exact .inl (by simp [perform_step_of_none h, counts])
    | some m =>
      cases hm : m.next with
      | error e => exact .inl (by simp [perform_step_of_error h hm, counts])
      | ok m' =>
        rw [perform_step_of_ok h hm]
        exact .inr ⟨rfl, .step h hm, rfl⟩
  | reset => exact .inr ⟨rfl, .reset, rfl⟩
  | state | status => exact .inl ⟨rfl, rfl⟩

theorem perform_of_not_counts (h : counts (c, (s.perform c).1) = false) : (s.perform c).2 = s := by
  obtain ⟨-, hs⟩ | ⟨ht, -⟩ := perform_cases s c
  · exact hs
  · rw [h] at ht
    cases ht

theorem perform_of_counts (h : counts (c, (s.perform c).1) = true) :
    Moves s c (s.perform c).2 ∧ (s.perform c).1 = .snapshot (s.perform c).2.snapshot := by
  obtain ⟨hf, -⟩ | ⟨-, hm⟩ := perform_cases s c
  · rw [h] at hf
    cases hf
  · exact hm

theorem snapshot_of_perform {shot : Snapshot} (h : (s.perform c).1 = .snapshot shot) :
    shot = (s.perform c).2.snapshot := by
  rcases perform_cases s c with ⟨hcount, hs⟩ | ⟨-, -, hreply⟩
  · rw [h] at hcount
    cases c with
    | state => exact (Reply.snapshot.inj h).symm
    | status => cases h
    | load text | step | reset => cases hcount
  · rw [h] at hreply
    exact Reply.snapshot.inj hreply

theorem after_append (s : Session) (calls later : List Call) :
    s.after (calls ++ later) = (s.after calls).after later := by
  induction calls generalizing s with
  | nil => rfl
  | cons c rest ih => exact ih _

/-- Calls that do not count can be left out. -/
theorem trace_filter_counts (s : Session) (calls : List Call) :
    s.trace (((s.trace calls).filter counts).map (·.1)) = (s.trace calls).filter counts := by
  induction calls generalizing s with
  | nil => rfl
  | cons c rest ih =>
    rw [trace]
    cases h : counts (c, (s.perform c).1) with
    | false =>
      rw [List.filter_cons_of_neg (by simp [h]), perform_of_not_counts h]
      exact ih s
    | true =>
      rw [List.filter_cons_of_pos h, List.map_cons, trace, ih]

/-- The last reply that counts is what the session shows. -/
theorem snapshot_after (s : Session) (calls : List Call) :
    (((s.trace calls).filter counts).getLast?.map (·.2)).getD (.snapshot s.snapshot) =
      .snapshot (s.after calls).snapshot := by
  induction calls generalizing s with
  | nil => rfl
  | cons c rest ih =>
    rw [trace, after, ← ih]
    cases h : counts (c, (s.perform c).1) with
    | false => rw [List.filter_cons_of_neg (by simp [h]), perform_of_not_counts h]
    | true =>
      rw [List.filter_cons_of_pos h, List.getLast?_cons, ← (perform_of_counts h).2]
      cases ((s.perform c).2.trace rest).filter counts |>.getLast? <;> rfl

/-- Whatever a session held before a load that succeeds, it now holds the new program alone. -/
theorem after_load {text : String} {shot : Snapshot}
    (h : (s.perform (.load text)).1 = .snapshot shot) (s' : Session) :
    s.after [.load text] = s'.after [.load text] := by
  cases hp : assemble text with
  | error e =>
    rw [perform_load_of_error hp] at h
    cases h
  | ok p => simp only [after, perform_load_of_ok hp]

/-- What holds of a session's machine whatever the calls were. -/
def Sound (s : Session) : Prop :=
  ∀ m, s.machine? = some m → m.program.WellFormed ∧ m.Within m.program

theorem Moves.sound (h : Moves s c s') (hs : s.Sound) : s'.Sound := by
  intro m hm
  cases h with
  | load hp =>
    cases hm
    exact ⟨assemble_wellFormed hp, Machine.within_ofProgram _⟩
  | step hm' hnext =>
    cases hm
    obtain ⟨hp, hw⟩ := hs _ hm'
    have hnext := hw.next hp hnext
    rw [hnext.program]
    exact ⟨hp, hnext⟩
  | reset => cases hm

theorem Sound.perform (hs : s.Sound) (c : Call) : (s.perform c).2.Sound := by
  obtain ⟨-, hsame⟩ | ⟨-, hm, -⟩ := perform_cases s c
  · rwa [hsame]
  · exact hm.sound hs

theorem Sound.after (hs : s.Sound) (calls : List Call) : (s.after calls).Sound := by
  induction calls generalizing s with
  | nil => exact hs
  | cons c rest ih => exact ih (hs.perform c)

theorem sound_empty : Sound {} := fun _ h => nomatch h

theorem Sound.status_eq (hs : s.Sound) : s.status = s.snapshot.status := by
  obtain ⟨_ | m⟩ := s
  · rfl
  · obtain ⟨-, hw⟩ := hs m rfl
    show m.status = (Snapshot.ofMachine m).status
    have hhalted : (Snapshot.ofMachine m).halted = m.finished := rfl
    rw [Machine.status, Snapshot.status, hhalted]
    split
    · rfl
    · -- Something is left to execute, so there is an instruction to show.
      rename_i hf
      obtain ⟨i, hi⟩ := hw.exists_instruction (Bool.eq_false_iff.mpr hf)
      have hmem := (Machine.lt_size_of_at? hw.nonneg hi).2
      have hrender : (Snapshot.ofMachine m).instructions ≠ [] :=
        List.ne_nil_of_mem (List.mem_map_of_mem (Array.mem_toList_iff.mpr hmem))
      rw [if_neg (by simpa using hrender)]

theorem Sound.snapshot_valid (hs : s.Sound) : s.snapshot.Valid := by
  obtain ⟨_ | m⟩ := s
  · exact Int.le_refl 0
  · exact (hs m rfl).2.nonneg

/-- What a session shows after any calls is the reply to the last one that counts. Calls that do
not count can be left out. A load that succeeds, or a reset, makes all before it irrelevant. The
status follows from the snapshot, whose counter is never negative. -/
theorem history_laws (calls : List Call) :
    (perform (after {} calls) .state).1 =
      (((trace {} calls).filter counts).getLast?.map (·.2)).getD (.snapshot .empty) ∧
    trace {} (((trace {} calls).filter counts).map (·.1)) = (trace {} calls).filter counts ∧
    (∀ text shot later, (perform (after {} calls) (.load text)).1 = .snapshot shot →
      trace (after {} (calls ++ [.load text])) later = trace (after {} [.load text]) later) ∧
    (∀ later, trace (after {} (calls ++ [.reset])) later = trace {} later) ∧
    ∀ shot, (perform (after {} calls) .state).1 = .snapshot shot →
      shot.Valid ∧ (perform (after {} calls) .status).1 = .status shot.status := by
  have hsound : Sound (after {} calls) := sound_empty.after calls
  refine ⟨(snapshot_after {} calls).symm, trace_filter_counts {} calls, ?_, ?_, ?_⟩
  · intro text shot later h
    rw [after_append, after_load h {}]
  · intro later
    rw [after_append]
    rfl
  · rintro shot ⟨rfl⟩
    exact ⟨hsound.snapshot_valid, congrArg Reply.status hsound.status_eq⟩

end Session

end StackMachine
