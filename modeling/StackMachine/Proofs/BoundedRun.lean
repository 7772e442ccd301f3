import Mathlib.Data.ENat.Lattice
import Mathlib.Order.CompletePartialOrder
import StackMachine.Proofs.SessionHistory
import StackMachine.Run

/-! Runs of a session with a limit. A run makes as many steps as succeed before the session is
finished or a step fails, but at most as many as the limit allows. So limits add up, and a larger
limit changes nothing once a run has ended by itself. -/
namespace StackMachine

def SessionError.kind? (e : SessionError) : Option ErrorKind := e.report?.map (·.kind)

theorem Fault.ArisesFrom.kind_ne_stepLimitExceeded {heap : Heap} {operands : List Value}
    {f : Fault} (h : f.ArisesFrom heap operands) : f.kind ≠ .stepLimitExceeded := by
  cases f with
  | stepLimit => exact h.elim
  | _ => intro hk; cases hk

theorem StepError.kind_ne_stepLimitExceeded {m : Machine} {e : StepError}
    (h : m.next = .error e) : e.report?.map (·.kind) ≠ some .stepLimitExceeded := by
  obtain ⟨-, f, rfl | rfl, rfl⟩ | ⟨-, -, rfl | rfl⟩ | ⟨-, i, operands, d, -, -, hd, rfl⟩ :=
    Machine.next_error h
  · exact fun hk => by cases hk
  · exact fun hk => by cases hk
  · exact fun hk => by cases hk
  · exact fun hk => by cases hk
  · obtain ⟨rfl, -, -⟩ | ⟨f, rfl, hf⟩ := hd
    · exact fun hk => by cases hk
    · exact fun hk => hf.kind_ne_stepLimitExceeded (Option.some.inj hk)

namespace Session
variable {α : Type} {s s' s₁ s₂ : Session} {shots shots' : List Snapshot} {limit limit' : Nat}

/-- Why a step of the session fails. -/
inductive Refuses (s : Session) : SessionError → Prop
  | idle : s.machine? = none → Refuses s (.step (.fault { fault := .nothingLoaded }))
  | machine {m : Machine} {e : StepError} : s.machine? = some m → m.next = .error e →
      Refuses s (.step e)

theorem Refuses.kind?_ne {e : SessionError} (h : s.Refuses e) :
    e.kind? ≠ some .stepLimitExceeded := by
  cases h with
  | idle => exact nofun
  | machine _ hn => exact StepError.kind_ne_stepLimitExceeded hn

theorem Refuses.exists_fault {e : SessionError} (h : s.Refuses e) (hs : s.Sound) :
    ∃ r, e = .step (.fault r) := by
  cases h with
  | idle => exact ⟨_, rfl⟩
  | machine hm hn =>
    obtain ⟨hp, hw⟩ := hs _ hm
    obtain ⟨r, rfl, -⟩ := hw.next_error hp hn
    exact ⟨r, rfl⟩

theorem step_cases (s : Session) :
    (∃ s', advance s = .ok () s' ∧ step s = .ok s'.snapshot s') ∨
      ∃ e, advance s = .error e s ∧ step s = .error e s ∧ s.Refuses e := by
  have hok {s' : Session} (ha : advance s = .ok () s') : step s = .ok s'.snapshot s' := by
    show EStateM.bind advance (fun _ => state) s = _
    rw [EStateM.bind, ha]
    rfl
  have herror {e : SessionError} (ha : advance s = .error e s) : step s = .error e s := by
    show EStateM.bind advance (fun _ => state) s = _
    rw [EStateM.bind, ha]
  obtain ⟨_ | m⟩ := s
  · exact .inr ⟨_, rfl, rfl, .idle rfl⟩
  · cases hn : m.next with
    | ok m' =>
      have ha : advance ⟨some m⟩ = .ok () ⟨some m'⟩ := by
        simp only [advance, Machine.step_eq_ok_iff.mpr hn]
      exact .inl ⟨_, ha, hok ha⟩
    | error e =>
      have ha : advance ⟨some m⟩ = .error (.step e) ⟨some m⟩ := by
        simp only [advance, Machine.step_eq_error_iff.mpr ⟨hn, rfl⟩]
      exact .inr ⟨_, ha, herror ha, .machine rfl hn⟩

/-- Steps that succeed one after the other, each of a session that is not finished, with their
snapshots. -/
inductive Progress : Session → List Snapshot → Session → Prop
  | nil {s : Session} : Progress s [] s
  | cons {s s₁ s' : Session} {shot : Snapshot} {shots : List Snapshot} : s.finished = false →
      step s = .ok shot s₁ → Progress s₁ shots s' → Progress s (shot :: shots) s'

/-- The session is finished or its next step fails. -/
def Stuck (s : Session) : Prop := s.finished = true ∨ ∃ e, step s = .error e s

/-- The number of steps that succeed one after the other before the session is finished or a step
fails. -/
noncomputable def span (s : Session) : ℕ∞ :=
  sSup {n | ∃ shots s', s.Progress shots s' ∧ n = shots.length}

namespace Progress

theorem append (h : Progress s shots s₁) (h' : Progress s₁ shots' s') :
    Progress s (shots ++ shots') s' := by
  induction h with
  | nil => exact h'
  | cons hf hs _ ih => exact .cons hf hs (ih h')

theorem unique (h : Progress s shots s₁) (h' : Progress s shots' s₂)
    (hl : shots.length = shots'.length) : shots = shots' ∧ s₁ = s₂ := by
  induction h generalizing shots' with
  | nil =>
    cases h' with
    | nil => exact ⟨rfl, rfl⟩
    | cons => cases hl
  | cons hf hs _ ih =>
    cases h' with
    | nil => cases hl
    | cons hf' hs' h' =>
      cases hs.symm.trans hs'
      obtain ⟨rfl, rfl⟩ := ih h' (Nat.succ.inj hl)
      exact ⟨rfl, rfl⟩

theorem eq_of_stuck (h : Progress s shots s') (hs : s.Stuck) : shots = [] ∧ s' = s := by
  cases h with
  | nil => exact ⟨rfl, rfl⟩
  | cons hf hstep _ =>
    obtain hfin | ⟨e, he⟩ := hs
    · exact absurd (hf.symm.trans hfin) Bool.false_ne_true
    · cases hstep.symm.trans he

theorem length_le (h : Progress s shots s₁) (hs : s₁.Stuck) (h' : Progress s shots' s₂) :
    shots'.length ≤ shots.length := by
  induction h generalizing shots' with
  | nil =>
    obtain ⟨rfl, -⟩ := h'.eq_of_stuck hs
    exact Nat.le_refl _
  | cons hf hstep _ ih =>
    cases h' with
    | nil => exact Nat.zero_le _
    | cons hf' hstep' h' =>
      cases hstep.symm.trans hstep'
      exact Nat.succ_le_succ (ih hs h')

end Progress

/-- The steps that a run with that limit makes. -/
structure Driven (s : Session) (limit : Nat) (shots : List Snapshot) (s' : Session) : Prop where
  progress : s.Progress shots s'
  le : shots.length ≤ limit
  stops : shots.length = limit ∨ s'.Stuck

namespace Driven

theorem unique (h : s.Driven limit shots s₁) (h' : s.Driven limit shots' s₂) :
    shots = shots' ∧ s₁ = s₂ := by
  refine h.progress.unique h'.progress (Nat.le_antisymm ?_ ?_)
  · obtain hl | hs := h'.stops
    · exact hl ▸ h.le
    · exact h'.progress.length_le hs h.progress
  · obtain hl | hs := h.stops
    · exact hl ▸ h'.le
    · exact h.progress.length_le hs h'.progress

theorem append (h : s.Driven limit shots s₁) (h' : s₁.Driven limit' shots' s') :
    s.Driven (limit + limit') (shots ++ shots') s' := by
  refine ⟨h.progress.append h'.progress, ?_, ?_⟩
  · rw [List.length_append]
    exact Nat.add_le_add h.le h'.le
  · obtain hl | hs := h.stops
    · rw [List.length_append, hl, Nat.add_left_cancel_iff]
      exact h'.stops
    · obtain ⟨-, rfl⟩ := h'.progress.eq_of_stuck hs
      exact .inr hs

theorem of_le (h : s.Driven limit shots s') (hs : s'.Stuck) (hle : limit ≤ limit') :
    s.Driven limit' shots s' :=
  ⟨h.progress, Nat.le_trans h.le hle, .inr hs⟩

theorem length_eq (h : s.Driven limit shots s') : (shots.length : ℕ∞) = min s.span limit := by
  have hle : (shots.length : ℕ∞) ≤ s.span := le_sSup ⟨shots, s', h.progress, rfl⟩
  obtain hl | hs := h.stops
  · rw [← hl, min_eq_right hle]
  · have hspan : s.span = shots.length := by
      refine le_antisymm (sSup_le ?_) hle
      rintro _ ⟨shots', s₂, h', rfl⟩
      exact Nat.cast_le.mpr (h.progress.length_le hs h')
    rw [hspan, min_eq_left (Nat.cast_le.mpr h.le)]

end Driven

/-- How a run ends at that session, where so many steps are left under the limit. -/
inductive Ends (limit : Int) (left : Nat) (s : Session) : Option SessionError → Prop
  | finished : s.finished = true → Ends limit left s none
  | limited : s.finished = false → left = 0 → Ends limit left s (some (s.limitError limit))
  | failed {e : SessionError} : s.finished = false → 0 < left → step s = .error e s →
      s.Refuses e → Ends limit left s (some e)

namespace Ends
variable {number : Int} {left : Nat} {error? error?' : Option SessionError}

theorem stops (h : Ends number left s error?) : left = 0 ∨ s.Stuck := by
  cases h with
  | finished hf => exact .inr (.inl hf)
  | limited _ hl => exact .inl hl
  | failed _ _ hs _ => exact .inr (.inr ⟨_, hs⟩)

theorem stuck (h : Ends number left s error?)
    (he : ∀ e ∈ error?, e.kind? ≠ some .stepLimitExceeded) : s.Stuck := by
  cases h with
  | finished hf => exact .inl hf
  | limited => exact absurd rfl (he _ rfl)
  | failed _ _ hs _ => exact .inr ⟨_, hs⟩

theorem unique (h : Ends number left s error?) (h' : Ends number left s error?') :
    error? = error?' := by
  cases h with
  | finished hf =>
    cases h' with
    | finished => rfl
    | limited hf' | failed hf' => exact absurd (hf'.symm.trans hf) Bool.false_ne_true
  | limited hf hl =>
    cases h' with
    | finished hf' => exact absurd (hf.symm.trans hf') Bool.false_ne_true
    | limited => rfl
    | failed _ hl' => exact absurd hl (Nat.pos_iff_ne_zero.mp hl')
  | failed hf hl hs =>
    cases h' with
    | finished hf' => exact absurd (hf.symm.trans hf') Bool.false_ne_true
    | limited _ hl' => exact absurd hl' (Nat.pos_iff_ne_zero.mp hl)
    | failed _ _ hs' =>
      cases hs.symm.trans hs'
      rfl

theorem eq_none_iff (h : Ends number left s error?) : error? = none ↔ s.finished = true := by
  cases h with
  | finished hf => exact ⟨fun _ => hf, fun _ => rfl⟩
  | limited hf | failed hf =>
    rw [hf]
    exact iff_of_false nofun nofun

theorem eq_limitError_iff (h : Ends number left s error?) :
    error? = some (s.limitError number) ↔ s.finished = false ∧ left = 0 := by
  cases h with
  | finished hf =>
    rw [hf]
    exact iff_of_false nofun nofun
  | limited hf hl => exact iff_of_true rfl ⟨hf, hl⟩
  | failed _ hl _ hr =>
    refine iff_of_false (fun he => hr.kind?_ne ?_) fun ⟨_, hl'⟩ => Nat.pos_iff_ne_zero.mp hl hl'
    rw [Option.some.inj he]
    rfl

theorem step_eq {e : SessionError} (h : Ends number left s (some e))
    (he : e ≠ s.limitError number) :
    e.kind? ≠ some .stepLimitExceeded ∧ step s = .error e s := by
  cases h with
  | limited => exact absurd rfl he
  | failed _ _ hs hr => exact ⟨hr.kind?_ne, hs⟩

theorem exists_fault {e : SessionError} (h : Ends number left s (some e)) (hs : s.Sound) :
    ∃ r, e = .step (.fault r) := by
  cases h with
  | limited => exact ⟨_, rfl⟩
  | failed _ _ _ hr => exact hr.exists_fault hs

/-- A run that did not end at its limit ends in the same way under a larger one. -/
theorem of_le {number' : Int} {left' : Nat} (h : Ends number left s error?) (hl : left ≤ left')
    (he : ∀ e ∈ error?, e.kind? ≠ some .stepLimitExceeded) : Ends number' left' s error? := by
  cases h with
  | finished hf => exact .finished hf
  | limited => exact absurd rfl (he _ rfl)
  | failed hf hpos hs hr => exact .failed hf (Nat.lt_of_lt_of_le hpos hl) hs hr

end Ends

/-- Steps and error of a run do not depend on what is done to watch it. -/
theorem runMore_watch {β : Type} (watch : Session → Session → α) (watch' : Session → Session → β)
    (limit : Int) (fuel steps : Nat) (seen : Array α) (seen' : Array β) (s : Session) :
    (runMore watch limit fuel steps seen s).session =
        (runMore watch' limit fuel steps seen' s).session ∧
      (runMore watch limit fuel steps seen s).steps =
        (runMore watch' limit fuel steps seen' s).steps ∧
      (runMore watch limit fuel steps seen s).error? =
        (runMore watch' limit fuel steps seen' s).error? := by
  induction fuel generalizing steps seen seen' s with
  | zero =>
    unfold runMore
    split <;> exact ⟨rfl, rfl, rfl⟩
  | succ fuel ih =>
    unfold runMore
    split
    · exact ⟨rfl, rfl, rfl⟩
    · cases advance s with
      | ok _ s' => exact ih ..
      | error e s' => exact ⟨rfl, rfl, rfl⟩

/-- The run that collects the snapshots after its steps. -/
def runShown (limit : Nat) (s : Session) : Run Snapshot :=
  s.runWatched (fun _ after => after.snapshot) limit

/-- What a run does from a session on, where it has made steps and seen snapshots before. -/
theorem runMore_progress (limit : Int) (fuel steps : Nat) (seen : Array Snapshot) (s : Session) :
    ∃ shots s' error?, runMore (fun _ after => after.snapshot) limit fuel steps seen s =
        ⟨s', steps + shots.length, error?, seen ++ shots.toArray⟩ ∧
      s.Progress shots s' ∧ shots.length ≤ fuel ∧ Ends limit (fuel - shots.length) s' error? := by
  induction fuel generalizing steps seen s with
  | zero =>
    unfold runMore
    cases hf : s.finished with
    | true => exact ⟨[], s, none, by simp, .nil, Nat.le_refl _, .finished hf⟩
    | false => exact ⟨[], s, _, by simp, .nil, Nat.le_refl _, .limited hf rfl⟩
  | succ fuel ih =>
    unfold runMore
    cases hf : s.finished with
    | true => exact ⟨[], s, none, by simp, .nil, Nat.zero_le _, .finished hf⟩
    | false =>
      obtain ⟨s₁, ha, hs⟩ | ⟨e, ha, hs, hr⟩ := step_cases s
      · obtain ⟨shots, s', error?, hrun, hp, hle, hend⟩ :=
          ih (steps + 1) (seen.push s₁.snapshot) s₁
        refine ⟨s₁.snapshot :: shots, s', error?, ?_, .cons hf hs hp, Nat.succ_le_succ hle, ?_⟩
        · simp [ha, hrun, Nat.add_assoc, Nat.add_comm 1]
        · rwa [List.length_cons, Nat.succ_sub_succ]
      · exact ⟨[], s, some e, by simp [ha], .nil, Nat.zero_le _,
          .failed hf (Nat.succ_pos _) hs hr⟩

theorem runShown_driven (s : Session) (limit : Nat) :
    s.Driven limit (s.runShown limit).seen.toList (s.runShown limit).session ∧
      (s.runShown limit).steps = (s.runShown limit).seen.size ∧
      Ends limit (limit - (s.runShown limit).steps) (s.runShown limit).session
        (s.runShown limit).error? := by
  obtain ⟨shots, s', error?, hrun, hp, hle, hend⟩ := runMore_progress limit limit 0 #[] s
  have hrun : s.runShown limit = ⟨s', shots.length, error?, shots.toArray⟩ := by
    simpa [runShown, runWatched] using hrun
  rw [hrun]
  refine ⟨⟨hp, hle, ?_⟩, rfl, hend⟩
  obtain hl | hs := hend.stops
  · exact .inl (Nat.le_antisymm hle (Nat.sub_eq_zero_iff_le.mp hl))
  · exact .inr hs

/-- Each step shows the session that it leaves. -/
theorem Progress.snapshot_eq (h : Progress s shots s') :
    s'.snapshot = shots.getLast?.getD s.snapshot := by
  induction h with
  | nil => rfl
  | @cons s s₁ s' shot shots _ hs _ ih =>
    obtain ⟨s₂, -, hs'⟩ | ⟨e, -, hs', -⟩ := step_cases s
    · cases hs.symm.trans hs'
      rw [ih, List.getLast?_cons]
      rfl
    · cases hs.symm.trans hs'

/-- A run that does not end at its limit goes on in the same way under a larger one. -/
theorem runShown_of_le (hle : limit ≤ limit')
    (he : ∀ e ∈ (s.runShown limit).error?, e.kind? ≠ some .stepLimitExceeded) :
    s.runShown limit' = s.runShown limit := by
  obtain ⟨hd, hsteps, hend⟩ := runShown_driven s limit
  obtain ⟨hd', hsteps', hend'⟩ := runShown_driven s limit'
  have hstuck := hend.stuck he
  generalize s.runShown limit = r at hd hsteps hend he hstuck ⊢
  generalize s.runShown limit' = r' at hd' hsteps' hend' ⊢
  obtain ⟨session, steps, error?, seen⟩ := r
  obtain ⟨session', steps', error?', seen'⟩ := r'
  obtain ⟨hseen, rfl⟩ := (hd.of_le hstuck hle).unique hd'
  cases Array.toList_inj.mp hseen
  obtain rfl : steps = seen.size := hsteps
  obtain rfl : steps' = seen.size := hsteps'
  cases (hend.of_le (Nat.sub_le_sub_right hle _) he).unique hend'
  rfl

theorem Progress.sound (h : Progress s shots s') (hs : s.Sound) : s'.Sound := by
  induction h with
  | nil => exact hs
  | cons _ hstep _ ih =>
    have hnext := hs.perform .step
    rw [perform, hstep] at hnext
    exact ih hnext

theorem Progress.of_idle (h : Progress s shots s') (hs : s.machine? = none) :
    shots = [] ∧ s' = s := by
  obtain ⟨_⟩ := s
  cases hs
  exact h.eq_of_stuck (.inr ⟨_, rfl⟩)

/-- What a run with that limit comes to. In a session that was only called, and not put together by
hand, every error is a fault of the machine. -/
structure Bounded (s : Session) (limit : Nat) (r : Run Snapshot) : Prop where
  progress : s.Progress r.seen.toList r.session
  steps : r.steps = r.seen.size
  count : (r.steps : ℕ∞) = min s.span limit
  last : r.snapshot = r.seen.back?.getD s.snapshot
  state : state r.session = .ok r.snapshot r.session
  complete : r.error? = none ↔ r.session.finished = true
  limited : r.error? = some (r.session.limitError limit) ↔
    r.session.finished = false ∧ r.steps = limit
  failed : ∀ e ∈ r.error?, e ≠ r.session.limitError limit →
    e.kind? ≠ some .stepLimitExceeded ∧ step r.session = .error e r.session
  idle : s.machine? = none → 0 < limit →
    r.error? = some (.step (.fault { fault := .nothingLoaded }))
  fault : s.Sound → ∀ e ∈ r.error?, ∃ f, e = .step (.fault f)

theorem bounded_runShown (s : Session) (limit : Nat) : s.Bounded limit (s.runShown limit) := by
  obtain ⟨hd, hsteps, hend⟩ := runShown_driven s limit
  have hlength : (s.runShown limit).steps = (s.runShown limit).seen.toList.length := hsteps
  constructor
  case progress => exact hd.progress
  case steps => exact hsteps
  case count =>
    rw [hlength]
    exact hd.length_eq
  case last =>
    rw [← Array.getLast?_toList]
    exact hd.progress.snapshot_eq
  case state => rfl
  case complete => exact hend.eq_none_iff
  case limited =>
    have hle : (s.runShown limit).steps ≤ limit := hlength ▸ hd.le
    rw [hend.eq_limitError_iff, Nat.sub_eq_zero_iff_le]
    exact and_congr_right fun _ => ⟨Nat.le_antisymm hle, fun h => Nat.le_of_eq h.symm⟩
  case failed =>
    intro e he hne
    rw [Option.mem_def.mp he] at hend
    exact hend.step_eq hne
  case idle =>
    intro hs hpos
    obtain ⟨hnil, hsame⟩ := hd.progress.of_idle hs
    rw [hlength, hnil, hsame] at hend
    obtain ⟨_⟩ := s
    cases hs
    exact hend.unique (.failed rfl hpos rfl (.idle rfl))
  case fault =>
    intro hs e he
    rw [Option.mem_def.mp he] at hend
    exact hend.exists_fault (hd.progress.sound hs)

/-- A run makes exactly the steps that the session can make one after the other, up to the limit,
whatever is done to watch it. Two runs one after the other are one run with the sum of their
limits, and a run that ends before its limit is the same with every larger one. -/
theorem bounded_runs (s : Session) (limit : Nat) :
    s.Bounded limit (s.runShown limit) ∧
    (∀ {α : Type} (watch : Session → Session → α),
      (s.runWatched watch limit).session = (s.runShown limit).session ∧
      (s.runWatched watch limit).steps = (s.runShown limit).steps ∧
      (s.runWatched watch limit).error? = (s.runShown limit).error?) ∧
    (∀ more, ((s.runShown limit).session.runShown more).session =
        (s.runShown (limit + more)).session ∧
      (s.runShown limit).steps + ((s.runShown limit).session.runShown more).steps =
        (s.runShown (limit + more)).steps) ∧
    ∀ larger, limit ≤ larger →
      (∀ e ∈ (s.runShown limit).error?, e.kind? ≠ some .stepLimitExceeded) →
      s.runShown larger = s.runShown limit := by
  refine ⟨bounded_runShown s limit, fun watch => runMore_watch .., fun more => ?_,
    fun _ => runShown_of_le⟩
  obtain ⟨hd, hsteps, -⟩ := runShown_driven s limit
  obtain ⟨hd', hsteps', -⟩ := runShown_driven (s.runShown limit).session more
  obtain ⟨hsum, hsteps'', -⟩ := runShown_driven s (limit + more)
  obtain ⟨hseen, hsession⟩ := (hd.append hd').unique hsum
  refine ⟨hsession, ?_⟩
  rw [hsteps, hsteps', hsteps'', ← Array.length_toList, ← Array.length_toList,
    ← Array.length_toList, ← hseen, List.length_append]

end Session

end StackMachine
