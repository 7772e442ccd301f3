import StackMachine.Proofs.CommandWords

/-! The values given to options. Of the values given to one option the last counts, and nothing else
on the command line changes what comes of it. -/
namespace StackMachine.CommandLine

/-- Whatever is done to the arguments, the property stays. -/
def OptionEffect.Keeps {σ : Type} (effect : OptionEffect σ) (P : σ → Prop) : Prop :=
  match effect with
  | .flag set => ∀ s, P s → P (set s)
  | .value set clear => (∀ s, P s → P (clear s)) ∧ ∀ text s s', P s → set text s = .ok s' → P s'

namespace Grammar
variable {σ : Type} {g : Grammar σ} {name : String} {R : Option String → σ → Prop}

/-- The values given to the option of that name: the text attached to it, or the next word. -/
def valuesOf (name : String) : List (String × Word σ) → List String
  | [] => []
  | (_, .option spec attached?) :: rest =>
      if spec.name = name then
        attached?.getD ((rest.head?.map (·.1)).getD "") :: valuesOf name rest
      else valuesOf name rest
  | _ :: rest => valuesOf name rest

/-- The last value given to the option, if it is given. -/
def given? (g : Grammar σ) (name : String) (words : List String) : Option String :=
  (g.classifyAll words).toOption.bind fun ws => (valuesOf name ws).getLast?

/-- The relation tells what comes of the last value of an option. It holds whatever else is read. -/
structure Tracks (g : Grammar σ) (name : String) (R : Option String → σ → Prop) : Prop where
  named : ∀ spec ∈ g.options, spec.name = name → ∃ set clear, spec.effect = .value set clear ∧
    (∀ s, R (some noValue) (clear s)) ∧
      ∀ text s s', text ≠ noValue → set text s = .ok s' → R (some text) s'
  others : ∀ spec ∈ g.options, spec.name ≠ name → ∀ v, spec.effect.Keeps (R v)
  positional : ∀ positional, g.positional? = some positional → ∃ argument set,
    positional = .optional argument set ∧ ∀ v text s s', R v s → set text s = .ok s' → R v s'

/-- The words as a grammar reads them: options are its own, no value that follows an option stands
for none, and only arguments stand behind a separator. -/
structure Classified (g : Grammar σ) (ws : List (String × Word σ)) : Prop where
  options : ∀ word spec attached?, (word, .option spec attached?) ∈ ws → spec ∈ g.options
  values : ∀ before word spec attached? value after,
    ws = before ++ (word, .option spec attached?) :: (value, .argument) :: after → value ≠ noValue
  separated : ∀ before word after, ws = before ++ (word, .separator) :: after →
    ∀ w ∈ after, w.2 = .argument

section
variable {word text : String} {spec : OptionSpec σ} {attached? : Option String}
  {rest ws ws' : List (String × Word σ)} {v : Option String} {s s' : σ}

theorem Classified.of_suffix (h : g.Classified ws) (hs : ws' <:+ ws) : g.Classified ws' := by
  obtain ⟨first, rfl⟩ := hs
  refine ⟨fun word spec attached? hmem => ?_, fun before word spec attached? value after hws => ?_,
    fun before word after hws => ?_⟩
  · exact h.options word spec attached? (List.mem_append_right _ hmem)
  · refine h.values (first ++ before) word spec attached? value after ?_
    rw [hws, List.append_assoc]
  · refine h.separated (first ++ before) word after ?_
    rw [hws, List.append_assoc]

theorem dropSeparator_suffix (ws : List (String × Word σ)) : dropSeparator ws <:+ ws := by
  unfold dropSeparator
  split
  · exact List.suffix_cons ..
  · exact List.suffix_refl _

theorem valuesOf_arguments (h : ∀ w ∈ ws, w.2 = .argument) (name : String) :
    valuesOf name ws = [] := by
  induction ws with
  | nil => rfl
  | cons w ws ih =>
    obtain ⟨hw, hws⟩ := List.forall_mem_cons.mp h
    obtain ⟨word, w⟩ := w
    cases hw
    exact ih hws

theorem valuesOf_dropSeparator (name : String) (ws : List (String × Word σ)) :
    valuesOf name (dropSeparator ws) = valuesOf name ws := by
  unfold dropSeparator
  split <;> rfl

/-- A value takes the place of those before it. -/
theorem getLast?_valuesOf_option :
    (valuesOf name ((word, .option spec attached?) :: rest)).getLast?.or v =
      (valuesOf name rest).getLast?.or (if spec.name = name then
        some (attached?.getD ((rest.head?.map (·.1)).getD "")) else v) := by
  rw [valuesOf]
  split
  · rw [List.getLast?_cons]
    cases (valuesOf name rest).getLast? <;> rfl
  · rfl

theorem Tracks.flag (ht : g.Tracks name R) (hs : spec ∈ g.options) {set : σ → σ}
    (he : spec.effect = .flag set) (value : String) (hr : R v s) :
    R (if spec.name = name then some value else v) (set s) := by
  split
  · rename_i hn
    obtain ⟨_, _, he', -⟩ := ht.named spec hs hn
    cases he.symm.trans he'
  · rename_i hn
    have hkeeps := ht.others spec hs hn v
    rw [he] at hkeeps
    exact hkeeps s hr

theorem Tracks.value (ht : g.Tracks name R) (hs : spec ∈ g.options)
    {set : String → σ → Except Refusal σ} {clear : σ → σ} (he : spec.effect = .value set clear)
    (hn : text ≠ noValue) (hset : set text s = .ok s') (hr : R v s) :
    R (if spec.name = name then some text else v) s' := by
  split
  · rename_i hname
    obtain ⟨_, _, he', -, hvalue⟩ := ht.named spec hs hname
    cases he.symm.trans he'
    exact hvalue text s s' hn hset
  · rename_i hname
    have hkeeps := ht.others spec hs hname v
    rw [he] at hkeeps
    exact hkeeps.2 text s s' hr hset

theorem Tracks.clear (ht : g.Tracks name R) (hs : spec ∈ g.options)
    {set : String → σ → Except Refusal σ} {clear : σ → σ} (he : spec.effect = .value set clear)
    (hr : R v s) : R (if spec.name = name then some noValue else v) (clear s) := by
  split
  · rename_i hn
    obtain ⟨_, _, he', hclear, -⟩ := ht.named spec hs hn
    cases he.symm.trans he'
    exact hclear s
  · rename_i hn
    have hkeeps := ht.others spec hs hn v
    rw [he] at hkeeps
    exact hkeeps.1 s hr

theorem liftValue_eq_ok {α : Type} {x : Except Refusal α} {a : α}
    (h : g.liftValue name x = .ok a) : x = .ok a := by
  unfold liftValue at h
  split at h
  · cases h
    rfl
  · cases h
  · cases h

theorem askShortHelp_ne_ok {α : Type} (text : String) (a : α) : g.askShortHelp text ≠ .ok a := by
  unfold askShortHelp
  repeat' split
  all_goals exact nofun

theorem exists_of_unrecognized {x : Except Stop (Parsed σ)} {p : Parsed σ}
    (h : x.map (unrecognized word) = .ok p) : ∃ q, x = .ok q ∧ p.arguments = q.arguments := by
  cases x with
  | error e => cases h
  | ok q =>
    cases h
    exact ⟨q, rfl, rfl⟩

end

/-- What is read from the words depends on the option through its last value. -/
theorem Tracks.consume (ht : g.Tracks name R) {positional? : Option (Positional σ)}
    (hp : positional? = none ∨ positional? = g.positional?) {words : List (String × Word σ)}
    (hw : g.Classified words) {s : σ} {p : Parsed σ} {v : Option String}
    (h : g.consume positional? s words = .ok p) (hr : R v s) :
    R ((valuesOf name words).getLast?.or v) p.arguments := by
  fun_induction Grammar.consume g positional? s words generalizing v p with
  | case1 =>
    cases h
    exact hr
  | case2 positional? s word rest ih =>
    obtain ⟨q, hq, hpq⟩ := exists_of_unrecognized h
    rw [hpq]
    exact ih hp (hw.of_suffix (List.suffix_cons ..)) hq hr
  | case7 positional? s word rest spec set he ih =>
    have hs := hw.options _ _ _ (List.mem_cons_self ..)
    rw [getLast?_valuesOf_option]
    exact ih hp (hw.of_suffix (List.suffix_cons ..)) h (ht.flag hs he _ hr)
  | case9 positional? s word rest spec set clear text he _ hno ih =>
    have hs := hw.options _ _ _ (List.mem_cons_self ..)
    rw [getLast?_valuesOf_option]
    have hno : text = noValue := beq_iff_eq.mp hno
    refine ih _ hp (hw.of_suffix (List.suffix_cons ..)) h ?_
    rw [hno]
    exact ht.clear hs he hr
  | case10 positional? s word rest spec set clear text he _ hn ih =>
    have hs := hw.options _ _ _ (List.mem_cons_self ..)
    rw [getLast?_valuesOf_option]
    obtain ⟨s', hset, hrest⟩ := bind_eq_ok_iff.mp h
    exact ih s' hp (hw.of_suffix (List.suffix_cons ..)) hrest
      (ht.value hs he (fun hno => hn (beq_iff_eq.mpr hno)) (liftValue_eq_ok hset) hr)
  | case11 positional? s word spec set clear he value more ih =>
    have hs := hw.options _ _ _ (List.mem_cons_self ..)
    rw [getLast?_valuesOf_option]
    obtain ⟨s', hset, hrest⟩ := bind_eq_ok_iff.mp h
    exact ih s' hp (hw.of_suffix ((List.suffix_cons ..).trans (List.suffix_cons ..))) hrest
      (ht.value hs he (hw.values [] _ _ _ _ _ rfl) (liftValue_eq_ok hset) hr)
  | case13 s word rest ih =>
    obtain ⟨q, hq, hpq⟩ := exists_of_unrecognized h
    rw [hpq]
    exact ih (.inl rfl) (hw.of_suffix (List.suffix_cons ..)) hq hr
  | case14 s word rest argument' set ih =>
    obtain ⟨s', hset, hrest⟩ := bind_eq_ok_iff.mp h
    rcases hp with hp | hp
    · cases hp
    · obtain ⟨_, _, heq, hargument⟩ := ht.positional _ hp.symm
      cases heq
      have hvalues : valuesOf name ((word, .argument) :: rest) =
          valuesOf name (dropSeparator rest) := (valuesOf_dropSeparator name rest).symm
      rw [hvalues]
      have hrestSuffix : dropSeparator rest <:+ (word, .argument) :: rest :=
        (dropSeparator_suffix rest).trans (List.suffix_cons ..)
      exact ih s' (.inl rfl) (hw.of_suffix hrestSuffix) hrest
        (hargument v word s s' hr (liftValue_eq_ok hset))
  | case16 s word rest ih =>
    obtain ⟨q, hq, hpq⟩ := exists_of_unrecognized h
    rw [hpq]
    exact ih (.inl rfl) (hw.of_suffix (List.suffix_cons ..)) hq hr
  | case17 =>
    cases h
    exact hr
  | case18 s word argument' set value w more ih =>
    obtain ⟨s', hset, hrest⟩ := bind_eq_ok_iff.mp h
    rcases hp with hp | hp
    · cases hp
    · obtain ⟨_, _, heq, hargument⟩ := ht.positional _ hp.symm
      cases heq
      have hmore : ∀ x ∈ (value, w) :: more, x.2 = .argument := hw.separated [] _ _ rfl
      have hvalues : valuesOf name ((word, .separator) :: (value, w) :: more) =
          valuesOf name more :=
        (valuesOf_arguments hmore name).trans
          (valuesOf_arguments (List.forall_mem_cons.mp hmore).2 name).symm
      rw [hvalues]
      exact ih s' (.inl rfl)
        (hw.of_suffix ((List.suffix_cons ..).trans (List.suffix_cons ..))) hrest
        (hargument v value s s' hr (liftValue_eq_ok hset))
  | case15 | case19 | case20 =>
    rcases hp with hp | hp
    · cases hp
    · obtain ⟨_, _, heq, -⟩ := ht.positional _ hp.symm
      cases heq
  | case3 | case4 | case5 | case8 | case12 => cases h
  | case6 => exact absurd h (askShortHelp_ne_ok _ _)

/-! ### The words of a grammar -/

section
variable {word : String} {words : List String} {w : Word σ} {ws : List (String × Word σ)}
  {make : Option String → Word σ} {attached? : Option String}

/-- A word by itself is an option of the grammar, or no option and no separator. -/
def Owns (g : Grammar σ) : Word σ → Prop
  | .option spec _ => spec ∈ g.options
  | .separator => False
  | _ => True

theorem owns_of_mem_names (h : (name, make) ∈ g.names) (attached? : Option String) :
    g.Owns (make attached?) := by
  rcases List.mem_cons.mp h with h | h
  · cases h
    trivial
  · rcases List.mem_cons.mp h with h | h
    · cases h
      trivial
    · obtain ⟨spec, hspec, h⟩ := List.mem_map.mp h
      cases h
      exact hspec

theorem owns_of_lookup (h : g.names.lookup word = some make) (attached? : Option String) :
    g.Owns (make attached?) := by
  obtain ⟨before, after, hnames, -⟩ := List.lookup_eq_some_iff.mp h
  exact owns_of_mem_names (hnames ▸ List.mem_append_right before (List.mem_cons_self ..)) attached?

theorem owns_of_mem_candidates (h : (name, w) ∈ g.candidates word) : g.Owns w := by
  unfold candidates at h
  split at h
  · obtain ⟨⟨name', make⟩, hmem, h⟩ := List.mem_map.mp h
    cases h
    exact owns_of_mem_names (List.mem_filter.mp hmem).1 _
  · obtain ⟨⟨name', make⟩, hmem, h⟩ := List.mem_map.mp h
    cases h
    exact owns_of_mem_names (List.mem_filter.mp hmem).1 _
  · cases h

theorem owns_of_classify (h : g.classify word = .ok w) : g.Owns w := by
  unfold classify at h
  simp only at h
  split at h
  · cases h
    trivial
  split at h
  · rename_i hlookup
    cases h
    exact owns_of_lookup hlookup none
  split at h
  · cases h
    trivial
  split at h
  · rename_i hlookup
    cases h
    exact owns_of_lookup hlookup _
  split at h
  · rename_i hcandidates
    cases h
    exact owns_of_mem_candidates (hcandidates ▸ List.mem_singleton_self _)
  · cases h
    split <;> trivial
  · cases h

theorem Classified.arguments (g : Grammar σ) (word : String) (words : List String) :
    g.Classified ((word, .separator) :: words.map (·, .argument)) := by
  have hrest : ∀ x ∈ words.map (fun word => (word, (.argument : Word σ))), x.2 = .argument := by
    intro x hx
    obtain ⟨_, -, rfl⟩ := List.mem_map.mp hx
    rfl
  have hnone (word' : String) (spec : OptionSpec σ) (attached? : Option String) :
      (word', .option spec attached?) ∉
        (word, (.separator : Word σ)) :: words.map fun word => (word, .argument) := by
    intro hmem
    rcases List.mem_cons.mp hmem with h | h
    · cases h
    · cases hrest _ h
  refine ⟨fun word' spec attached? hmem => absurd hmem (hnone word' spec attached?),
    fun before word' spec attached? value after hws => ?_, fun before word' after hws => ?_⟩
  · refine absurd ?_ (hnone word' spec attached?)
    rw [hws]
    exact List.mem_append_right before (List.mem_cons_self ..)
  · cases before with
    | nil =>
      cases hws
      exact hrest
    | cons x before =>
      have hmem : (word', .separator) ∈ words.map (fun word => (word, (.argument : Word σ))) := by
        rw [(List.cons.inj hws).2]
        exact List.mem_append_right before (List.mem_cons_self ..)
      cases hrest _ hmem

theorem Classified.cons (hw : g.Owns w) (h : g.Classified ws)
    (hn : ∀ after, ws ≠ (noValue, .argument) :: after) : g.Classified ((word, w) :: ws) := by
  refine ⟨fun word' spec attached? hmem => ?_,
    fun before word' spec attached? value after hws => ?_, fun before word' after hws => ?_⟩
  · rcases List.mem_cons.mp hmem with h' | h'
    · cases h'
      exact hw
    · exact h.options word' spec attached? h'
  · cases before with
    | nil =>
      rintro rfl
      exact hn after (List.cons.inj hws).2
    | cons x before =>
      exact h.values before word' spec attached? value after (List.cons.inj hws).2
  · cases before with
    | nil =>
      cases hws
      exact hw.elim
    | cons x before => exact h.separated before word' after (List.cons.inj hws).2

/-- The separator is no argument. -/
theorem ne_of_classifyAll (h : g.classifyAll words = .ok ws) (after : List (String × Word σ)) :
    ws ≠ (noValue, .argument) :: after := by
  rintro rfl
  cases words with
  | nil => cases h
  | cons word rest =>
    rw [classifyAll] at h
    split at h
    · cases h
    · rename_i hword
      obtain ⟨w, -, h⟩ := bind_eq_ok_iff.mp h
      obtain ⟨ws', -, h⟩ := bind_eq_ok_iff.mp h
      cases h
      exact hword rfl

theorem classified_of_classifyAll (h : g.classifyAll words = .ok ws) : g.Classified ws := by
  induction words generalizing ws with
  | nil =>
    cases h
    refine ⟨fun word spec attached? hmem => absurd hmem List.not_mem_nil,
      fun before word spec attached? value after hws => ?_, fun before word after hws => ?_⟩
    all_goals cases before <;> cases hws
  | cons word rest ih =>
    rw [classifyAll] at h
    split at h
    · cases h
      exact .arguments g word rest
    · obtain ⟨w, hw, h⟩ := bind_eq_ok_iff.mp h
      obtain ⟨ws', hr, h⟩ := bind_eq_ok_iff.mp h
      cases h
      exact (ih hr).cons (owns_of_classify hw) (ne_of_classifyAll hr)

end

theorem Tracks.readKnown (ht : g.Tracks name R) {words : List String} {s s' : σ}
    {others : List String} (h : g.readKnown words s = .ok (s', others)) (hr : R none s) :
    R (g.given? name words) s' := by
  obtain ⟨ws, hws, h⟩ := bind_eq_ok_iff.mp h
  obtain ⟨p, hp, h⟩ := bind_eq_ok_iff.mp h
  have hread := ht.consume (.inr rfl) (classified_of_classifyAll hws) hp hr
  rw [Option.or_none] at hread
  split at h
  · cases h
  · cases h
    rw [given?, hws]
    exact hread

end Grammar

end StackMachine.CommandLine
