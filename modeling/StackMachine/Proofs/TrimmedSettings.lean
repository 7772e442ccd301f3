import StackMachine.Proofs.Outcome
import StackMachine.Settings

/-! White space around the values of settings. For the numbers it does not matter, and neither does
it for a host or a log level unless one environment has an empty text where the other has a blank
one: only the empty text gives the default. -/
namespace StackMachine
open Text

def settingNames : List String :=
  ["STACKVM_HOST", "STACKVM_PORT", "STACKVM_MAX_STEPS", "STACKVM_LOG_LEVEL"]

/-- The variables of the settings are all set in both, to texts that differ at most in the white
space around them. -/
def SetAlike (vars vars' : Variables) : Prop :=
  ∀ name ∈ settingNames, ∃ value value', vars.get? name = some value ∧
    vars'.get? name = some value' ∧ trim value = trim value'

theorem mem_dropWhile_of_not {p : Char → Bool} {c : Char} (hc : p c = false) {cs : List Char} :
    c ∈ cs.dropWhile p ↔ c ∈ cs := by
  induction cs with
  | nil => rfl
  | cons d cs ih =>
    cases hd : p d with
    | false => rw [List.dropWhile_cons_of_neg (by simp [hd])]
    | true =>
      have hne : c ≠ d := by
        rintro rfl
        exact Bool.false_ne_true (hc.symm.trans hd)
      rw [List.dropWhile_cons_of_pos hd, ih, List.mem_cons, or_iff_right hne]

/-- White space is no NUL. -/
theorem holdsNul_trim (s : String) : holdsNul (trim s) = holdsNul s := by
  rw [holdsNul, holdsNul, Bool.eq_iff_iff, List.contains_iff_mem, List.contains_iff_mem, trim,
    String.toList_ofList, strip, List.mem_reverse, mem_dropWhile_of_not (by decide),
    List.mem_reverse, mem_dropWhile_of_not (by decide)]

/-! ### Loading a file -/

namespace Environment
variable {vars vars' : Variables} {e e' : Environment} {name value : String}

theorem get?_assign {a : Dotenv.Assignment} (h : assign vars a = .ok vars')
    (hs : vars.get? name = some value) : vars'.get? name = some value := by
  unfold assign at h
  split at h
  · cases h
    exact hs
  · split at h
    · cases h
      exact hs
    · rename_i hnone
      repeat' split at h
      · cases h
      · cases h
      · cases h
        rw [Variables.addMissing, if_neg hnone, Variables.get?, List.lookup_append,
          ← Variables.get?, hs]
        rfl

theorem get?_foldlM_assign {assignments : List Dotenv.Assignment}
    (h : assignments.foldlM assign vars = .ok vars') (hs : vars.get? name = some value) :
    vars'.get? name = some value := by
  induction assignments generalizing vars with
  | nil =>
    cases h
    exact hs
  | cons a rest ih =>
    rw [List.foldlM_cons] at h
    obtain ⟨vars₁, ha, h⟩ := bind_eq_ok_iff.mp h
    exact ih h (get?_assign ha hs)

/-- A file does not change what is set already. -/
theorem get?_loadFile {path : String} {loaded : Bool} (h : e.loadFile path = .ok (loaded, e'))
    (hs : e.vars.get? name = some value) : e'.vars.get? name = some value := by
  obtain ⟨text?, -, h⟩ := bind_eq_ok_iff.mp h
  cases text? with
  | none =>
    cases h
    exact hs
  | some text =>
    obtain ⟨vars', hv, h⟩ := bind_eq_ok_iff.mp h
    cases h
    exact get?_foldlM_assign hv hs

theorem get?_loadNearest {loaded : Bool} (h : e.loadNearest = .ok (loaded, e'))
    (hs : e.vars.get? name = some value) : e'.vars.get? name = some value :=
  get?_loadFile h hs

end Environment

/-! ### Failing to load a file

Whether a file can be loaded depends on the variables that are set only through the names, and
through the texts with a NUL. -/

namespace Dotenv
variable {get? get?' : String → Option String} {done done' : List Assignment} {a a' : Assignment}

/-- What decides on an assignment: its name, and whether there is a NUL in its value. -/
def shape (a : Assignment) : String × Option Bool := (a.name, a.value?.map holdsNul)

theorem expand_reference {rest name default after : List Char}
    (h : reference? rest = some (name, default, after)) :
    expand get? ('$' :: '\x7b' :: rest) =
      ((get? (String.ofList name)).map String.toList).getD default ++ expand get? after := by
  rw [expand]
  split
  · rename_i heq
    rw [h] at heq
    cases heq
    rfl
  · rename_i heq
    rw [h] at heq
    cases heq

theorem expand_unclosed {rest : List Char} (h : reference? rest = none) :
    expand get? ('$' :: '\x7b' :: rest) = '$' :: expand get? ('\x7b' :: rest) := by
  rw [expand]
  split
  · rename_i heq
    rw [h] at heq
    cases heq
  · rfl

theorem contains_expand (h : ∀ name, (get? name).map holdsNul = (get?' name).map holdsNul)
    (cs : List Char) :
    (expand get? cs).contains '\x00' = (expand get?' cs).contains '\x00' := by
  fun_induction expand get? cs with
  | case1 => rw [expand]
  | case2 rest name default after href ih =>
    have hname := h (String.ofList name)
    rw [expand_reference href, List.contains_append, List.contains_append, ih]
    cases hg : get? (String.ofList name) with
    | none =>
      rw [hg, Option.map_none, eq_comm, Option.map_eq_none_iff] at hname
      rw [hname]
    | some value =>
      rw [hg, Option.map_some, eq_comm, Option.map_eq_some_iff] at hname
      obtain ⟨value', hg', hnul⟩ := hname
      rw [hg']
      exact congrArg (· || _) hnul.symm
  | case3 rest href ih =>
    rw [expand_unclosed href, List.contains_cons, List.contains_cons, ih]
  | case4 c rest hc ih =>
    rw [expand, List.contains_cons, List.contains_cons, ih]
    exact hc

theorem map_textOf? (h : ∀ name, (get? name).map holdsNul = (get?' name).map holdsNul)
    (hd : done.map shape = done'.map shape) (name : String) :
    (textOf? get? done name).map holdsNul = (textOf? get?' done' name).map holdsNul := by
  have hshape (l : List Assignment) :
      ((l.find? (·.name == name)).map fun a => a.value?.getD "").map holdsNul =
        ((l.map shape).find? (·.1 == name)).map fun s => s.2.getD (holdsNul "") := by
    rw [List.find?_map, Option.map_map, Option.map_map]
    congr 1
    funext a
    exact (Option.getD_map _ _ _).symm
  have hname := h name
  unfold textOf?
  cases hg : get? name with
  | none =>
    rw [hg, Option.map_none, eq_comm, Option.map_eq_none_iff] at hname
    rw [hname]
    exact (hshape done).trans (hd ▸ (hshape done').symm)
  | some value =>
    rw [hg, Option.map_some, eq_comm, Option.map_eq_some_iff] at hname
    obtain ⟨value', hg', hnul⟩ := hname
    rw [hg']
    exact congrArg some hnul.symm

theorem map_put (ha : shape a = shape a') (hd : done.map shape = done'.map shape) :
    (put a done).map shape = (put a' done').map shape := by
  have hname : a.name = a'.name := congrArg Prod.fst ha
  induction done generalizing done' with
  | nil =>
    rw [List.map_nil, eq_comm, List.map_eq_nil_iff] at hd
    rw [hd, put, put, List.map_singleton, List.map_singleton, ha]
  | cons b rest ih =>
    rw [List.map_cons, eq_comm, List.map_eq_cons_iff] at hd
    obtain ⟨b', rest', rfl, hb, hrest⟩ := hd
    have hbname : b'.name = b.name := congrArg Prod.fst hb
    rw [put, put, hbname, hname]
    split
    · rw [List.map_cons, List.map_cons, ha, hrest]
    · rw [List.map_cons, List.map_cons, hb, ih hrest.symm]

theorem map_record (h : ∀ name, (get? name).map holdsNul = (get?' name).map holdsNul)
    (hd : done.map shape = done'.map shape) (a : Assignment) :
    (record get? done a).map shape = (record get?' done' a).map shape := by
  refine map_put ?_ hd
  have hnul (value : String) :
      holdsNul (String.ofList (expand (textOf? get? done) value.toList)) =
        holdsNul (String.ofList (expand (textOf? get?' done') value.toList)) := by
    simp only [holdsNul, String.toList_ofList]
    exact contains_expand (map_textOf? h hd) value.toList
  simp only [shape, Option.map_map]
  congr 2
  exact funext hnul

theorem map_settle (h : ∀ name, (get? name).map holdsNul = (get?' name).map holdsNul)
    (text : String) : (settle get? text).map shape = (settle get?' text).map shape := by
  have hfold (l : List Assignment) : ∀ {done done' : List Assignment},
      done.map shape = done'.map shape →
        (l.foldl (record get?) done).map shape = (l.foldl (record get?') done').map shape := by
    induction l with
    | nil => exact id
    | cons a rest ih => exact fun hd => ih (map_record h hd a)
  exact hfold _ rfl

end Dotenv

namespace Environment
variable {vars vars' : Variables} {e e' : Environment}

/-- The same names are set, and the same ones to a text with a NUL. -/
def NulAlike (vars vars' : Variables) : Prop :=
  ∀ name, (vars.get? name).map holdsNul = (vars'.get? name).map holdsNul

theorem NulAlike.isSome_eq (h : NulAlike vars vars') (name : String) :
    (vars.get? name).isSome = (vars'.get? name).isSome := by
  simpa using congrArg Option.isSome (h name)

theorem NulAlike.addMissing {name value value' : String} (h : NulAlike vars vars')
    (hv : holdsNul value = holdsNul value') :
    NulAlike (vars.addMissing name value) (vars'.addMissing name value') := by
  unfold Variables.addMissing
  rw [h.isSome_eq name]
  split
  · exact h
  · intro n
    have hn := h n
    simp only [Variables.get?] at hn
    simp only [Variables.get?, List.lookup_append, Option.map_or, hn]
    congr 1
    cases hb : n == name <;> simp [List.lookup_cons, hb, hv]

theorem agree_assign {a a' : Dotenv.Assignment} (h : NulAlike vars vars')
    (ha : Dotenv.shape a = Dotenv.shape a') :
    Agree Eq NulAlike (assign vars a) (assign vars' a') := by
  obtain ⟨name, value?⟩ := a
  obtain ⟨name', value?'⟩ := a'
  obtain ⟨hname, hvalue⟩ := Prod.mk.inj ha
  obtain rfl : name = name' := hname
  have hvalue : value?.map holdsNul = value?'.map holdsNul := hvalue
  cases value? with
  | none =>
    rw [Option.map_none, eq_comm, Option.map_eq_none_iff] at hvalue
    rw [hvalue]
    exact .ok h
  | some value =>
    rw [Option.map_some, eq_comm, Option.map_eq_some_iff] at hvalue
    obtain ⟨value', rfl, hnul⟩ := hvalue
    unfold assign
    simp only [h.isSome_eq name, hnul]
    repeat' split
    · exact .ok h
    · exact .error rfl
    · exact .error rfl
    · exact .ok (h.addMissing hnul.symm)

theorem agree_foldlM_assign {l l' : List Dotenv.Assignment} (h : NulAlike vars vars')
    (hl : l.map Dotenv.shape = l'.map Dotenv.shape) :
    Agree Eq NulAlike (l.foldlM assign vars) (l'.foldlM assign vars') := by
  induction l generalizing l' vars vars' with
  | nil =>
    rw [List.map_nil, eq_comm, List.map_eq_nil_iff] at hl
    rw [hl]
    exact .ok h
  | cons a rest ih =>
    rw [List.map_cons, eq_comm, List.map_eq_cons_iff] at hl
    obtain ⟨a', rest', rfl, ha, hrest⟩ := hl
    rw [List.foldlM_cons, List.foldlM_cons]
    exact (agree_assign h ha.symm).bind fun hv => ih hv hrest.symm

theorem agree_loadFile (h : NulAlike e.vars e'.vars) (he : e.entry = e'.entry)
    (ho : loadingOff e.vars = loadingOff e'.vars) (path : String) :
    Agree Eq (fun _ _ => True) (e.loadFile path) (e'.loadFile path) := by
  have htext : e.textToLoad? path = e'.textToLoad? path := by
    simp only [textToLoad?, find, he, ho]
  simp only [loadFile, htext]
  cases e'.textToLoad? path with
  | error err => exact .error rfl
  | ok text? =>
    cases text? with
    | none => exact .ok trivial
    | some text =>
      have hsettle := Dotenv.map_settle h text
      exact (agree_foldlM_assign h hsettle).bind fun _ => .ok trivial

theorem agree_loadNearest (h : NulAlike e.vars e'.vars) (he : e.entry = e'.entry)
    (hd : e.depth = e'.depth) (hh : e.home = e'.home)
    (ho : loadingOff e.vars = loadingOff e'.vars) :
    Agree Eq (fun _ _ => True) e.loadNearest e'.loadNearest := by
  have hisFile : e.isFile = e'.isFile := by
    funext path
    simp only [isFile, read?, find, he]
  have hfile : e.settingsFile = e'.settingsFile := by
    rw [settingsFile, settingsFile, nearestFile?, nearestFile?, hd, hisFile, hh]
  rw [loadNearest, loadNearest, hfile]
  exact agree_loadFile h he ho e'.settingsFile

end Environment

/-! ### The values -/

namespace Settings
variable {vars vars' : Variables} {name value value' : String} {e e' : Environment}

theorem intOf_congr (h : vars.get? name = some value) (h' : vars'.get? name = some value')
    (ht : trim value = trim value') (default : Int) :
    intOf vars name default = intOf vars' name default := by
  simp only [intOf, h, h', Option.getD_some, ht]

theorem textOf_congr (h : vars.get? name = some value) (h' : vars'.get? name = some value')
    (ht : trim value = trim value') (he : value = "" ↔ value' = "") (default : String) :
    textOf vars name default = textOf vars' name default := by
  simp only [textOf, h, h', Option.getD_some, String.isEmpty_iff]
  by_cases hv : value = ""
  · rw [if_pos hv, if_pos (he.mp hv)]
  · rw [if_neg hv, if_neg fun hv' => hv (he.mpr hv'), ht]

theorem intOf_of_blank (h : vars.get? name = some value) (ht : trim value = "") (default : Int) :
    intOf vars name default = .ok default := by
  simp only [intOf, h, Option.getD_some, ht]
  rfl

theorem textOf_of_empty (h : vars.get? name = some "") {default : String}
    (ht : trim default = default) : textOf vars name default = default := by
  simp only [textOf, h, Option.getD_some]
  exact ht

/-- Settings that differ at most in a text that is empty in one environment and blank in the
other. -/
structure Alike (vars vars' : Variables) (s s' : Settings) : Prop where
  port : s.port = s'.port
  maxSteps : s.maxSteps = s'.maxSteps
  host : (vars.get? "STACKVM_HOST" = some "" ↔ vars'.get? "STACKVM_HOST" = some "") →
    s.host = s'.host
  logLevel : (vars.get? "STACKVM_LOG_LEVEL" = some "" ↔
    vars'.get? "STACKVM_LOG_LEVEL" = some "") → s.logLevel = s'.logLevel

/-- Where the defaults hold although the variables are set. -/
structure Defaults (vars : Variables) (s : Settings) : Prop where
  port : ∀ value, vars.get? "STACKVM_PORT" = some value → trim value = "" → s.port = 3001
  maxSteps : ∀ value, vars.get? "STACKVM_MAX_STEPS" = some value → trim value = "" →
    s.maxSteps = 100000
  host : vars.get? "STACKVM_HOST" = some "" → s.host = "127.0.0.1"
  logLevel : vars.get? "STACKVM_LOG_LEVEL" = some "" → s.logLevel = "WARNING"

theorem agree_ofVariables (h : SetAlike vars vars') :
    Agree Eq (Alike vars vars') (ofVariables vars) (ofVariables vars') := by
  obtain ⟨host, host', hh, hh', hht⟩ := h "STACKVM_HOST" (by decide)
  obtain ⟨port, port', hp, hp', hpt⟩ := h "STACKVM_PORT" (by decide)
  obtain ⟨steps, steps', hs, hs', hst⟩ := h "STACKVM_MAX_STEPS" (by decide)
  obtain ⟨level, level', hl, hl', hlt⟩ := h "STACKVM_LOG_LEVEL" (by decide)
  simp only [ofVariables, intOf_congr hp hp' hpt, intOf_congr hs hs' hst]
  cases intOf vars' "STACKVM_PORT" 3001 with
  | error err => exact .error rfl
  | ok n =>
    cases intOf vars' "STACKVM_MAX_STEPS" 100000 with
    | error err => exact .error rfl
    | ok n' =>
      refine .ok ⟨rfl, rfl, fun he => ?_, fun he => ?_⟩
      · rw [hh, hh', Option.some.injEq, Option.some.injEq] at he
        exact textOf_congr hh hh' hht he _
      · rw [hl, hl', Option.some.injEq, Option.some.injEq] at he
        exact congrArg upper (textOf_congr hl hl' hlt he _)

theorem defaults_ofVariables {s : Settings} (h : ofVariables vars = .ok s) : s.Defaults vars := by
  obtain ⟨port, hport, h⟩ := bind_eq_ok_iff.mp h
  obtain ⟨steps, hsteps, h⟩ := bind_eq_ok_iff.mp h
  cases h
  refine ⟨fun value hv ht => ?_, fun value hv ht => ?_, fun hv => ?_, fun hv => ?_⟩
  · rw [intOf_of_blank hv ht] at hport
    exact (Except.ok.inj hport).symm
  · rw [intOf_of_blank hv ht] at hsteps
    exact (Except.ok.inj hsteps).symm
  · exact textOf_of_empty hv (by decide)
  · show upper (textOf vars "STACKVM_LOG_LEVEL" "WARNING") = "WARNING"
    rw [textOf_of_empty hv (by decide)]
    decide +kernel

end Settings

section
variable {e e' e₁ e₁' : Environment} {b b' : Bool}

theorem SetAlike.nulAlike (h : SetAlike e.vars e'.vars)
    (ho : ∀ name, name ∉ settingNames → e.vars.get? name = e'.vars.get? name) :
    Environment.NulAlike e.vars e'.vars := by
  intro name
  by_cases hn : name ∈ settingNames
  · obtain ⟨value, value', hv, hv', ht⟩ := h name hn
    rw [hv, hv', Option.map_some, Option.map_some, ← holdsNul_trim value, ht, holdsNul_trim]
  · rw [ho name hn]

theorem SetAlike.loaded (h : SetAlike e.vars e'.vars) (he : e.loadNearest = .ok (b, e₁))
    (he' : e'.loadNearest = .ok (b', e₁')) : SetAlike e₁.vars e₁'.vars := by
  intro name hn
  obtain ⟨value, value', hv, hv', ht⟩ := h name hn
  exact ⟨value, value', Environment.get?_loadNearest he hv,
    Environment.get?_loadNearest he' hv', ht⟩

/-- What is set is the same after a file has been loaded. -/
theorem SetAlike.get?_eq (h : SetAlike e.vars e'.vars) (he : e.loadNearest = .ok (b, e₁))
    (he' : e'.loadNearest = .ok (b', e₁')) {name : String} (hn : name ∈ settingNames) :
    e₁.vars.get? name = e.vars.get? name ∧ e₁'.vars.get? name = e'.vars.get? name := by
  obtain ⟨value, value', hv, hv', -⟩ := h name hn
  rw [Environment.get?_loadNearest he hv, Environment.get?_loadNearest he' hv', hv, hv']
  exact ⟨rfl, rfl⟩

theorem Settings.load_of_ok (h : e.loadNearest = .ok (b, e₁)) :
    Settings.load e = Settings.ofVariables e₁.vars := by
  rw [Settings.load, h, ok_bind]

theorem Settings.load_of_error {err : SettingsError} (h : e.loadNearest = .error err) :
    Settings.load e = .error err := by
  rw [Settings.load, h, error_bind]

theorem Settings.agree_load (h : SetAlike e.vars e'.vars)
    (hn : Agree Eq (fun _ _ => True) e.loadNearest e'.loadNearest) :
    Agree Eq (Settings.Alike e.vars e'.vars) (Settings.load e) (Settings.load e') := by
  generalize hr : e.loadNearest = result at hn
  generalize hr' : e'.loadNearest = result' at hn
  cases hn with
  | error herr =>
    rw [Settings.load_of_error hr, Settings.load_of_error hr']
    exact .error herr
  | @ok r r' =>
    obtain ⟨b, e₁⟩ := r
    obtain ⟨b', e₁'⟩ := r'
    rw [Settings.load_of_ok hr, Settings.load_of_ok hr']
    refine (Settings.agree_ofVariables (h.loaded hr hr')).mono fun ha => ?_
    obtain ⟨hhost, hhost'⟩ := h.get?_eq hr hr' (by decide : "STACKVM_HOST" ∈ settingNames)
    obtain ⟨hlevel, hlevel'⟩ :=
      h.get?_eq hr hr' (by decide : "STACKVM_LOG_LEVEL" ∈ settingNames)
    refine ⟨ha.port, ha.maxSteps, fun hiff => ha.host ?_, fun hiff => ha.logLevel ?_⟩
    · rwa [hhost, hhost']
    · rwa [hlevel, hlevel']

theorem Settings.defaults_load {s : Settings} (h : Settings.load e = .ok s) :
    s.Defaults e.vars := by
  obtain ⟨⟨loaded, e₁⟩, he, h⟩ := bind_eq_ok_iff.mp h
  have hd := Settings.defaults_ofVariables h
  have hset {name value : String} (hv : e.vars.get? name = some value) :
      e₁.vars.get? name = some value := Environment.get?_loadNearest he hv
  exact ⟨fun value hv => hd.port value (hset hv), fun value hv => hd.maxSteps value (hset hv),
    fun hv => hd.host (hset hv), fun hv => hd.logLevel (hset hv)⟩

/-- White space around the settings of two environments can make a difference only where a text is
empty in one of them and blank in the other, and never for the numbers. The files cannot make one
if the environments are the same otherwise. -/
theorem settings_trimmed (he : SetAlike e.vars e'.vars) :
    (Agree Eq (fun _ _ => True) e.loadNearest e'.loadNearest →
      Agree Eq (Settings.Alike e.vars e'.vars) (Settings.load e) (Settings.load e')) ∧
    (e.entry = e'.entry → e.depth = e'.depth → e.home = e'.home →
      (∀ name, name ∉ settingNames → e.vars.get? name = e'.vars.get? name) →
      Agree Eq (fun _ _ => True) e.loadNearest e'.loadNearest) ∧
    ∀ s, Settings.load e = .ok s → s.Defaults e.vars := by
  refine ⟨Settings.agree_load he, fun hentry hdepth hhome ho => ?_,
    fun s => Settings.defaults_load⟩
  have hoff : Environment.loadingOff e.vars = Environment.loadingOff e'.vars := by
    simp only [Environment.loadingOff, ho "PYTHON_DOTENV_DISABLED" (by decide)]
  exact Environment.agree_loadNearest (he.nulAlike ho) hentry hdepth hhome hoff

end

/-- An environment with these settings and without a file. -/
def hostedAt (host port steps level : String) : Environment where
  vars := [("STACKVM_HOST", host), ("STACKVM_PORT", port), ("STACKVM_MAX_STEPS", steps),
    ("STACKVM_LOG_LEVEL", level)]

section
variable {host host' port port' steps steps' level level' : String}

theorem setAlike_hostedAt (hh : trim host = trim host') (hp : trim port = trim port')
    (hs : trim steps = trim steps') (hl : trim level = trim level') :
    SetAlike (hostedAt host port steps level).vars (hostedAt host' port' steps' level').vars := by
  intro name hn
  simp only [settingNames, List.mem_cons, List.not_mem_nil, or_false] at hn
  rcases hn with rfl | rfl | rfl | rfl
  · exact ⟨host, host', rfl, rfl, hh⟩
  · exact ⟨port, port', rfl, rfl, hp⟩
  · exact ⟨steps, steps', rfl, rfl, hs⟩
  · exact ⟨level, level', rfl, rfl, hl⟩

theorem get?_hostedAt {name : String} (hn : name ∉ settingNames) :
    (hostedAt host port steps level).vars.get? name = none := by
  simp only [settingNames, List.mem_cons, List.not_mem_nil, or_false, not_or] at hn
  refine List.lookup_eq_none_iff.mpr ?_
  simp [hostedAt, hn]

end

theorem padded_settings_trimmed :
    SetAlike (hostedAt " local\n" "\t80" " \t" "").vars (hostedAt "local" "80 " "" "").vars ∧
    Agree Eq (Settings.Alike (hostedAt " local\n" "\t80" " \t" "").vars
        (hostedAt "local" "80 " "" "").vars)
      (Settings.load (hostedAt " local\n" "\t80" " \t" ""))
      (Settings.load (hostedAt "local" "80 " "" "")) ∧
    (Settings.load (hostedAt " local\n" "\t80" " \t" "")).toOption =
      some { host := "local", port := 80 } ∧
    (Settings.load (hostedAt "local" "80 " "" "")).toOption =
      some { host := "local", port := 80 } := by
  have he : SetAlike (hostedAt " local\n" "\t80" " \t" "").vars
      (hostedAt "local" "80 " "" "").vars :=
    setAlike_hostedAt (by decide) (by decide) (by decide) rfl
  obtain ⟨hload, hfiles, -⟩ := settings_trimmed he
  refine ⟨he, hload (hfiles rfl rfl rfl fun name hn => ?_), by decide +kernel, by decide +kernel⟩
  rw [get?_hostedAt hn, get?_hostedAt hn]

/-- A host that is blank stays as an empty text, where an empty one gives the default. -/
theorem not_padding_ignored : ¬ ∀ e e' : Environment, SetAlike e.vars e'.vars →
    e.entry = e'.entry → e.depth = e'.depth → e.home = e'.home →
    (∀ name, name ∉ settingNames → e.vars.get? name = e'.vars.get? name) →
    Agree Eq Eq (Settings.load e) (Settings.load e') := by
  intro h
  have hblank : (Settings.load (hostedAt " " "1" "1" "INFO")).toOption =
      some { host := "", port := 1, maxSteps := 1, logLevel := "INFO" } := by decide +kernel
  have hempty : (Settings.load (hostedAt "" "1" "1" "INFO")).toOption =
      some { host := "127.0.0.1", port := 1, maxSteps := 1, logLevel := "INFO" } := by
    decide +kernel
  have hagree := h (hostedAt " " "1" "1" "INFO") (hostedAt "" "1" "1" "INFO")
    (setAlike_hostedAt (by decide) rfl rfl rfl) rfl rfl rfl fun name hn => by
      rw [get?_hostedAt hn, get?_hostedAt hn]
  rw [toOption_eq_some_iff.mp hblank, toOption_eq_some_iff.mp hempty] at hagree
  cases hagree with
  | ok heq => exact absurd (congrArg Settings.host heq) (by decide)

end StackMachine
