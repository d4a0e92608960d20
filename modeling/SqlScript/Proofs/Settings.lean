import SqlScript.Config.Lenient
import SqlScript.Proofs.Doubles
import SqlScript.Sqlite.Pool

/-!
# Settings from their sources

Every setting is read on its own, from one input: an override, else what its variable says, else its
default. So what is reported are the problems of the settings, one by one, and what is accepted is
good enough for a pool. All this holds for every sound validation, and the lenient one is sound.

* `Config.IsEffective`, `Config.isEffective_iff`: the input of a setting, by its sources, is the one
  that is read.
* `Config.complaint?`, `Config.problems`: what is wrong with an input, and with all of them.
* `Config.Reads`: a configuration that is what its inputs say.
* `Config.ofInputs_eq_error_iff`, `Config.ofInputs_eq_ok_iff`: the problems are reported, or there
  are none and such a configuration is made.
* `Config.reads_defaultInputs`: every default would be accepted.
* `Config.Validation.isSound_lenient`: the lenient validation is sound.
* `Config.IsUsable`, `Sqlite.Pool.ofConfig_of_isUsable`: bounds, and a pool within them.
* `Config.effective_filter`, `Config.fromNames_filter`: nothing else is looked at.
* `Config.ofSources_effective`: **what becomes of an environment and of overrides.**
-/

namespace SqlScript

theorem Setting.mem_all (s : Setting) : s ∈ Setting.all := by cases s <;> decide

namespace Config

/-! ## Effective inputs -/

/-- **The defaults as inputs.** There is none for a directory. -/
def defaultInputs : Inputs
  | .databaseUrl => some (.value (.text "sqlite:///sqlrunner.db"))
  | .poolSize => some (.value (.int 5))
  | .acquireTimeout => some (.value (.float 30))
  | .busyTimeout => some (.value (.float 5))
  | .scriptsDirectory => none
  | .strictParameters => some (.value (.bool false))

/-- Inputs with the defaults for those that there are not. -/
def withDefaults (inputs : Inputs) : Inputs := fun s => (inputs s).or (defaultInputs s)

/-- **The input of a setting**: the override unless it is null, else what the variable says unless
that is blank, else the default. -/
inductive IsEffective (environment : List (String × String)) (overrides : List (String × Input))
    (s : Setting) : Option Input → Prop
  | override {i : Input} (hgiven : (s.name, i) ∈ overrides) (hnull : i ≠ .value .null) :
    IsEffective environment overrides s (some i)
  | environment {raw : String} (hnull : ∀ i, (s.name, i) ∈ overrides → i = .value .null)
    (hset : (s.variableName, raw) ∈ environment) (hblank : Text.trim raw.toList ≠ []) :
    IsEffective environment overrides s
      (some (.value (.text (String.ofList (Text.trim raw.toList)))))
  | default (hnull : ∀ i, (s.name, i) ∈ overrides → i = .value .null)
    (hblank : ∀ raw, (s.variableName, raw) ∈ environment → Text.trim raw.toList = []) :
    IsEffective environment overrides s (defaultInputs s)

/-- Every setting has an input, from one of its sources. -/
theorem exists_isEffective (environment : List (String × String))
    (overrides : List (String × Input)) (s : Setting) :
    ∃ o, IsEffective environment overrides s o := by
  by_cases hgiven : ∃ i, (s.name, i) ∈ overrides ∧ i ≠ .value .null
  · obtain ⟨i, hmem, hnull⟩ := hgiven
    exact ⟨_, .override hmem hnull⟩
  · have hnull : ∀ i, (s.name, i) ∈ overrides → i = .value .null := fun i hmem =>
      Classical.byContradiction fun hne => hgiven ⟨i, hmem, hne⟩
    by_cases hset : ∃ raw, (s.variableName, raw) ∈ environment ∧ Text.trim raw.toList ≠ []
    · obtain ⟨raw, hmem, hblank⟩ := hset
      exact ⟨_, .environment hnull hmem hblank⟩
    · exact ⟨_, .default hnull fun raw hmem =>
        Classical.byContradiction fun hne => hset ⟨raw, hmem, hne⟩⟩

/-- In a list without a key twice, an entry is found by its key. -/
theorem find?_key_iff {α : Type} {entries : List (String × α)}
    (h : (entries.map (·.1)).Nodup) {key : String} {x : α} :
    (entries.find? (·.1 == key)).map (·.2) = some x ↔ (key, x) ∈ entries := by
  constructor
  · intro hfind
    obtain ⟨⟨key', x'⟩, hfound, rfl⟩ := Option.map_eq_some_iff.1 hfind
    have hkey := List.find?_some hfound
    obtain rfl : key' = key := eq_of_beq hkey
    exact List.mem_of_find?_eq_some hfound
  · intro hmem
    induction entries with
    | nil => exact nomatch hmem
    | cons e entries ih =>
      obtain ⟨hkey, hentries⟩ := List.nodup_cons.1 h
      rcases List.mem_cons.1 hmem with rfl | hmem
      · simp
      · -- an entry in front with the same key would be the second one
        have hne : e.1 ≠ key := fun heq => hkey (List.mem_map.2 ⟨(key, x), hmem, heq.symm⟩)
        rw [List.find?_cons, beq_eq_false_iff_ne.2 hne]
        exact ih hentries hmem

/-- Whether a setting has an override that is not null. -/
def isOverridden (overrides : Inputs) (s : Setting) : Bool :=
  match overrides s with
  | none | some (.value .null) => false
  | some _ => true

theorem isOverridden_iff {overrides : Inputs} {s : Setting} :
    isOverridden overrides s = true ↔ ∃ i, overrides s = some i ∧ i ≠ .value .null := by
  unfold isOverridden
  split <;> simp_all

theorem effective_eq (environment : List (String × String)) (overrides : Inputs) (s : Setting) :
    effective environment overrides s =
      if isOverridden overrides s then overrides s else fromEnvironment environment s := by
  unfold effective isOverridden
  split <;> simp_all

section Sources

variable {environment : List (String × String)} {overrides : List (String × Input)}
  (henvironment : (environment.map (·.1)).Nodup) (hoverrides : (overrides.map (·.1)).Nodup)
  {s : Setting}

include henvironment in
theorem fromEnvironment_eq_some {raw : String} (hset : (s.variableName, raw) ∈ environment)
    (hblank : Text.trim raw.toList ≠ []) :
    fromEnvironment environment s =
      some (.value (.text (String.ofList (Text.trim raw.toList)))) := by
  obtain ⟨⟨name, raw'⟩, hfound, rfl⟩ :=
    Option.map_eq_some_iff.1 ((find?_key_iff henvironment).2 hset)
  simp [fromEnvironment, hfound, hblank]

include henvironment in
theorem fromEnvironment_eq_none
    (hblank : ∀ raw, (s.variableName, raw) ∈ environment → Text.trim raw.toList = []) :
    fromEnvironment environment s = none := by
  unfold fromEnvironment
  cases hfound : environment.find? (·.1 == s.variableName) with
  | none => rfl
  | some e =>
    have hmem := (find?_key_iff henvironment).1 (congrArg (Option.map (·.2)) hfound)
    simp [hblank e.2 hmem]

include hoverrides in
theorem fromNames_eq_some_iff {i : Input} :
    fromNames overrides s = some i ↔ (s.name, i) ∈ overrides := find?_key_iff hoverrides

include hoverrides in
theorem isOverridden_fromNames_iff :
    isOverridden (fromNames overrides) s = true ↔
      ∃ i, (s.name, i) ∈ overrides ∧ i ≠ .value .null := by
  simp only [isOverridden_iff, fromNames_eq_some_iff hoverrides]

include henvironment hoverrides

theorem IsEffective.eq {o : Option Input} (h : IsEffective environment overrides s o) :
    withDefaults (effective environment (fromNames overrides)) s = o := by
  have hleft (hnull : ∀ i, (s.name, i) ∈ overrides → i = .value .null) :
      effective environment (fromNames overrides) s = fromEnvironment environment s := by
    rw [effective_eq, if_neg fun hover => ?_]
    obtain ⟨i, hgiven, hi⟩ := (isOverridden_fromNames_iff hoverrides).1 hover
    exact hi (hnull i hgiven)
  cases h with
  | override hgiven hnull =>
    rw [withDefaults, effective_eq,
      if_pos ((isOverridden_fromNames_iff hoverrides).2 ⟨_, hgiven, hnull⟩),
      (fromNames_eq_some_iff hoverrides).2 hgiven, Option.some_or]
  | environment hnull hset hblank =>
    rw [withDefaults, hleft hnull, fromEnvironment_eq_some henvironment hset hblank, Option.some_or]
  | default hnull hblank =>
    rw [withDefaults, hleft hnull, fromEnvironment_eq_none henvironment hblank, Option.none_or]

theorem isEffective_iff {o : Option Input} :
    IsEffective environment overrides s o ↔
      withDefaults (effective environment (fromNames overrides)) s = o := by
  refine ⟨IsEffective.eq henvironment hoverrides, ?_⟩
  rintro rfl
  obtain ⟨o, ho⟩ := exists_isEffective environment overrides s
  rwa [IsEffective.eq henvironment hoverrides ho]

end Sources

/-! ## Problems -/

/-- Why a reading failed, if it did. -/
def failure? {α : Type} : Except Complaint α → Option Complaint
  | .ok _ => none
  | .error complaint => some complaint

/-- **What is wrong with an input** of a setting, if anything is. -/
def complaint? (v : Validation) : Setting → Input → Option Complaint
  | .databaseUrl, i => failure? (v.text i)
  | .poolSize, i => failure? (poolSizeOf v i)
  | .acquireTimeout, i => failure? (acquireTimeoutOf v i)
  | .busyTimeout, i => failure? (busyTimeoutOf v i)
  | .scriptsDirectory, i => failure? (scriptsDirectoryOf v i)
  | .strictParameters, i => failure? (v.truth i)

/-- **The problem with the input** of a setting. Without an input there is none. -/
def problemWith? (v : Validation) (inputs : Inputs) (s : Setting) : Option Problem :=
  (inputs s).bind fun i => (complaint? v s i).map fun complaint => ⟨s, complaint, i⟩

/-- Whether there is a problem with the input of a setting. -/
def isInvalid (v : Validation) (inputs : Inputs) (s : Setting) : Bool :=
  (problemWith? v inputs s).isSome

/-- **The problems with all inputs**, in the order of the settings. -/
def problems (v : Validation) (inputs : Inputs) : List Problem :=
  Setting.all.filterMap (problemWith? v inputs)

section Problems

variable {v : Validation} {inputs : Inputs} {s : Setting}

theorem problemWith?_eq_some_iff {p : Problem} :
    problemWith? v inputs s = some p ↔
      p.setting = s ∧ inputs s = some p.input ∧ complaint? v s p.input = some p.complaint := by
  obtain ⟨setting, complaint, input⟩ := p
  simp only [problemWith?, Option.bind_eq_some_iff, Option.map_eq_some_iff, Problem.mk.injEq]
  constructor
  · rintro ⟨i, hi, complaint', hcomplaint, rfl, rfl, rfl⟩
    exact ⟨rfl, hi, hcomplaint⟩
  · rintro ⟨rfl, hi, hcomplaint⟩
    exact ⟨input, hi, complaint, hcomplaint, rfl, rfl, rfl⟩

theorem problemWith?_eq_none_iff :
    problemWith? v inputs s = none ↔ ∀ i, inputs s = some i → complaint? v s i = none := by
  simp only [problemWith?, Option.bind_eq_none_iff, Option.map_eq_none_iff]

/-- Each setting with a problem is reported, once, in its place. -/
theorem map_setting_problems (v : Validation) (inputs : Inputs) :
    (problems v inputs).map (·.setting) = Setting.all.filter (isInvalid v inputs) := by
  unfold problems
  induction Setting.all with
  | nil => rfl
  | cons s settings ih =>
    cases hproblem : problemWith? v inputs s with
    | none =>
      have hvalid : ¬isInvalid v inputs s = true := by simp [isInvalid, hproblem]
      rw [List.filterMap_cons_none hproblem, List.filter_cons_of_neg hvalid, ih]
    | some p =>
      have hinvalid : isInvalid v inputs s = true := by simp [isInvalid, hproblem]
      rw [List.filterMap_cons_some hproblem, List.filter_cons_of_pos hinvalid, List.map_cons, ih,
        (problemWith?_eq_some_iff.1 hproblem).1]

theorem problems_eq_nil_iff :
    problems v inputs = [] ↔ ∀ s i, inputs s = some i → complaint? v s i = none := by
  simp only [problems, List.filterMap_eq_nil_iff, problemWith?_eq_none_iff]
  exact ⟨fun h s => h s s.mem_all, fun h s _ => h s⟩

theorem problems_ne_nil_iff : problems v inputs ≠ [] ↔ ∃ s, isInvalid v inputs s = true := by
  simp only [problems, Ne, List.filterMap_eq_nil_iff, Classical.not_forall, exists_prop, isInvalid,
    Option.isSome_iff_ne_none]
  exact ⟨fun ⟨s, _, h⟩ => ⟨s, h⟩, fun ⟨s, h⟩ => ⟨s, s.mem_all, h⟩⟩

/-- A reading that fails is the problem of its setting. -/
theorem problem?_readSetting {α : Type} (default : α) (read : Input → Except Complaint α)
    (h : ∀ i, complaint? v s i = failure? (read i)) :
    problem? (readSetting inputs s default read) = problemWith? v inputs s := by
  unfold readSetting problemWith?
  cases inputs s with
  | none => rfl
  | some i =>
    show problem? ((read i).mapError _) = (complaint? v s i).map _
    rw [h i]
    cases read i <;> rfl

/-! ## Configurations -/

/-- **A value is what an input says**: what is read from it or, if there is none, the default. -/
def IsReadFrom {α : Type} (read : Input → Except Complaint α) (default : α)
    (input : Option Input) (x : α) : Prop :=
  match input with
  | none => x = default
  | some i => read i = .ok x

/-- **A configuration is what its inputs say**, each value what the input of its own setting
says. -/
structure Reads (config : Config) (v : Validation) (inputs : Inputs) : Prop where
  databaseUrl : IsReadFrom v.text "sqlite:///sqlrunner.db" (inputs .databaseUrl)
    config.databaseUrl
  poolSize : IsReadFrom (poolSizeOf v) 5 (inputs .poolSize) config.poolSize
  acquireTimeout : IsReadFrom (acquireTimeoutOf v) 30 (inputs .acquireTimeout)
    config.acquireTimeout
  busyTimeout : IsReadFrom (busyTimeoutOf v) 5 (inputs .busyTimeout) config.busyTimeout
  scriptsDirectory : IsReadFrom (scriptsDirectoryOf v) none (inputs .scriptsDirectory)
    config.scriptsDirectory
  strictParameters : IsReadFrom v.truth false (inputs .strictParameters) config.strictParameters

theorem readSetting_eq_ok {α : Type} {default x : α} {read : Input → Except Complaint α}
    (h : IsReadFrom read default (inputs s) x) : readSetting inputs s default read = .ok x := by
  unfold readSetting
  cases hinput : inputs s with
  | none =>
    rw [hinput] at h
    exact congrArg Except.ok h.symm
  | some i =>
    rw [hinput] at h
    exact congrArg (Except.mapError _) h

/-- A reading without a problem reads a value. -/
theorem exists_isReadFrom {α : Type} (default : α) {read : Input → Except Complaint α}
    (hread : ∀ i, complaint? v s i = failure? (read i)) (h : problems v inputs = []) :
    ∃ x, IsReadFrom read default (inputs s) x := by
  unfold IsReadFrom
  cases hinput : inputs s with
  | none => exact ⟨default, rfl⟩
  | some i =>
    have hi := problems_eq_nil_iff.1 h s i hinput
    rw [hread i] at hi
    cases hok : read i with
    | ok x => exact ⟨x, hok⟩
    | error complaint =>
      rw [hok] at hi
      cases hi

theorem exists_reads (h : problems v inputs = []) : ∃ config : Config, config.Reads v inputs := by
  obtain ⟨databaseUrl, h₁⟩ := exists_isReadFrom (s := .databaseUrl) _ (fun _ => rfl) h
  obtain ⟨poolSize, h₂⟩ := exists_isReadFrom (s := .poolSize) _ (fun _ => rfl) h
  obtain ⟨acquireTimeout, h₃⟩ := exists_isReadFrom (s := .acquireTimeout) _ (fun _ => rfl) h
  obtain ⟨busyTimeout, h₄⟩ := exists_isReadFrom (s := .busyTimeout) _ (fun _ => rfl) h
  obtain ⟨scriptsDirectory, h₅⟩ := exists_isReadFrom (s := .scriptsDirectory) _ (fun _ => rfl) h
  obtain ⟨strictParameters, h₆⟩ := exists_isReadFrom (s := .strictParameters) _ (fun _ => rfl) h
  exact ⟨⟨databaseUrl, poolSize, acquireTimeout, busyTimeout, scriptsDirectory, strictParameters⟩,
    h₁, h₂, h₃, h₄, h₅, h₆⟩

theorem ofInputs_of_reads {config : Config} (h : config.Reads v inputs) :
    ofInputs v inputs = .ok config := by
  simp only [ofInputs, readSetting_eq_ok h.databaseUrl, readSetting_eq_ok h.poolSize,
    readSetting_eq_ok h.acquireTimeout, readSetting_eq_ok h.busyTimeout,
    readSetting_eq_ok h.scriptsDirectory, readSetting_eq_ok h.strictParameters]

theorem problems_eq (v : Validation) (inputs : Inputs) :
    problems v inputs =
      [problem? (readSetting inputs .databaseUrl "sqlite:///sqlrunner.db" v.text),
        problem? (readSetting inputs .poolSize 5 (poolSizeOf v)),
        problem? (readSetting inputs .acquireTimeout 30 (acquireTimeoutOf v)),
        problem? (readSetting inputs .busyTimeout 5 (busyTimeoutOf v)),
        problem? (readSetting inputs .scriptsDirectory none (scriptsDirectoryOf v)),
        problem? (readSetting inputs .strictParameters false v.truth)].filterMap id := by
  have h {α : Type} (s : Setting) (default : α) {read : Input → Except Complaint α}
      (hread : ∀ i, complaint? v s i = failure? (read i)) :
      problem? (readSetting inputs s default read) = problemWith? v inputs s :=
    problem?_readSetting default read hread
  rw [h .databaseUrl _ fun _ => rfl, h .poolSize _ fun _ => rfl, h .acquireTimeout _ fun _ => rfl,
    h .busyTimeout _ fun _ => rfl, h .scriptsDirectory _ fun _ => rfl,
    h .strictParameters _ fun _ => rfl]
  exact (List.filterMap_map (f := problemWith? v inputs) (g := id) (l := Setting.all)).symm

theorem ofInputs_of_problems (h : problems v inputs ≠ []) :
    ofInputs v inputs = .error (problems v inputs) := by
  rw [problems_eq] at h ⊢
  simp only [ofInputs]
  split
  · rename_i h₁ h₂ h₃ h₄ h₅ h₆
    rw [h₁, h₂, h₃, h₄, h₅, h₆] at h
    exact absurd rfl h
  · rfl

/-- **The problems with the inputs are what is reported**, if there are any. -/
theorem ofInputs_eq_error_iff {reported : List Problem} :
    ofInputs v inputs = .error reported ↔
      problems v inputs ≠ [] ∧ reported = problems v inputs := by
  by_cases h : problems v inputs = []
  · obtain ⟨config, hreads⟩ := exists_reads h
    simp [ofInputs_of_reads hreads, h]
  · simp [ofInputs_of_problems h, h, eq_comm]

/-- **What is accepted is what the inputs say**, and what they say is accepted. -/
theorem ofInputs_eq_ok_iff {config : Config} :
    ofInputs v inputs = .ok config ↔ config.Reads v inputs := by
  refine ⟨fun hok => ?_, ofInputs_of_reads⟩
  by_cases h : problems v inputs = []
  · obtain ⟨config', hreads⟩ := exists_reads h
    obtain rfl := Except.ok.inj (hok.symm.trans (ofInputs_of_reads hreads))
    exact hreads
  · rw [ofInputs_of_problems h] at hok
    cases hok

theorem problems_eq_nil_of_reads {config : Config} (h : config.Reads v inputs) :
    problems v inputs = [] := by
  have hok := ofInputs_eq_ok_iff.2 h
  refine Classical.byContradiction fun hne => ?_
  rw [ofInputs_of_problems hne] at hok
  cases hok

end Problems

/-! ## Defaults -/

/-- **Every default passes its own check**, and is read as it is. -/
theorem reads_defaultInputs {v : Validation} (hv : v.IsSound) :
    ({} : Config).Reads v defaultInputs where
  databaseUrl := hv.ownText _
  poolSize := hv.ownWhole (by decide)
  acquireTimeout := hv.ownNumber (by decide +kernel)
  busyTimeout := hv.ownNumber (by decide +kernel)
  scriptsDirectory := rfl
  strictParameters := hv.ownTruth _

theorem isReadFrom_or_iff {α : Type} {read : Input → Except Complaint α} {default x : α}
    {input fallback : Option Input} (h : IsReadFrom read default fallback default) :
    IsReadFrom read default (input.or fallback) x ↔ IsReadFrom read default input x := by
  cases input with
  | some i => exact Iff.rfl
  | none =>
    cases fallback with
    | none => exact Iff.rfl
    | some i =>
      have hi : read i = .ok default := h
      show read i = .ok x ↔ x = default
      rw [hi, Except.ok.injEq, eq_comm]

section Defaults

variable {v : Validation} (hv : v.IsSound)

include hv

theorem reads_withDefaults_iff {config : Config} {inputs : Inputs} :
    config.Reads v (withDefaults inputs) ↔ config.Reads v inputs := by
  have h := reads_defaultInputs hv
  constructor
  · rintro ⟨h₁, h₂, h₃, h₄, h₅, h₆⟩
    exact ⟨(isReadFrom_or_iff h.databaseUrl).1 h₁, (isReadFrom_or_iff h.poolSize).1 h₂,
      (isReadFrom_or_iff h.acquireTimeout).1 h₃, (isReadFrom_or_iff h.busyTimeout).1 h₄,
      (isReadFrom_or_iff h.scriptsDirectory).1 h₅, (isReadFrom_or_iff h.strictParameters).1 h₆⟩
  · rintro ⟨h₁, h₂, h₃, h₄, h₅, h₆⟩
    exact ⟨(isReadFrom_or_iff h.databaseUrl).2 h₁, (isReadFrom_or_iff h.poolSize).2 h₂,
      (isReadFrom_or_iff h.acquireTimeout).2 h₃, (isReadFrom_or_iff h.busyTimeout).2 h₄,
      (isReadFrom_or_iff h.scriptsDirectory).2 h₅, (isReadFrom_or_iff h.strictParameters).2 h₆⟩

theorem problemWith?_withDefaults (inputs : Inputs) :
    problemWith? v (withDefaults inputs) = problemWith? v inputs := by
  funext s
  cases hinput : inputs s with
  | some i => simp only [problemWith?, withDefaults, hinput, Option.some_or]
  | none =>
    have hnone : problemWith? v inputs s = none := problemWith?_eq_none_iff.2 (by simp [hinput])
    rw [hnone, problemWith?_eq_none_iff, withDefaults, hinput, Option.none_or]
    exact problems_eq_nil_iff.1 (problems_eq_nil_of_reads (reads_defaultInputs hv)) s

/-- **A default that is given makes no difference.** -/
theorem ofInputs_withDefaults (inputs : Inputs) :
    ofInputs v (withDefaults inputs) = ofInputs v inputs := by
  have hproblems : problems v (withDefaults inputs) = problems v inputs := by
    rw [problems, problemWith?_withDefaults hv, problems]
  by_cases h : problems v inputs = []
  · obtain ⟨config, hreads⟩ := exists_reads h
    rw [ofInputs_of_reads hreads, ofInputs_of_reads ((reads_withDefaults_iff hv).2 hreads)]
  · rw [ofInputs_of_problems h, ofInputs_of_problems (hproblems ▸ h), hproblems]

end Defaults

/-! ## Bounds -/

/-- **A configuration within its bounds**, all numbers of it numbers. -/
structure IsUsable (config : Config) : Prop where
  poolSize : 1 ≤ config.poolSize
  acquireTimeout : 0 < config.acquireTimeout
  acquireTimeout_isNaN : config.acquireTimeout.isNaN = false
  busyTimeout : 0 ≤ config.busyTimeout
  busyTimeout_isNaN : config.busyTimeout.isNaN = false

/-- What holds of the default, and of all that can be read, holds of what an input says. -/
theorem IsReadFrom.of {α : Type} {read : Input → Except Complaint α} {default x : α}
    {input : Option Input} (h : IsReadFrom read default input x) {P : α → Prop}
    (hdefault : P default) (hread : ∀ i y, read i = .ok y → P y) : P x := by
  unfold IsReadFrom at h
  split at h
  · exact h ▸ hdefault
  · exact hread _ x h

/-- **What was accepted is within its bounds**, and so are the defaults. -/
theorem Reads.isUsable {config : Config} {v : Validation} (hv : v.IsSound) {inputs : Inputs}
    (h : config.Reads v inputs) : config.IsUsable := by
  have hacquire : 0 < config.acquireTimeout :=
    h.acquireTimeout.of (by decide +kernel) fun _ _ => hv.number
  have hbusy : 0 ≤ config.busyTimeout := h.busyTimeout.of (by decide +kernel) fun _ _ => hv.number
  exact
    { poolSize := h.poolSize.of (by decide) fun _ _ => hv.whole
      acquireTimeout := hacquire
      acquireTimeout_isNaN := isNaN_of_lt hacquire
      busyTimeout := hbusy
      busyTimeout_isNaN := isNaN_of_le hbusy }

end Config

/-- **A configuration within its bounds makes a pool**, whatever the location. -/
theorem Sqlite.Pool.ofConfig_of_isUsable (location : String) {config : Config}
    (h : config.IsUsable) :
    ∃ pool, (ofConfig location config).1 = .ok pool ∧ pool.database = location ∧
      pool.size = .whole (if location = memoryDatabase then 1 else config.poolSize) ∧
      pool.acquireTimeout = .fractional config.acquireTimeout ∧
      pool.busyTimeout = .fractional config.busyTimeout := by
  have hsize : ¬config.poolSize < 1 := Int.not_lt.2 h.poolSize
  by_cases hmemory : location = memoryDatabase
  · by_cases hone : config.poolSize = 1
    · simp [ofConfig, create, hmemory, Amount.isOne, Amount.isBelowOne, hone]
    · simp [ofConfig, create, hmemory, Amount.isOne, Amount.isBelowOne, hone]
  · simp [ofConfig, create, hmemory, Amount.isBelowOne, hsize]

namespace Config

/-! ## What is looked at -/

/-- Whether a variable is looked at: it is the variable of a setting that is not overridden. -/
def asksFor (overrides : Inputs) (name : String) : Bool :=
  Setting.all.any fun s => s.variableName == name && !isOverridden overrides s

/-- Whether a setting has a name. -/
def isName (name : String) : Bool := Setting.all.any (·.name == name)

theorem find?_filter_key {α : Type} {p : String → Bool} {key : String} (h : p key = true)
    (entries : List (String × α)) :
    (entries.filter fun e => p e.1).find? (·.1 == key) = entries.find? (·.1 == key) := by
  have hboth : (fun e : String × α => p e.1 && e.1 == key) = (·.1 == key) := by
    funext e
    by_cases hkey : e.1 = key
    · rw [hkey, h, Bool.true_and]
    · rw [beq_eq_false_iff_ne.2 hkey, Bool.and_false]
  rw [List.find?_filter]
  simp only [Bool.decide_and, Bool.decide_eq_true, hboth]

theorem fromNames_filter (overrides : List (String × Input)) :
    fromNames (overrides.filter fun e => isName e.1) = fromNames overrides := by
  funext s
  have hname : isName s.name = true := List.any_eq_true.2 ⟨s, s.mem_all, beq_self_eq_true _⟩
  rw [fromNames, find?_filter_key hname, fromNames]

/-- **Variables of overridden settings, and variables of no setting, are not looked at.** -/
theorem effective_filter (environment : List (String × String)) (overrides : Inputs) :
    effective (environment.filter fun e => asksFor overrides e.1) overrides =
      effective environment overrides := by
  funext s
  rw [effective_eq, effective_eq]
  split
  · rfl
  · rename_i hover
    have hasks : asksFor overrides s.variableName = true :=
      List.any_eq_true.2 ⟨s, s.mem_all, by simp [hover]⟩
    rw [fromEnvironment, find?_filter_key hasks, ← fromEnvironment]

/-! ## The lenient validation -/

/-- What is read within a bound keeps to it. -/
theorem of_within {α : Type} {read : Input → Except Mistake α} {Holds : α → Prop}
    [DecidablePred Holds] {beyond : Mistake} {i : Input} {x : α}
    (h : within read Holds beyond i = .ok x) : Holds x := by
  unfold within at h
  split at h
  · split at h
    · rename_i hx
      exact Except.ok.inj h ▸ hx
    · cases h
  · cases h

theorem within_of_read {α : Type} {read : Input → Except Mistake α} {Holds : α → Prop}
    [DecidablePred Holds] (beyond : Mistake) {i : Input} {x : α} (hread : read i = .ok x)
    (hx : Holds x) : within read Holds beyond i = .ok x := by
  rw [within, hread]
  exact if_pos hx

/-- **The lenient validation is sound.** -/
theorem Validation.isSound_lenient : Validation.lenient.IsSound where
  whole := of_within
  number := of_within
  ownText _ := rfl
  ownWhole {_ n} kept := by
    have hread : ofValue wholeOf .notWhole (.value (.int n)) = .ok n := rfl
    exact within_of_read _ hread kept
  ownNumber {_ x} kept := by
    have hread : ofValue numberOf .notNumber (.value (.float x)) = .ok x := rfl
    exact within_of_read _ hread kept
  ownTruth _ := rfl

/-! ## Environments and overrides -/

/-- **What becomes of an environment and of overrides**, both without a name twice, with any sound
validation. Every setting has one input. Either something is wrong with some of them, and then
exactly the problems with them are reported, each setting once, in order; or the configuration is
what its inputs say, within its bounds, and a pool can be made of it. Names of nothing, and
variables of overridden settings, make no difference. -/
theorem ofSources_effective {v : Validation} (hv : v.IsSound)
    {environment : List (String × String)} {overrides : List (String × Input)}
    (henvironment : (environment.map (·.1)).Nodup) (hoverrides : (overrides.map (·.1)).Nodup) :
    ∃ inputs : Inputs,
      (∀ s o, IsEffective environment overrides s o ↔ inputs s = o) ∧
      ((∃ reported, ofSources v environment (fromNames overrides) = .error reported) ↔
        ∃ s, isInvalid v inputs s = true) ∧
      (∀ reported, ofSources v environment (fromNames overrides) = .error reported →
        reported = problems v inputs ∧
          reported.map (·.setting) = Setting.all.filter (isInvalid v inputs)) ∧
      (∀ config, ofSources v environment (fromNames overrides) = .ok config →
        config.Reads v inputs ∧ config.IsUsable ∧
          ∀ location, ∃ pool, (Sqlite.Pool.ofConfig location config).1 = .ok pool) ∧
      ofSources v (environment.filter fun e => asksFor (fromNames overrides) e.1)
          (fromNames (overrides.filter fun e => isName e.1)) =
        ofSources v environment (fromNames overrides) := by
  have hfilter : ofSources v (environment.filter fun e => asksFor (fromNames overrides) e.1)
      (fromNames (overrides.filter fun e => isName e.1)) =
        ofSources v environment (fromNames overrides) := by
    rw [ofSources, fromNames_filter, effective_filter, ofSources]
  -- with the defaults put in every setting has its one input, and nothing else changes
  have hsources : ofSources v environment (fromNames overrides) =
      ofInputs v (withDefaults (effective environment (fromNames overrides))) :=
    (ofInputs_withDefaults hv _).symm
  refine ⟨withDefaults (effective environment (fromNames overrides)),
    fun s o => isEffective_iff henvironment hoverrides, ?_, fun reported hreported => ?_,
    fun config hconfig => ?_, hfilter⟩
  · simp only [hsources, ofInputs_eq_error_iff, exists_and_left, exists_eq, and_true]
    exact problems_ne_nil_iff
  · obtain ⟨-, rfl⟩ := ofInputs_eq_error_iff.1 (hsources.symm.trans hreported)
    exact ⟨rfl, map_setting_problems _ _⟩
  · have hreads := ofInputs_eq_ok_iff.1 (hsources.symm.trans hconfig)
    have husable := hreads.isUsable hv
    refine ⟨hreads, husable, fun location => ?_⟩
    obtain ⟨pool, hpool, -⟩ := Sqlite.Pool.ofConfig_of_isUsable location husable
    exact ⟨pool, hpool⟩

/-- One variable is shadowed and one is of no setting; one override is null, one is of no setting,
and one is a path. -/
theorem ofSources_effective_shadowed :
    ∃ reported,
      ofSources .lenient
        [("SQLRUNNER_BUSY_TIMEOUT", " -1 "), ("SQLRUNNER_POOL_SIZE", "0"), ("HOME", "/")]
        (fromNames [("colour", .value (.text "red")),
          ("strict_parameters", .value (.text "perhaps")), ("pool_size", .value (.int 3)),
          ("scripts_dir", .path ⟨.relative, ["jobs"]⟩), ("database_url", .value .null)]) =
        .error reported ∧
      reported.map (fun p => (p.setting, p.complaint)) =
        [(.busyTimeout, (Mistake.below 0).complaint),
          (.strictParameters, Mistake.unreadableTruth.complaint)] := by
  let overrides : List (String × Input) := [("colour", .value (.text "red")),
    ("strict_parameters", .value (.text "perhaps")), ("pool_size", .value (.int 3)),
    ("scripts_dir", .path ⟨.relative, ["jobs"]⟩), ("database_url", .value .null)]
  have henvironment : ([("SQLRUNNER_BUSY_TIMEOUT", " -1 "), ("SQLRUNNER_POOL_SIZE", "0"),
      ("HOME", "/")].map (·.1)).Nodup := by decide
  have hoverrides : (overrides.map (·.1)).Nodup := by
    show ["colour", "strict_parameters", "pool_size", "scripts_dir", "database_url"].Nodup
    decide
  obtain ⟨inputs, hinputs, hfails, hreports, -⟩ :=
    ofSources_effective Validation.isSound_lenient henvironment hoverrides
  obtain rfl := funext fun s => (hinputs s _).1 ((isEffective_iff henvironment hoverrides).2 rfl)
  obtain ⟨reported, hreported⟩ := hfails.2 ⟨.strictParameters, by decide +kernel⟩
  refine ⟨reported, hreported, ?_⟩
  rw [(hreports reported hreported).1]
  decide +kernel

end Config

end SqlScript
