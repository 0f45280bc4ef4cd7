import LoongCollector.ContainerManager.FieldFilter

/-! `ContainerFilterConfig` and `ContainerFilters`. The config holds the nine filter
parameters read from the `ContainerFilters` object; `ContainerFilters::Init` compiles the
three K8s patterns and splits the six maps in turn, stopping at the first step that fails
and keeping what the earlier steps wrote. Proved: `Init` returns true exactly when every
string it hands to the regex constructor compiles, and then, from a fresh object, each
regex slot holds the compiled pattern exactly when its parameter is non-empty and each of
the six field filters is the split of its own map. -/

namespace LoongCollector

variable {Regex : Type}

/-- `ContainerFilterConfig`. -/
structure ContainerFilterConfig where
  mK8sNamespaceRegex : String := ""
  mK8sPodRegex : String := ""
  mK8sContainerRegex : String := ""
  mIncludeK8sLabel : UnorderedMap String := ∅
  mExcludeK8sLabel : UnorderedMap String := ∅
  mIncludeEnv : UnorderedMap String := ∅
  mExcludeEnv : UnorderedMap String := ∅
  mIncludeContainerLabel : UnorderedMap String := ∅
  mExcludeContainerLabel : UnorderedMap String := ∅

/-- `ContainerFilterConfig::Init`: each parameter read in the source's order, a failed read
reported and ignored. It returns true whatever it reads. -/
def ContainerFilterConfig.init (pe : ParamExtractor) (config : JsonObject)
    (self : ContainerFilterConfig) : Bool × ContainerFilterConfig × List ParamWarning :=
  let namespaceRegex := readIgnoring pe.getOptionalStringParam config
    "ContainerFilters.K8sNamespaceRegex" self.mK8sNamespaceRegex
  let podRegex := readIgnoring pe.getOptionalStringParam config
    "ContainerFilters.K8sPodRegex" self.mK8sPodRegex
  let includeK8sLabel := readIgnoring pe.getOptionalMapParam config
    "ContainerFilters.IncludeK8sLabel" self.mIncludeK8sLabel
  let excludeK8sLabel := readIgnoring pe.getOptionalMapParam config
    "ContainerFilters.ExcludeK8sLabel" self.mExcludeK8sLabel
  let containerRegex := readIgnoring pe.getOptionalStringParam config
    "ContainerFilters.K8sContainerRegex" self.mK8sContainerRegex
  let includeEnv := readIgnoring pe.getOptionalMapParam config
    "ContainerFilters.IncludeEnv" self.mIncludeEnv
  let excludeEnv := readIgnoring pe.getOptionalMapParam config
    "ContainerFilters.ExcludeEnv" self.mExcludeEnv
  let includeContainerLabel := readIgnoring pe.getOptionalMapParam config
    "ContainerFilters.IncludeContainerLabel" self.mIncludeContainerLabel
  let excludeContainerLabel := readIgnoring pe.getOptionalMapParam config
    "ContainerFilters.ExcludeContainerLabel" self.mExcludeContainerLabel
  (true,
    { mK8sNamespaceRegex := namespaceRegex.1, mK8sPodRegex := podRegex.1,
      mK8sContainerRegex := containerRegex.1,
      mIncludeK8sLabel := includeK8sLabel.1, mExcludeK8sLabel := excludeK8sLabel.1,
      mIncludeEnv := includeEnv.1, mExcludeEnv := excludeEnv.1,
      mIncludeContainerLabel := includeContainerLabel.1,
      mExcludeContainerLabel := excludeContainerLabel.1 },
    namespaceRegex.2 ++ podRegex.2 ++ includeK8sLabel.2 ++ excludeK8sLabel.2 ++
      containerRegex.2 ++ includeEnv.2 ++ excludeEnv.2 ++ includeContainerLabel.2 ++
      excludeContainerLabel.2)

@[simp] theorem ContainerFilterConfig.init_fst (pe : ParamExtractor) (config : JsonObject)
    (self : ContainerFilterConfig) : (self.init pe config).1 = true := rfl

/-- The strings `ContainerFilters::Init` hands to the regex constructor, in the order it
meets them: the non-empty K8s patterns, then the `^…$` values of the six maps. -/
def ContainerFilterConfig.patterns (c : ContainerFilterConfig) : List String :=
  [c.mK8sNamespaceRegex, c.mK8sPodRegex, c.mK8sContainerRegex].filter (fun p => !p.isEmpty) ++
    regexValues c.mIncludeK8sLabel ++ regexValues c.mExcludeK8sLabel ++
    regexValues c.mIncludeContainerLabel ++ regexValues c.mExcludeContainerLabel ++
    regexValues c.mIncludeEnv ++ regexValues c.mExcludeEnv

@[simp] theorem ContainerFilterConfig.patterns_fresh : ({} : ContainerFilterConfig).patterns = [] :=
  rfl

/-- `ContainerFilters`. -/
structure ContainerFilters (Regex : Type) where
  mK8SFilter : K8sFilter Regex := {}
  mEnvFilter : MatchCriteriaFilter Regex := {}
  mContainerLabelFilter : MatchCriteriaFilter Regex := {}

/-! ### Steps that stop at the first failure -/

section Steps

variable {σ : Type}

/-- Steps that each return a flag and update the object, run in order up to the first that
returns false: the chain of `if (!success) return success;`. -/
def runSteps : List (σ → Bool × σ) → σ → Bool × σ
  | [], self => (true, self)
  | step :: steps, self =>
    if (step self).1 then runSteps steps (step self).2 else (false, (step self).2)

@[simp] theorem runSteps_nil (self : σ) : runSteps [] self = (true, self) := rfl

theorem runSteps_fst_cons (step : σ → Bool × σ) (steps : List (σ → Bool × σ))
    (self : σ) :
    (runSteps (step :: steps) self).1 = ((step self).1 && (runSteps steps (step self).2).1) := by
  by_cases h : (step self).1 <;> simp [runSteps, h]

/-- A run that returns true has taken every step. -/
theorem runSteps_snd_of_fst {steps : List (σ → Bool × σ)} {self : σ}
    (h : (runSteps steps self).1 = true) :
    (runSteps steps self).2 = steps.foldl (fun s step => (step s).2) self := by
  induction steps generalizing self with
  | nil => rfl
  | cons step steps ih =>
    rw [runSteps_fst_cons, Bool.and_eq_true] at h
    simp only [runSteps, h.1, if_true, List.foldl_cons]
    exact ih h.2

/-- What no step changes, no run changes, however far it gets. -/
theorem runSteps_frame {α : Type} (p : σ → α) {steps : List (σ → Bool × σ)}
    (hp : ∀ step ∈ steps, ∀ s, p (step s).2 = p s) (self : σ) :
    p (runSteps steps self).2 = p self := by
  induction steps generalizing self with
  | nil => rfl
  | cons step steps ih =>
    have hstep := hp step (List.mem_cons_self _ _)
    simp only [runSteps]
    split_ifs
    · rw [ih (fun st h => hp st (List.mem_cons_of_mem _ h)), hstep]
    · exact hstep self

/-- A member of the object that one step of `Init` writes: how it is read and how it is
written, writing back what was read changing nothing. -/
structure Slot (σ α : Type) where
  get : σ → α
  set : σ → α → σ
  set_get : ∀ s, set s (get s) = s

variable (compile : String → Option Regex)

/-- `if (!pattern.empty()) slot = std::make_shared<boost::regex>(pattern);` in the `try` of
`ContainerFilters::Init`, false where the constructor throws. -/
def assignRegex (pattern : String) (slot : Slot σ (Option Regex)) (self : σ) : Bool × σ :=
  if pattern.isEmpty then (true, self)
  else match compile pattern with
    | some reg => (true, slot.set self (some reg))
    | none => (false, self)

/-- `if (!inputs.empty()) { success = SplitRegexFromMap(inputs, slot); … }`. -/
def assignFieldFilter (inputs : UnorderedMap String) (slot : Slot σ (FieldFilter Regex))
    (self : σ) : Bool × σ :=
  if inputs.entries.isEmpty then (true, self)
  else ((splitRegexFromMap compile inputs (slot.get self)).1,
    slot.set self (splitRegexFromMap compile inputs (slot.get self)).2)

@[simp] theorem assignRegex_fst (pattern : String) (slot : Slot σ (Option Regex)) (self : σ) :
    (assignRegex compile pattern slot self).1 = (pattern.isEmpty || (compile pattern).isSome) := by
  unfold assignRegex
  split_ifs with h
  · simp [h]
  · cases compile pattern <;> simp [h]

@[simp] theorem assignRegex_snd (pattern : String) (slot : Slot σ (Option Regex)) (self : σ) :
    (assignRegex compile pattern slot self).2 =
      slot.set self
        (if pattern.isEmpty then slot.get self else (compile pattern).or (slot.get self)) := by
  unfold assignRegex
  split_ifs with h
  · exact (slot.set_get self).symm
  · cases compile pattern <;> simp [slot.set_get]

@[simp] theorem assignFieldFilter_fst (inputs : UnorderedMap String)
    (slot : Slot σ (FieldFilter Regex)) (self : σ) :
    (assignFieldFilter compile inputs slot self).1 =
      (regexValues inputs).all fun p => (compile p).isSome := by
  unfold assignFieldFilter
  split_ifs with h
  · simp [regexValues, List.isEmpty_iff.mp h]
  · exact splitRegexFromMap_fst compile inputs (slot.get self)

@[simp] theorem assignFieldFilter_snd (inputs : UnorderedMap String)
    (slot : Slot σ (FieldFilter Regex)) (self : σ) :
    (assignFieldFilter compile inputs slot self).2 =
      slot.set self (if inputs.entries.isEmpty then slot.get self
        else (splitRegexFromMap compile inputs (slot.get self)).2) := by
  unfold assignFieldFilter
  split_ifs
  · exact (slot.set_get self).symm
  · rfl

end Steps

/-! ### `ContainerFilters::Init` -/

variable (compile : String → Option Regex)

/-- `ContainerFilters::Init`: the three K8s patterns in one `try`, then the six maps. -/
def ContainerFilters.init (config : ContainerFilterConfig) :
    ContainerFilters Regex → Bool × ContainerFilters Regex :=
  runSteps [
    assignRegex compile config.mK8sNamespaceRegex ⟨(·.mK8SFilter.mNamespaceReg),
      fun s reg => { s with mK8SFilter.mNamespaceReg := reg }, fun _ => rfl⟩,
    assignRegex compile config.mK8sPodRegex ⟨(·.mK8SFilter.mPodReg),
      fun s reg => { s with mK8SFilter.mPodReg := reg }, fun _ => rfl⟩,
    assignRegex compile config.mK8sContainerRegex ⟨(·.mK8SFilter.mContainerReg),
      fun s reg => { s with mK8SFilter.mContainerReg := reg }, fun _ => rfl⟩,
    assignFieldFilter compile config.mIncludeK8sLabel
      ⟨(·.mK8SFilter.mK8sLabelFilter.mIncludeFields),
      fun s f => { s with mK8SFilter.mK8sLabelFilter.mIncludeFields := f }, fun _ => rfl⟩,
    assignFieldFilter compile config.mExcludeK8sLabel
      ⟨(·.mK8SFilter.mK8sLabelFilter.mExcludeFields),
      fun s f => { s with mK8SFilter.mK8sLabelFilter.mExcludeFields := f }, fun _ => rfl⟩,
    assignFieldFilter compile config.mIncludeContainerLabel
      ⟨(·.mContainerLabelFilter.mIncludeFields),
      fun s f => { s with mContainerLabelFilter.mIncludeFields := f }, fun _ => rfl⟩,
    assignFieldFilter compile config.mExcludeContainerLabel
      ⟨(·.mContainerLabelFilter.mExcludeFields),
      fun s f => { s with mContainerLabelFilter.mExcludeFields := f }, fun _ => rfl⟩,
    assignFieldFilter compile config.mIncludeEnv ⟨(·.mEnvFilter.mIncludeFields),
      fun s f => { s with mEnvFilter.mIncludeFields := f }, fun _ => rfl⟩,
    assignFieldFilter compile config.mExcludeEnv ⟨(·.mEnvFilter.mExcludeFields),
      fun s f => { s with mEnvFilter.mExcludeFields := f }, fun _ => rfl⟩]

/-- `Init` returns true exactly when every pattern it meets compiles, whatever the object
held before. -/
theorem ContainerFilters.init_fst (config : ContainerFilterConfig) (self : ContainerFilters Regex) :
    (ContainerFilters.init compile config self).1 =
      config.patterns.all fun p => (compile p).isSome := by
  simp [ContainerFilters.init, runSteps_fst_cons, ContainerFilterConfig.patterns, Bool.and_assoc]

/-- What `ContainerFilters::Init` builds from `config`: each K8s pattern compiled where it is
non-empty, each field filter the split of its own map. -/
structure ContainerFilters.Built (config : ContainerFilterConfig) (f : ContainerFilters Regex) :
    Prop where
  namespaceReg : f.mK8SFilter.mNamespaceReg =
    if config.mK8sNamespaceRegex.isEmpty then none else compile config.mK8sNamespaceRegex
  podReg : f.mK8SFilter.mPodReg =
    if config.mK8sPodRegex.isEmpty then none else compile config.mK8sPodRegex
  containerReg : f.mK8SFilter.mContainerReg =
    if config.mK8sContainerRegex.isEmpty then none else compile config.mK8sContainerRegex
  includeK8sLabel :
    f.mK8SFilter.mK8sLabelFilter.mIncludeFields.IsSplitOf compile config.mIncludeK8sLabel
  excludeK8sLabel :
    f.mK8SFilter.mK8sLabelFilter.mExcludeFields.IsSplitOf compile config.mExcludeK8sLabel
  includeContainerLabel :
    f.mContainerLabelFilter.mIncludeFields.IsSplitOf compile config.mIncludeContainerLabel
  excludeContainerLabel :
    f.mContainerLabelFilter.mExcludeFields.IsSplitOf compile config.mExcludeContainerLabel
  includeEnv : f.mEnvFilter.mIncludeFields.IsSplitOf compile config.mIncludeEnv
  excludeEnv : f.mEnvFilter.mExcludeFields.IsSplitOf compile config.mExcludeEnv

/-- A fresh object is what the empty config describes. -/
theorem ContainerFilters.built_fresh : ({} : ContainerFilters Regex).Built compile {} :=
  have e : ({} : FieldFilter Regex).IsSplitOf compile ∅ := fun _ => by simp [AList.lookup_empty]
  ⟨rfl, rfl, rfl, e, e, e, e, e, e⟩

/-- Every pattern of a config compiles: each non-empty K8s pattern and each map's `^…$`
values. -/
theorem ContainerFilterConfig.patterns_compile_iff (c : ContainerFilterConfig) :
    (c.patterns.all fun p => (compile p).isSome) = true ↔
      (c.mK8sNamespaceRegex.isEmpty = false → (compile c.mK8sNamespaceRegex).isSome) ∧
      (c.mK8sPodRegex.isEmpty = false → (compile c.mK8sPodRegex).isSome) ∧
      (c.mK8sContainerRegex.isEmpty = false → (compile c.mK8sContainerRegex).isSome) ∧
      AllCompile compile c.mIncludeK8sLabel ∧ AllCompile compile c.mExcludeK8sLabel ∧
      AllCompile compile c.mIncludeContainerLabel ∧
      AllCompile compile c.mExcludeContainerLabel ∧
      AllCompile compile c.mIncludeEnv ∧ AllCompile compile c.mExcludeEnv := by
  simp [ContainerFilterConfig.patterns, AllCompile, or_iff_not_imp_left, and_assoc]

/-- On a fresh object, a successful `Init` builds exactly what the config describes. -/
theorem ContainerFilters.built_of_init {config : ContainerFilterConfig}
    (h : (ContainerFilters.init compile config {}).1 = true) :
    (ContainerFilters.init compile config {}).2.Built compile config := by
  obtain ⟨-, -, -, h1, h2, h3, h4, h5, h6⟩ :=
    (config.patterns_compile_iff compile).mp (ContainerFilters.init_fst compile config {} ▸ h)
  unfold ContainerFilters.init at h ⊢
  rw [runSteps_snd_of_fst h]
  simp only [List.foldl_cons, List.foldl_nil, assignRegex_snd, assignFieldFilter_snd]
  exact ⟨by simp, by simp, by simp, isSplitOf_fresh_or_split h1,
    isSplitOf_fresh_or_split h2, isSplitOf_fresh_or_split h3,
    isSplitOf_fresh_or_split h4, isSplitOf_fresh_or_split h5,
    isSplitOf_fresh_or_split h6⟩

/-- A slot `Init` fills from a pattern that compiles is null exactly when the pattern is
empty. -/
theorem isNone_compiled {pattern : String}
    (hc : pattern.isEmpty = false → (compile pattern).isSome) :
    (if pattern.isEmpty then none else compile pattern).isNone = pattern.isEmpty := by
  cases he : pattern.isEmpty
  · obtain ⟨reg, hreg⟩ := Option.isSome_iff_exists.mp (hc he)
    simp [hreg]
  · rfl

/-- After a successful `Init` on a fresh object, the K8s filter is empty exactly when the config
gives no K8s pattern and no K8s label, and the container-label and environment filters exactly when
their maps are empty. -/
theorem ContainerFilters.isEmpty_of_init {config : ContainerFilterConfig}
    (h : (ContainerFilters.init compile config {}).1 = true) :
    (ContainerFilters.init compile config {}).2.mK8SFilter.isEmpty =
        (config.mK8sNamespaceRegex.isEmpty && config.mK8sPodRegex.isEmpty &&
          config.mK8sContainerRegex.isEmpty && config.mIncludeK8sLabel.entries.isEmpty &&
          config.mExcludeK8sLabel.entries.isEmpty) ∧
      (ContainerFilters.init compile config {}).2.mContainerLabelFilter.isEmpty =
        (config.mIncludeContainerLabel.entries.isEmpty &&
          config.mExcludeContainerLabel.entries.isEmpty) ∧
      (ContainerFilters.init compile config {}).2.mEnvFilter.isEmpty =
        (config.mIncludeEnv.entries.isEmpty && config.mExcludeEnv.entries.isEmpty) := by
  obtain ⟨c0, c1, c2, h1, h2, h3, h4, h5, h6⟩ :=
    (config.patterns_compile_iff compile).mp (ContainerFilters.init_fst compile config {} ▸ h)
  have hb := ContainerFilters.built_of_init compile h
  simp only [K8sFilter.isEmpty, MatchCriteriaFilter.isEmpty, hb.namespaceReg, hb.podReg,
    hb.containerReg, isNone_compiled compile c0, isNone_compiled compile c1,
    isNone_compiled compile c2, hb.includeK8sLabel.isEmpty_eq h1,
    hb.excludeK8sLabel.isEmpty_eq h2, hb.includeContainerLabel.isEmpty_eq h3,
    hb.excludeContainerLabel.isEmpty_eq h4, hb.includeEnv.isEmpty_eq h5,
    hb.excludeEnv.isEmpty_eq h6, Bool.and_assoc, and_self]

theorem ContainerFilters.isEmpty_of_init_includeEnv :
    (ContainerFilters.init some { mIncludeEnv := [⟨"A", "^a$"⟩].toAList } {}).1 = true ∧
      (ContainerFilters.init some { mIncludeEnv := [⟨"A", "^a$"⟩].toAList }
        {}).2.mEnvFilter.isEmpty = false :=
  ⟨by decide, (ContainerFilters.isEmpty_of_init some (by decide)).2.2.trans (by decide)⟩

/-- Whatever `ContainerFilters::Init` returns, a non-empty namespace pattern that compiles is
installed: a later step that fails does not undo it. -/
theorem ContainerFilters.init_namespaceReg {config : ContainerFilterConfig} {reg : Regex}
    (he : config.mK8sNamespaceRegex.isEmpty = false)
    (hc : compile config.mK8sNamespaceRegex = some reg) (self : ContainerFilters Regex) :
    (ContainerFilters.init compile config self).2.mK8SFilter.mNamespaceReg = some reg := by
  unfold ContainerFilters.init
  rw [runSteps, if_pos (by simp [he, hc])]
  refine (runSteps_frame (fun s : ContainerFilters Regex => s.mK8SFilter.mNamespaceReg) ?_
    _).trans ?_
  · simp
  · simp [he, hc]

theorem ContainerFilters.init_namespaceReg_pod_fails :
    let compile : String → Option String := fun p => if p = "^(web$" then none else some p
    let config : ContainerFilterConfig :=
      { mK8sNamespaceRegex := "kube-system", mK8sPodRegex := "^(web$" }
    (ContainerFilters.init compile config {}).1 = false ∧
      (ContainerFilters.init compile config {}).2.mK8SFilter.mNamespaceReg = some "kube-system" :=
  ⟨by decide, ContainerFilters.init_namespaceReg _ (by decide) (by decide) _⟩

end LoongCollector
