import LoongCollector.ContainerManager.ContainerFilters

/-! `ContainerDiscoveryOptions`: `Init` and `GetCustomExternalTags`. `Init` reads the
`ContainerFilters` object, builds the filters from it, then reads the two tag mappings and
`CollectingContainersMeta`. Proved, for every reader and every regex engine: on a fresh
object `Init` returns false exactly when `ContainerFilters` is an object and some pattern
read from it does not compile, every other defect only producing a warning. The config kept
is the nine members of `ContainerFilters`, each read under its own key, the warnings are those
of the reads in the order `Init` makes them, and when `Init` returns true the filters are those
the config describes. `GetCustomExternalTags` appends, after the tags it is given, one tag per
mapping whose key the container has, environment first. -/

namespace LoongCollector

variable {Regex : Type}

/-- `ContainerDiscoveryOptions`. -/
structure ContainerDiscoveryOptions (Regex : Type) where
  mContainerFilterConfig : ContainerFilterConfig := {}
  mContainerFilters : ContainerFilters Regex := {}
  mExternalK8sLabelTag : UnorderedMap String := ∅
  mExternalEnvTag : UnorderedMap String := ∅
  mCollectingContainersMeta : Bool := false

namespace ContainerDiscoveryOptions

variable (compile : String → Option Regex)

/-- The `ContainerFilters` block of `Init`: false where `Init` returns early. -/
def initContainerFilters (pe : ParamExtractor) (config : JsonObject)
    (self : ContainerDiscoveryOptions Regex) :
    Bool × ContainerDiscoveryOptions Regex × List ParamWarning :=
  match config.lookup "ContainerFilters" with
  | none => (true, self, [])
  | some (.object filters) =>
    let filterConfig := self.mContainerFilterConfig.init pe filters
    if !filterConfig.1 then
      (false, { self with mContainerFilterConfig := filterConfig.2.1 }, filterConfig.2.2)
    else
      let containerFilters := ContainerFilters.init compile filterConfig.2.1 self.mContainerFilters
      (containerFilters.1,
        { self with mContainerFilterConfig := filterConfig.2.1,
                    mContainerFilters := containerFilters.2 },
        filterConfig.2.2)
  | some _ => (true, self, [.ignored "param ContainerFilters is not of type object"])

/-- `ContainerDiscoveryOptions::Init`: the flag, the options afterwards and the warnings. -/
def init (pe : ParamExtractor) (config : JsonObject) (self : ContainerDiscoveryOptions Regex) :
    Bool × ContainerDiscoveryOptions Regex × List ParamWarning :=
  let filtered := initContainerFilters compile pe config self
  if !filtered.1 then filtered
  else
    let self := filtered.2.1
    let externalK8sLabelTag := readIgnoring pe.getOptionalMapParam config
      "ExternalK8sLabelTag" self.mExternalK8sLabelTag
    let externalEnvTag := readIgnoring pe.getOptionalMapParam config
      "ExternalEnvTag" self.mExternalEnvTag
    let collectingContainersMeta := pe.getOptionalBoolParam config
      "CollectingContainersMeta" self.mCollectingContainersMeta
    (true,
      { self with mExternalK8sLabelTag := externalK8sLabelTag.1,
                  mExternalEnvTag := externalEnvTag.1,
                  mCollectingContainersMeta := collectingContainersMeta.1 },
      filtered.2.2 ++ externalK8sLabelTag.2 ++ externalEnvTag.2 ++
        collectingContainersMeta.2.toList.map fun e => .defaulted e collectingContainersMeta.1)

/-! ### `Init` -/

theorem init_fst (pe : ParamExtractor) (config : JsonObject)
    (self : ContainerDiscoveryOptions Regex) :
    (init compile pe config self).1 = (initContainerFilters compile pe config self).1 := by
  by_cases h : (initContainerFilters compile pe config self).1 <;> simp [init, h]

/-- The reads after the filters touch neither the filter config nor the filters. -/
theorem init_filters (pe : ParamExtractor) (config : JsonObject)
    (self : ContainerDiscoveryOptions Regex) :
    (init compile pe config self).2.1.mContainerFilterConfig =
        (initContainerFilters compile pe config self).2.1.mContainerFilterConfig ∧
      (init compile pe config self).2.1.mContainerFilters =
        (initContainerFilters compile pe config self).2.1.mContainerFilters := by
  by_cases h : (initContainerFilters compile pe config self).1 <;> simp [init, h]

/-- The warnings of `Init`: those of the filters block and, when it succeeds, those of the two
tag mappings and of `CollectingContainersMeta`, each read onto what the object held. -/
theorem init_warnings (pe : ParamExtractor) (config : JsonObject)
    (self : ContainerDiscoveryOptions Regex) :
    (init compile pe config self).2.2 = (initContainerFilters compile pe config self).2.2 ++
      if (initContainerFilters compile pe config self).1 then
        (readIgnoring pe.getOptionalMapParam config "ExternalK8sLabelTag"
            (initContainerFilters compile pe config self).2.1.mExternalK8sLabelTag).2 ++
          (readIgnoring pe.getOptionalMapParam config "ExternalEnvTag"
            (initContainerFilters compile pe config self).2.1.mExternalEnvTag).2 ++
          (pe.getOptionalBoolParam config "CollectingContainersMeta"
              (initContainerFilters compile pe config self).2.1.mCollectingContainersMeta).2.toList.map
            fun e => .defaulted e (pe.getOptionalBoolParam config "CollectingContainersMeta"
              (initContainerFilters compile pe config self).2.1.mCollectingContainersMeta).1
      else [] := by
  by_cases h : (initContainerFilters compile pe config self).1 <;> simp [init, h]

/-- After a filters block that succeeds, the two tag mappings and `CollectingContainersMeta`
are what the reader gives, read onto what the object held. -/
theorem init_tags_of_fst {pe : ParamExtractor} {config : JsonObject}
    {self : ContainerDiscoveryOptions Regex}
    (h : (initContainerFilters compile pe config self).1 = true) :
    (init compile pe config self).2.1.mExternalK8sLabelTag =
        (readIgnoring pe.getOptionalMapParam config "ExternalK8sLabelTag"
          (initContainerFilters compile pe config self).2.1.mExternalK8sLabelTag).1 ∧
      (init compile pe config self).2.1.mExternalEnvTag =
        (readIgnoring pe.getOptionalMapParam config "ExternalEnvTag"
          (initContainerFilters compile pe config self).2.1.mExternalEnvTag).1 ∧
      (init compile pe config self).2.1.mCollectingContainersMeta =
        (pe.getOptionalBoolParam config "CollectingContainersMeta"
          (initContainerFilters compile pe config self).2.1.mCollectingContainersMeta).1 := by
  simp [init, h]

/-- The filters block on a config whose `ContainerFilters` member is an object. -/
theorem initContainerFilters_object (pe : ParamExtractor) (config : JsonObject)
    {filters : JsonObject} (h : config.lookup "ContainerFilters" = some (.object filters))
    (self : ContainerDiscoveryOptions Regex) :
    initContainerFilters compile pe config self =
      ((ContainerFilters.init compile (self.mContainerFilterConfig.init pe filters).2.1
          self.mContainerFilters).1,
        { self with
          mContainerFilterConfig := (self.mContainerFilterConfig.init pe filters).2.1,
          mContainerFilters := (ContainerFilters.init compile
            (self.mContainerFilterConfig.init pe filters).2.1 self.mContainerFilters).2 },
        (self.mContainerFilterConfig.init pe filters).2.2) := by
  simp [initContainerFilters, h]

/-- The filters block on a config whose `ContainerFilters` member is not an object. -/
theorem initContainerFilters_of_not_object (pe : ParamExtractor) (config : JsonObject)
    {member : Json} (h : config.lookup "ContainerFilters" = some member)
    (hm : ∀ filters, member ≠ .object filters) (self : ContainerDiscoveryOptions Regex) :
    initContainerFilters compile pe config self =
      (true, self, [.ignored "param ContainerFilters is not of type object"]) := by
  unfold initContainerFilters
  rw [h]
  cases member <;> first | rfl | exact (hm _ rfl).elim

/-- The filters block on a config without a `ContainerFilters` member. -/
theorem initContainerFilters_none (pe : ParamExtractor) (config : JsonObject)
    (h : config.lookup "ContainerFilters" = none) (self : ContainerDiscoveryOptions Regex) :
    initContainerFilters compile pe config self = (true, self, []) := by
  simp [initContainerFilters, h]

/-- `Init` on a fresh object returns false exactly when `ContainerFilters` is an object and a
pattern the reader gives for one of its keys does not compile. It keeps what the reader gives
for each key, builds each filter from its own key when it returns true, and reports the
reader's error for each key, or that `ContainerFilters` is not an object, then, when it
returns true, the errors of the tag mappings and of `CollectingContainersMeta`. -/
theorem init_eq_false_iff (pe : ParamExtractor) (config : JsonObject) :
    let r := init compile pe config {}
    let tagWarnings : List ParamWarning :=
      (readIgnoring pe.getOptionalMapParam config "ExternalK8sLabelTag" ∅).2 ++
        (readIgnoring pe.getOptionalMapParam config "ExternalEnvTag" ∅).2 ++
        (pe.getOptionalBoolParam config "CollectingContainersMeta" false).2.toList.map
          fun e => .defaulted e (pe.getOptionalBoolParam config "CollectingContainersMeta" false).1
    (∀ filters, config.lookup "ContainerFilters" = some (.object filters) →
      let namespaceRegex := readIgnoring pe.getOptionalStringParam filters
        "ContainerFilters.K8sNamespaceRegex" ""
      let podRegex := readIgnoring pe.getOptionalStringParam filters
        "ContainerFilters.K8sPodRegex" ""
      let includeK8sLabel := readIgnoring pe.getOptionalMapParam filters
        "ContainerFilters.IncludeK8sLabel" ∅
      let excludeK8sLabel := readIgnoring pe.getOptionalMapParam filters
        "ContainerFilters.ExcludeK8sLabel" ∅
      let containerRegex := readIgnoring pe.getOptionalStringParam filters
        "ContainerFilters.K8sContainerRegex" ""
      let includeEnv := readIgnoring pe.getOptionalMapParam filters
        "ContainerFilters.IncludeEnv" ∅
      let excludeEnv := readIgnoring pe.getOptionalMapParam filters
        "ContainerFilters.ExcludeEnv" ∅
      let includeContainerLabel := readIgnoring pe.getOptionalMapParam filters
        "ContainerFilters.IncludeContainerLabel" ∅
      let excludeContainerLabel := readIgnoring pe.getOptionalMapParam filters
        "ContainerFilters.ExcludeContainerLabel" ∅
      let read : ContainerFilterConfig :=
        { mK8sNamespaceRegex := namespaceRegex.1, mK8sPodRegex := podRegex.1,
          mK8sContainerRegex := containerRegex.1, mIncludeK8sLabel := includeK8sLabel.1,
          mExcludeK8sLabel := excludeK8sLabel.1, mIncludeEnv := includeEnv.1,
          mExcludeEnv := excludeEnv.1, mIncludeContainerLabel := includeContainerLabel.1,
          mExcludeContainerLabel := excludeContainerLabel.1 }
      r.2.1.mContainerFilterConfig = read ∧
      (r.1 = false ↔ ∃ p ∈ read.patterns, compile p = none) ∧
      (r.1 = true → r.2.1.mContainerFilters.Built compile read ∧
        r.2.1.mContainerFilters.mK8SFilter.mNamespaceReg.isNone =
          read.mK8sNamespaceRegex.isEmpty ∧
        r.2.1.mContainerFilters.mK8SFilter.mPodReg.isNone = read.mK8sPodRegex.isEmpty ∧
        r.2.1.mContainerFilters.mK8SFilter.mContainerReg.isNone =
          read.mK8sContainerRegex.isEmpty) ∧
      r.2.2 = namespaceRegex.2 ++ podRegex.2 ++ includeK8sLabel.2 ++ excludeK8sLabel.2 ++
        containerRegex.2 ++ includeEnv.2 ++ excludeEnv.2 ++ includeContainerLabel.2 ++
        excludeContainerLabel.2 ++ if r.1 then tagWarnings else []) ∧
    (∀ member, config.lookup "ContainerFilters" = some member →
      (∀ filters, member ≠ .object filters) →
      r.1 = true ∧ r.2.1.mContainerFilterConfig = {} ∧ r.2.1.mContainerFilters = {} ∧
        r.2.2 = .ignored "param ContainerFilters is not of type object" :: tagWarnings) ∧
    (config.lookup "ContainerFilters" = none →
      r.1 = true ∧ r.2.1.mContainerFilterConfig = {} ∧ r.2.1.mContainerFilters = {} ∧
        r.2.2 = tagWarnings) := by
  dsimp only
  have hw := init_warnings compile pe config {}
  have hf := init_fst compile pe config {}
  obtain ⟨hc, hb⟩ := init_filters compile pe config {}
  refine ⟨fun filters h => ?_, fun member h hm => ?_, fun h => ?_⟩
  · rw [initContainerFilters_object compile pe config h] at hw hf hc hb
    simp only [ContainerFilterConfig.init] at hw hf hc hb
    rw [hf, hc, hb, hw, ContainerFilters.init_fst]
    refine ⟨rfl, by simp, fun ht => ?_, rfl⟩
    obtain ⟨c0, c1, c2, -⟩ := (ContainerFilterConfig.patterns_compile_iff compile _).mp ht
    have built :=
      ContainerFilters.built_of_init compile ((ContainerFilters.init_fst compile _ _).trans ht)
    exact ⟨built, by rw [built.namespaceReg, isNone_compiled compile c0],
      by rw [built.podReg, isNone_compiled compile c1],
      by rw [built.containerReg, isNone_compiled compile c2]⟩
  · rw [initContainerFilters_of_not_object compile pe config h hm] at hw hf hc hb
    simp only [if_true] at hw
    exact ⟨hf, hc, hb, hw⟩
  · rw [initContainerFilters_none compile pe config h] at hw hf hc hb
    simp only [if_true, List.nil_append] at hw
    exact ⟨hf, hc, hb, hw⟩

theorem init_eq_false_iff_labels :
    let config : JsonObject := [("ContainerFilters", .object [("K8sPodRegex", .int 3),
      ("IncludeK8sLabel", .object [("app", .string "^web-.*$"), ("env", .string "prod")])])]
    (init some .ofSpec config {}).1 = true ∧
      (init some .ofSpec config {}).2.2 =
        [.ignored "param ContainerFilters.K8sPodRegex is not of type string"] := by
  intro config
  exact ⟨by decide, (((init_eq_false_iff some .ofSpec config).1 _ rfl).2.2.2).trans (by decide)⟩

end ContainerDiscoveryOptions

/-! ### `GetCustomExternalTags` -/

/-- One loop of `GetCustomExternalTags`: `tags.emplace_back(tagKey, value)` for each mapping
`key ↦ tagKey` whose key `values` holds, in the mapping's enumeration order. -/
def appendMappedTags (mapping values : UnorderedMap String) (tags : List (String × String)) :
    List (String × String) :=
  mapping.entries.foldl (fun tags m =>
    match values.lookup m.1 with
    | some value => tags ++ [(m.2, value)]
    | none => tags) tags

/-- The tags a mapping stands for: one pair of the tag key and the container's value for each
entry whose key the container has, and nothing else, in the mapping's enumeration order. -/
def externalTags (mapping values : UnorderedMap String) : List (String × String) :=
  mapping.entries.filterMap fun m => (values.lookup m.1).map (m.2, ·)

theorem appendMappedTags_eq (mapping values : UnorderedMap String)
    (tags : List (String × String)) :
    appendMappedTags mapping values tags = tags ++ externalTags mapping values := by
  simp only [appendMappedTags, externalTags]
  generalize mapping.entries = l
  induction l generalizing tags with
  | nil => simp
  | cons m l ih => cases hv : values.lookup m.1 <;> simp [hv, ih]

/-- A mapping contributes one tag per key it shares with the container. -/
theorem length_externalTags (mapping values : UnorderedMap String) :
    (externalTags mapping values).length =
      (mapping.keys.toFinset ∩ values.keys.toFinset).card := by
  have h : (externalTags mapping values).length = (mapping.keys.filter (· ∈ values)).length := by
    simp only [externalTags, AList.keys]
    generalize mapping.entries = l
    induction l with
    | nil => rfl
    | cons m l ih =>
      cases hv : values.lookup m.1 with
      | none => simp [hv, AList.lookup_eq_none.mp hv, ih]
      | some v =>
        have hm : m.1 ∈ values := AList.lookup_isSome.mp (by rw [hv]; rfl)
        simp [hv, hm, ih]
  rw [h, ← List.toFinset_card_of_nodup (mapping.keys_nodup.filter _)]
  congr 1
  ext k
  simp [AList.mem_keys]

namespace ContainerDiscoveryOptions

/-- `ContainerDiscoveryOptions::GetCustomExternalTags`: `tags` afterwards. -/
def getCustomExternalTags (self : ContainerDiscoveryOptions Regex)
    (containerEnvs containerK8sLabels : UnorderedMap String) (tags : List (String × String)) :
    List (String × String) :=
  if self.mExternalEnvTag.entries.isEmpty && self.mExternalK8sLabelTag.entries.isEmpty then tags
  else appendMappedTags self.mExternalK8sLabelTag containerK8sLabels
    (appendMappedTags self.mExternalEnvTag containerEnvs tags)

theorem getCustomExternalTags_eq_append (self : ContainerDiscoveryOptions Regex)
    (containerEnvs containerK8sLabels : UnorderedMap String) (tags : List (String × String)) :
    self.getCustomExternalTags containerEnvs containerK8sLabels tags =
      tags ++ externalTags self.mExternalEnvTag containerEnvs ++
        externalTags self.mExternalK8sLabelTag containerK8sLabels := by
  unfold getCustomExternalTags
  split_ifs with h
  · simp only [Bool.and_eq_true, List.isEmpty_iff] at h
    simp [externalTags, h.1, h.2]
  · rw [appendMappedTags_eq, appendMappedTags_eq]

/-- Whatever the mappings, the container's maps and the tags given, the tags afterwards are those
given, then the tags of the environment mapping, then those of the K8s-label mapping, one per key
the mapping shares with the container; the early return agrees with the loops. -/
theorem getCustomExternalTags_eq (self : ContainerDiscoveryOptions Regex)
    (containerEnvs containerK8sLabels : UnorderedMap String) (tags : List (String × String)) :
    self.getCustomExternalTags containerEnvs containerK8sLabels tags =
        tags ++ externalTags self.mExternalEnvTag containerEnvs ++
          externalTags self.mExternalK8sLabelTag containerK8sLabels ∧
      (externalTags self.mExternalEnvTag containerEnvs).length +
          (externalTags self.mExternalK8sLabelTag containerK8sLabels).length =
        (self.mExternalEnvTag.keys.toFinset ∩ containerEnvs.keys.toFinset).card +
          (self.mExternalK8sLabelTag.keys.toFinset ∩ containerK8sLabels.keys.toFinset).card :=
  ⟨getCustomExternalTags_eq_append self containerEnvs containerK8sLabels tags,
    by rw [length_externalTags, length_externalTags]⟩

example :
    ({ mExternalEnvTag := [⟨"POD_NAME", "pod"⟩].toAList,
       mExternalK8sLabelTag := [⟨"app", "app"⟩].toAList } : ContainerDiscoveryOptions String
      ).getCustomExternalTags [⟨"POD_NAME", "web-1"⟩].toAList ∅ [("host", "h1")] =
      [("host", "h1"), ("pod", "web-1")] := by
  decide

/-- Two options whose mappings hold the same entries in any orders append the same tags, up to
order. -/
theorem getCustomExternalTags_perm {self self' : ContainerDiscoveryOptions Regex}
    (he : self'.mExternalEnvTag.entries.Perm self.mExternalEnvTag.entries)
    (hl : self'.mExternalK8sLabelTag.entries.Perm self.mExternalK8sLabelTag.entries)
    (containerEnvs containerK8sLabels : UnorderedMap String) (tags : List (String × String)) :
    (self'.getCustomExternalTags containerEnvs containerK8sLabels tags).Perm
      (self.getCustomExternalTags containerEnvs containerK8sLabels tags) := by
  rw [getCustomExternalTags_eq_append, getCustomExternalTags_eq_append]
  exact ((he.filterMap _).append_left tags).append (hl.filterMap _)

theorem getCustomExternalTags_perm_swapped :
    (({ mExternalEnvTag :=
          ⟨[⟨"POD", "pod"⟩, ⟨"NS", "ns"⟩], by unfold List.NodupKeys; decide⟩ } :
        ContainerDiscoveryOptions String).getCustomExternalTags
        ⟨[⟨"POD", "p1"⟩, ⟨"NS", "n1"⟩], by unfold List.NodupKeys; decide⟩ ∅ []).Perm
      (({ mExternalEnvTag :=
          ⟨[⟨"NS", "ns"⟩, ⟨"POD", "pod"⟩], by unfold List.NodupKeys; decide⟩ } :
        ContainerDiscoveryOptions String).getCustomExternalTags
        ⟨[⟨"POD", "p1"⟩, ⟨"NS", "n1"⟩], by unfold List.NodupKeys; decide⟩ ∅ []) := by
  refine getCustomExternalTags_perm ?_ ?_ _ _ _
  · exact List.Perm.swap _ _ _
  · exact List.Perm.refl _

end ContainerDiscoveryOptions

end LoongCollector
