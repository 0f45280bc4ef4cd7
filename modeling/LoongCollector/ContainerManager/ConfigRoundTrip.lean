import LoongCollector.ContainerManager.DiscoveryOptions

/-! Reading back a plugin config. A reader is lawful when, onto the value a fresh object
holds, it reads a member of the type it expects without error: a string or a boolean as it
is, an object of strings into a map with the same entries, enumerated in whatever order the
map has. The laws are asked only at that value, so a reader that merges members into the map
it is given meets them as well as one that replaces it; `ParamExtractor.ofSpec` is one.
Proved: for every lawful reader and every regex engine, `ContainerDiscoveryOptions::Init` on
the plugin config that holds each option of an object under its own name reports no
warning and reads back every parameter and tag mapping; it returns true exactly when every
pattern compiles, and then the filters are those the parameters describe. This checks that
each key `Init` reads is wired to the member of its own name, with the reader of its type. -/

namespace LoongCollector

variable {Regex : Type}

/-! ### Lawful readers -/

/-- A reader that, onto the value a fresh object holds, reads a member of the type it expects
and reports nothing: a string onto the empty string, a boolean onto false, an object of
strings onto the empty map into a map with the same entries in any order. -/
structure ParamExtractor.Lawful (pe : ParamExtractor) : Prop where
  string : ∀ config key s, config.lookup (currentKey key) = some (.string s) →
    pe.getOptionalStringParam config key "" = (s, none)
  map : ∀ config key members entries,
    config.lookup (currentKey key) = some (.object members) →
    stringMembers members = some entries → entries.NodupKeys →
    (pe.getOptionalMapParam config key ∅).1.entries.Perm entries ∧
      (pe.getOptionalMapParam config key ∅).2 = none
  bool : ∀ config key b, config.lookup (currentKey key) = some (.bool b) →
    pe.getOptionalBoolParam config key false = (b, none)

theorem ParamExtractor.ofSpec_lawful : ParamExtractor.ofSpec.Lawful where
  string config key s h := by simp [ParamExtractor.ofSpec, h]
  map config key members entries h hm hn := by
    have e : entries.toAList.toFinmap = AList.toFinmap ⟨entries, hn⟩ :=
      Finmap.ext_lookup fun k => by
        simp [Finmap.lookup_toFinmap, AList.lookup_to_alist, AList.lookup, List.dlookup_dedupKeys]
    simpa [ParamExtractor.ofSpec, h, hm] using AList.toFinmap_eq.mp e
  bool config key b h := by simp [ParamExtractor.ofSpec, h]

/-! ### Plugin configs that hold given options -/

/-- A string map as the JSON object of its entries. -/
def UnorderedMap.toJson (m : UnorderedMap String) : Json :=
  .object (m.entries.map fun e => (e.1, .string e.2))

theorem stringMembers_map_string (entries : List (Σ _ : String, String)) :
    stringMembers (entries.map fun e => (e.1, Json.string e.2)) = some entries := by
  induction entries with
  | nil => rfl
  | cons e entries ih =>
    simp only [stringMembers] at ih ⊢
    rw [List.map_cons, List.mapM_cons, ih]
    rfl

/-- The `ContainerFilters` object that holds each parameter of `c` under its own name. -/
def ContainerFilterConfig.toJson (c : ContainerFilterConfig) : JsonObject :=
  [("K8sNamespaceRegex", .string c.mK8sNamespaceRegex), ("K8sPodRegex", .string c.mK8sPodRegex),
    ("K8sContainerRegex", .string c.mK8sContainerRegex),
    ("IncludeK8sLabel", c.mIncludeK8sLabel.toJson), ("ExcludeK8sLabel", c.mExcludeK8sLabel.toJson),
    ("IncludeEnv", c.mIncludeEnv.toJson), ("ExcludeEnv", c.mExcludeEnv.toJson),
    ("IncludeContainerLabel", c.mIncludeContainerLabel.toJson),
    ("ExcludeContainerLabel", c.mExcludeContainerLabel.toJson)]

/-- The plugin config that holds each option of `o` under its own name. -/
def ContainerDiscoveryOptions.toJson (o : ContainerDiscoveryOptions Regex) : JsonObject :=
  [("ContainerFilters", .object o.mContainerFilterConfig.toJson),
    ("ExternalK8sLabelTag", o.mExternalK8sLabelTag.toJson),
    ("ExternalEnvTag", o.mExternalEnvTag.toJson),
    ("CollectingContainersMeta", .bool o.mCollectingContainersMeta)]

/-- Two configs with the same patterns and, in each map, the same entries in any order. -/
structure ContainerFilterConfig.SameParams (c c' : ContainerFilterConfig) : Prop where
  namespaceRegex : c.mK8sNamespaceRegex = c'.mK8sNamespaceRegex
  podRegex : c.mK8sPodRegex = c'.mK8sPodRegex
  containerRegex : c.mK8sContainerRegex = c'.mK8sContainerRegex
  includeK8sLabel : c.mIncludeK8sLabel.entries.Perm c'.mIncludeK8sLabel.entries
  excludeK8sLabel : c.mExcludeK8sLabel.entries.Perm c'.mExcludeK8sLabel.entries
  includeEnv : c.mIncludeEnv.entries.Perm c'.mIncludeEnv.entries
  excludeEnv : c.mExcludeEnv.entries.Perm c'.mExcludeEnv.entries
  includeContainerLabel : c.mIncludeContainerLabel.entries.Perm c'.mIncludeContainerLabel.entries
  excludeContainerLabel : c.mExcludeContainerLabel.entries.Perm c'.mExcludeContainerLabel.entries

theorem regexValues_perm {m m' : UnorderedMap String} (h : m.entries.Perm m'.entries) :
    (regexValues m).Perm (regexValues m') :=
  (h.map _).filter _

theorem ContainerFilterConfig.SameParams.patterns_perm {c c' : ContainerFilterConfig}
    (h : c.SameParams c') : c.patterns.Perm c'.patterns := by
  simp only [ContainerFilterConfig.patterns, h.namespaceRegex, h.podRegex, h.containerRegex]
  exact ((((((List.Perm.refl _).append (regexValues_perm h.includeK8sLabel)).append
    (regexValues_perm h.excludeK8sLabel)).append (regexValues_perm h.includeContainerLabel)).append
    (regexValues_perm h.excludeContainerLabel)).append (regexValues_perm h.includeEnv)).append
    (regexValues_perm h.excludeEnv)

theorem FieldFilter.IsSplitOf.of_perm {compile : String → Option Regex} {f : FieldFilter Regex}
    {m m' : UnorderedMap String} (hf : f.IsSplitOf compile m) (h : m.entries.Perm m'.entries) :
    f.IsSplitOf compile m' := fun k => by
  rw [← AList.perm_lookup h]
  exact hf k

theorem ContainerFilters.Built.of_sameParams {compile : String → Option Regex}
    {f : ContainerFilters Regex} {c c' : ContainerFilterConfig} (hb : f.Built compile c)
    (h : c.SameParams c') : f.Built compile c' :=
  ⟨h.namespaceRegex ▸ hb.namespaceReg, h.podRegex ▸ hb.podReg,
    h.containerRegex ▸ hb.containerReg, hb.includeK8sLabel.of_perm h.includeK8sLabel,
    hb.excludeK8sLabel.of_perm h.excludeK8sLabel,
    hb.includeContainerLabel.of_perm h.includeContainerLabel,
    hb.excludeContainerLabel.of_perm h.excludeContainerLabel,
    hb.includeEnv.of_perm h.includeEnv, hb.excludeEnv.of_perm h.excludeEnv⟩

/-! ### Reading them back -/

section Lawful

variable {pe : ParamExtractor} (hpe : pe.Lawful)
include hpe

/-- A string member read onto the empty string under `PARAM_WARNING_IGNORE`. -/
theorem ParamExtractor.Lawful.readIgnoring_string (config : JsonObject) (key : String)
    {s : String} (h : config.lookup (currentKey key) = some (.string s)) :
    readIgnoring pe.getOptionalStringParam config key "" = (s, []) := by
  simp [readIgnoring, hpe.string config key s h]

/-- A map member read onto the empty map under `PARAM_WARNING_IGNORE`. -/
theorem ParamExtractor.Lawful.readIgnoring_map (config : JsonObject) (key : String)
    {m : UnorderedMap String} (h : config.lookup (currentKey key) = some m.toJson) :
    (readIgnoring pe.getOptionalMapParam config key ∅).1.entries.Perm m.entries ∧
      (readIgnoring pe.getOptionalMapParam config key ∅).2 = [] := by
  obtain ⟨hp, hn⟩ := hpe.map config key _ _ h (stringMembers_map_string _) m.nodupKeys
  simp [readIgnoring, hp, hn]

/-- `ContainerFilterConfig::Init` on a fresh config reads back every parameter of the object
that holds them, without a warning. -/
theorem ContainerFilterConfig.init_toJson (c : ContainerFilterConfig) :
    (({} : ContainerFilterConfig).init pe c.toJson).2.2 = [] ∧
      (({} : ContainerFilterConfig).init pe c.toJson).2.1.SameParams c := by
  have s1 := hpe.readIgnoring_string c.toJson "ContainerFilters.K8sNamespaceRegex" rfl
  have s2 := hpe.readIgnoring_string c.toJson "ContainerFilters.K8sPodRegex" rfl
  have s3 := hpe.readIgnoring_string c.toJson "ContainerFilters.K8sContainerRegex" rfl
  have m1 := hpe.readIgnoring_map c.toJson "ContainerFilters.IncludeK8sLabel" rfl
  have m2 := hpe.readIgnoring_map c.toJson "ContainerFilters.ExcludeK8sLabel" rfl
  have m3 := hpe.readIgnoring_map c.toJson "ContainerFilters.IncludeEnv" rfl
  have m4 := hpe.readIgnoring_map c.toJson "ContainerFilters.ExcludeEnv" rfl
  have m5 := hpe.readIgnoring_map c.toJson "ContainerFilters.IncludeContainerLabel" rfl
  have m6 := hpe.readIgnoring_map c.toJson "ContainerFilters.ExcludeContainerLabel" rfl
  simp only [ContainerFilterConfig.init, s1, s2, s3, m1.2, m2.2, m3.2, m4.2, m5.2, m6.2,
    List.append_nil, true_and]
  exact ⟨rfl, rfl, rfl, m1.1, m2.1, m3.1, m4.1, m5.1, m6.1⟩

variable (compile : String → Option Regex)

/-- For every lawful reader and every regex engine, `Init` on a fresh object with the plugin
config that holds each option of `o` under its own name reports no warning and reads back
`o`'s filter parameters; it returns true exactly when every pattern compiles, and then the
filters are those the parameters describe and the tag mappings and `CollectingContainersMeta`
are `o`'s. -/
theorem ContainerDiscoveryOptions.init_toJson_reads_back (o : ContainerDiscoveryOptions Regex) :
    let r := ContainerDiscoveryOptions.init compile pe o.toJson {}
    r.2.2 = [] ∧ r.2.1.mContainerFilterConfig.SameParams o.mContainerFilterConfig ∧
      (r.1 = true ↔ ∀ p ∈ o.mContainerFilterConfig.patterns, (compile p).isSome) ∧
      (r.1 = true → r.2.1.mContainerFilters.Built compile o.mContainerFilterConfig ∧
        r.2.1.mExternalK8sLabelTag.entries.Perm o.mExternalK8sLabelTag.entries ∧
        r.2.1.mExternalEnvTag.entries.Perm o.mExternalEnvTag.entries ∧
        r.2.1.mCollectingContainersMeta = o.mCollectingContainersMeta) := by
  obtain ⟨hw, hs⟩ := ContainerFilterConfig.init_toJson hpe o.mContainerFilterConfig
  have hk := hpe.readIgnoring_map o.toJson "ExternalK8sLabelTag" rfl
  have he := hpe.readIgnoring_map o.toJson "ExternalEnvTag" rfl
  have hb := hpe.bool o.toJson "CollectingContainersMeta" _ rfl
  have hf := ContainerDiscoveryOptions.initContainerFilters_object compile pe o.toJson rfl {}
  obtain ⟨hc, hfl⟩ := ContainerDiscoveryOptions.init_filters compile pe o.toJson {}
  have hok : (ContainerFilters.init compile
      (({} : ContainerFilterConfig).init pe o.mContainerFilterConfig.toJson).2.1 {}).1 = true ↔
      ∀ p ∈ o.mContainerFilterConfig.patterns, (compile p).isSome := by
    rw [ContainerFilters.init_fst, List.all_eq_true]
    exact forall_congr' fun p => imp_congr_left hs.patterns_perm.mem_iff
  dsimp only
  rw [ContainerDiscoveryOptions.init_fst, hf]
  refine ⟨?_, by rw [hc, hf]; exact hs, hok, fun h => ?_⟩
  · rw [ContainerDiscoveryOptions.init_warnings, hf]
    simp [hw, hk.2, he.2, hb]
  · obtain ⟨t1, t2, t3⟩ := ContainerDiscoveryOptions.init_tags_of_fst compile (hf ▸ h)
    rw [hfl, t1, t2, t3, hf]
    exact ⟨(ContainerFilters.built_of_init compile h).of_sameParams hs, hk.1, he.1,
      congrArg Prod.fst hb⟩

end Lawful

theorem ContainerDiscoveryOptions.init_toJson_reads_back_env :
    let o : ContainerDiscoveryOptions String :=
      { mContainerFilterConfig := { mK8sPodRegex := "^web-.*$" },
        mExternalEnvTag := [⟨"POD_NAME", "pod"⟩].toAList, mCollectingContainersMeta := true }
    (ContainerDiscoveryOptions.init some .ofSpec o.toJson {}).2.2 = [] ∧
      (ContainerDiscoveryOptions.init some .ofSpec o.toJson {}).2.1.mCollectingContainersMeta =
        true :=
  ⟨(ContainerDiscoveryOptions.init_toJson_reads_back ParamExtractor.ofSpec_lawful some _).1,
    ((ContainerDiscoveryOptions.init_toJson_reads_back ParamExtractor.ofSpec_lawful some _).2.2.2
      (by decide)).2.2.2⟩

end LoongCollector
