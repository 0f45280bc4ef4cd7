import Mathlib.Data.Finmap
import LoongCollector.ContainerManager.Values

/-! `FieldFilter` and `SplitRegexFromMap`. A string map is split into exact-match values and
`^…$` patterns, the patterns compiled. The split is all or nothing: it succeeds exactly when
every pattern compiles, and then the filter holds exactly the map's entries, each in its
half, whatever the filter held before and in whatever order the map is enumerated; when a
pattern fails the filter is left as it was. The regex engine is the parameter `compile`,
`none` where `boost::regex`'s constructor throws. -/

namespace LoongCollector

variable {Regex : Type}

/-- `FieldFilter`: exact-match fields and pattern fields. -/
structure FieldFilter (Regex : Type) where
  mFieldsMap : UnorderedMap String := ∅
  mFieldsRegMap : UnorderedMap Regex := ∅

/-- `FieldFilter::IsEmpty`. -/
def FieldFilter.isEmpty (f : FieldFilter Regex) : Bool :=
  f.mFieldsMap.entries.isEmpty && f.mFieldsRegMap.entries.isEmpty

/-- `MatchCriteriaFilter`: the fields a container must and must not show. -/
structure MatchCriteriaFilter (Regex : Type) where
  mIncludeFields : FieldFilter Regex := {}
  mExcludeFields : FieldFilter Regex := {}

/-- `MatchCriteriaFilter::IsEmpty`. -/
def MatchCriteriaFilter.isEmpty (f : MatchCriteriaFilter Regex) : Bool :=
  f.mIncludeFields.isEmpty && f.mExcludeFields.isEmpty

/-- `K8sFilter`; a null `std::shared_ptr<boost::regex>` is `none`. -/
structure K8sFilter (Regex : Type) where
  mNamespaceReg : Option Regex := none
  mPodReg : Option Regex := none
  mContainerReg : Option Regex := none
  mK8sLabelFilter : MatchCriteriaFilter Regex := {}

/-- `K8sFilter::IsEmpty`. -/
def K8sFilter.isEmpty (f : K8sFilter Regex) : Bool :=
  f.mNamespaceReg.isNone && f.mPodReg.isNone && f.mContainerReg.isNone && f.mK8sLabelFilter.isEmpty

/-- The test `SplitRegexFromMap` makes before compiling a value: non-empty, first character
`^`, last character `$`. Both are ASCII, so the characters are the bytes the code reads. -/
def isValidRegex (s : String) : Bool := !s.isEmpty && s.front == '^' && s.back == '$'

variable (compile : String → Option Regex)

/-- `SplitRegexFromMap(inputs, fieldFilter)`: the returned flag and the filter afterwards. -/
def splitRegexFromMap (inputs : UnorderedMap String) (fieldFilter : FieldFilter Regex) :
    Bool × FieldFilter Regex :=
  match loop inputs.entries ∅ ∅ with
  | some (staticResult, regexResult) =>
    (true, { mFieldsMap := staticResult, mFieldsRegMap := regexResult })
  | none => (false, fieldFilter)
where
  /-- The `for` over the inputs; `none` is the `return false` of the `catch`. -/
  loop : List (Σ _ : String, String) → UnorderedMap String → UnorderedMap Regex →
      Option (UnorderedMap String × UnorderedMap Regex)
  | [], staticResult, regexResult => some (staticResult, regexResult)
  | input :: inputs, staticResult, regexResult =>
    if isValidRegex input.2 then
      match compile input.2 with
      | some reg => loop inputs staticResult (regexResult.insert input.1 reg)
      | none => none
    else loop inputs (staticResult.insert input.1 input.2) regexResult

/-- The values of a map that `SplitRegexFromMap` hands to the regex constructor. -/
def regexValues (inputs : UnorderedMap String) : List String :=
  (inputs.entries.map (·.2)).filter isValidRegex

/-- Every `^…$` value of the map compiles. -/
def AllCompile (inputs : UnorderedMap String) : Prop :=
  ∀ p ∈ regexValues inputs, (compile p).isSome

/-- The filter holds exactly the entries of `inputs`: the values that are not `^…$` as exact
matches, the others compiled. -/
def FieldFilter.IsSplitOf (f : FieldFilter Regex) (inputs : UnorderedMap String) : Prop :=
  ∀ k, f.mFieldsMap.lookup k = (inputs.lookup k).filter (fun v => !isValidRegex v) ∧
    f.mFieldsRegMap.lookup k = ((inputs.lookup k).filter isValidRegex).bind compile

/-- The two maps of a filter as finite maps, forgetting their enumeration order. -/
def FieldFilter.content (f : FieldFilter Regex) :
    Finmap (fun _ : String => String) × Finmap (fun _ : String => Regex) :=
  (f.mFieldsMap.toFinmap, f.mFieldsRegMap.toFinmap)

/-! ### The loop -/

namespace splitRegexFromMap

variable {compile}

theorem loop_isSome (l : List (Σ _ : String, String)) (staticResult : UnorderedMap String)
    (regexResult : UnorderedMap Regex) :
    (loop compile l staticResult regexResult).isSome =
      ((l.map (·.2)).filter isValidRegex).all fun p => (compile p).isSome := by
  induction l generalizing staticResult regexResult with
  | nil => rfl
  | cons x l ih =>
    simp only [loop, List.map_cons, List.filter_cons]
    split_ifs with hx
    · cases hc : compile x.2 <;> simp [hc, ih]
    · exact ih _ _

/-- The loop adds each entry to its half and leaves what the accumulators held under
other keys. -/
theorem loop_lookup {l : List (Σ _ : String, String)}
    {staticResult staticResult' : UnorderedMap String}
    {regexResult regexResult' : UnorderedMap Regex} (hl : l.NodupKeys)
    (h : loop compile l staticResult regexResult = some (staticResult', regexResult'))
    (k : String) :
    staticResult'.lookup k =
        ((l.dlookup k).filter fun v => !isValidRegex v).or (staticResult.lookup k) ∧
      regexResult'.lookup k =
        (((l.dlookup k).filter isValidRegex).bind compile).or (regexResult.lookup k) := by
  induction l generalizing staticResult regexResult with
  | nil => simp_all [loop]
  | cons x l ih =>
    obtain ⟨key, value⟩ := x
    obtain ⟨hxl, hl⟩ := List.nodupKeys_cons.mp hl
    have hk : k = key → l.dlookup k = none := fun e => List.dlookup_eq_none.mpr (e ▸ hxl)
    simp only [loop] at h
    split_ifs at h with hx
    · cases hc : compile value with
      | none => simp [hc] at h
      | some reg =>
        simp only [hc] at h
        obtain ⟨h1, h2⟩ := ih hl h
        rw [h1, h2]
        by_cases e : k = key
        · subst e; simp [hk rfl, List.dlookup_cons_eq, Option.filter_some, hx, hc]
        · simp [List.dlookup_cons_ne l ⟨key, value⟩ e, AList.lookup_insert_ne e]
    · obtain ⟨h1, h2⟩ := ih hl h
      rw [h1, h2]
      by_cases e : k = key
      · subst e; simp [hk rfl, List.dlookup_cons_eq, Option.filter_some, hx]
      · simp [List.dlookup_cons_ne l ⟨key, value⟩ e, AList.lookup_insert_ne e]

end splitRegexFromMap

/-! ### The split -/

/-- The flag `SplitRegexFromMap` returns depends on the map alone. -/
theorem splitRegexFromMap_fst (inputs : UnorderedMap String) (fieldFilter : FieldFilter Regex) :
    (splitRegexFromMap compile inputs fieldFilter).1 =
      (regexValues inputs).all fun p => (compile p).isSome := by
  rw [regexValues, ← splitRegexFromMap.loop_isSome inputs.entries ∅ ∅]
  cases h : splitRegexFromMap.loop compile inputs.entries ∅ ∅ <;> simp [splitRegexFromMap, h]

theorem splitRegexFromMap_fst_eq_true_iff (inputs : UnorderedMap String)
    (fieldFilter : FieldFilter Regex) :
    (splitRegexFromMap compile inputs fieldFilter).1 = true ↔ AllCompile compile inputs := by
  simp [splitRegexFromMap_fst, AllCompile]

theorem allCompile_of_perm {inputs inputs' : UnorderedMap String}
    (hp : inputs'.entries.Perm inputs.entries) :
    AllCompile compile inputs' ↔ AllCompile compile inputs := by
  simp only [AllCompile, regexValues, ((hp.map _).filter _).mem_iff]

variable {compile}

theorem splitRegexFromMap_of_not_allCompile {inputs : UnorderedMap String}
    (h : ¬AllCompile compile inputs) (fieldFilter : FieldFilter Regex) :
    splitRegexFromMap compile inputs fieldFilter = (false, fieldFilter) := by
  have h' := mt (splitRegexFromMap_fst_eq_true_iff compile inputs fieldFilter).mp h
  unfold splitRegexFromMap at h' ⊢
  split at h' <;> simp_all

theorem splitRegexFromMap_of_allCompile {inputs : UnorderedMap String}
    (h : AllCompile compile inputs) (fieldFilter : FieldFilter Regex) :
    (splitRegexFromMap compile inputs fieldFilter).1 = true ∧
      (splitRegexFromMap compile inputs fieldFilter).2.IsSplitOf compile inputs := by
  have h' := (splitRegexFromMap_fst_eq_true_iff compile inputs fieldFilter).mpr h
  refine ⟨h', fun k => ?_⟩
  unfold splitRegexFromMap at h' ⊢
  split at h'
  · next hl => simpa [AList.lookup, Option.or_none] using
      splitRegexFromMap.loop_lookup inputs.nodupKeys hl k
  · cases h'

/-- What a filter slot holds after `ContainerFilters::Init` on a fresh object: untouched for
an empty map, the split otherwise; either way the split of the map. -/
theorem isSplitOf_fresh_or_split {inputs : UnorderedMap String} (h : AllCompile compile inputs) :
    (if inputs.entries.isEmpty then ({} : FieldFilter Regex)
      else (splitRegexFromMap compile inputs {}).2).IsSplitOf compile inputs := by
  split_ifs with he
  · intro k
    simp [AList.lookup, List.isEmpty_iff.mp he]
  · exact (splitRegexFromMap_of_allCompile h {}).2

theorem entries_isEmpty_iff {α : Type} (s : UnorderedMap α) :
    s.entries.isEmpty = true ↔ ∀ k, s.lookup k = none := by
  rw [List.isEmpty_iff]
  refine ⟨fun h k => by simp [AList.lookup, h], fun h => List.eq_nil_iff_forall_not_mem.mpr ?_⟩
  rintro ⟨k, v⟩ hx
  simpa [h k] using AList.mem_lookup_iff.mpr hx

/-- A value the map holds under some key, when `^…$`, is one `SplitRegexFromMap` compiles. -/
theorem mem_regexValues {inputs : UnorderedMap String} {k v : String}
    (hv : inputs.lookup k = some v) (hvv : isValidRegex v = true) : v ∈ regexValues inputs :=
  List.mem_filter.mpr ⟨List.mem_map.mpr ⟨⟨k, v⟩, AList.mem_lookup_iff.mp hv, rfl⟩, hvv⟩

/-- Under each key a split filter holds a value in exactly one half when the map holds one,
and nothing when it holds none. -/
theorem FieldFilter.IsSplitOf.lookup_isSome {f : FieldFilter Regex} {inputs : UnorderedMap String}
    (hf : f.IsSplitOf compile inputs) (hc : AllCompile compile inputs) (k : String) :
    ((f.mFieldsMap.lookup k).isSome || (f.mFieldsRegMap.lookup k).isSome) =
        (inputs.lookup k).isSome ∧
      ¬((f.mFieldsMap.lookup k).isSome ∧ (f.mFieldsRegMap.lookup k).isSome) := by
  rw [(hf k).1, (hf k).2]
  cases hv : inputs.lookup k with
  | none => simp
  | some v =>
    by_cases hvv : isValidRegex v
    · obtain ⟨reg, hreg⟩ := Option.isSome_iff_exists.mp (hc v (mem_regexValues hv hvv))
      simp [Option.filter_some, hvv, hreg]
    · simp [Option.filter_some, hvv]

/-- A split filter is empty exactly when its map is. -/
theorem FieldFilter.IsSplitOf.isEmpty_eq {f : FieldFilter Regex} {inputs : UnorderedMap String}
    (hf : f.IsSplitOf compile inputs) (hc : AllCompile compile inputs) :
    f.isEmpty = inputs.entries.isEmpty := by
  rw [Bool.eq_iff_iff, FieldFilter.isEmpty, Bool.and_eq_true, entries_isEmpty_iff,
    entries_isEmpty_iff, entries_isEmpty_iff, ← forall_and]
  refine forall_congr' fun k => ?_
  simp only [← Option.not_isSome_iff_eq_none, ← (hf.lookup_isSome hc k).1]
  simp

/-- Two filters that split maps of equal content hold the same content. -/
theorem FieldFilter.IsSplitOf.content_eq {f g : FieldFilter Regex}
    {inputs inputs' : UnorderedMap String} (hf : f.IsSplitOf compile inputs)
    (hg : g.IsSplitOf compile inputs') (h : ∀ k, inputs.lookup k = inputs'.lookup k) :
    f.content = g.content := by
  simp only [FieldFilter.content, Prod.mk.injEq]
  constructor <;> refine Finmap.ext_lookup fun k => ?_ <;>
    simp [Finmap.lookup_toFinmap, (hf k).1, (hf k).2, (hg k).1, (hg k).2, h k]

variable (compile)

/-- Either every `^…$` value compiles, the call returns true and the filter holds exactly the map's
entries, or one fails, the call returns false and the filter is unchanged; and the outcome is the
same for every enumeration order of the map. -/
theorem splitRegexFromMap_all_or_nothing (inputs : UnorderedMap String)
    (fieldFilter : FieldFilter Regex) :
    (AllCompile compile inputs ∧ (splitRegexFromMap compile inputs fieldFilter).1 = true ∧
        (splitRegexFromMap compile inputs fieldFilter).2.IsSplitOf compile inputs ∨
      ¬AllCompile compile inputs ∧
        splitRegexFromMap compile inputs fieldFilter = (false, fieldFilter)) ∧
    ∀ inputs' : UnorderedMap String, inputs'.entries.Perm inputs.entries →
      (splitRegexFromMap compile inputs' fieldFilter).1 =
          (splitRegexFromMap compile inputs fieldFilter).1 ∧
        (splitRegexFromMap compile inputs' fieldFilter).2.content =
          (splitRegexFromMap compile inputs fieldFilter).2.content := by
  refine ⟨?_, fun inputs' hp => ?_⟩
  · by_cases h : AllCompile compile inputs
    · exact .inl ⟨h, splitRegexFromMap_of_allCompile h fieldFilter⟩
    · exact .inr ⟨h, splitRegexFromMap_of_not_allCompile h fieldFilter⟩
  · have hl : ∀ k, inputs'.lookup k = inputs.lookup k := fun k => AList.perm_lookup hp
    by_cases h : AllCompile compile inputs
    · obtain ⟨t, s⟩ := splitRegexFromMap_of_allCompile h fieldFilter
      obtain ⟨t', s'⟩ :=
        splitRegexFromMap_of_allCompile ((allCompile_of_perm compile hp).mpr h) fieldFilter
      exact ⟨t'.trans t.symm, s'.content_eq s hl⟩
    · rw [splitRegexFromMap_of_not_allCompile h,
        splitRegexFromMap_of_not_allCompile (mt (allCompile_of_perm compile hp).mp h)]
      exact ⟨rfl, rfl⟩

theorem splitRegexFromMap_all_or_nothing_swapped :
    (splitRegexFromMap some
        ⟨[⟨"env", "prod"⟩, ⟨"app", "^web-.*$"⟩], by unfold List.NodupKeys; decide⟩
        ({} : FieldFilter String)).2.content =
      (splitRegexFromMap some
        ⟨[⟨"app", "^web-.*$"⟩, ⟨"env", "prod"⟩], by unfold List.NodupKeys; decide⟩
        ({} : FieldFilter String)).2.content :=
  ((splitRegexFromMap_all_or_nothing some _ _).2 _ (List.Perm.swap _ _ _)).2

/-- When `SplitRegexFromMap` succeeds, each key of the map is in exactly one half of the filter and
no other key is in either. -/
theorem splitRegexFromMap_keys {inputs : UnorderedMap String} {fieldFilter : FieldFilter Regex}
    (h : (splitRegexFromMap compile inputs fieldFilter).1 = true) (k : String) :
    (k ∈ (splitRegexFromMap compile inputs fieldFilter).2.mFieldsMap ∨
        k ∈ (splitRegexFromMap compile inputs fieldFilter).2.mFieldsRegMap ↔ k ∈ inputs) ∧
      ¬(k ∈ (splitRegexFromMap compile inputs fieldFilter).2.mFieldsMap ∧
        k ∈ (splitRegexFromMap compile inputs fieldFilter).2.mFieldsRegMap) := by
  have hc := (splitRegexFromMap_fst_eq_true_iff compile inputs fieldFilter).mp h
  obtain ⟨h1, h2⟩ := (splitRegexFromMap_of_allCompile hc fieldFilter).2.lookup_isSome hc k
  simpa only [← AList.lookup_isSome, ← Bool.or_eq_true, h1, iff_self, true_and] using h2

theorem splitRegexFromMap_keys_app :
    let inputs : UnorderedMap String := [⟨"app", "^web-.*$"⟩, ⟨"env", "prod"⟩].toAList
    (splitRegexFromMap some inputs {}).1 = true ∧
      "app" ∈ (splitRegexFromMap some inputs {}).2.mFieldsRegMap :=
  ⟨by decide, ((splitRegexFromMap_keys some (by decide) "app").1.mpr (by decide)).resolve_left
    (by decide)⟩

end LoongCollector
