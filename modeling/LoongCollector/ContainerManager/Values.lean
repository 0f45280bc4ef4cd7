import Mathlib.Data.List.AList

/-! The values `ContainerDiscoveryOptions.cpp` reads and writes. A plugin config is a
`Json::Value` object. The filters and the tag mappings are `std::unordered_map`s with string
keys, modelled as association lists whose order is the map's enumeration order: a statement
about every enumeration order of a map is a statement about every such list. The readers of
`common/ParamExtractor.h` are called by the sources but are not among them. They are a
parameter, `ParamExtractor`, and every result about `Init` holds for each choice of them;
`ParamExtractor.ofSpec`, modelled from the spec, serves the concrete runs. -/

namespace LoongCollector

/-- `Json::Value`. Numbers are kept only for their kind: no modelled function reads one. -/
inductive Json where
  | null
  | bool (b : Bool)
  | int (i : Int)
  | uint (n : Nat)
  | real (x : Float)
  | string (s : String)
  | array (elems : List Json)
  | object (members : List (String × Json))
  deriving Repr

/-- The members of a `Json::Value` object; `Json::Value::find` is `List.lookup`. -/
abbrev JsonObject := List (String × Json)

/-- `std::unordered_map<std::string, α>`: its entries in enumeration order, each key once. -/
abbrev UnorderedMap (α : Type) := AList fun _ : String => α

/-- `GetOptional…Param(config, key, param, errorMsg)`: from the object, the key and the value
`param` holds before the call, the value it holds after and, when the call returns false,
`errorMsg`. -/
abbrev ParamReader (α : Type) := JsonObject → String → α → α × Option String

/-- The readers of `common/ParamExtractor.h` that the container options call. -/
structure ParamExtractor where
  getOptionalStringParam : ParamReader String
  getOptionalMapParam : ParamReader (UnorderedMap String)
  getOptionalBoolParam : ParamReader Bool

/-- What `PARAM_WARNING_IGNORE` and `PARAM_WARNING_DEFAULT` report. The logger, the alarm
and the context's config, project, logstore and region names they also pass are left out. -/
inductive ParamWarning where
  | ignored (errorMsg : String)
  | defaulted (errorMsg : String) (defaultValue : Bool)
  deriving DecidableEq, Repr

variable {α : Type}

/-- One optional parameter read under `PARAM_WARNING_IGNORE`: the value `param` is left
with, and the reader's error as a warning. -/
def readIgnoring (reader : ParamReader α) (config : JsonObject) (key : String) (param : α) :
    α × List ParamWarning :=
  ((reader config key param).1, (reader config key param).2.toList.map .ignored)

/-! ### A reader modelled from the spec -/

/-- The member a dotted key names in the object it is looked up in: the part after the last
dot, as `ContainerFilterConfig::Init` passes `ContainerFilters.K8sPodRegex` together with the
`ContainerFilters` object itself. -/
def currentKey (key : String) : String := ⟨(key.data.reverse.takeWhile (· ≠ '.')).reverse⟩

/-- The string members of an object, or `none` when one member is not a string. -/
def stringMembers (members : List (String × Json)) : Option (List (Σ _ : String, String)) :=
  members.mapM fun m => match m.2 with
    | .string s => some ⟨m.1, s⟩
    | _ => none

/-- Modelled from the spec: `common/ParamExtractor.h` is absent from the sources. A parameter
is optional (§6): an absent member leaves `param` as it was, a member of the expected type
(a string; an object of strings; a boolean) replaces it, and any other member leaves it and
reports the key. -/
def ParamExtractor.ofSpec : ParamExtractor where
  getOptionalStringParam config key param :=
    match config.lookup (currentKey key) with
    | none => (param, none)
    | some (.string s) => (s, none)
    | some _ => (param, some ("param " ++ key ++ " is not of type string"))
  getOptionalMapParam config key param :=
    match config.lookup (currentKey key) with
    | none => (param, none)
    | some (.object members) =>
      match stringMembers members with
      | some entries => (entries.toAList, none)
      | none => (param, some ("param " ++ key ++ " is not of type map<string, string>"))
    | some _ => (param, some ("param " ++ key ++ " is not of type map"))
  getOptionalBoolParam config key param :=
    match config.lookup (currentKey key) with
    | none => (param, none)
    | some (.bool b) => (b, none)
    | some _ => (param, some ("param " ++ key ++ " is not of type bool"))

example : currentKey "ContainerFilters.K8sPodRegex" = "K8sPodRegex" := by decide

end LoongCollector
