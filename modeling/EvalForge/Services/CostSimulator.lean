import EvalForge.Foundation.Json
import EvalForge.Services.GateRuleValidation

/-! # The rates of a model

The lookup in the cost table. A table is the dictionary under `models`; what
`float` makes of a text or an integer is a parameter.
-/

namespace EvalForge

/-- The entries of the cost configuration, in the order of the file. -/
structure CostTable where
  models : List (String × Json)
  distinct : (models.map Prod.fst).Nodup

inductive RateError
  | attributeError
  | notConvertible
  | overflowError

namespace FloatConversion

variable (floats : FloatConversion)

/-- `float(value)`. `none` is an infinity or no number. -/
def floatOf (value : Json) : Except RateError (Option Rat) :=
  match floats.convert value with
  | .notConvertible => .error .notConvertible
  | .overflows => .error .overflowError
  | .notFinite => .ok none
  | .finite value => .ok (some value)

def ratesOf (entry : Json) : Except RateError (Option Rat × Option Rat) :=
  if entry.isDict then do
    let input ← floats.floatOf (entry.get "input_per_1k" (.float (1 / 1000)))
    let output ← floats.floatOf (entry.get "output_per_1k" (.float (2 / 1000)))
    return (input, output)
  else .error .attributeError

end FloatConversion

/-- `value is None`. -/
def Json.isNull : Json → Bool
  | .null => true
  | _ => false

def matchesModel (modelName key : String) : Bool :=
  key != "_default" &&
    (PythonText.contains modelName key.toList || PythonText.contains key modelName.toList)

namespace CostTable

variable (table : CostTable)

/-- `models.get(key, default)`. -/
def get (key : String) (default : Json) : Json := (Json.dict table.models).get key default

def defaultEntry : Json :=
  table.get "_default"
    (.dict [("input_per_1k", .float (1 / 1000)), ("output_per_1k", .float (2 / 1000))])

/-- The first entry that matches the name, which ends the scan. -/
def firstMatch (modelName : String) : Json :=
  ((table.models.find? fun field => matchesModel modelName field.1).map Prod.snd).getD .null

def modelConfig (modelName : String) : Json :=
  let exact := table.get modelName .null
  let matched := if exact.isNull then table.firstMatch modelName else exact
  if matched.isNull then table.defaultEntry else matched

end CostTable

def getModelRates (floats : FloatConversion) (table : CostTable) (modelName : String) :
    Except RateError (Option Rat × Option Rat) :=
  floats.ratesOf (table.modelConfig modelName)

/-! ## The most specific entry -/

namespace CostTable

variable {table other : CostTable} {modelName key : String} {entry : Json}

def Configures (table : CostTable) (key : String) (entry : Json) : Prop :=
  (key, entry) ∈ table.models ∧ entry.isNull = false

def Extends (table : CostTable) (modelName key : String) : Prop :=
  (∃ entry, table.Configures key entry) ∧ key ≠ "_default" ∧ key.toList <+: modelName.toList

/-- The rates come from the entry of the name, or else from the longest key that
the name extends, and the order of the table does not matter. -/
structure MostSpecific (floats : FloatConversion) (table : CostTable) (modelName : String) :
    Prop where
  exact : ∀ entry, table.Configures modelName entry →
    getModelRates floats table modelName = floats.ratesOf entry
  longest : (∀ entry, ¬table.Configures modelName entry) →
    ∀ key entry, table.Extends modelName key → table.Configures key entry →
      (∀ other, table.Extends modelName other → other.length ≤ key.length) →
      getModelRates floats table modelName = floats.ratesOf entry
  unordered : ∀ other : CostTable, other.models.Perm table.models →
    getModelRates floats other modelName = getModelRates floats table modelName

def orDefault (table : CostTable) (entry : Json) : Json :=
  if entry.isNull then table.defaultEntry else entry

def Unambiguous (floats : FloatConversion) (table : CostTable) (modelName : String) : Prop :=
  (∃ entry, table.Configures modelName entry) ∨
    ∀ first ∈ table.models, ∀ second ∈ table.models,
      matchesModel modelName first.1 = true → matchesModel modelName second.1 = true →
      floats.ratesOf (table.orDefault first.2) = floats.ratesOf (table.orDefault second.2)

/-! ## Lookups -/

theorem lookup_eq_some_iff_mem {fields : List (String × Json)}
    (distinct : (fields.map Prod.fst).Nodup) :
    fields.lookup key = some entry ↔ (key, entry) ∈ fields := by
  induction fields with
  | nil => simp
  | cons field fields induction =>
      rcases field with ⟨name, value⟩
      rw [List.map_cons, List.nodup_cons] at distinct
      by_cases same : key = name
      · subst same
        have notLater : (key, entry) ∉ fields := fun later =>
          distinct.1 (List.mem_map.mpr ⟨_, later, rfl⟩)
        simp [notLater, eq_comm]
      · have different : (key == name) = false := by simpa using same
        simp only [List.lookup_cons, different]
        rw [induction distinct.2, List.mem_cons]
        simp [same]

theorem get_perm (permuted : other.models.Perm table.models) (key : String) (default : Json) :
    other.get key default = table.get key default := by
  have same : other.models.lookup key = table.models.lookup key := by
    apply Option.ext
    intro entry
    rw [lookup_eq_some_iff_mem other.distinct, lookup_eq_some_iff_mem table.distinct,
      permuted.mem_iff]
  simp only [CostTable.get, Json.get, Json.find?, same]

theorem defaultEntry_perm (permuted : other.models.Perm table.models) :
    other.defaultEntry = table.defaultEntry :=
  get_perm permuted _ _

theorem configures_perm (permuted : other.models.Perm table.models) :
    other.Configures key entry ↔ table.Configures key entry := by
  rw [Configures, Configures, permuted.mem_iff]

theorem get_eq_of_configures (configured : table.Configures key entry) (default : Json) :
    table.get key default = entry := by
  have found := (lookup_eq_some_iff_mem table.distinct).mpr configured.1
  simp only [CostTable.get, Json.get, Json.find?, found, Option.getD_some]

theorem isNull_get_of_not_configures (missing : ∀ entry, ¬table.Configures key entry) :
    (table.get key .null).isNull = true := by
  simp only [CostTable.get, Json.get, Json.find?]
  cases found : table.models.lookup key with
  | none => rfl
  | some entry =>
      by_contra notNull
      have member := (lookup_eq_some_iff_mem table.distinct).mp found
      exact missing entry ⟨member, by simpa using notNull⟩

/-! ## The scan -/

theorem modelConfig_of_configures (configured : table.Configures modelName entry) :
    table.modelConfig modelName = entry := by
  have present := get_eq_of_configures configured .null
  simp only [modelConfig, present, configured.2, Bool.false_eq_true, if_false]

theorem modelConfig_of_not_configures (missing : ∀ entry, ¬table.Configures modelName entry) :
    table.modelConfig modelName = table.orDefault (table.firstMatch modelName) := by
  simp only [modelConfig, isNull_get_of_not_configures missing, if_true, orDefault]

theorem firstMatch_cases (table : CostTable) (modelName : String) :
    (∃ field ∈ table.models, matchesModel modelName field.1 = true ∧
        table.firstMatch modelName = field.2) ∨
      (∀ field ∈ table.models, matchesModel modelName field.1 = false) ∧
        table.firstMatch modelName = .null := by
  cases found : table.models.find? fun field => matchesModel modelName field.1 with
  | some field =>
      left
      have matching := List.find?_some found
      refine ⟨field, List.mem_of_find?_eq_some found, matching, ?_⟩
      rw [firstMatch, found]
      rfl
  | none =>
      right
      constructor
      · intro field member
        simpa using List.find?_eq_none.mp found field member
      · rw [firstMatch, found]
        rfl

theorem exists_firstMatch {field : String × Json} (member : field ∈ table.models)
    (matching : matchesModel modelName field.1 = true) :
    ∃ other : CostTable, other.models.Perm table.models ∧
      other.firstMatch modelName = field.2 := by
  rcases List.append_of_mem member with ⟨before, after, split⟩
  have permuted : (field :: (before ++ after)).Perm table.models := by
    rw [split]
    exact List.perm_middle.symm
  refine ⟨⟨field :: (before ++ after), ?_⟩, permuted, ?_⟩
  · exact (permuted.map Prod.fst).nodup_iff.mpr table.distinct
  · simp [firstMatch, matching]

theorem Extends.matches (extended : table.Extends modelName key) :
    matchesModel modelName key = true := by
  rcases extended with ⟨-, notDefault, isPrefix⟩
  simp [matchesModel, notDefault, PythonText.contains, isPrefix.isInfix]

variable {floats : FloatConversion}

theorem getModelRates_of_configures (configured : table.Configures modelName entry) :
    getModelRates floats table modelName = floats.ratesOf entry := by
  rw [getModelRates, modelConfig_of_configures configured]

theorem mostSpecific_of_configures (configured : table.Configures modelName entry) :
    table.MostSpecific floats modelName where
  exact _ configured := getModelRates_of_configures configured
  longest missing := absurd configured (missing entry)
  unordered other permuted := by
    rw [getModelRates_of_configures configured,
      getModelRates_of_configures ((configures_perm permuted).mpr configured)]

theorem getModelRates_of_agreeing (missing : ∀ entry, ¬table.Configures modelName entry)
    (agreeing : ∀ first ∈ table.models, ∀ second ∈ table.models,
      matchesModel modelName first.1 = true → matchesModel modelName second.1 = true →
      floats.ratesOf (table.orDefault first.2) = floats.ratesOf (table.orDefault second.2))
    (permuted : other.models.Perm table.models) {field : String × Json}
    (member : field ∈ table.models) (matching : matchesModel modelName field.1 = true) :
    getModelRates floats other modelName = floats.ratesOf (table.orDefault field.2) := by
  have otherMissing : ∀ entry, ¬other.Configures modelName entry := fun entry configured =>
    missing entry ((configures_perm permuted).mp configured)
  rw [getModelRates, modelConfig_of_not_configures otherMissing]
  have sameDefault : other.orDefault (other.firstMatch modelName) =
      table.orDefault (other.firstMatch modelName) := by
    rw [orDefault, orDefault, defaultEntry_perm permuted]
  rw [sameDefault]
  rcases firstMatch_cases other modelName with ⟨found, foundMember, foundMatching, first⟩ | none
  · rw [first]
    exact agreeing found (permuted.mem_iff.mp foundMember) field member foundMatching matching
  · have unmatched := none.1 field (permuted.mem_iff.mpr member)
    rw [matching] at unmatched
    cases unmatched

theorem getModelRates_of_unmatched (missing : ∀ entry, ¬table.Configures modelName entry)
    (unmatched : ∀ field ∈ table.models, matchesModel modelName field.1 = false) :
    getModelRates floats table modelName = floats.ratesOf table.defaultEntry := by
  rw [getModelRates, modelConfig_of_not_configures missing]
  rcases firstMatch_cases table modelName with ⟨found, member, matching, -⟩ | ⟨-, unmatchedAll⟩
  · rw [unmatched found member] at matching
    cases matching
  · rw [unmatchedAll]
    rfl

theorem mostSpecific_of_agreeing (missing : ∀ entry, ¬table.Configures modelName entry)
    (agreeing : ∀ first ∈ table.models, ∀ second ∈ table.models,
      matchesModel modelName first.1 = true → matchesModel modelName second.1 = true →
      floats.ratesOf (table.orDefault first.2) = floats.ratesOf (table.orDefault second.2)) :
    table.MostSpecific floats modelName where
  exact entry configured := absurd configured (missing entry)
  longest _ key entry extended configured _ := by
    rw [getModelRates_of_agreeing missing agreeing (.refl _) configured.1 extended.matches,
      orDefault, configured.2, if_neg Bool.false_ne_true]
  unordered other permuted := by
    by_cases matched : ∃ field ∈ table.models, matchesModel modelName field.1 = true
    · rcases matched with ⟨field, member, matching⟩
      rw [getModelRates_of_agreeing missing agreeing permuted member matching,
        getModelRates_of_agreeing missing agreeing (.refl _) member matching]
    · have unmatched : ∀ field ∈ table.models, matchesModel modelName field.1 = false := by
        intro field member
        by_contra matching
        exact matched ⟨field, member, by simpa using matching⟩
      rw [getModelRates_of_unmatched missing unmatched, getModelRates_of_unmatched
        (fun entry configured => missing entry ((configures_perm permuted).mp configured))
        fun field member => unmatched field (permuted.mem_iff.mp member),
        defaultEntry_perm permuted]

theorem MostSpecific.agreeing (specific : table.MostSpecific floats modelName)
    (missing : ∀ entry, ¬table.Configures modelName entry) {first second : String × Json}
    (firstMember : first ∈ table.models) (secondMember : second ∈ table.models)
    (firstMatching : matchesModel modelName first.1 = true)
    (secondMatching : matchesModel modelName second.1 = true) :
    floats.ratesOf (table.orDefault first.2) = floats.ratesOf (table.orDefault second.2) := by
  have decided : ∀ field ∈ table.models, matchesModel modelName field.1 = true →
      getModelRates floats table modelName = floats.ratesOf (table.orDefault field.2) := by
    intro field member matching
    rcases exists_firstMatch member matching with ⟨other, permuted, found⟩
    have otherMissing : ∀ entry, ¬other.Configures modelName entry := fun entry configured =>
      missing entry ((configures_perm permuted).mp configured)
    rw [← specific.unordered other permuted, getModelRates,
      modelConfig_of_not_configures otherMissing, found, orDefault, orDefault,
      defaultEntry_perm permuted]
  rw [← decided first firstMember firstMatching, decided second secondMember secondMatching]

end CostTable

/-- The lookup is the most specific one exactly if the name has an entry or all
entries that match it have the same rates. -/
theorem model_rates_most_specific_iff (floats : FloatConversion) (table : CostTable)
    (modelName : String) :
    table.MostSpecific floats modelName ↔ table.Unambiguous floats modelName := by
  constructor
  · intro specific
    by_cases configured : ∃ entry, table.Configures modelName entry
    · exact .inl configured
    · rw [not_exists] at configured
      exact .inr fun first firstMember second secondMember =>
        specific.agreeing configured firstMember secondMember
  · rintro unambiguous
    by_cases configured : ∃ entry, table.Configures modelName entry
    · rcases configured with ⟨entry, configured⟩
      exact CostTable.mostSpecific_of_configures configured
    · have agreeing := unambiguous.resolve_left configured
      exact CostTable.mostSpecific_of_agreeing (not_exists.mp configured) agreeing

namespace Scenario

def wholeFloats : FloatConversion where
  ofText _ := .notConvertible
  ofInt value := .finite value

/-- The rates of `config/model_costs.yaml`. -/
def modelCosts : CostTable where
  models := [
    ("gpt-4o", .dict [("input_per_1k", .float (5 / 1000)), ("output_per_1k", .float (15 / 1000))]),
    ("gpt-4o-mini",
      .dict [("input_per_1k", .float (15 / 100000)), ("output_per_1k", .float (6 / 10000))]),
    ("gpt-3.5-turbo",
      .dict [("input_per_1k", .float (5 / 10000)), ("output_per_1k", .float (15 / 10000))]),
    ("llama-3.2-3b-ollama", .dict [("input_per_1k", .float 0), ("output_per_1k", .float 0)]),
    ("llama-3.1-8b-ollama", .dict [("input_per_1k", .float 0), ("output_per_1k", .float 0)]),
    ("mistral-7b-ollama", .dict [("input_per_1k", .float 0), ("output_per_1k", .float 0)]),
    ("_default",
      .dict [("input_per_1k", .float (1 / 1000)), ("output_per_1k", .float (2 / 1000))])]
  distinct := by decide

/-- A dated release of `gpt-4o-mini`, which has no entry of its own. -/
def datedName : String := "gpt-4o-mini-2024-07-18"

theorem datedName_missing (entry : Json) : ¬modelCosts.Configures datedName entry := by
  rintro ⟨member, -⟩
  have keys := List.mem_map_of_mem (f := Prod.fst) member
  have absent : datedName ∉ modelCosts.models.map Prod.fst := by decide
  exact absent keys

theorem length_le_of_extends {key : String} (extended : modelCosts.Extends datedName key) :
    key.length ≤ "gpt-4o-mini".length := by
  rcases extended with ⟨⟨entry, member, -⟩, -, isPrefix⟩
  have all : (modelCosts.models.map Prod.fst).all (fun key =>
      !key.toList.isPrefixOf datedName.toList || decide (key.length ≤ "gpt-4o-mini".length)) =
        true := by decide +kernel
  have bounded := List.all_eq_true.mp all key (List.mem_map_of_mem (f := Prod.fst) member)
  rw [List.isPrefixOf_iff_prefix.mpr isPrefix] at bounded
  simpa using bounded

end Scenario

/-- A dated name of the smaller model gets the rates of the larger one. -/
theorem dated_name_gets_larger_rates :
    ¬Scenario.modelCosts.MostSpecific Scenario.wholeFloats Scenario.datedName := by
  intro specific
  have configured : Scenario.modelCosts.Configures "gpt-4o-mini" (.dict
      [("input_per_1k", .float (15 / 100000)), ("output_per_1k", .float (6 / 10000))]) :=
    ⟨by simp [Scenario.modelCosts], rfl⟩
  have extended : Scenario.modelCosts.Extends Scenario.datedName "gpt-4o-mini" :=
    ⟨⟨_, configured⟩, by decide, by decide⟩
  have expected := specific.longest Scenario.datedName_missing _ _ extended configured
    fun _ => Scenario.length_le_of_extends
  have charged : getModelRates Scenario.wholeFloats Scenario.modelCosts Scenario.datedName =
      .ok (some (5 / 1000), some (15 / 1000)) := by
    rfl
  rw [charged] at expected
  have inputs : (some (5 / 1000 : Rat), some (15 / 1000 : Rat)) =
      (some (15 / 100000), some (6 / 10000)) := Except.ok.inj expected
  norm_num at inputs

end EvalForge
