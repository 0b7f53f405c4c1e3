import EvalForge.Foundation.Json
import EvalForge.Foundation.Returns
import Mathlib.Data.List.Nodup

/-! # The evaluator engine

Validation of evaluator configurations and the evaluation of one case. What a
single evaluator computes is a parameter here: the engine only looks its name
up, runs it, and records its result or its exception.
-/

namespace EvalForge

structure AdapterOutput where
  answer : String
  retrievedChunks : List Json
  promptUsed : String
  modelUsed : String
  latencyMs : Int
  estimatedCostUsd : Rat
  traceSteps : List Json

/-- An adapter's `run(question, version_config)`. -/
abbrev Adapter := String → Json → Except PythonException AdapterOutput

structure Evaluation where
  score : Option Rat
  passed : Option Bool
  details : Json := .dict []
  errored : Bool := false
  skipped : Bool := false
  errorMessage : Option String := none

structure EvaluationResult extends Evaluation where
  evaluatorName : String

/-- The keys of `EVALUATOR_REGISTRY`. -/
inductive EvaluatorName
  | exactMatch
  | containsKeywords
  | semanticSimilarity
  | tokenF1Overlap
  | embeddingSimilarity
  | retrievalHitRate
  | forbiddenClaim
  | latencyThreshold
  | costThreshold
  | faithfulness
  deriving DecidableEq, Repr

namespace EvaluatorName

def text : EvaluatorName → String
  | exactMatch => "exact_match"
  | containsKeywords => "contains_keywords"
  | semanticSimilarity => "semantic_similarity"
  | tokenF1Overlap => "token_f1_overlap"
  | embeddingSimilarity => "embedding_similarity"
  | retrievalHitRate => "retrieval_hit_rate"
  | forbiddenClaim => "forbidden_claim"
  | latencyThreshold => "latency_threshold"
  | costThreshold => "cost_threshold"
  | faithfulness => "faithfulness"

def all : List EvaluatorName :=
  [exactMatch, containsKeywords, semanticSimilarity, tokenF1Overlap, embeddingSimilarity,
    retrievalHitRate, forbiddenClaim, latencyThreshold, costThreshold, faithfulness]

/-- The `required_modules` of `EVALUATOR_METADATA`. -/
def requiredModules : EvaluatorName → List String
  | embeddingSimilarity => ["sentence_transformers"]
  | faithfulness => ["transformers", "torch"]
  | _ => []

end EvaluatorName

/-- `EVALUATOR_REGISTRY.get(name)`. -/
def evaluatorRegistry (name : String) : Option EvaluatorName :=
  EvaluatorName.all.find? fun evaluator => evaluator.text == name

theorem evaluatorRegistry_text {name : String} {evaluator : EvaluatorName}
    (found : evaluatorRegistry name = some evaluator) : evaluator.text = name := by
  have matched := List.find?_some found
  simpa using matched

theorem evaluatorRegistry_of_text (evaluator : EvaluatorName) :
    evaluatorRegistry evaluator.text = some evaluator := by
  cases evaluator <;> decide

theorem EvaluatorName.text_injective : Function.Injective EvaluatorName.text := by
  intro evaluator other same
  have found := evaluatorRegistry_of_text evaluator
  rw [same, evaluatorRegistry_of_text] at found
  exact (Option.some.inj found).symm

/-- One evaluator: the case payload, the adapter's output and the evaluator's
own specification. Its result carries its registry name, so only the rest of
the result is computed here. -/
abbrev Evaluator := Json → AdapterOutput → Json → Except PythonException Evaluation

/-- What the modelled code takes from outside: Python's `str` on JSON values,
the adapter modules, the evaluators and the installed packages. -/
structure Environment where
  text : Json → String
  loadAdapter : String → Except PythonException Adapter
  evaluators : EvaluatorName → Evaluator
  installed : String → Bool
  storesJson : Json → Bool := fun _ => true

namespace Environment

variable (env : Environment)

/-- `str(spec.get("name", ""))`. -/
def specName (spec : Json) : String := env.text (spec.get "name" (.str ""))

def missingModules (evaluator : EvaluatorName) : List String :=
  evaluator.requiredModules.filter fun required => !env.installed required

/-- `str(spec.get("name", "")).strip()`. -/
def strippedName (spec : Json) : String := PythonText.strip (env.specName spec)

/-- The checks of one specification in `validate_evaluator_config`, with the
names already `seen`. -/
def validateSpec (index : Nat) (seen : List String) (spec : Json) :
    Except PythonException String :=
  if !spec.isDict then
    .error ⟨s!"Evaluator at index {index} must be an object"⟩
  else if env.strippedName spec = "" then
    .error ⟨s!"Evaluator at index {index} is missing a name"⟩
  else
    match evaluatorRegistry (env.strippedName spec) with
    | none => .error ⟨s!"Unknown evaluator: {env.strippedName spec}"⟩
    | some evaluator =>
        if env.strippedName spec ∈ seen then
          .error ⟨s!"Duplicate evaluator: {env.strippedName spec}"⟩
        else if env.missingModules evaluator ≠ [] then
          let missing := ", ".intercalate (env.missingModules evaluator)
          .error ⟨s!"Evaluator {env.strippedName spec} is unavailable; " ++
            s!"install the ml dependency group (missing: {missing})"⟩
        else
          .ok (env.strippedName spec)

def validateSpecs : Nat → List String → List Json → Except PythonException Unit
  | _, _, [] => .ok ()
  | index, seen, spec :: specs => do
      let name ← env.validateSpec index seen spec
      validateSpecs (index + 1) (name :: seen) specs

def validateEvaluatorConfig (config : Json) : Except PythonException Json :=
  match config.get "evaluators" .null with
  | .list (spec :: specs) => do
      env.validateSpecs 0 [] (spec :: specs)
      return config
  | _ => .error ⟨"Evaluator config must contain a non-empty evaluators list"⟩

/-- The body of the loop of `evaluate_case`. A specification that is no
dictionary has no `get`. -/
def evaluateSpec (payload : Json) (output : AdapterOutput) (spec : Json) :
    Except PythonException EvaluationResult :=
  if !spec.isDict then
    .error ⟨s!"'{spec.typeName}' object has no attribute 'get'"⟩
  else
    let name := env.specName spec
    match evaluatorRegistry name with
    | none =>
        .ok { evaluatorName := if name = "" then "unknown" else name,
              score := none, passed := none, errored := true,
              errorMessage := some s!"Unknown evaluator: {name}" }
    | some evaluator =>
        match env.evaluators evaluator payload output spec with
        | .ok evaluation => .ok { evaluation with evaluatorName := evaluator.text }
        | .error exc =>
            .ok { evaluatorName := name, score := none, passed := none, errored := true,
                  errorMessage := some exc.message }

def evaluateCase (payload : Json) (output : AdapterOutput) (config : Json) :
    Except PythonException (List EvaluationResult) := do
  let specs ← (config.get "evaluators" (.list [])).iterate
  specs.mapM (env.evaluateSpec payload output)

/-! ## Accepted configurations are executed -/

/-- The name `evaluate_case` records for a specification. -/
def resultName (spec : Json) : String :=
  if env.specName spec = "" then "unknown" else env.specName spec

variable {env}

theorem validateSpec_ok {index : Nat} {seen : List String} {spec : Json} {name : String}
    (accepted : env.validateSpec index seen spec = .ok name) :
    spec.isDict = true ∧ name = env.strippedName spec ∧ name ≠ "" ∧ name ∉ seen := by
  unfold validateSpec at accepted
  split at accepted
  · cases accepted
  · rename_i isDict
    split at accepted
    · cases accepted
    · rename_i named
      split at accepted
      · cases accepted
      · split at accepted
        · cases accepted
        · rename_i fresh
          split at accepted
          · cases accepted
          · cases accepted
            exact ⟨by simpa using isDict, rfl, named, fresh⟩

theorem validateSpecs_ok {index : Nat} {seen : List String} {specs : List Json}
    (accepted : env.validateSpecs index seen specs = .ok ()) :
    (∀ spec ∈ specs, spec.isDict = true ∧ env.strippedName spec ≠ "" ∧
      env.strippedName spec ∉ seen) ∧ (specs.map env.strippedName).Nodup := by
  induction specs generalizing index seen with
  | nil => simp
  | cons spec specs induction =>
      cases checked : env.validateSpec index seen spec with
      | error exc => simp [validateSpecs, checked, bind, Except.bind] at accepted
      | ok name =>
          simp only [validateSpecs, checked, bind, Except.bind] at accepted
          rcases validateSpec_ok checked with ⟨isDict, rfl, named, fresh⟩
          rcases induction accepted with ⟨specsOk, nodup⟩
          constructor
          · intro other member
            rcases List.mem_cons.mp member with rfl | member
            · exact ⟨isDict, named, fresh⟩
            · rcases specsOk other member with ⟨otherDict, otherNamed, unseen⟩
              exact ⟨otherDict, otherNamed, fun seenBefore =>
                unseen (List.mem_cons_of_mem _ seenBefore)⟩
          · refine List.nodup_cons.mpr ⟨?_, nodup⟩
            intro member
            rcases List.mem_map.mp member with ⟨other, otherMember, equal⟩
            exact (specsOk other otherMember).2.2 (equal ▸ List.mem_cons_self)

theorem evaluatorRegistry_empty : evaluatorRegistry "" = none := by decide

theorem evaluateSpec_name {payload : Json} {output : AdapterOutput} {spec : Json}
    {result : EvaluationResult} (evaluated : env.evaluateSpec payload output spec = .ok result) :
    result.evaluatorName = env.resultName spec := by
  unfold evaluateSpec at evaluated
  split at evaluated
  · cases evaluated
  · dsimp only at evaluated
    split at evaluated
    · cases evaluated
      rfl
    · next evaluator found =>
      have named : env.specName spec ≠ "" := by
        intro empty
        rw [empty, evaluatorRegistry_empty] at found
        cases found
      have recorded : env.resultName spec = env.specName spec := if_neg named
      split at evaluated
      · cases evaluated
        exact (evaluatorRegistry_text found).trans recorded.symm
      · cases evaluated
        exact recorded.symm

theorem evaluateSpec_ok {spec : Json} (isDict : spec.isDict = true) (payload : Json)
    (output : AdapterOutput) : ∃ result, env.evaluateSpec payload output spec = .ok result := by
  simp only [evaluateSpec, isDict, Bool.not_true, Bool.false_eq_true, if_false]
  split
  · exact ⟨_, rfl⟩
  · split <;> exact ⟨_, rfl⟩

theorem mapM_evaluateSpec_ok {specs : List Json}
    (areDicts : ∀ spec ∈ specs, spec.isDict = true) (payload : Json)
    (output : AdapterOutput) :
    ∃ results, specs.mapM (env.evaluateSpec payload output) = .ok results :=
  Foundation.mapM_ok fun spec member => evaluateSpec_ok (areDicts spec member) payload output

section Evaluated

variable {payload config : Json} {output : AdapterOutput} {results : List EvaluationResult}
variable {specs : List Json}

theorem forall₂_of_evaluateCase
    (evaluated : env.evaluateCase payload output config = .ok results) :
    ∃ specs, (config.get "evaluators" (.list [])).iterate = .ok specs ∧
      List.Forall₂ (fun spec result => env.evaluateSpec payload output spec = .ok result) specs
        results := by
  rw [evaluateCase] at evaluated
  cases specs : (config.get "evaluators" (.list [])).iterate with
  | error exc => simp [specs, bind, Except.bind] at evaluated
  | ok specs =>
      simp only [specs, bind, Except.bind] at evaluated
      exact ⟨_, rfl, Foundation.forall₂_of_mapM evaluated⟩

theorem forall₂_of_held (held : config.get "evaluators" (.list []) = .list specs)
    (evaluated : env.evaluateCase payload output config = .ok results) :
    List.Forall₂ (fun spec result => env.evaluateSpec payload output spec = .ok result) specs
      results := by
  rcases forall₂_of_evaluateCase evaluated with ⟨others, iterated, related⟩
  rw [held] at iterated
  cases iterated
  exact related

theorem forall₂_names (related : List.Forall₂
      (fun spec result => env.evaluateSpec payload output spec = .ok result) specs results) :
    results.map (·.evaluatorName) = specs.map env.resultName :=
  Foundation.map_eq_of_forall₂ related fun _ _ first => evaluateSpec_name first

theorem evaluateCase_names (evaluated : env.evaluateCase payload output config = .ok results) :
    ∃ specs, (config.get "evaluators" (.list [])).iterate = .ok specs ∧
      results.map (·.evaluatorName) = specs.map env.resultName := by
  rcases forall₂_of_evaluateCase evaluated with ⟨specs, iterated, related⟩
  exact ⟨specs, iterated, forall₂_names related⟩

end Evaluated

theorem validateEvaluatorConfig_ok {config accepted : Json}
    (valid : env.validateEvaluatorConfig config = .ok accepted) :
    ∃ specs, config.get "evaluators" (.list []) = .list specs ∧ specs ≠ [] ∧
      env.validateSpecs 0 [] specs = .ok () := by
  rw [validateEvaluatorConfig] at valid
  split at valid
  · rename_i spec specs found
    refine ⟨spec :: specs, ?_, by simp, ?_⟩
    · cases held : config.find? "evaluators" with
      | none => simp [Json.get, held] at found
      | some value => simpa [Json.get, held] using found
    · cases checked : env.validateSpecs 0 [] (spec :: specs) with
      | ok => rfl
      | error => simp [checked, bind, Except.bind] at valid
  · cases valid

/-- Every specification of an accepted configuration gets one result, and the
results carry pairwise different names. -/
theorem evaluateCase_of_accepted {config accepted : Json}
    (valid : env.validateEvaluatorConfig config = .ok accepted) (payload : Json)
    (output : AdapterOutput) :
    ∃ results, env.evaluateCase payload output config = .ok results ∧
      (results.map (·.evaluatorName)).Nodup := by
  rcases validateEvaluatorConfig_ok valid with ⟨specs, held, _, checked⟩
  rcases validateSpecs_ok checked with ⟨specsOk, nodup⟩
  rcases mapM_evaluateSpec_ok (fun spec member => (specsOk spec member).1)
    payload output with ⟨results, mapped⟩
  have evaluated : env.evaluateCase payload output config = .ok results := by
    rw [evaluateCase, held]
    exact mapped
  refine ⟨results, evaluated, ?_⟩
  · rw [forall₂_names (forall₂_of_held held evaluated)]
    have resultNames : specs.map env.resultName = specs.map env.specName := by
      apply List.map_congr_left
      intro spec member
      have named : env.specName spec ≠ "" := by
        intro empty
        apply (specsOk spec member).2.1
        rw [strippedName, empty]
        decide
      simp [resultName, named]
    rw [resultNames]
    apply List.Nodup.of_map PythonText.strip
    rw [List.map_map]
    exact nodup

end Environment

end EvalForge
