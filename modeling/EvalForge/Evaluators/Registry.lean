import EvalForge.Evaluators.Scores
import EvalForge.Models.Entities

/-! # The registry of evaluators

`EVALUATOR_REGISTRY` with its functions, and what all of their results have in
common. -/

namespace EvalForge

open Foundation

theorem EvaluationResult.Shaped.rounded {evaluatorName : String} {result : EvaluationResult}
    (shaped : result.Shaped evaluatorName) : result.rounded.Shaped evaluatorName := by
  cases shaped with
  | skipped details errorMessage => exact .skipped details errorMessage
  | scored score passed details => exact .scored (Column.numeric score) passed details
  | errored errorMessage => exact .errored errorMessage

namespace EvaluatorContext

variable (context : EvaluatorContext)

def registry : EvaluatorName → EvaluatorFn
  | .exactMatch => context.exactMatch
  | .containsKeywords => context.containsKeywords
  | .semanticSimilarity => context.semanticSimilarity
  | .tokenF1Overlap => context.tokenF1Overlap
  | .embeddingSimilarity => context.embeddingSimilarity
  | .retrievalHitRate => context.retrievalHitRate
  | .forbiddenClaim => context.forbiddenClaim
  | .latencyThreshold => context.latencyThreshold
  | .costThreshold => context.costThreshold
  | .faithfulness => context.faithfulnessEvaluator

def environment (loadAdapter : String → Except PythonException Adapter)
    (installed : String → Bool) : Environment where
  text := context.text
  loadAdapter := loadAdapter
  evaluators evaluator payload output config :=
    (·.toEvaluation) <$> context.registry evaluator payload output config
  installed := installed
  storesJson := context.storesJson

/-- What the engine records of an evaluator: its result, or its exception. -/
def recordedResult (evaluator : EvaluatorName) (payload : Json) (output : AdapterOutput)
    (spec : Json) : EvaluationResult :=
  match context.registry evaluator payload output spec with
  | .ok result => result
  | .error exc =>
      { evaluatorName := evaluator.text, score := none, passed := none, errored := true,
        errorMessage := some exc.message }

/-! ## Every result is shaped -/

open EvaluationResult (Shaped Graded)

variable {context}

theorem registry_graded (evaluator : EvaluatorName) (payload : Json) (output : AdapterOutput)
    (config : Json) :
    Returns (Graded evaluator.text (context.Scores output config evaluator))
      (context.registry evaluator payload output config) := by
  cases evaluator with
  | exactMatch => exact exactMatch_graded
  | containsKeywords => exact containsKeywords_graded
  | semanticSimilarity => exact tokenF1Result_graded (fun _ _ mem => mem) _
  | tokenF1Overlap => exact tokenF1Result_graded (fun _ _ mem => mem) _
  | embeddingSimilarity => exact embeddingSimilarity_graded
  | retrievalHitRate => exact retrievalHitRate_graded
  | forbiddenClaim => exact forbiddenClaim_graded
  | latencyThreshold => exact @latencyThreshold_graded context payload config output
  | costThreshold => exact @costThreshold_graded context payload config output
  | faithfulness => exact @faithfulness_graded context payload config output

theorem recordedResult_graded (evaluator : EvaluatorName) (payload : Json)
    (output : AdapterOutput) (spec : Json) :
    Graded evaluator.text (context.Scores output spec evaluator)
      (context.recordedResult evaluator payload output spec) := by
  unfold recordedResult
  cases evaluated : context.registry evaluator payload output spec with
  | ok result => exact registry_graded evaluator payload output spec result evaluated
  | error exc => exact ⟨.errored _, fun _ _ isScore _ => by cases isScore⟩

theorem recordedResult_shaped (evaluator : EvaluatorName) (payload : Json)
    (output : AdapterOutput) (spec : Json) :
    Shaped evaluator.text (context.recordedResult evaluator payload output spec) :=
  (recordedResult_graded evaluator payload output spec).shaped

theorem holdsString_text (evaluator : EvaluatorName) :
    Column.HoldsString 120 evaluator.text := by
  cases evaluator <;> decide +kernel

theorem shaped_name {evaluatorName : String} {result : EvaluationResult}
    (shaped : Shaped evaluatorName result) : result.evaluatorName = evaluatorName := by
  cases shaped <;> rfl

theorem recordedResult_name (evaluator : EvaluatorName) (payload : Json)
    (output : AdapterOutput) (spec : Json) :
    (context.recordedResult evaluator payload output spec).evaluatorName = evaluator.text :=
  shaped_name (recordedResult_shaped evaluator payload output spec)

/-! ## What the engine records -/

variable {loadAdapter : String → Except PythonException Adapter} {installed : String → Bool}
variable {payload spec : Json} {output : AdapterOutput}

/-- A specification whose name is in the registry gets the result of that
evaluator. -/
theorem evaluateSpec_of_registered {evaluator : EvaluatorName} (isDict : spec.isDict = true)
    (registered : evaluatorRegistry ((context.environment loadAdapter installed).specName spec) =
      some evaluator) :
    (context.environment loadAdapter installed).evaluateSpec payload output spec =
      .ok (context.recordedResult evaluator payload output spec) := by
  have text := evaluatorRegistry_text registered
  have ran : (context.environment loadAdapter installed).evaluators evaluator payload output spec =
      (·.toEvaluation) <$> context.registry evaluator payload output spec := rfl
  have named : (context.recordedResult evaluator payload output spec).evaluatorName =
      evaluator.text := recordedResult_name ..
  unfold recordedResult at named ⊢
  simp only [Environment.evaluateSpec, isDict, Bool.not_true, Bool.false_eq_true, if_false,
    registered, ran]
  cases evaluated : context.registry evaluator payload output spec with
  | ok result =>
      simp only [evaluated] at named
      simp only [Functor.map, Except.map, ← named]
  | error exc => simp only [Functor.map, Except.map, text]

theorem evaluateSpec_of_unregistered (isDict : spec.isDict = true)
    (unregistered :
      evaluatorRegistry ((context.environment loadAdapter installed).specName spec) = none) :
    (context.environment loadAdapter installed).evaluateSpec payload output spec =
      .ok { evaluatorName := (context.environment loadAdapter installed).resultName spec
            score := none, passed := none, errored := true
            errorMessage := some
              s!"Unknown evaluator: {(context.environment loadAdapter installed).specName spec}" } := by
  simp only [Environment.evaluateSpec, isDict, Bool.not_true, Bool.false_eq_true, if_false,
    unregistered, Environment.resultName]

theorem evaluateSpec_named {evaluator : EvaluatorName} {result : EvaluationResult}
    (isDict : spec.isDict = true)
    (evaluated : (context.environment loadAdapter installed).evaluateSpec payload output spec =
      .ok result)
    (named : result.evaluatorName = evaluator.text) :
    evaluatorRegistry ((context.environment loadAdapter installed).specName spec) =
        some evaluator ∧
      result = context.recordedResult evaluator payload output spec := by
  cases found :
      evaluatorRegistry ((context.environment loadAdapter installed).specName spec) with
  | none =>
      rw [evaluateSpec_of_unregistered isDict found] at evaluated
      cases evaluated
      -- The recorded name would have to be the one that was not found.
      have recorded : (context.environment loadAdapter installed).resultName spec =
          evaluator.text := named
      rw [Environment.resultName] at recorded
      split at recorded
      · exact absurd recorded (by cases evaluator <;> decide)
      · rw [recorded, evaluatorRegistry_of_text] at found
        cases found
  | some other =>
      rw [evaluateSpec_of_registered isDict found] at evaluated
      cases evaluated
      rw [recordedResult_name] at named
      cases EvaluatorName.text_injective named
      exact ⟨rfl, rfl⟩

theorem evaluateSpec_shaped {result : EvaluationResult}
    (evaluated : (context.environment loadAdapter installed).evaluateSpec payload output spec =
      .ok result) : Shaped result.evaluatorName result := by
  have isDict : spec.isDict = true := by
    by_contra notDict
    rw [Environment.evaluateSpec, Bool.eq_false_of_not_eq_true notDict] at evaluated
    cases evaluated
  cases registered :
      evaluatorRegistry ((context.environment loadAdapter installed).specName spec) with
  | none =>
      rw [evaluateSpec_of_unregistered isDict registered] at evaluated
      cases evaluated
      exact .errored _
  | some evaluator =>
      rw [evaluateSpec_of_registered isDict registered] at evaluated
      cases evaluated
      rw [recordedResult_name]
      exact recordedResult_shaped evaluator payload output spec

/-- Whatever the configuration, the engine only records shaped results. -/
theorem evaluateCase_shaped {config : Json} {results : List EvaluationResult}
    (evaluated : (context.environment loadAdapter installed).evaluateCase payload output config =
      .ok results) : ∀ result ∈ results, Shaped result.evaluatorName result := by
  rcases Environment.forall₂_of_evaluateCase evaluated with ⟨specs, _, related⟩
  intro result member
  rcases forall₂_exists_left related result member with ⟨spec, _, ran⟩
  exact evaluateSpec_shaped ran

theorem recorded_of_mem {specs : List Json} {results : List EvaluationResult}
    (areDicts : ∀ spec ∈ specs, spec.isDict = true)
    (related : List.Forall₂ (fun spec result =>
      (context.environment loadAdapter installed).evaluateSpec payload output spec = .ok result)
        specs results)
    {result : EvaluationResult} (member : result ∈ results) {evaluator : EvaluatorName}
    (named : result.evaluatorName = evaluator.text) :
    ∃ spec ∈ specs,
      evaluatorRegistry ((context.environment loadAdapter installed).specName spec) =
          some evaluator ∧
        result = context.recordedResult evaluator payload output spec := by
  rcases forall₂_exists_left related result member with ⟨spec, specMember, ran⟩
  exact ⟨spec, specMember, evaluateSpec_named (areDicts spec specMember) ran named⟩

end EvaluatorContext

end EvalForge
