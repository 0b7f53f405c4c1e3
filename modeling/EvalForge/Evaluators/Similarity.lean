import EvalForge.Evaluators.Registry

/-! # The similarity of an answer

`semantic_similarity` is the old name of `token_f1_overlap`: under both names
the same score is recorded, unless the threshold of the name is no number.
-/

namespace EvalForge

open Foundation

namespace EvaluatorName

def Similarity (evaluator : EvaluatorName) : Prop :=
  evaluator = semanticSimilarity ∨ evaluator = tokenF1Overlap

end EvaluatorName

namespace EvaluatorContext

variable (context : EvaluatorContext)

def similarity (payload : Json) (output : AdapterOutput) : Option Rat :=
  match payload.getAttribute "expected_output" .null with
  | .error _ | .ok .null => none
  | .ok expected => some (tokenF1 context.lower output.answer (context.text expected))

def threshold (spec : Json) : Except PythonException PythonFloat := do
  context.float (← spec.getAttribute "threshold" (.float (7 / 10)))

inductive SimilarityResult (similarity : Option Rat)
    (threshold : Except PythonException PythonFloat) (result : EvaluationResult) : Prop
  | none (noSimilarity : similarity = none) (noScore : result.score = none)
  | scored (score : Rat) (read : PythonFloat) (similar : similarity = .some score)
      (converted : threshold = .ok read) (isScore : result.score = .some score)
  | errored (score : Rat) (exc : PythonException) (similar : similarity = .some score)
      (refused : threshold = .error exc) (noScore : result.score = .none)
      (isErrored : result.errored = true)

variable {context} {evaluator : EvaluatorName} {payload spec : Json} {output : AdapterOutput}

theorem similarity_nonneg {score : Rat}
    (similar : context.similarity payload output = some score) : 0 ≤ score := by
  unfold similarity at similar
  split at similar
  · cases similar
  · cases similar
  · cases similar
    exact tokenF1_nonneg _ _ _

theorem registry_of_similarity (alike : evaluator.Similarity) :
    ∃ extra, context.registry evaluator payload output spec =
      context.tokenF1Result evaluator.text extra payload output spec := by
  rcases alike with rfl | rfl
  · exact ⟨_, rfl⟩
  · exact ⟨_, rfl⟩

theorem recordedResult_similarity (alike : evaluator.Similarity) :
    SimilarityResult (context.similarity payload output) (context.threshold spec)
      (context.recordedResult evaluator payload output spec) := by
  rcases @registry_of_similarity context evaluator payload spec output alike with ⟨extra, ran⟩
  unfold recordedResult
  rw [ran, tokenF1Result]
  unfold similarity threshold
  cases payload.getAttribute "expected_output" .null with
  | error exc => exact .none rfl rfl
  | ok expected =>
      cases expected with
      | null => exact .none rfl rfl
      | _ =>
          cases spec.getAttribute "threshold" (.float (7 / 10)) with
          | error exc => exact .errored _ exc rfl rfl rfl rfl
          | ok stored =>
              dsimp only [bind, Except.bind]
              cases context.float stored with
              | error exc => exact .errored _ exc rfl rfl rfl rfl
              | ok read => exact .scored _ read rfl rfl rfl

theorem SimilarityResult.rounded {similarity : Option Rat}
    {threshold : Except PythonException PythonFloat} {result : EvaluationResult}
    (kind : SimilarityResult similarity threshold result) :
    SimilarityResult (similarity.map Column.numeric) threshold result.rounded := by
  cases kind with
  | none noSimilarity noScore =>
      exact .none (by rw [noSimilarity, Option.map_none])
        (by rw [EvaluationResult.rounded, noScore, Option.map_none])
  | scored score read similar converted isScore =>
      exact .scored (Column.numeric score) read (by rw [similar, Option.map_some]) converted
        (by rw [EvaluationResult.rounded, isScore, Option.map_some])
  | errored score exc similar refused noScore isErrored =>
      exact .errored (Column.numeric score) exc (by rw [similar, Option.map_some]) refused
        (by rw [EvaluationResult.rounded, noScore, Option.map_none]) isErrored

end EvaluatorContext

end EvalForge
