import EvalForge.Evaluators.Engine
import EvalForge.Evaluators.Text
import EvalForge.Foundation.Binary64
import EvalForge.Foundation.Returns

/-! # The deterministic evaluators

What Python's conversions and the machine learning models compute is a
parameter. An exception that leaves an evaluator is recorded by the engine.
A share of keywords or tokens is the exact quotient; a score beyond a threshold,
which can come close to one, is computed on doubles.
-/

namespace EvalForge

open Foundation

/-! ## Floats -/

inductive PythonFloat
  | finite (value : Rat)
  | infinity
  | negativeInfinity
  | nan

namespace PythonFloat

/-- `score >= threshold`. -/
def reachedBy (score : Rat) : PythonFloat → Bool
  | finite threshold => threshold ≤ score
  | negativeInfinity => true
  | infinity | nan => false

/-- `value <= threshold`. -/
def bounds (value : Rat) : PythonFloat → Bool
  | finite threshold => value ≤ threshold
  | infinity => true
  | negativeInfinity | nan => false

/-- The double that a decimal stands for. -/
def double : PythonFloat → PythonFloat
  | finite value => finite (Binary64.nearest value)
  | value => value

end PythonFloat

/-- `value.get(key, default)` on a value that may be no dictionary. -/
def Json.getAttribute (value : Json) (key : String) (default : Json) :
    Except PythonException Json :=
  if value.isDict then .ok (value.get key default)
  else .error ⟨s!"'{value.typeName}' object has no attribute 'get'"⟩

/-- What the evaluators take from outside: Python's `str`, `str.lower`, `float`,
`int` and `==`, how a float is stored, the rounded similarity of two embeddings
and the scores of the NLI model. -/
structure EvaluatorContext where
  text : Json → String
  lower : String → String
  float : Json → Except PythonException PythonFloat
  int : Json → Except PythonException Int
  equal : Json → Json → Bool
  floatJson : PythonFloat → Json
  cosineSimilarity : String → String → Except PythonException Rat
  nliScores : String → List String → Except PythonException (List Rat)
  storesJson : Json → Bool := fun _ => true

/-- An entry of `EVALUATOR_REGISTRY`. -/
abbrev EvaluatorFn := Json → AdapterOutput → Json → Except PythonException EvaluationResult

/-! ## Results -/

def skipped (evaluatorName reason : String) : EvaluationResult where
  evaluatorName := evaluatorName
  score := none
  passed := none
  details := .dict [("reason", .str reason)]
  skipped := true

def scored (evaluatorName : String) (score : Rat) (passed : Bool)
    (details : List (String × Json)) : EvaluationResult where
  evaluatorName := evaluatorName
  score := some score
  passed := some passed
  details := .dict details

/-- The kinds of results under a name. -/
inductive EvaluationResult.Shaped (evaluatorName : String) : EvaluationResult → Prop
  | skipped (details : Json) (errorMessage : Option String) :
      Shaped evaluatorName
        { evaluatorName, score := none, passed := none, details, skipped := true, errorMessage }
  | scored (score : Rat) (passed : Bool) (details : Json) :
      Shaped evaluatorName
        { evaluatorName, score := some score, passed := some passed, details }
  | errored (errorMessage : Option String) :
      Shaped evaluatorName
        { evaluatorName, score := none, passed := none, errored := true, errorMessage }

namespace EvaluatorContext

variable (context : EvaluatorContext)

/-! ## Evaluators -/

def exactMatch : EvaluatorFn := fun payload output _ => do
  match ← payload.getAttribute "expected_output" .null with
  | .null => return skipped "exact_match" "missing expected_output"
  | expected =>
      let matched := decide (normalizeText context.lower output.answer =
        normalizeText context.lower (context.text expected))
      return scored "exact_match" (if matched then 1 else 0) matched [("expected", expected)]

def containsKeywords : EvaluatorFn := fun payload output config => do
  let facts ← payload.getAttribute "expected_facts" .null
  if !facts.isTruthy then
    return skipped "contains_keywords" "missing expected_facts"
  let answer := context.lower output.answer
  let facts ← facts.iterate
  let factsHit := facts.filter fun fact =>
    PythonText.contains (context.lower (context.text fact)) answer.toList
  let factsMissed := facts.filter fun fact => !factsHit.any (context.equal fact)
  let score : Rat := factsHit.length / facts.length
  let threshold ← context.float (← config.getAttribute "threshold" (.float 1))
  return scored "contains_keywords" score (threshold.reachedBy score) [
    ("facts_hit", .list factsHit), ("facts_missed", .list factsMissed),
    ("threshold", context.floatJson threshold)]

/-- `_token_f1_result`. The alias adds a detail to what it returns. -/
def tokenF1Result (evaluatorName : String) (extra : List (String × Json)) : EvaluatorFn :=
  fun payload output config => do
    match ← payload.getAttribute "expected_output" .null with
    | .null => return skipped evaluatorName "missing expected_output"
    | expected =>
        let score := tokenF1 context.lower output.answer (context.text expected)
        let threshold ← context.float (← config.getAttribute "threshold" (.float (7 / 10)))
        return scored evaluatorName score (threshold.reachedBy score)
          ([("threshold", context.floatJson threshold), ("method", .str "token_f1")] ++ extra)

def semanticSimilarity : EvaluatorFn :=
  context.tokenF1Result "semantic_similarity" [("alias_for", .str "token_f1_overlap")]

def tokenF1Overlap : EvaluatorFn := context.tokenF1Result "token_f1_overlap" []

def embeddingModelId : String := "all-MiniLM-L6-v2"

def embeddingSimilarity : EvaluatorFn := fun payload output config => do
  match ← payload.getAttribute "expected_output" .null with
  | .null => return skipped "embedding_similarity" "missing expected_output"
  | expected =>
      let score ← context.cosineSimilarity output.answer (context.text expected)
      let threshold ← context.float (← config.getAttribute "threshold" (.float (7 / 10)))
      return scored "embedding_similarity" score (threshold.reachedBy score) [
        ("threshold", context.floatJson threshold),
        ("method", .str "sentence_transformer_cosine"), ("model", .str embeddingModelId)]

def retrievalResult (output : AdapterOutput) (expectedId : Json) :
    Except PythonException EvaluationResult :=
  match expectedId with
  | .null =>
      return skipped "retrieval_hit_rate" "missing expected_chunk_id or expected_doc_id"
  | expectedId => do
      let retrievedIds ← output.retrievedChunks.mapM (·.getAttribute "doc_id" .null)
      let matched := retrievedIds.any (context.equal expectedId)
      return scored "retrieval_hit_rate" (if matched then 1 else 0) matched [
        ("expected_id", expectedId), ("retrieved_ids", .list retrievedIds),
        ("matched", .bool matched)]

def retrievalHitRate : EvaluatorFn := fun payload output _ => do
  let chunkId ← payload.getAttribute "expected_chunk_id" .null
  if chunkId.isTruthy then
    context.retrievalResult output chunkId
  else
    context.retrievalResult output (← payload.getAttribute "expected_doc_id" .null)

def forbiddenClaim : EvaluatorFn := fun payload output _ => do
  let claims ← payload.getAttribute "forbidden_claims" .null
  if !claims.isTruthy then
    return skipped "forbidden_claim" "missing forbidden_claims"
  let answer := context.lower output.answer
  let claims ← claims.iterate
  let triggered := claims.filter fun claim =>
    PythonText.contains (context.lower (context.text claim)) answer.toList
  let passed := triggered.isEmpty
  return scored "forbidden_claim" (if passed then 1 else 0) passed [
    ("triggered_claims", .list triggered)]

/-- `max(0.0, 1 - excess / threshold)` on doubles. A quotient beyond the doubles is
kept, so that its score is `0.0` or beyond them as well. -/
def overshoot (excess threshold : Rat) : Rat :=
  max 0 (Binary64.nearest (1 - Binary64.nearest (excess / threshold)))

/-- The difference of two `int`s is exact, and their quotient has to be a double. -/
def latencyScore (latency threshold : Int) : Except PythonException Rat :=
  if threshold = 0 then .error ⟨"division by zero"⟩
  else if Binary64.overflows ((latency - threshold : Int) / threshold) then
    .error ⟨"integer division result too large for a float"⟩
  else .ok (overshoot (latency - threshold : Int) threshold)

def latencyThreshold : EvaluatorFn := fun _ output config => do
  let threshold ← context.int (← config.getAttribute "threshold_ms" (.int 2000))
  let within := decide (output.latencyMs ≤ threshold)
  let score ← if within then pure 1 else latencyScore output.latencyMs threshold
  return scored "latency_threshold" score within [
    ("latency_ms", .int output.latencyMs), ("threshold_ms", .int threshold)]

/-- A threshold that is not finite gives a quotient that is not finite either, for
which `max` keeps `0.0`. -/
def costScore (cost : Rat) : PythonFloat → Except PythonException Rat
  | .finite threshold =>
      if threshold = 0 then .error ⟨"float division by zero"⟩
      else .ok (overshoot (Binary64.nearest (cost - threshold)) threshold)
  | .infinity | .negativeInfinity | .nan => .ok 0

def costThreshold : EvaluatorFn := fun _ output config => do
  let threshold ← context.float (← config.getAttribute "threshold_usd" (.float (1 / 100)))
  let cost := Binary64.nearest output.estimatedCostUsd
  let within := threshold.double.bounds cost
  let score ← if within then pure 1 else costScore cost threshold.double
  return scored "cost_threshold" score within [
    ("estimated_cost_usd", .float output.estimatedCostUsd),
    ("threshold_usd", context.floatJson threshold)]

end EvaluatorContext

end EvalForge
