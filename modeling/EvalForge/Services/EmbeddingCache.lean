import EvalForge.Evaluators.Basic
import EvalForge.Foundation.Rounding

/-! # Embeddings

What the sentence transformer encodes is a parameter. -/

namespace EvalForge

open Foundation

def embeddingDim : Nat := 384

def computeEmbeddingSync (encode : String → Except PythonException (List Rat)) (text : String) :
    Except PythonException (List Rat) :=
  if text = "" then .ok (List.replicate embeddingDim 0) else encode text

def cosineSimilarity (vecA vecB : List Rat) : Rat :=
  if vecA.isEmpty || vecB.isEmpty || vecA.length ≠ vecB.length then 0
  else
    let dot := ((vecA.zip vecB).map fun (a, b) => a * b).sum
    max 0 (min 1 dot)

/-- `round(cosine_similarity(actual_embedding, expected_embedding), 6)`. -/
def embeddingScore (encode : String → Except PythonException (List Rat))
    (answer expected : String) : Except PythonException Rat := do
  let expectedEmbedding ← computeEmbeddingSync encode expected
  let actualEmbedding ← computeEmbeddingSync encode answer
  return roundTo 6 (cosineSimilarity actualEmbedding expectedEmbedding)

def EvaluatorContext.withEmbeddings (context : EvaluatorContext)
    (encode : String → Except PythonException (List Rat)) : EvaluatorContext :=
  { context with cosineSimilarity := embeddingScore encode }

theorem cosineSimilarity_mem (vecA vecB : List Rat) :
    0 ≤ cosineSimilarity vecA vecB ∧ cosineSimilarity vecA vecB ≤ 1 := by
  unfold cosineSimilarity
  split
  · exact ⟨le_rfl, zero_le_one⟩
  · exact ⟨le_max_left _ _, max_le zero_le_one (min_le_left _ _)⟩

theorem embeddingScore_mem (encode : String → Except PythonException (List Rat))
    (answer expected : String) :
    Returns (fun score => 0 ≤ score ∧ score ≤ 1) (embeddingScore encode answer expected) := by
  apply Returns.bind
  intro expectedEmbedding
  apply Returns.bind
  intro actualEmbedding
  rcases cosineSimilarity_mem actualEmbedding expectedEmbedding with ⟨nonnegative, atMostOne⟩
  exact .pure ⟨roundTo_nonneg nonnegative, roundTo_le_one atMostOne⟩

end EvalForge
