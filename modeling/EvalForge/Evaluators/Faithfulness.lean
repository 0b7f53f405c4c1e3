import EvalForge.Evaluators.Basic
import EvalForge.Foundation.Rounding

/-! # Faithfulness to the retrieved context -/

namespace EvalForge

open Foundation

def nliModelId : String := "cross-encoder/nli-deberta-v3-base"

/-- `MAX_SENTENCES`. -/
def maxSentences : Nat := 5

/-! ## Sentences -/

/-- Python's `str.strip` on characters. -/
def stripChars (chars : List Char) : List Char :=
  ((chars.dropWhile PythonText.isSpace).reverse.dropWhile PythonText.isSpace).reverse

/-- `re.split` at the white space after a full stop, an exclamation mark or a
question mark. `current` is the sentence so far, reversed; `between` holds in
the white space that ends one. -/
def splitAtStops (current : List Char) (between : Bool) : List Char → List (List Char)
  | [] => [current.reverse]
  | char :: chars =>
      if PythonText.isSpace char && between then
        splitAtStops current true chars
      else if PythonText.isSpace char && current.head?.any (['.', '!', '?'].contains ·) then
        current.reverse :: splitAtStops [] true chars
      else
        splitAtStops (char :: current) false chars

def splitSentences (text : String) : List String :=
  let stripped := stripChars text.toList
  let sentences := ((splitAtStops [] false stripped).map stripChars).filter
    fun sentence => !sentence.isEmpty
  if sentences.isEmpty then
    if stripped.isEmpty then [] else [String.ofList stripped]
  else
    (sentences.take maxSentences).map String.ofList

example : splitSentences "Use venv.  It works! Why?" = ["Use venv.", "It works!", "Why?"] := by
  decide +kernel

/-! ## Scores -/

def sentenceDetails (sentence verdict : String) (score : Rat) : Json :=
  .dict [("sentence", .str sentence), ("verdict", .str verdict), ("score", .float score)]

def sentenceVerdict (score : Rat) : String :=
  if 3 / 4 ≤ score then "entailment" else if 35 / 100 ≤ score then "neutral" else "contradiction"

namespace EvaluatorContext

variable (context : EvaluatorContext)

/-- `compute_faithfulness` with one batch of sentences. -/
def computeFaithfulness (answer retrievedContext : String) :
    Except PythonException (Rat × List Json) := do
  let sentences := splitSentences answer
  if sentences.isEmpty then
    return (1, [])
  if (stripChars retrievedContext.toList).isEmpty then
    return (0, sentences.map fun sentence => sentenceDetails sentence "contradiction" 0)
  let scores ← context.nliScores retrievedContext sentences
  if scores.length < sentences.length then
    throw ⟨"zip() argument 2 is shorter than argument 1"⟩
  if sentences.length < scores.length then
    throw ⟨"zip() argument 2 is longer than argument 1"⟩
  let perSentence := (sentences.zip scores).map fun (sentence, score) =>
    sentenceDetails sentence (sentenceVerdict score) score
  return (roundTo 4 (scores.sum / scores.length), perSentence)

/-- `chunk.get("chunk_text", "") or chunk.get("content", "") or chunk.get("text", "")`. -/
def contextText (chunk : Json) : Except PythonException Json := do
  let chunkText ← chunk.getAttribute "chunk_text" (.str "")
  let content ← chunk.getAttribute "content" (.str "")
  let text ← chunk.getAttribute "text" (.str "")
  return if chunkText.isTruthy then chunkText else if content.isTruthy then content else text

/-- `" ".join(...)` over the texts of the chunks. -/
def joinContext (chunks : List Json) : Except PythonException String := do
  let texts ← chunks.mapM contextText
  let parts ← texts.zipIdx.mapM fun (text, index) =>
    match text with
    | .str part => .ok part
    | other => .error (⟨s!"sequence item {index}: expected str instance, {other.typeName} found"⟩ :
        PythonException)
  return " ".intercalate parts

def faithfulnessSkipped (errorMessage : String) : EvaluationResult where
  evaluatorName := "faithfulness"
  score := none
  passed := none
  skipped := true
  errorMessage := some errorMessage

def faithfulnessEvaluator : EvaluatorFn := fun _ output config => do
  if output.retrievedChunks.isEmpty then
    return faithfulnessSkipped "No retrieved chunks available for NLI faithfulness check"
  let retrievedContext ← joinContext output.retrievedChunks
  if (stripChars retrievedContext.toList).isEmpty then
    return faithfulnessSkipped "Retrieved context is empty"
  match context.computeFaithfulness output.answer retrievedContext with
  | .error exc =>
      return { evaluatorName := "faithfulness", score := none, passed := none, errored := true,
               errorMessage := some exc.message }
  | .ok (score, perSentence) =>
      let threshold ← context.float (← config.getAttribute "threshold" (.float (1 / 2)))
      return scored "faithfulness" score (threshold.reachedBy score) [
        ("per_sentence", .list perSentence), ("threshold", context.floatJson threshold),
        ("model", .str nliModelId)]

end EvaluatorContext

end EvalForge
