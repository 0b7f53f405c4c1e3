import EvalForge.Adapters.DemoRag

/-! # The output of the demo adapter

The prompt, the answer and the cost that `run` makes of the retrieved chunks. -/

namespace EvalForge

open Foundation

def defaultCorpus : List Json := [
  .dict [("doc_id", .str "python-venv"),
    ("text", .str "The venv module creates lightweight Python virtual environments."),
    ("answer", .str "Python uses the venv module for virtual environments.")],
  .dict [("doc_id", .str "python-json"),
    ("text", .str "The json module encodes and decodes JSON documents."),
    ("answer", .str "Python uses the json module for JSON documents.")],
  .dict [("doc_id", .str "python-asyncio"),
    ("text", .str "The asyncio module supports concurrent code with async and await syntax."),
    ("answer", .str "Python uses asyncio for async concurrency.")]]

def hallucinatedAnswer : String :=
  "Python uses a quantum database to create virtual environments."

def refusedAnswer : String := "I do not know."

def unknownAnswer : String := "I do not know based on the retrieved context."

def formatPrompt (question : String) (retrievedChunks : List DemoChunk) : String :=
  let lines := retrievedChunks.map fun chunk => s!"[{chunk.docId}] {chunk.chunkText}"
  let joined := "\n".intercalate lines
  s!"Answer only from the retrieved context.\n\nContext:\n{joined}\n\nQuestion: {question}"

/-- The answer from the best chunk, whose own answer may be empty. -/
def groundedAnswer : List DemoChunk → String
  | [] => unknownAnswer
  | chunk :: _ =>
      if chunk.score = 0 then unknownAnswer
      else if chunk.answer ≠ "" then chunk.answer
      else chunk.chunkText

namespace EvaluatorContext

variable (context : EvaluatorContext)

def generateAnswer (versionConfig : Json) (retrievedChunks : List DemoChunk) :
    Except PythonException String := do
  let failureMode ← versionConfig.getAttribute "failure_mode" .null
  if context.equal failureMode (.str "hallucinate") then return hallucinatedAnswer
  if context.equal failureMode (.str "refuse") then return refusedAnswer
  return groundedAnswer retrievedChunks

/-- `float(value)`, for a finite cost. -/
def finiteFloat (value : Json) : Except PythonException Rat := do
  match ← context.float value with
  | .finite rate => return rate
  | .infinity | .negativeInfinity | .nan => throw ⟨"cost is not finite"⟩

def estimateCost (prompt answer : String) (versionConfig : Json) :
    Except PythonException Rat := do
  let inputRate ← context.finiteFloat
    (← versionConfig.getAttribute "input_cost_per_1k" (.float (1 / 10000)))
  let outputRate ← context.finiteFloat
    (← versionConfig.getAttribute "output_cost_per_1k" (.float (2 / 10000)))
  let inputTokens := (tokenize context.lower prompt).length
  let outputTokens := (tokenize context.lower answer).length
  return roundTo 6 ((inputTokens * inputRate + outputTokens * outputRate) / 1000)

def demoStep (step : String) (durationMs : Int) (result : List (String × Json)) : Json :=
  .dict [("step", .str step), ("duration_ms", .int durationMs), ("result", .dict result)]

/-- `run` of the demo adapter. -/
def demoRun : Adapter := fun question versionConfig => do
  let topK ← context.int (← versionConfig.getAttribute "top_k" (.int 3))
  let corpus ← (← versionConfig.getAttribute "corpus" (.list defaultCorpus)).iterate
  let retrievedChunks ← context.retrieve question corpus topK
  let prompt := formatPrompt question retrievedChunks
  let answer ← context.generateAnswer versionConfig retrievedChunks
  let latencyMs ← context.int
    (← versionConfig.getAttribute "latency_ms" (.int (100 + 15 * max topK 1)))
  let estimatedCostUsd ← context.estimateCost prompt answer versionConfig
  let chunks := retrievedChunks.map (·.toJson)
  return {
    answer
    retrievedChunks := chunks
    promptUsed := prompt
    modelUsed :=
      context.text (← versionConfig.getAttribute "model" (.str "deterministic-demo-rag"))
    latencyMs
    estimatedCostUsd
    traceSteps := [
      demoStep "retrieve" 15 [("chunks", .list chunks)],
      demoStep "format_prompt" 1 [("prompt", .str prompt)],
      demoStep "generate" (max (latencyMs - 16) 1) [("answer", .str answer),
        ("model", ← versionConfig.getAttribute "model" (.str "demo"))]] }

end EvaluatorContext

end EvalForge
