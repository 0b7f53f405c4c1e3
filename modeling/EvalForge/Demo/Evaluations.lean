import EvalForge.Demo.Outputs
import EvalForge.Evaluators.Registry

/-! # The evaluations of the demo

Under the evaluator configuration of the demo an expected answer passes every
evaluator, and the hallucination fails one of them.
-/

namespace EvalForge

open Foundation

def demoEvaluators : List (EvaluatorName × List (String × Json)) := [
  (.containsKeywords, [("threshold", .float (8 / 10))]),
  (.tokenF1Overlap, [("threshold", .float (5 / 10))]),
  (.retrievalHitRate, []),
  (.forbiddenClaim, []),
  (.latencyThreshold, [("threshold_ms", .int 200)]),
  (.costThreshold, [("threshold_usd", .float (1 / 100))])]

def demoSpec (entry : EvaluatorName × List (String × Json)) : Json :=
  .dict (("name", .str entry.1.text) :: entry.2)

def demoEvaluatorConfig : Json := .dict [("evaluators", .list (demoEvaluators.map demoSpec))]

/-! ## What is found in an answer -/

def forbiddenClaims : List String := ["quantum database", "telepathic compiler"]

@[mk_iff]
structure BaseDoc.AnswerTexts (doc : BaseDoc) : Prop where
  facts : doc.facts ≠ []
  fact : ∀ fact ∈ doc.facts, hasAsciiBytes fact = true ∧
    (asciiChars fact).map Char.toLower <:+: (asciiChars doc.answer).map Char.toLower
  claim : ∀ claim ∈ forbiddenClaims, hasAsciiBytes claim = true ∧
    ¬(asciiChars claim).map Char.toLower <:+: (asciiChars doc.answer).map Char.toLower
  token : charTokens (asciiChars doc.answer) ≠ []

theorem answerTexts_of_mem : ∀ doc ∈ baseDocs, doc.AnswerTexts := by
  simp only [BaseDoc.answerTexts_iff]
  decide +kernel

theorem hallucinated_claim : hasAsciiBytes "quantum database" = true ∧
    hasAsciiBytes hallucinatedAnswer = true ∧
    (asciiChars "quantum database").map Char.toLower <:+:
      (asciiChars hallucinatedAnswer).map Char.toLower := by
  decide +kernel

theorem contains_lower {context : EvaluatorContext} (plain : context.ReadsPlainValues)
    {part answer : String} (partAscii : hasAsciiBytes part = true) (answerAscii : IsAscii answer)
    (answerChars : answer.toList = asciiChars answer) :
    PythonText.contains (context.lower (context.text (.str part))) (context.lower answer).toList =
      decide ((asciiChars part).map Char.toLower <:+: (asciiChars answer).map Char.toLower) := by
  rw [PythonText.contains, plain.text_str, toList_lower plain (isAscii_of_hasAsciiBytes partAscii),
    toList_lower plain answerAscii, answerChars, toList_eq_asciiChars partAscii]

/-! ## What the evaluators compute -/

section

variable {context : EvaluatorContext}

def ScoresAs (context : EvaluatorContext) (payload : Json) (output : AdapterOutput)
    (entry : EvaluatorName × List (String × Json)) (score : Rat) (passed : Bool) : Prop :=
  ∃ details, context.registry entry.1 payload output (demoSpec entry) =
    .ok (scored entry.1.text score passed details)

def occurring (context : EvaluatorContext) (texts : List String) (answer : String) : List Json :=
  (texts.map Json.str).filter fun text =>
    PythonText.contains (context.lower (context.text text)) (context.lower answer).toList

def keywordShare (context : EvaluatorContext) (doc : BaseDoc) (answer : String) : Rat :=
  (occurring context doc.facts answer).length / (doc.facts.map Json.str).length

variable (plain : context.ReadsPlainValues) {doc : BaseDoc} {tag : String} {output : AdapterOutput}

include plain

theorem containsKeywords_scores (facts : doc.facts ≠ []) :
    ScoresAs context (doc.casePayload tag) output
      (.containsKeywords, [("threshold", .float (8 / 10))])
      (keywordShare context doc output.answer)
      ((PythonFloat.finite (8 / 10)).reachedBy (keywordShare context doc output.answer)) := by
  have held : (doc.casePayload tag).getAttribute "expected_facts" .null =
      .ok (.list (doc.facts.map .str)) := rfl
  have threshold : (demoSpec (.containsKeywords, [("threshold", .float (8 / 10))])).getAttribute
      "threshold" (.float 1) = .ok (.float (8 / 10)) := rfl
  have truthy : (Json.list (doc.facts.map .str)).isTruthy = true := by
    simp [Json.isTruthy, facts]
  simp only [ScoresAs, EvaluatorContext.registry, EvaluatorContext.containsKeywords, held, truthy,
    threshold, Json.iterate, plain.float_float, bind, Except.bind, pure, Except.pure, Bool.not_true,
    Bool.false_eq_true, if_false]
  exact ⟨_, rfl⟩

theorem tokenF1Overlap_scores :
    ScoresAs context (doc.casePayload tag) output
      (.tokenF1Overlap, [("threshold", .float (5 / 10))])
      (tokenF1 context.lower output.answer doc.answer)
      ((PythonFloat.finite (5 / 10)).reachedBy
        (tokenF1 context.lower output.answer doc.answer)) := by
  have expected : (doc.casePayload tag).getAttribute "expected_output" .null =
      .ok (.str doc.answer) := rfl
  have threshold : (demoSpec (.tokenF1Overlap, [("threshold", .float (5 / 10))])).getAttribute
      "threshold" (.float (7 / 10)) = .ok (.float (5 / 10)) := rfl
  simp only [ScoresAs, EvaluatorContext.registry, EvaluatorContext.tokenF1Overlap,
    EvaluatorContext.tokenF1Result, expected, threshold, plain.text_str, plain.float_float, bind,
    Except.bind, pure, Except.pure]
  exact ⟨_, rfl⟩

omit plain in
theorem retrievalHitRate_scores {chunks : List DemoChunk}
    (held : output.retrievedChunks = chunks.map (·.toJson)) :
    ScoresAs context (doc.casePayload tag) output (.retrievalHitRate, [])
      (if (chunks.map fun chunk => Json.str chunk.docId).any (context.equal (.str doc.docId)) then 1
        else 0)
      ((chunks.map fun chunk => Json.str chunk.docId).any (context.equal (.str doc.docId))) := by
  have ran := @EvaluatorContext.retrievalHitRate_of_docId context (doc.casePayload tag)
    (demoSpec (.retrievalHitRate, [])) (.str doc.docId) output rfl rfl
  have hit := @EvaluatorContext.retrievalResult_of_chunks context (.str doc.docId) output chunks
    (.str doc.docId)
  rw [← held] at hit
  exact ⟨_, ran.trans hit⟩

omit plain in
theorem forbiddenClaim_scores :
    ScoresAs context (doc.casePayload tag) output (.forbiddenClaim, [])
      (if (occurring context forbiddenClaims output.answer).isEmpty then 1 else 0)
      (occurring context forbiddenClaims output.answer).isEmpty := by
  have claims : (doc.casePayload tag).getAttribute "forbidden_claims" .null =
      .ok (.list (forbiddenClaims.map .str)) := rfl
  have truthy : (Json.list (forbiddenClaims.map .str)).isTruthy = true := rfl
  simp only [ScoresAs, EvaluatorContext.registry, EvaluatorContext.forbiddenClaim, claims, truthy,
    Json.iterate, bind, Except.bind, pure, Except.pure, Bool.not_true, Bool.false_eq_true, if_false]
  exact ⟨_, rfl⟩

omit plain in
theorem latencyScore_ok {latency threshold : Int} (held : Column.HoldsInteger latency)
    (positive : 0 < threshold) (above : threshold < latency) :
    ∃ score, EvaluatorContext.latencyScore latency threshold = .ok score ∧
      0 ≤ score ∧ score ≤ 1 := by
  have limit : (1 : Rat) ≤ threshold := by exact_mod_cast positive
  have excess : (0 : Rat) ≤ (latency - threshold : Int) := by
    exact_mod_cast sub_nonneg.mpr above.le
  have bounded : ((latency - threshold : Int) : Rat) ≤ 2 ^ 31 := by
    have below := held.2
    exact_mod_cast (by omega : latency - threshold ≤ 2 ^ 31)
  have quotient : ((latency - threshold : Int) : Rat) / threshold ≤ 2 ^ 31 :=
    (div_le_self excess limit).trans bounded
  have small : Binary64.nearest ((latency - threshold : Int) / threshold) ≤ 2 ^ 31 := by
    calc Binary64.nearest ((latency - threshold : Int) / threshold)
        ≤ Binary64.nearest (2 ^ 31) := Binary64.nearest_monotone quotient
      _ = 2 ^ 31 := by decide +kernel
  have natural : 0 ≤ Binary64.nearest ((latency - threshold : Int) / threshold) :=
    Binary64.nearest_nonneg (div_nonneg excess (by linarith))
  have fits : ¬Binary64.overflows ((latency - threshold : Int) / threshold) = true := by
    rw [Binary64.overflows, decide_eq_true_eq, not_le, abs_of_nonneg natural]
    exact small.trans_lt (pow_lt_pow_right₀ one_lt_two (by decide))
  rw [EvaluatorContext.latencyScore, if_neg positive.ne', if_neg fits]
  exact ⟨_, rfl, EvaluatorContext.overshoot_nonneg _ _,
    EvaluatorContext.overshoot_le_one excess (by linarith)⟩

theorem latencyThreshold_scores (held : Column.HoldsInteger output.latencyMs) :
    ∃ score, 0 ≤ score ∧ score ≤ 1 ∧ ScoresAs context (doc.casePayload tag) output
      (.latencyThreshold, [("threshold_ms", .int 200)]) score
        (decide (output.latencyMs ≤ 200)) := by
  have threshold : (demoSpec (.latencyThreshold, [("threshold_ms", .int 200)])).getAttribute
      "threshold_ms" (.int 2000) = .ok (.int 200) := rfl
  simp only [ScoresAs, EvaluatorContext.registry, EvaluatorContext.latencyThreshold, threshold,
    plain.int_int, bind, Except.bind, pure, Except.pure, decide_eq_true_eq]
  by_cases within : output.latencyMs ≤ 200
  · rw [if_pos within]
    exact ⟨1, zero_le_one, le_rfl, _, rfl⟩
  · rcases latencyScore_ok held (by decide) (not_le.mp within) with
      ⟨score, computed, natural, atMostOne⟩
    rw [if_neg within, computed]
    exact ⟨score, natural, atMostOne, _, rfl⟩

theorem costThreshold_scores (cheap : output.estimatedCostUsd ≤ 1 / 100) :
    ScoresAs context (doc.casePayload tag) output
      (.costThreshold, [("threshold_usd", .float (1 / 100))]) 1 true := by
  have threshold : (demoSpec (.costThreshold, [("threshold_usd", .float (1 / 100))])).getAttribute
      "threshold_usd" (.float (1 / 100)) = .ok (.float (1 / 100)) := rfl
  have within : (PythonFloat.finite (1 / 100)).double.bounds
      (Binary64.nearest output.estimatedCostUsd) = true :=
    decide_eq_true (Binary64.nearest_monotone cheap)
  simp only [ScoresAs, EvaluatorContext.registry, EvaluatorContext.costThreshold, threshold,
    plain.float_float, within, bind, Except.bind, pure, Except.pure, if_true]
  exact ⟨_, rfl⟩

theorem demoEvaluators_score {topK latencyMs : Int} {answer : String} (member : doc ∈ baseDocs)
    (answers : DemoAnswers context topK doc answer latencyMs output)
    (held : Column.HoldsInteger latencyMs) :
    ∀ entry ∈ demoEvaluators, ∃ score passed, 0 ≤ score ∧ score ≤ 1 ∧
      ScoresAs context (doc.casePayload tag) output entry score passed := by
  have facts := (answerTexts_of_mem doc member).facts
  intro entry entryMember
  simp only [demoEvaluators, List.mem_cons, List.not_mem_nil, or_false] at entryMember
  rcases entryMember with rfl | rfl | rfl | rfl | rfl | rfl
  · have share := EvaluatorContext.share_mem_unit (doc.facts.map Json.str) fun fact =>
      PythonText.contains (context.lower (context.text fact)) (context.lower output.answer).toList
    exact ⟨_, _, share.1, share.2, containsKeywords_scores plain facts⟩
  · exact ⟨_, _, tokenF1_nonneg _ _ _, tokenF1_le_one _ _ _, tokenF1Overlap_scores plain⟩
  · rcases answers.retrieved with ⟨chunks, -, retrieved⟩
    have unit := EvaluatorContext.ite_mem_unit
      ((chunks.map fun chunk => Json.str chunk.docId).any (context.equal (.str doc.docId)) = true)
    exact ⟨_, _, unit.1, unit.2, retrievalHitRate_scores retrieved⟩
  · have unit := EvaluatorContext.ite_mem_unit
      ((occurring context forbiddenClaims output.answer).isEmpty = true)
    exact ⟨_, _, unit.1, unit.2, forbiddenClaim_scores⟩
  · rw [← answers.latencyMs] at held
    rcases latencyThreshold_scores plain held with ⟨score, natural, atMostOne, scores⟩
    exact ⟨score, _, natural, atMostOne, scores⟩
  · exact ⟨1, true, zero_le_one, le_rfl, costThreshold_scores plain answers.estimatedCostUsd.2⟩

end

/-! ## An expected answer -/

section

variable {context : EvaluatorContext} (plain : context.ReadsPlainValues) {topK : Int}
variable {doc : BaseDoc} (member : doc ∈ baseDocs) {tag : String} {output : AdapterOutput}

include plain member

theorem keywordShare_expected : keywordShare context doc doc.answer = 1 := by
  have docPlain := plain_of_mem member
  have texts := answerTexts_of_mem doc member
  have hits : occurring context doc.facts doc.answer = doc.facts.map .str := by
    rw [occurring, List.filter_eq_self]
    intro fact factMember
    rcases List.mem_map.mp factMember with ⟨text, textMember, rfl⟩
    rcases texts.fact text textMember with ⟨ascii, found⟩
    rw [contains_lower plain ascii docPlain.answer docPlain.answerChars]
    exact decide_eq_true found
  have length : ((doc.facts.map Json.str).length : Rat) ≠ 0 := by
    simpa using texts.facts
  rw [keywordShare, hits, div_self length]

theorem tokenF1_expected : tokenF1 context.lower doc.answer doc.answer = 1 := by
  have docPlain := plain_of_mem member
  rw [tokenF1_eq_one_iff]
  refine ⟨rfl, ?_⟩
  rw [Ne, tokenSet_eq_empty_iff, tokenize_eq_charTokens plain docPlain.answer,
    docPlain.answerChars, List.isEmpty_iff, List.map_eq_nil_iff]
  exact (answerTexts_of_mem doc member).token

theorem occurring_claims_expected : occurring context forbiddenClaims doc.answer = [] := by
  have docPlain := plain_of_mem member
  rw [occurring, List.filter_eq_nil_iff]
  intro claim claimMember
  rcases List.mem_map.mp claimMember with ⟨text, textMember, rfl⟩
  rcases (answerTexts_of_mem doc member).claim text textMember with ⟨ascii, absent⟩
  rw [contains_lower plain ascii docPlain.answer docPlain.answerChars, decide_eq_true_eq]
  exact absent

omit member in
theorem retrieved_expected {chunks : List DemoChunk}
    (retrieves : RetrievesDoc context topK doc chunks) :
    (chunks.map fun chunk => Json.str chunk.docId).any (context.equal (.str doc.docId)) = true := by
  have best := retrieves.best
  cases chunks with
  | nil => cases best
  | cons chunk others =>
      cases best
      rw [chunkOf_corpusItem plain, List.map_cons, List.any_cons, plain.equal_str,
        beq_self_eq_true, Bool.true_or]

/-- An expected answer passes all of the evaluators. -/
theorem expected_passes (answers : DemoAnswers context topK doc doc.answer 120 output) :
    ∀ entry ∈ demoEvaluators,
      ∃ score, ScoresAs context (doc.casePayload tag) output entry score true := by
  have facts := (answerTexts_of_mem doc member).facts
  intro entry entryMember
  simp only [demoEvaluators, List.mem_cons, List.not_mem_nil, or_false] at entryMember
  rcases entryMember with rfl | rfl | rfl | rfl | rfl | rfl
  · have scores := @containsKeywords_scores context plain doc tag output facts
    have reached : (PythonFloat.finite (8 / 10)).reachedBy 1 = true := by decide +kernel
    rw [answers.answer, keywordShare_expected plain member, reached] at scores
    exact ⟨1, scores⟩
  · have scores := @tokenF1Overlap_scores context plain doc tag output
    have reached : (PythonFloat.finite (5 / 10)).reachedBy 1 = true := by decide +kernel
    rw [answers.answer, tokenF1_expected plain member, reached] at scores
    exact ⟨1, scores⟩
  · rcases answers.retrieved with ⟨chunks, retrieves, held⟩
    have scores := @retrievalHitRate_scores context doc tag output chunks held
    rw [retrieved_expected plain retrieves] at scores
    exact ⟨_, scores⟩
  · have scores := @forbiddenClaim_scores context doc tag output
    rw [answers.answer, occurring_claims_expected plain member] at scores
    exact ⟨_, scores⟩
  · have latency : Column.HoldsInteger output.latencyMs := by
      rw [answers.latencyMs]
      decide
    rcases @latencyThreshold_scores context plain doc tag output latency with ⟨score, -, -, scores⟩
    rw [answers.latencyMs] at scores
    exact ⟨score, scores⟩
  · exact ⟨1, costThreshold_scores plain answers.estimatedCostUsd.2⟩

end

/-! ## What the engine records -/

section

variable {context : EvaluatorContext} (plain : context.ReadsPlainValues)
variable {loadAdapter : String → Except PythonException Adapter} {installed : String → Bool}

def demoResults (context : EvaluatorContext) (payload : Json) (output : AdapterOutput) :
    List EvaluationResult :=
  demoEvaluators.map fun entry =>
    context.recordedResult entry.1 payload output (demoSpec entry)

theorem demoResults_names (payload : Json) (output : AdapterOutput) :
    ((demoResults context payload output).map (·.evaluatorName)).Nodup := by
  have names : (demoResults context payload output).map (·.evaluatorName) =
      demoEvaluators.map (·.1.text) := by
    rw [demoResults, List.map_map]
    exact List.map_congr_left fun entry _ =>
      EvaluatorContext.recordedResult_name entry.1 payload output (demoSpec entry)
  rw [names]
  decide

include plain

theorem evaluateCase_demo (payload : Json) (output : AdapterOutput) :
    (context.environment loadAdapter installed).evaluateCase payload output demoEvaluatorConfig =
      .ok (demoResults context payload output) := by
  have held : demoEvaluatorConfig.get "evaluators" (.list []) =
      .list (demoEvaluators.map demoSpec) := rfl
  have each : ∀ entry ∈ demoEvaluators,
      (context.environment loadAdapter installed).evaluateSpec payload output (demoSpec entry) =
        .ok (context.recordedResult entry.1 payload output (demoSpec entry)) := by
    intro entry _
    have name : (context.environment loadAdapter installed).specName (demoSpec entry) =
        entry.1.text := plain.text_str entry.1.text
    apply EvaluatorContext.evaluateSpec_of_registered rfl
    rw [name]
    exact evaluatorRegistry_of_text entry.1
  simp only [Environment.evaluateCase, held, Json.iterate, bind, Except.bind]
  rw [List.mapM_map]
  exact mapM_eq_map each

omit plain in
theorem recordedResult_of_ok {payload spec : Json} {output : AdapterOutput}
    {evaluator : EvaluatorName} {result : EvaluationResult}
    (ran : context.registry evaluator payload output spec = .ok result) :
    context.recordedResult evaluator payload output spec = result := by
  rw [EvaluatorContext.recordedResult, ran]

variable {topK : Int} {doc : BaseDoc} {tag : String} {output : AdapterOutput}

theorem demoResults_of_expected (member : doc ∈ baseDocs)
    (answers : DemoAnswers context topK doc doc.answer 120 output) :
    ∀ result ∈ demoResults context (doc.casePayload tag) output,
      result.skipped = false ∧ result.errored = false ∧ result.passed = some true := by
  intro result resultMember
  rcases List.mem_map.mp resultMember with ⟨entry, entryMember, rfl⟩
  rcases expected_passes plain member answers entry entryMember with ⟨score, details, ran⟩
  rw [recordedResult_of_ok ran]
  exact ⟨rfl, rfl, rfl⟩

/-- The hallucination makes a claim that is forbidden. -/
theorem demoResults_of_hallucinated
    (answers : DemoAnswers context topK doc hallucinatedAnswer 260 output) :
    ∃ result ∈ demoResults context (doc.casePayload tag) output,
      result.skipped = false ∧ result.errored = false ∧ result.passed = some false := by
  have answerPlain := shortText_hallucinatedAnswer
  have found : Json.str "quantum database" ∈
      occurring context forbiddenClaims hallucinatedAnswer := by
    refine List.mem_filter.mpr ⟨List.mem_cons_self, ?_⟩
    rcases hallucinated_claim with ⟨ascii, answerAscii, stated⟩
    rw [contains_lower plain ascii answerPlain.ascii (toList_eq_asciiChars answerAscii)]
    exact decide_eq_true stated
  have triggered := List.isEmpty_eq_false_iff_exists_mem.mpr ⟨_, found⟩
  have scores := @forbiddenClaim_scores context doc tag output
  rw [answers.answer, triggered] at scores
  rcases scores with ⟨details, ran⟩
  refine ⟨_, List.mem_map.mpr ⟨(.forbiddenClaim, []), ?_, recordedResult_of_ok ran⟩, rfl, rfl, rfl⟩
  simp [demoEvaluators]

theorem demoResults_storable {answer : String} {latencyMs : Int} (member : doc ∈ baseDocs)
    (answers : DemoAnswers context topK doc answer latencyMs output)
    (held : Column.HoldsInteger latencyMs) :
    ∀ result ∈ demoResults context (doc.casePayload tag) output,
      result.Storable context.storesJson := by
  intro result resultMember
  rcases List.mem_map.mp resultMember with ⟨entry, entryMember, rfl⟩
  rcases demoEvaluators_score plain member answers held entry entryMember with
    ⟨score, passed, natural, atMostOne, details, ran⟩
  rw [recordedResult_of_ok ran]
  constructor
  · exact EvaluatorContext.holdsString_text entry.1
  · rintro value ⟨⟩
    exact Column.holdsNumeric_of_le_one natural atMostOne
  · rintro text ⟨⟩
  · exact plain.stores_json _

end

end EvalForge
