import EvalForge.Evaluators.Faithfulness
import EvalForge.Evaluators.TokenOverlap

/-! # The scores of the evaluators

Every evaluator returns a skipped result, an errored one, or one with a score
that this evaluator can give. What a score beyond a threshold is depends on the
sign of the threshold, and on how much of the excess is rounded away.
-/

namespace EvalForge

open Foundation

/-! ## Scores beyond a threshold -/

namespace EvaluatorContext

variable {excess later limit : Rat}

theorem overshoot_nonneg (excess limit : Rat) : 0 ≤ overshoot excess limit := le_max_left _ _

theorem overshoot_le_one (nonnegative : 0 ≤ excess) (positive : 0 < limit) :
    overshoot excess limit ≤ 1 := by
  have share := Binary64.nearest_nonneg (div_nonneg nonnegative positive.le)
  exact max_le zero_le_one (Binary64.nearest_le_one (by linarith))

theorem overshoot_antitone (positive : 0 < limit) (order : excess ≤ later) :
    overshoot later limit ≤ overshoot excess limit := by
  have shares := Binary64.nearest_monotone (div_le_div_of_nonneg_right order positive.le)
  exact max_le_max le_rfl (Binary64.nearest_monotone (sub_le_sub_left shares 1))

/-- The largest share of the threshold that the rounding of the score takes away. -/
def unnoticedShare : Rat := 1 / 2 ^ 54 + 1 / 2 ^ 107

theorem overshoot_eq_one_iff (above : 0 < excess) (positive : 0 < limit) :
    overshoot excess limit = 1 ↔ excess / limit ≤ unnoticedShare := by
  have share : 0 < excess / limit := div_pos above positive
  rw [unnoticedShare, ← Binary64.nearest_small_iff share,
    ← Binary64.nearest_one_sub_eq_one_iff (Binary64.nearest_nonneg share.le), overshoot]
  constructor
  · intro one
    rcases max_choice 0 (Binary64.nearest (1 - Binary64.nearest (excess / limit))) with
      zero | kept
    · exact absurd (zero.symm.trans one) zero_ne_one
    · exact kept.symm.trans one
  · intro one
    rw [one]
    exact max_eq_right zero_le_one

/-- A latency of `2 ^ 54 + 1` has the score of one within the threshold `2 ^ 54`. -/
example : overshoot 1 (2 ^ 54) = 1 := by decide +kernel

theorem two_le_overshoot (negative : limit < 0) (excessive : -limit ≤ excess) :
    2 ≤ overshoot excess limit := by
  have share : excess / limit ≤ -1 := (div_le_iff_of_neg negative).mpr (by linarith)
  have rounded := Binary64.nearest_monotone share
  rw [Binary64.nearest_neg, Binary64.nearest_one] at rounded
  apply le_max_of_le_right
  calc (2 : Rat) = Binary64.nearest 2 := by decide +kernel
    _ ≤ Binary64.nearest (1 - Binary64.nearest (excess / limit)) :=
        Binary64.nearest_monotone (by linarith)

end EvaluatorContext

open EvaluatorContext

/-- The score of a latency or a cost under the threshold of its evaluator, where the
difference of the two may be rounded. -/
inductive ThresholdScore (difference : Rat → Rat) (value : Rat) (threshold : PythonFloat)
    (score : Rat) (passed : Bool) : Prop
  | within (bounds : threshold.bounds value = true) (isScore : score = 1)
      (isPassed : passed = true)
  | exceeds (limit : Rat) (isLimit : threshold = .finite limit) (above : limit < value)
      (nonzero : limit ≠ 0) (isScore : score = overshoot (difference (value - limit)) limit)
      (isPassed : passed = false)
  | unbounded (noLimit : ∀ limit, threshold ≠ .finite limit)
      (above : threshold.bounds value = false) (isScore : score = 0) (isPassed : passed = false)

namespace ThresholdScore

variable {difference : Rat → Rat} {value later limit score laterScore : Rat}
variable {threshold : PythonFloat} {passed laterPassed : Bool}

theorem nonneg (scored : ThresholdScore difference value threshold score passed) :
    0 ≤ score := by
  cases scored with
  | within _ isScore _ =>
      rw [isScore]
      exact zero_le_one
  | exceeds limit _ _ _ isScore _ =>
      rw [isScore]
      exact overshoot_nonneg _ _
  | unbounded _ _ isScore _ => rw [isScore]

theorem passed_iff (scored : ThresholdScore difference value threshold score passed)
    (noticed : ∀ limit, threshold = .finite limit → limit < value → limit ≠ 0 →
      overshoot (difference (value - limit)) limit ≠ 1) : passed = true ↔ score = 1 := by
  cases scored with
  | within _ isScore isPassed => exact ⟨fun _ => isScore, fun _ => isPassed⟩
  | exceeds limit isLimit above nonzero isScore isPassed =>
      rw [isScore, isPassed]
      exact ⟨fun impossible => (nomatch impossible),
        fun one => absurd one (noticed limit isLimit above nonzero)⟩
  | unbounded _ _ isScore isPassed =>
      rw [isScore, isPassed]
      exact ⟨fun impossible => (nomatch impossible), fun one => absurd one zero_ne_one⟩

section

variable (monotone : Monotone difference) (zero : difference 0 = 0)
variable (natural : ∀ limit, threshold = .finite limit → 0 ≤ limit)

include monotone zero natural in
theorem le_one (scored : ThresholdScore difference value threshold score passed) :
    score ≤ 1 := by
  cases scored with
  | within _ isScore _ => rw [isScore]
  | exceeds limit isLimit above nonzero isScore _ =>
      have excess := monotone (sub_pos.mpr above).le
      rw [zero] at excess
      rw [isScore]
      exact overshoot_le_one excess (lt_of_le_of_ne (natural limit isLimit) nonzero.symm)
  | unbounded _ _ isScore _ =>
      rw [isScore]
      exact zero_le_one

theorem bounds_of_le {value later : Rat} (order : value ≤ later)
    (bounds : threshold.bounds later = true) : threshold.bounds value = true := by
  cases threshold with
  | finite limit =>
      simp only [PythonFloat.bounds, decide_eq_true_eq] at bounds ⊢
      exact order.trans bounds
  | infinity => rfl
  | negativeInfinity => exact bounds
  | nan => exact bounds

include monotone zero natural in
theorem antitone (scored : ThresholdScore difference value threshold score passed)
    (laterScored : ThresholdScore difference later threshold laterScore laterPassed)
    (order : value ≤ later) : laterScore ≤ score := by
  cases scored with
  | within _ isScore _ =>
      rw [isScore]
      exact laterScored.le_one monotone zero natural
  | exceeds limit isLimit above nonzero isScore _ =>
      have positive : 0 < limit := lt_of_le_of_ne (natural limit isLimit) nonzero.symm
      cases laterScored with
      | within bounds _ _ =>
          have early := bounds_of_le order bounds
          rw [isLimit, PythonFloat.bounds, decide_eq_true_eq] at early
          exact absurd early (not_le.mpr above)
      | exceeds other isOther _ _ isLater _ =>
          cases isLimit.symm.trans isOther
          rw [isScore, isLater]
          exact overshoot_antitone positive (monotone (sub_le_sub_right order limit))
      | unbounded noLimit _ _ _ => exact absurd isLimit (noLimit limit)
  | unbounded noLimit above isScore _ =>
      cases laterScored with
      | within bounds _ _ => cases above.symm.trans (bounds_of_le order bounds)
      | exceeds limit isLimit _ _ _ _ => exact absurd isLimit (noLimit limit)
      | unbounded _ _ isLater _ => rw [isScore, isLater]

end

end ThresholdScore

/-! ## What an evaluator returns -/

structure EvaluationResult.Graded (evaluatorName : String) (Allowed : Rat → Bool → Prop)
    (result : EvaluationResult) : Prop where
  shaped : result.Shaped evaluatorName
  allowed : ∀ score passed, result.score = some score → result.passed = some passed →
    Allowed score passed

open EvaluationResult (Shaped Graded)

section

variable {evaluatorName : String} {Allowed : Rat → Bool → Prop}

theorem skipped_graded (reason : String) : Graded evaluatorName Allowed
    (skipped evaluatorName reason) :=
  ⟨.skipped _ _, fun _ _ isScore _ => by cases isScore⟩

theorem scored_graded {score : Rat} {passed : Bool} (allowed : Allowed score passed)
    (details : List (String × Json)) :
    Graded evaluatorName Allowed (scored evaluatorName score passed details) := by
  refine ⟨.scored _ _ _, ?_⟩
  intro otherScore otherPassed isScore isPassed
  cases isScore
  cases isPassed
  exact allowed

end

namespace EvaluatorContext

variable (context : EvaluatorContext)

/-- `int(config.get("threshold_ms", 2000))`. -/
def thresholdMs (spec : Json) : Except PythonException Int := do
  context.int (← spec.getAttribute "threshold_ms" (.int 2000))

/-- `float(config.get("threshold_usd", 0.01))`. -/
def thresholdUsd (spec : Json) : Except PythonException PythonFloat := do
  context.float (← spec.getAttribute "threshold_usd" (.float (1 / 100)))

/-- The quotient of a latency's score has no double. -/
def LatencyOverflows (latencyMs threshold : Int) : Prop :=
  Binary64.overflows ((latencyMs - threshold : Int) / threshold) = true

def Scores (output : AdapterOutput) (spec : Json) (evaluator : EvaluatorName) (score : Rat)
    (passed : Bool) : Prop :=
  match evaluator with
  | .latencyThreshold => ∃ threshold, context.thresholdMs spec = .ok threshold ∧
      (threshold < output.latencyMs → ¬LatencyOverflows output.latencyMs threshold) ∧
      ThresholdScore id output.latencyMs (.finite threshold) score passed
  | .costThreshold => ∃ threshold, context.thresholdUsd spec = .ok threshold ∧
      ThresholdScore Binary64.nearest (Binary64.nearest output.estimatedCostUsd) threshold.double
        score passed
  | .embeddingSimilarity => ∃ answer expected,
      context.cosineSimilarity answer expected = .ok score
  | .faithfulness => ∃ answer retrievedContext perSentence,
      context.computeFaithfulness answer retrievedContext = .ok (score, perSentence)
  | _ => 0 ≤ score ∧ score ≤ 1

variable {context} {payload spec : Json} {output : AdapterOutput}

theorem scored_by_threshold {evaluatorName : String} {Allowed : Rat → Bool → Prop} {score : Rat}
    (allowed : ∀ passed, Allowed score passed) (config default : Json)
    (details : PythonFloat → List (String × Json)) :
    Returns (Graded evaluatorName Allowed) (do
      let threshold ← context.float (← config.getAttribute "threshold" default)
      return scored evaluatorName score (threshold.reachedBy score) (details threshold)) :=
  .bind fun _ => .bind fun _ => .pure (scored_graded (allowed _) _)

theorem ite_mem_unit (condition : Prop) [Decidable condition] :
    0 ≤ (if condition then (1 : Rat) else 0) ∧ (if condition then (1 : Rat) else 0) ≤ 1 := by
  split
  · exact ⟨zero_le_one, le_rfl⟩
  · exact ⟨le_rfl, zero_le_one⟩

theorem exactMatch_graded : Returns (Graded "exact_match" (context.Scores output spec .exactMatch))
    (context.exactMatch payload output spec) := by
  apply Returns.bind
  intro expected
  split
  · exact .pure (skipped_graded _)
  · exact .pure (scored_graded (ite_mem_unit _) _)

theorem share_mem_unit (facts : List Json) (occurs : Json → Bool) :
    0 ≤ ((facts.filter occurs).length : Rat) / (facts.length : Nat) ∧
      ((facts.filter occurs).length : Rat) / (facts.length : Nat) ≤ 1 := by
  have bound : ((facts.filter occurs).length : Rat) ≤ (facts.length : Nat) := by
    exact_mod_cast List.length_filter_le occurs facts
  exact ⟨by positivity, div_le_one_of_le₀ bound (Nat.cast_nonneg _)⟩

theorem containsKeywords_graded :
    Returns (Graded "contains_keywords" (context.Scores output spec .containsKeywords))
      (context.containsKeywords payload output spec) := by
  apply Returns.bind
  intro facts
  split
  · exact .pure (skipped_graded _)
  · apply Returns.bind
    intro facts
    exact scored_by_threshold (fun _ => share_mem_unit facts _) _ _ _

theorem tokenF1Result_graded {evaluatorName : String} {Allowed : Rat → Bool → Prop}
    (allowed : ∀ score passed, 0 ≤ score ∧ score ≤ 1 → Allowed score passed)
    (extra : List (String × Json)) :
    Returns (Graded evaluatorName Allowed)
      (context.tokenF1Result evaluatorName extra payload output spec) := by
  apply Returns.bind
  intro expected
  split
  · exact .pure (skipped_graded _)
  · apply scored_by_threshold
    exact fun _ => allowed _ _ ⟨tokenF1_nonneg _ _ _, tokenF1_le_one _ _ _⟩

theorem embeddingSimilarity_graded :
    Returns (Graded "embedding_similarity" (context.Scores output spec .embeddingSimilarity))
      (context.embeddingSimilarity payload output spec) := by
  apply Returns.bind
  intro expected
  split
  · exact .pure (skipped_graded _)
  · apply Returns.bind_ok
    intro score similarity
    exact scored_by_threshold (fun _ => ⟨_, _, similarity⟩) _ _ _

theorem retrievalResult_graded {expectedId : Json} :
    Returns (Graded "retrieval_hit_rate" (context.Scores output spec .retrievalHitRate))
      (context.retrievalResult output expectedId) := by
  unfold retrievalResult
  split
  · exact .pure (skipped_graded _)
  · exact .bind fun _ => .pure (scored_graded (ite_mem_unit _) _)

theorem retrievalHitRate_graded :
    Returns (Graded "retrieval_hit_rate" (context.Scores output spec .retrievalHitRate))
      (context.retrievalHitRate payload output spec) := by
  apply Returns.bind
  intro chunkId
  split
  · exact retrievalResult_graded
  · exact .bind fun _ => retrievalResult_graded

theorem forbiddenClaim_graded :
    Returns (Graded "forbidden_claim" (context.Scores output spec .forbiddenClaim))
      (context.forbiddenClaim payload output spec) := by
  apply Returns.bind
  intro claims
  split
  · exact .pure (skipped_graded _)
  · exact .bind fun _ => .pure (scored_graded (ite_mem_unit _) _)

theorem latencyThreshold_graded :
    Returns (Graded "latency_threshold" (context.Scores output spec .latencyThreshold))
      (context.latencyThreshold payload output spec) := by
  apply Returns.bind_ok
  intro stored held
  apply Returns.bind_ok
  intro threshold converted
  have read : context.thresholdMs spec = .ok threshold := by
    rw [thresholdMs, held]
    exact converted
  dsimp only
  split
  · next within =>
    apply Returns.pure
    apply scored_graded
    rw [decide_eq_true_eq] at within
    refine ⟨threshold, read, fun above => absurd within (not_le.mpr above), ?_⟩
    refine .within ?_ rfl (decide_eq_true within)
    simpa [PythonFloat.bounds] using within
  · next above =>
    rw [decide_eq_true_eq, not_le] at above
    apply Returns.bind_ok
    intro score computed
    apply Returns.pure
    apply scored_graded
    unfold latencyScore at computed
    split at computed
    · cases computed
    · next nonzero =>
      split at computed
      · cases computed
      · next representable =>
        cases computed
        refine ⟨threshold, read, fun _ => representable, ?_⟩
        refine .exceeds threshold rfl ?_ ?_ ?_ (decide_eq_false (not_le.mpr above))
        · exact_mod_cast above
        · exact_mod_cast nonzero
        · push_cast
          rfl

theorem costThreshold_graded :
    Returns (Graded "cost_threshold" (context.Scores output spec .costThreshold))
      (context.costThreshold payload output spec) := by
  apply Returns.bind_ok
  intro stored held
  apply Returns.bind_ok
  intro threshold converted
  have read : context.thresholdUsd spec = .ok threshold := by
    rw [thresholdUsd, held]
    exact converted
  dsimp only
  split
  · next within =>
    apply Returns.pure
    apply scored_graded
    exact ⟨threshold, read, .within within rfl within⟩
  · next above =>
    rw [Bool.not_eq_true] at above
    apply Returns.bind_ok
    intro score computed
    apply Returns.pure
    apply scored_graded
    refine ⟨threshold, read, ?_⟩
    generalize threshold.double = stored at above computed ⊢
    cases stored with
    | finite limit =>
        rw [costScore] at computed
        split at computed
        · cases computed
        · next nonzero =>
          cases computed
          refine .exceeds limit rfl ?_ nonzero rfl above
          simpa [PythonFloat.bounds] using above
    | infinity => cases above
    | negativeInfinity | nan =>
        cases computed
        exact .unbounded (fun _ finite => by cases finite) above rfl above

theorem faithfulness_graded :
    Returns (Graded "faithfulness" (context.Scores output spec .faithfulness))
      (context.faithfulnessEvaluator payload output spec) := by
  unfold faithfulnessEvaluator
  have skips : ∀ errorMessage, Graded "faithfulness" (context.Scores output spec .faithfulness)
      (faithfulnessSkipped errorMessage) :=
    fun _ => ⟨.skipped _ _, fun _ _ isScore _ => by cases isScore⟩
  split
  · exact .pure (skips _)
  · apply Returns.bind
    intro retrievedContext
    split
    · exact .pure (skips _)
    · split
      · exact .pure ⟨.errored _, fun _ _ isScore _ => by cases isScore⟩
      · next score perSentence computed =>
        exact scored_by_threshold (fun _ => ⟨_, _, _, computed⟩) _ _ _

end EvaluatorContext

end EvalForge
