import EvalForge.Evaluators.Acceptance
import EvalForge.Services.EmbeddingCache

/-! # Well-formed results

Every recorded result is errored, skipped or scored. A score leaves the unit
interval exactly when the threshold of its evaluator is negative, and it is one
beyond a threshold only where the doubles are too coarse for the excess.
-/

namespace EvalForge

open Foundation

open EvaluationResult (Shaped Graded)

/-- A result is one of errored, skipped and scored, and only a scored one has a
score and a decision. -/
inductive EvaluationResult.OneKind (result : EvaluationResult) : Prop
  | errored (isErrored : result.errored = true) (notSkipped : result.skipped = false)
      (noScore : result.score = none) (undecided : result.passed = none)
  | skipped (notErrored : result.errored = false) (isSkipped : result.skipped = true)
      (noScore : result.score = none) (undecided : result.passed = none)
  | scored (score : Rat) (passed : Bool) (notErrored : result.errored = false)
      (notSkipped : result.skipped = false) (isScore : result.score = some score)
      (isDecided : result.passed = some passed) (nonneg : 0 ≤ score) (le_one : score ≤ 1)

/-- The evaluators that compare a measured value with a threshold. -/
def thresholdNames : List String := ["latency_threshold", "cost_threshold"]

structure EvaluationResult.WellFormed (result : EvaluationResult) : Prop where
  oneKind : result.OneKind
  passed : result.evaluatorName ∈ thresholdNames → ∀ score, result.score = some score →
    (result.passed = some true ↔ score = 1)

/-- The two results of a specification, of which the later one is for a latency
and a cost that may have grown. -/
structure NotRewarded (output later : AdapterOutput) (result laterResult : EvaluationResult) :
    Prop where
  latency : result.evaluatorName = "latency_threshold" → output.latencyMs ≤ later.latencyMs →
    ∀ score laterScore, result.score = some score → laterResult.score = some laterScore →
      laterScore ≤ score
  cost : result.evaluatorName = "cost_threshold" →
    output.estimatedCostUsd ≤ later.estimatedCostUsd →
    ∀ score laterScore, result.score = some score → laterResult.score = some laterScore →
      laterScore ≤ score

namespace EvaluatorContext

variable (context : EvaluatorContext)

def NliInRange : Prop :=
  ∀ retrievedContext sentences scores, context.nliScores retrievedContext sentences = .ok scores →
    ∀ score ∈ scores, 0 ≤ score ∧ score ≤ 1

/-- A latency under a negative threshold, or one that is beyond a positive
threshold by too small a share. -/
def MisjudgedLatency (latencyMs threshold : Int) : Prop :=
  (threshold < 0 ∧ ¬LatencyOverflows latencyMs threshold) ∨
    (0 < threshold ∧ threshold < latencyMs ∧
      (latencyMs - threshold : Rat) / threshold ≤ unnoticedShare)

/-- The specification names a threshold evaluator and gives it a threshold that the
output is misjudged by. -/
def MisjudgedThreshold (output : AdapterOutput) (spec : Json) : Prop :=
  (context.text (spec.get "name" (.str "")) = "latency_threshold" ∧
      ∃ threshold, context.int (spec.get "threshold_ms" (.int 2000)) = .ok threshold ∧
        MisjudgedLatency output.latencyMs threshold) ∨
    (context.text (spec.get "name" (.str "")) = "cost_threshold" ∧
      ∃ threshold, context.float (spec.get "threshold_usd" (.float (1 / 100))) =
        .ok (.finite threshold) ∧ Binary64.nearest threshold < 0)

/-- The results of a case are well-formed, and those of a slower or more
expensive output of any case have no higher scores. -/
def ResultsWellFormed (env : Environment) (config payload : Json) (output : AdapterOutput) : Prop :=
  ∃ results, env.evaluateCase payload output config = .ok results ∧
    (∀ result ∈ results, result.WellFormed) ∧
    ∀ laterPayload later laterResults,
      env.evaluateCase laterPayload later config = .ok laterResults →
      List.Forall₂ (NotRewarded output later) results laterResults

variable {context}

/-! ## Averages of entailment scores -/

theorem mean_mem_unit {scores : List Rat} (each : ∀ score ∈ scores, 0 ≤ score ∧ score ≤ 1) :
    0 ≤ scores.sum / scores.length ∧ scores.sum / scores.length ≤ 1 := by
  have nonneg : 0 ≤ scores.sum := List.sum_nonneg fun score member => (each score member).1
  have bound : scores.sum ≤ scores.length := by
    have total := List.sum_le_card_nsmul scores 1 fun score member => (each score member).2
    simpa using total
  exact ⟨div_nonneg nonneg (Nat.cast_nonneg _), div_le_one_of_le₀ bound (Nat.cast_nonneg _)⟩

theorem computeFaithfulness_mem (nli : context.NliInRange) (answer retrievedContext : String) :
    Returns (fun computed => 0 ≤ computed.1 ∧ computed.1 ≤ 1)
      (context.computeFaithfulness answer retrievedContext) := by
  unfold computeFaithfulness
  dsimp only
  split
  · exact .pure ⟨zero_le_one, le_rfl⟩
  · split
    · exact .pure ⟨le_rfl, zero_le_one⟩
    · apply Returns.bind_ok
      intro scores scored
      have mean := mean_mem_unit (nli _ _ _ scored)
      split
      · exact .error _
      · split
        · exact .error _
        · exact .pure ⟨roundTo_nonneg mean.1, roundTo_le_one mean.2⟩

/-! ## The threshold of a specification -/

/-- The evaluator has no threshold that the output is misjudged by. -/
def NaturalThreshold (context : EvaluatorContext) (output : AdapterOutput) (spec : Json) :
    EvaluatorName → Prop
  | .latencyThreshold => ∀ threshold, context.thresholdMs spec = .ok threshold →
      ¬MisjudgedLatency output.latencyMs threshold
  | .costThreshold => ∀ threshold, context.thresholdUsd spec = .ok (.finite threshold) →
      0 ≤ Binary64.nearest threshold
  | _ => True

variable {spec : Json} {output later : AdapterOutput} {evaluator : EvaluatorName}
variable {result laterResult : EvaluationResult}

theorem thresholdMs_eq (isDict : spec.isDict = true) :
    context.thresholdMs spec = context.int (spec.get "threshold_ms" (.int 2000)) := by
  rw [thresholdMs, Json.getAttribute, if_pos isDict]
  rfl

theorem thresholdUsd_eq (isDict : spec.isDict = true) :
    context.thresholdUsd spec = context.float (spec.get "threshold_usd" (.float (1 / 100))) := by
  rw [thresholdUsd, Json.getAttribute, if_pos isDict]
  rfl

theorem naturalThreshold_iff (isDict : spec.isDict = true)
    (named : context.text (spec.get "name" (.str "")) = evaluator.text) :
    context.NaturalThreshold output spec evaluator ↔ ¬context.MisjudgedThreshold output spec := by
  have latency : context.text (spec.get "name" (.str "")) = "latency_threshold" ↔
      evaluator = .latencyThreshold := by
    rw [named]
    exact EvaluatorName.text_injective.eq_iff' rfl
  have cost : context.text (spec.get "name" (.str "")) = "cost_threshold" ↔
      evaluator = .costThreshold := by
    rw [named]
    exact EvaluatorName.text_injective.eq_iff' rfl
  rw [MisjudgedThreshold, latency, cost]
  cases evaluator with
  | latencyThreshold => simp [NaturalThreshold, thresholdMs_eq isDict]
  | costThreshold => simp [NaturalThreshold, thresholdUsd_eq isDict]
  | _ => simp [NaturalThreshold]

theorem scored_of_shaped {evaluatorName : String} (shaped : result.Shaped evaluatorName)
    {score : Rat} (isScore : result.score = some score) :
    ∃ passed, result.passed = some passed ∧ result.errored = false ∧ result.skipped = false := by
  cases shaped with
  | skipped details errorMessage => cases isScore
  | errored errorMessage => cases isScore
  | scored score passed details => exact ⟨passed, rfl, rfl, rfl⟩

/-! ## The thresholds of scored results -/

theorem threshold_nonneg {latencyMs threshold : Int} (latency : 0 ≤ latencyMs)
    (natural : ¬MisjudgedLatency latencyMs threshold)
    (representable : threshold < latencyMs → ¬LatencyOverflows latencyMs threshold) :
    0 ≤ threshold := by
  by_contra negative
  rw [not_le] at negative
  exact natural (.inl ⟨negative, representable (by omega)⟩)

theorem latency_noticed {latencyMs threshold : Int} (latency : 0 ≤ latencyMs)
    (natural : ¬MisjudgedLatency latencyMs threshold)
    (representable : threshold < latencyMs → ¬LatencyOverflows latencyMs threshold) :
    ∀ limit, PythonFloat.finite threshold = .finite limit → limit < latencyMs → limit ≠ 0 →
      overshoot (id (latencyMs - limit)) limit ≠ 1 := by
  rintro limit ⟨⟩ above nonzero one
  have natural' := threshold_nonneg latency natural representable
  have positive : 0 < threshold := by
    have : threshold ≠ 0 := by exact_mod_cast nonzero
    omega
  rw [id, overshoot_eq_one_iff (sub_pos.mpr above) (by exact_mod_cast positive)] at one
  exact natural (.inr ⟨positive, by exact_mod_cast above, one⟩)

theorem double_eq_finite {threshold : PythonFloat} {limit : Rat}
    (isLimit : threshold.double = .finite limit) :
    ∃ written, threshold = .finite written ∧ Binary64.nearest written = limit := by
  cases threshold with
  | finite written =>
      cases isLimit
      exact ⟨written, rfl, rfl⟩
  | infinity | negativeInfinity | nan => cases isLimit

theorem costThreshold_nonneg {threshold : PythonFloat}
    (natural : ∀ written, threshold = .finite written → 0 ≤ Binary64.nearest written) :
    ∀ limit, threshold.double = .finite limit → 0 ≤ limit := by
  intro limit isLimit
  rcases double_eq_finite isLimit with ⟨written, same, rfl⟩
  exact natural written same

theorem cost_noticed {cost : Rat} {threshold : PythonFloat}
    (natural : ∀ written, threshold = .finite written → 0 ≤ Binary64.nearest written) :
    ∀ limit, threshold.double = .finite limit → limit < Binary64.nearest cost → limit ≠ 0 →
      overshoot (Binary64.nearest (Binary64.nearest cost - limit)) limit ≠ 1 := by
  intro limit isLimit above nonzero one
  have positive : 0 < limit :=
    lt_of_le_of_ne (costThreshold_nonneg natural limit isLimit) nonzero.symm
  rcases double_eq_finite isLimit with ⟨written, -, rfl⟩
  have apart := Binary64.apart_of_doubles (Binary64.nearest_nearest _)
    (Binary64.nearest_nearest _) positive above
  have excess : 0 < Binary64.nearest (Binary64.nearest cost - Binary64.nearest written) := by
    by_contra absent
    have share := div_nonpos_of_nonpos_of_nonneg (not_lt.mp absent) positive.le
    have least : (0 : Rat) < 1 / 2 ^ 53 := by positivity
    linarith
  rw [overshoot_eq_one_iff excess positive] at one
  have unnoticed : unnoticedShare < 1 / 2 ^ 53 := by decide +kernel
  linarith

theorem Scores.mem_unit {encode : String → Except PythonException (List Rat)}
    (nli : context.NliInRange) (latency : 0 ≤ output.latencyMs) {score : Rat} {passed : Bool}
    (natural : (context.withEmbeddings encode).NaturalThreshold output spec evaluator)
    (allowed : (context.withEmbeddings encode).Scores output spec evaluator score passed) :
    0 ≤ score ∧ score ≤ 1 := by
  cases evaluator with
  | latencyThreshold =>
      rcases allowed with ⟨threshold, read, representable, scored⟩
      refine ⟨scored.nonneg, scored.le_one monotone_id rfl ?_⟩
      rintro limit ⟨⟩
      exact_mod_cast threshold_nonneg latency (natural threshold read) representable
  | costThreshold =>
      rcases allowed with ⟨threshold, read, scored⟩
      refine ⟨scored.nonneg, scored.le_one Binary64.nearest_monotone Binary64.nearest_zero ?_⟩
      apply costThreshold_nonneg
      rintro written rfl
      exact natural written read
  | embeddingSimilarity =>
      rcases allowed with ⟨answer, expected, similarity⟩
      exact embeddingScore_mem encode answer expected score similarity
  | faithfulness =>
      rcases allowed with ⟨answer, retrievedContext, perSentence, computed⟩
      have sameNli : (context.withEmbeddings encode).NliInRange := nli
      exact computeFaithfulness_mem sameNli answer retrievedContext _ computed
  | exactMatch | containsKeywords | semanticSimilarity | tokenF1Overlap | retrievalHitRate
    | forbiddenClaim => exact allowed

theorem Scores.passed_iff (named : evaluator.text ∈ thresholdNames)
    (latency : 0 ≤ output.latencyMs)
    (natural : context.NaturalThreshold output spec evaluator) {score : Rat} {passed : Bool}
    (allowed : context.Scores output spec evaluator score passed) :
    passed = true ↔ score = 1 := by
  cases evaluator with
  | latencyThreshold =>
      rcases allowed with ⟨threshold, read, representable, scored⟩
      exact scored.passed_iff (latency_noticed latency (natural threshold read) representable)
  | costThreshold =>
      rcases allowed with ⟨threshold, read, scored⟩
      apply scored.passed_iff
      apply cost_noticed
      rintro written rfl
      exact natural written read
  | _ => exact absurd named (by decide)

/-! ## One result -/

theorem oneKind_of_shaped {evaluatorName : String} (shaped : result.Shaped evaluatorName)
    (unit : ∀ score, result.score = some score → 0 ≤ score ∧ score ≤ 1) : result.OneKind := by
  cases shaped with
  | skipped details errorMessage => exact .skipped rfl rfl rfl rfl
  | errored errorMessage => exact .errored rfl rfl rfl rfl
  | scored score passed details =>
      exact .scored score passed rfl rfl rfl rfl (unit score rfl).1 (unit score rfl).2

theorem wellFormed_of_natural {encode : String → Except PythonException (List Rat)}
    (nli : context.NliInRange) (latency : 0 ≤ output.latencyMs)
    (natural : (context.withEmbeddings encode).NaturalThreshold output spec evaluator)
    (graded : result.Graded evaluator.text
      ((context.withEmbeddings encode).Scores output spec evaluator)) : result.WellFormed := by
  constructor
  · apply oneKind_of_shaped graded.shaped
    intro score isScore
    rcases scored_of_shaped graded.shaped isScore with ⟨passed, isPassed, _, _⟩
    exact (graded.allowed score passed isScore isPassed).mem_unit nli latency natural
  · intro named score isScore
    rcases scored_of_shaped graded.shaped isScore with ⟨passed, isPassed, _, _⟩
    rw [shaped_name graded.shaped] at named
    rw [isPassed, Option.some.injEq]
    exact (graded.allowed score passed isScore isPassed).passed_iff named latency natural

theorem notRewarded_of_natural (latency : 0 ≤ output.latencyMs)
    (natural : context.NaturalThreshold output spec evaluator)
    (graded : result.Graded evaluator.text (context.Scores output spec evaluator))
    (laterGraded : laterResult.Graded evaluator.text (context.Scores later spec evaluator)) :
    NotRewarded output later result laterResult := by
  have both : ∀ {score laterScore : Rat}, result.score = some score →
      laterResult.score = some laterScore → ∃ passed laterPassed,
        context.Scores output spec evaluator score passed ∧
          context.Scores later spec evaluator laterScore laterPassed := by
    intro score laterScore isScore isLater
    rcases scored_of_shaped graded.shaped isScore with ⟨passed, isPassed, _, _⟩
    rcases scored_of_shaped laterGraded.shaped isLater with ⟨laterPassed, isLaterPassed, _, _⟩
    exact ⟨passed, laterPassed, graded.allowed _ _ isScore isPassed,
      laterGraded.allowed _ _ isLater isLaterPassed⟩
  constructor
  · intro named order score laterScore isScore isLater
    rw [shaped_name graded.shaped] at named
    have isLatency : evaluator = .latencyThreshold := EvaluatorName.text_injective named
    subst isLatency
    rcases both isScore isLater with
      ⟨_, _, ⟨threshold, read, representable, scored⟩, other, otherRead, _, laterScored⟩
    cases read.symm.trans otherRead
    apply scored.antitone monotone_id rfl _ laterScored (by exact_mod_cast order)
    rintro limit ⟨⟩
    exact_mod_cast threshold_nonneg latency (natural threshold read) representable
  · intro named order score laterScore isScore isLater
    rw [shaped_name graded.shaped] at named
    have isCost : evaluator = .costThreshold := EvaluatorName.text_injective named
    subst isCost
    rcases both isScore isLater with
      ⟨_, _, ⟨threshold, read, scored⟩, other, otherRead, laterScored⟩
    cases read.symm.trans otherRead
    apply scored.antitone Binary64.nearest_monotone Binary64.nearest_zero _ laterScored
      (Binary64.nearest_monotone order)
    apply costThreshold_nonneg
    rintro written rfl
    exact natural written read

/-! ## Misjudged outputs -/

variable {payload : Json}

theorem latencyScore_of_representable {latencyMs threshold : Int} (nonzero : threshold ≠ 0)
    (representable : ¬LatencyOverflows latencyMs threshold) :
    latencyScore latencyMs threshold = .ok (overshoot (latencyMs - threshold : Int) threshold) := by
  rw [latencyScore, if_neg nonzero]
  exact if_neg representable

theorem latencyScore_of_misjudged {latencyMs threshold : Int}
    (misjudged : MisjudgedLatency latencyMs threshold) :
    latencyScore latencyMs threshold = .ok (overshoot (latencyMs - threshold : Int) threshold) := by
  rcases misjudged with ⟨negative, representable⟩ | ⟨positive, above, small⟩
  · exact latencyScore_of_representable negative.ne representable
  · apply latencyScore_of_representable positive.ne'
    have share : ((latencyMs - threshold : Int) : Rat) / threshold ≤ 1 := by
      push_cast
      exact small.trans (by decide +kernel)
    have nonnegative : (0 : Rat) ≤ ((latencyMs - threshold : Int) : Rat) / threshold :=
      div_nonneg (by exact_mod_cast (sub_pos.mpr above).le) (by exact_mod_cast positive.le)
    rw [LatencyOverflows, Binary64.overflows, decide_eq_true_eq,
      abs_of_nonneg (Binary64.nearest_nonneg nonnegative), not_le]
    calc _ ≤ (1 : Rat) := Binary64.nearest_le_one share
      _ < 2 ^ 1024 := one_lt_pow₀ one_lt_two (by norm_num)

theorem latencyThreshold_scored {threshold : Int} (read : context.thresholdMs spec = .ok threshold)
    (latency : 0 ≤ output.latencyMs) (misjudged : MisjudgedLatency output.latencyMs threshold) :
    ∃ score, (context.recordedResult .latencyThreshold payload output spec).score = some score ∧
      (context.recordedResult .latencyThreshold payload output spec).passed = some false ∧
        1 ≤ score := by
  have above : threshold < output.latencyMs := by
    rcases misjudged with ⟨negative, _⟩ | ⟨_, above, _⟩
    · omega
    · exact above
  rw [thresholdMs] at read
  cases held : spec.getAttribute "threshold_ms" (.int 2000) with
  | error exc =>
      rw [held] at read
      cases read
  | ok stored =>
      rw [held] at read
      have converted : context.int stored = .ok threshold := read
      unfold recordedResult
      simp only [registry, latencyThreshold, held, converted, bind, Except.bind,
        decide_eq_false (not_le.mpr above), Bool.false_eq_true, if_false,
        latencyScore_of_misjudged misjudged]
      refine ⟨_, rfl, rfl, ?_⟩
      push_cast
      rcases misjudged with ⟨negative, _⟩ | ⟨positive, _, small⟩
      · have limit : (threshold : Rat) < 0 := by exact_mod_cast negative
        have value : (0 : Rat) ≤ output.latencyMs := by exact_mod_cast latency
        exact one_le_two.trans (two_le_overshoot limit (by linarith))
      · have limit : (0 : Rat) < threshold := by exact_mod_cast positive
        have excess : (0 : Rat) < output.latencyMs - threshold :=
          sub_pos.mpr (by exact_mod_cast above)
        exact ((overshoot_eq_one_iff excess limit).mpr small).ge

theorem costThreshold_scored {written : Rat}
    (read : context.thresholdUsd spec = .ok (.finite written))
    (cost : 0 ≤ output.estimatedCostUsd) (negative : Binary64.nearest written < 0) :
    ∃ score, (context.recordedResult .costThreshold payload output spec).score = some score ∧
      (context.recordedResult .costThreshold payload output spec).passed = some false ∧
        1 ≤ score := by
  have nonnegative := Binary64.nearest_nonneg cost
  have above : (PythonFloat.finite written).double.bounds
      (Binary64.nearest output.estimatedCostUsd) = false :=
    decide_eq_false (not_le.mpr (negative.trans_le nonnegative))
  have computed : costScore (Binary64.nearest output.estimatedCostUsd)
      (PythonFloat.finite written).double = .ok (overshoot (Binary64.nearest
        (Binary64.nearest output.estimatedCostUsd - Binary64.nearest written))
          (Binary64.nearest written)) := if_neg negative.ne
  rw [thresholdUsd] at read
  cases held : spec.getAttribute "threshold_usd" (.float (1 / 100)) with
  | error exc =>
      rw [held] at read
      cases read
  | ok stored =>
      rw [held] at read
      have converted : context.float stored = .ok (.finite written) := read
      unfold recordedResult
      simp only [registry, costThreshold, held, converted, bind, Except.bind, above,
        Bool.false_eq_true, if_false, computed]
      refine ⟨_, rfl, rfl, ?_⟩
      have excess : -Binary64.nearest written ≤ Binary64.nearest
          (Binary64.nearest output.estimatedCostUsd - Binary64.nearest written) := by
        calc -Binary64.nearest written = Binary64.nearest (-Binary64.nearest written) := by
              rw [Binary64.nearest_neg, Binary64.nearest_nearest]
          _ ≤ _ := Binary64.nearest_monotone (by linarith)
      exact one_le_two.trans (two_le_overshoot negative excess)

theorem failed_of_misjudged (latency : 0 ≤ output.latencyMs) (cost : 0 ≤ output.estimatedCostUsd)
    (unnatural : ¬context.NaturalThreshold output spec evaluator) :
    evaluator.text ∈ thresholdNames ∧
      ∃ score, (context.recordedResult evaluator payload output spec).score = some score ∧
        (context.recordedResult evaluator payload output spec).passed = some false ∧
          1 ≤ score := by
  cases evaluator with
  | latencyThreshold =>
      simp only [NaturalThreshold] at unnatural
      push Not at unnatural
      rcases unnatural with ⟨threshold, read, misjudged⟩
      exact ⟨by decide, latencyThreshold_scored read latency misjudged⟩
  | costThreshold =>
      simp only [NaturalThreshold] at unnatural
      push Not at unnatural
      rcases unnatural with ⟨written, read, negative⟩
      exact ⟨by decide, costThreshold_scored read cost negative⟩
  | _ => exact absurd trivial unnatural

end EvaluatorContext

open EvaluatorContext

section

variable {context : EvaluatorContext} {encode : String → Except PythonException (List Rat)}
variable {loadAdapter : String → Except PythonException Adapter} {installed : String → Bool}
variable {payload laterPayload spec : Json} {output later : AdapterOutput}
variable {result laterResult : EvaluationResult}

theorem evaluateSpec_wellFormed (nli : context.NliInRange) (latency : 0 ≤ output.latencyMs)
    (isDict : spec.isDict = true)
    (natural : ¬(context.withEmbeddings encode).MisjudgedThreshold output spec)
    (evaluated : ((context.withEmbeddings encode).environment loadAdapter installed).evaluateSpec
      payload output spec = .ok result) : result.WellFormed := by
  cases registered : evaluatorRegistry
      (((context.withEmbeddings encode).environment loadAdapter installed).specName spec) with
  | none =>
      rw [evaluateSpec_of_unregistered isDict registered] at evaluated
      cases evaluated
      exact ⟨.errored rfl rfl rfl rfl, fun _ _ isScore => by cases isScore⟩
  | some evaluator =>
      rw [evaluateSpec_of_registered isDict registered] at evaluated
      cases evaluated
      have named := (evaluatorRegistry_text registered).symm
      exact wellFormed_of_natural nli latency ((naturalThreshold_iff isDict named).mpr natural)
        (recordedResult_graded ..)

theorem evaluateSpec_notRewarded (latency : 0 ≤ output.latencyMs) (isDict : spec.isDict = true)
    (natural : ¬context.MisjudgedThreshold output spec)
    (evaluated : (context.environment loadAdapter installed).evaluateSpec payload output spec =
      .ok result)
    (laterEvaluated : (context.environment loadAdapter installed).evaluateSpec laterPayload later
      spec = .ok laterResult) : NotRewarded output later result laterResult := by
  cases registered :
      evaluatorRegistry ((context.environment loadAdapter installed).specName spec) with
  | none =>
      rw [evaluateSpec_of_unregistered isDict registered] at evaluated
      cases evaluated
      constructor
      · intro _ _ score laterScore isScore
        cases isScore
      · intro _ _ score laterScore isScore
        cases isScore
  | some evaluator =>
      rw [evaluateSpec_of_registered isDict registered] at evaluated laterEvaluated
      cases evaluated
      cases laterEvaluated
      have named := (evaluatorRegistry_text registered).symm
      exact notRewarded_of_natural latency ((naturalThreshold_iff isDict named).mpr natural)
        (recordedResult_graded ..) (recordedResult_graded ..)

theorem natural_of_wellFormed (latency : 0 ≤ output.latencyMs) (cost : 0 ≤ output.estimatedCostUsd)
    (isDict : spec.isDict = true)
    (evaluated : (context.environment loadAdapter installed).evaluateSpec payload output spec =
      .ok result) (wellFormed : result.WellFormed) :
    ¬context.MisjudgedThreshold output spec := by
  cases registered :
      evaluatorRegistry ((context.environment loadAdapter installed).specName spec) with
  | none =>
      rintro (⟨named, _⟩ | ⟨named, _⟩)
      · have found : evaluatorRegistry (context.text (spec.get "name" (.str ""))) = none :=
          registered
        rw [named] at found
        exact absurd found (by decide)
      · have found : evaluatorRegistry (context.text (spec.get "name" (.str ""))) = none :=
          registered
        rw [named] at found
        exact absurd found (by decide)
  | some evaluator =>
      rw [evaluateSpec_of_registered isDict registered] at evaluated
      cases evaluated
      have named := (evaluatorRegistry_text registered).symm
      rw [← naturalThreshold_iff isDict named]
      by_contra unnatural
      rcases failed_of_misjudged latency cost unnatural with
        ⟨isThreshold, score, isScore, isFailed, least⟩
      have decided := wellFormed.passed
        (by rwa [EvaluatorContext.recordedResult_name]) score isScore
      cases wellFormed.oneKind with
      | errored _ _ noScore _ => cases isScore.symm.trans noScore
      | skipped _ _ noScore _ => cases isScore.symm.trans noScore
      | scored other _ _ _ isOther _ _ le_one =>
          cases isScore.symm.trans isOther
          cases isFailed.symm.trans (decided.mpr (le_antisymm le_one least))

end

/-- The results of an accepted configuration are well-formed exactly if no threshold
misjudges the output. -/
theorem evaluator_results_well_formed_iff (context : EvaluatorContext)
    (encode : String → Except PythonException (List Rat)) (nli : context.NliInRange)
    (loadAdapter : String → Except PythonException Adapter) (installed : String → Bool)
    (config accepted : Json)
    (valid : ((context.withEmbeddings encode).environment loadAdapter
      installed).validateEvaluatorConfig config = .ok accepted)
    (payload : Json) (output : AdapterOutput) (latency : 0 ≤ output.latencyMs)
    (cost : 0 ≤ output.estimatedCostUsd) :
    ResultsWellFormed ((context.withEmbeddings encode).environment loadAdapter installed) config
        payload output ↔
      ∀ specs, config.get "evaluators" .null = .list specs → ∀ spec ∈ specs,
        ¬(context.withEmbeddings encode).MisjudgedThreshold output spec := by
  rcases Environment.validateEvaluatorConfig_ok valid with ⟨specs, held, nonempty, checked⟩
  have stored := Environment.stored_of_held held nonempty
  have dicts := (Environment.validateSpecs_ok checked).1
  rcases Environment.evaluateCase_of_accepted valid payload output with ⟨results, evaluated, -⟩
  constructor
  · rintro ⟨others, othersEvaluated, wellFormed, -⟩ again againStored spec member
    cases stored.symm.trans againStored
    have ranInOrder := Environment.forall₂_of_held held othersEvaluated
    rcases forall₂_exists_left ranInOrder.flip spec member with ⟨result, resultMember, ran⟩
    exact natural_of_wellFormed latency cost (dicts spec member).1 ran
      (wellFormed result resultMember)
  · intro natural
    refine ⟨results, evaluated, ?_, ?_⟩
    · intro result member
      rcases forall₂_exists_left (Environment.forall₂_of_held held evaluated) result member with
        ⟨spec, specMember, ran⟩
      exact evaluateSpec_wellFormed nli latency (dicts spec specMember).1
        (natural specs stored spec specMember) ran
    · intro laterPayload later laterResults laterEvaluated
      exact forall₂_of_same (Environment.forall₂_of_held held evaluated)
        (Environment.forall₂_of_held held laterEvaluated)
        fun spec member result laterResult ran laterRan =>
          evaluateSpec_notRewarded latency (dicts spec member).1 (natural specs stored spec member) ran
            laterRan

namespace Scenario

def noEmbeddings : String → Except PythonException (List Rat) :=
  fun _ => .error ⟨"No module named 'sentence_transformers'"⟩

def embeddingEnvironment : Environment :=
  (plainContext.withEmbeddings noEmbeddings).environment (fun _ => .ok fun _ _ => .ok plainOutput)
    fun _ => true

def latencyConfig (thresholdMs : Int) : Json :=
  .dict [("evaluators", .list [
    .dict [("name", .str "latency_threshold"), ("threshold_ms", .int thresholdMs)]])]

theorem latencyConfig_accepted (thresholdMs : Int) :
    embeddingEnvironment.validateEvaluatorConfig (latencyConfig thresholdMs) =
      .ok (latencyConfig thresholdMs) := by
  have stripped : PythonText.strip "latency_threshold" = "latency_threshold" :=
    strip_of_registered (evaluatorRegistry_of_text .latencyThreshold)
  have named : embeddingEnvironment.strippedName
      (.dict [("name", .str "latency_threshold"), ("threshold_ms", .int thresholdMs)]) =
        "latency_threshold" := stripped
  have checked : embeddingEnvironment.validateSpec 0 []
      (.dict [("name", .str "latency_threshold"), ("threshold_ms", .int thresholdMs)]) =
        .ok "latency_threshold" := by
    unfold Environment.validateSpec
    rw [named]
    rfl
  have held : (latencyConfig thresholdMs).get "evaluators" .null = .list [
      .dict [("name", .str "latency_threshold"), ("threshold_ms", .int thresholdMs)]] := rfl
  rw [Environment.validateEvaluatorConfig, held]
  simp only [Environment.validateSpecs, checked, bind, Except.bind]
  rfl

theorem plainOutput_judged : ¬MisjudgedLatency plainOutput.latencyMs 100 := by
  rintro (⟨negative, _⟩ | ⟨_, _, small⟩)
  · exact absurd negative (by decide)
  · revert small
    decide +kernel

theorem plainContext_nli : plainContext.NliInRange := by
  intro retrievedContext sentences scores scored
  cases scored

end Scenario

theorem evaluator_results_well_formed_iff_scenario :
    ResultsWellFormed Scenario.embeddingEnvironment (Scenario.latencyConfig 100)
      Scenario.plainPayload Scenario.plainOutput := by
  apply (evaluator_results_well_formed_iff Scenario.plainContext Scenario.noEmbeddings
    Scenario.plainContext_nli _ _ _ _ (Scenario.latencyConfig_accepted 100) Scenario.plainPayload
    Scenario.plainOutput (by decide) (by decide +kernel)).mpr
  intro specs held spec member
  cases held
  cases List.mem_singleton.mp member
  rintro (⟨_, threshold, read, misjudged⟩ | ⟨named, _⟩)
  · cases read
    exact Scenario.plainOutput_judged misjudged
  · exact absurd named (by decide)

/-- With a threshold of -100 the score of a latency of 120 is 3.2. -/
theorem negative_threshold_scores_above_one :
    ¬∀ (context : EvaluatorContext) (encode : String → Except PythonException (List Rat))
      (loadAdapter : String → Except PythonException Adapter) (installed : String → Bool)
      (config accepted payload : Json) (output : AdapterOutput), context.NliInRange →
      ((context.withEmbeddings encode).environment loadAdapter
        installed).validateEvaluatorConfig config = .ok accepted →
      0 ≤ output.latencyMs → 0 ≤ output.estimatedCostUsd →
      ResultsWellFormed ((context.withEmbeddings encode).environment loadAdapter installed) config
        payload output := by
  intro always
  rcases always Scenario.plainContext Scenario.noEmbeddings _ _ _ _ Scenario.plainPayload
    Scenario.plainOutput Scenario.plainContext_nli (Scenario.latencyConfig_accepted (-100))
    (by decide) (by decide +kernel) with ⟨results, evaluated, wellFormed, -⟩
  have misjudged : (Scenario.plainContext.withEmbeddings
      Scenario.noEmbeddings).MisjudgedThreshold Scenario.plainOutput
        (.dict [("name", .str "latency_threshold"), ("threshold_ms", .int (-100))]) := by
    refine .inl ⟨rfl, -100, rfl, .inl ⟨by decide, ?_⟩⟩
    rw [LatencyOverflows]
    decide +kernel
  have held : (Scenario.latencyConfig (-100)).get "evaluators" (.list []) =
      .list [.dict [("name", .str "latency_threshold"), ("threshold_ms", .int (-100))]] := rfl
  cases Environment.forall₂_of_held held evaluated with
  | cons ran _ =>
      exact natural_of_wellFormed (by decide) (by decide +kernel) rfl ran
        (wellFormed _ List.mem_cons_self) misjudged

end EvalForge
