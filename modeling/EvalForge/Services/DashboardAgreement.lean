import EvalForge.Evaluators.Similarity
import EvalForge.Services.DashboardFailures
import Mathlib.Algebra.Order.Ring.Pow

/-! # The runs of the dashboard and the points of the report

Both collect the samples of a run from the same rows. For the similarity the
dashboard looks for the result of the new name first, whether or not it has a
score; the report takes the last score of either name.
-/

namespace EvalForge

open Foundation

/-! ## The columns of a row -/

def DashboardRun.column (row : DashboardRun) : Metric → Rat
  | .passRate => row.passRate
  | .semanticSimilarity => row.semanticSimilarity
  | .p95LatencyMs => row.p95LatencyMs
  | .costMeanUsd => row.costMeanUsd

/-- What `_collect_run_display_samples` takes from an item. -/
def ItemRows.displaySample (rows : ItemRows) : Metric → Option Rat
  | .passRate => some (if rows.casePassed then 1 else 0)
  | .semanticSimilarity => rows.semantic.bind (·.score)
  | .p95LatencyMs => rows.item.recordedLatencyMs.map fun latencyMs : Int => (latencyMs : Rat)
  | .costMeanUsd => rows.item.recordedCostUsd

/-- One unit of the sixth digit, as both sides round, and what the doubles of a mean
of this many values below ten thousand can add to it. -/
def displayTolerance (count : Nat) : Rat :=
  1 / 10 ^ 6 + 10 ^ 4 * ((1 + 1 / 2 ^ 52) ^ (5 * count + 3) - 1)

theorem unit_le_displayTolerance (count : Nat) : 1 / 10 ^ 6 ≤ displayTolerance count := by
  have growth : (1 : Rat) ≤ (1 + 1 / 2 ^ 52) ^ (5 * count + 3) :=
    one_le_pow₀ (le_add_of_nonneg_right (by positivity))
  rw [displayTolerance]
  linarith

/-- Up to eighty thousand values the doubles add less than another unit. -/
theorem displayTolerance_lt {count : Nat} (few : count ≤ 80000) :
    displayTolerance count < 2 / 10 ^ 6 := by
  -- A power of `1 + x` is at most the inverse of that power of `1 - x`.
  have below : (1 : Rat) - 400003 / 2 ^ 52 ≤ (1 - 1 / 2 ^ 52) ^ (5 * count + 3) := by
    have bernoulli := one_add_mul_le_pow (a := (-(1 / 2 ^ 52) : Rat)) (by norm_num) (5 * count + 3)
    have exponent : ((5 * count + 3 : Nat) : Rat) ≤ 400003 := by
      exact_mod_cast (by omega : 5 * count + 3 ≤ 400003)
    rw [← sub_eq_add_neg] at bernoulli
    linarith
  have inverse : (1 + 1 / 2 ^ 52 : Rat) ^ (5 * count + 3) * (1 - 400003 / 2 ^ 52) ≤ 1 := by
    have positive : (0 : Rat) ≤ (1 + 1 / 2 ^ 52) ^ (5 * count + 3) := by positivity
    calc (1 + 1 / 2 ^ 52 : Rat) ^ (5 * count + 3) * (1 - 400003 / 2 ^ 52)
        ≤ (1 + 1 / 2 ^ 52) ^ (5 * count + 3) * (1 - 1 / 2 ^ 52) ^ (5 * count + 3) :=
          mul_le_mul_of_nonneg_left below positive
      _ = ((1 + 1 / 2 ^ 52) * (1 - 1 / 2 ^ 52)) ^ (5 * count + 3) := (mul_pow _ _ _).symm
      _ ≤ 1 := pow_le_one₀ (by norm_num) (by norm_num)
  rw [displayTolerance]
  norm_num at inverse ⊢
  linarith

section

variable {floats : FloatConversion} {rows : RunRows} {values : List Rat} {count : Nat}

theorem abs_roundedAverage_sub_le (few : values.length ≤ count)
    (bounded : ∀ value ∈ values, |value| ≤ 10 ^ 4) :
    |roundedAverage floats (values.map Binary64.nearest) - roundTo 6 (average values)| ≤
      displayTolerance count := by
  by_cases empty : values = []
  · subst empty
    have zero : |roundedAverage floats [] - roundTo 6 (average [])| = 0 := by
      simp [roundedAverage, average]
    rw [List.map_nil, zero]
    exact (by positivity : (0 : Rat) ≤ 1 / 10 ^ 6).trans (unit_le_displayTolerance count)
  · have listed : values.isEmpty = false := List.isEmpty_eq_false_iff.mpr empty
    have added : floatSum floats (values.map Binary64.nearest) =
          roundedSum Binary64.nearest (values.map Binary64.nearest) ∨
        floatSum floats (values.map Binary64.nearest) =
          compensatedSum Binary64.nearest (values.map Binary64.nearest) := by
      rw [floatSum]
      split
      · exact .inr rfl
      · exact .inl rfl
    have error := abs_mean_map_sub_le Binary64.nearest_roundsWithin (by positivity)
      (by norm_num) empty bounded added
    have growth : (1 + 1 / 2 ^ 52 : Rat) ^ (5 * values.length + 3) ≤
        (1 + 1 / 2 ^ 52) ^ (5 * count + 3) :=
      pow_le_pow_right₀ (le_add_of_nonneg_right (by positivity)) (by omega)
    rw [roundedAverage, List.isEmpty_map, average, listed, if_neg Bool.false_ne_true,
      if_neg Bool.false_ne_true, List.length_map, displayTolerance]
    generalize Binary64.nearest (floatSum floats (values.map Binary64.nearest) / values.length) =
      mean at error ⊢
    have shown : |roundTo 6 mean - mean| ≤ 1 / (2 * 10 ^ 6) := abs_roundTo_sub_le mean
    have reported : |roundTo 6 (values.sum / values.length) - values.sum / values.length| ≤
        1 / (2 * 10 ^ 6) :=
      abs_roundTo_sub_le (values.sum / values.length)
    rw [abs_le] at shown reported error ⊢
    constructor <;> linarith

theorem ItemRows.abs_displaySample_le {item : ItemRows} {metric : Metric} {value : Rat}
    (averaged : metric ≠ .p95LatencyMs) (sampled : item.displaySample metric = some value) :
    |value| ≤ 10 ^ 4 := by
  cases metric with
  | passRate =>
      cases sampled
      split <;> norm_num
  | semanticSimilarity =>
      rcases Option.bind_eq_some_iff.mp sampled with ⟨result, -, scored⟩
      exact (result.scoreHeld value scored).bounded.le
  | p95LatencyMs => exact absurd rfl averaged
  | costMeanUsd => exact (item.item.costHeld value sampled).bounded.le

/-- A column is close to the statistic of what the items display. -/
theorem abs_column_sub_le (metric : Metric) :
    |(rows.toDashboardRow floats).column metric -
        roundTo 6 (metric.statistic (rows.items.filterMap (·.displaySample metric)))| ≤
      displayTolerance rows.items.length := by
  have few := List.length_filterMap_le (fun item : ItemRows => item.displaySample metric) rows.items
  have bounded : metric ≠ .p95LatencyMs →
      ∀ value ∈ rows.items.filterMap (·.displaySample metric), |value| ≤ 10 ^ 4 := by
    intro averaged value member
    rcases List.mem_filterMap.mp member with ⟨item, -, sampled⟩
    exact ItemRows.abs_displaySample_le averaged sampled
  cases metric with
  | passRate =>
      have passes : (rows.items.filterMap (·.displaySample .passRate)).map Binary64.nearest =
          rows.items.map fun item => if item.casePassed then 1 else 0 := by
        rw [List.map_filterMap, ← List.filterMap_eq_map']
        apply List.filterMap_congr
        intro item _
        simp only [ItemRows.displaySample, Option.map_some]
        split
        · rw [Binary64.nearest_one]
        · rw [Binary64.nearest_zero]
      have close := @abs_roundedAverage_sub_le floats _ _ few (bounded (by decide))
      rw [passes] at close
      exact close
  | semanticSimilarity => exact abs_roundedAverage_sub_le few (bounded (by decide))
  | costMeanUsd => exact abs_roundedAverage_sub_le few (bounded (by decide))
  | p95LatencyMs =>
      -- Both sides compute the same percentile, and the dashboard does not round it.
      have same : (rows.toDashboardRow floats).column .p95LatencyMs = Metric.p95LatencyMs.statistic
          (rows.items.filterMap (·.displaySample .p95LatencyMs)) := by
        simp only [DashboardRun.column, RunRows.toDashboardRow, Metric.statistic]
        congr 2
        funext item
        cases latency : item.item.recordedLatencyMs <;> simp [ItemRows.displaySample, latency]
      rw [same, abs_sub_comm]
      generalize Metric.p95LatencyMs.statistic
        (rows.items.filterMap (·.displaySample .p95LatencyMs)) = point
      calc |roundTo 6 point - point| ≤ 1 / (2 * 10 ^ 6) := abs_roundTo_sub_le point
        _ ≤ 1 / 10 ^ 6 := by norm_num
        _ ≤ displayTolerance rows.items.length := unit_le_displayTolerance _

end

theorem Database.displaySample_eq {db : Database} (item : EvalRunItem) {metric : Metric}
    (other : metric ≠ .semanticSimilarity) :
    (db.itemRows item).displaySample metric = itemSample metric (db.itemRecord item) := by
  cases metric with
  | passRate => simp only [ItemRows.displaySample, itemSample, itemRecord_casePassed]
  | semanticSimilarity => exact absurd rfl other
  | p95LatencyMs => rfl
  | costMeanUsd => rfl

/-! ## The similarity of an item -/

theorem getLast?_filterMap {Item Value : Type} {items : List Item} {given : Item → Option Value}
    {value : Option Value}
    (sound : ∀ item ∈ items, ∀ found, given item = some found → value = some found)
    (complete : ∀ found, value = some found → ∃ item ∈ items, given item = some found) :
    (items.filterMap given).getLast? = value := by
  cases value with
  | none =>
      rw [List.getLast?_eq_none_iff, List.filterMap_eq_nil_iff]
      intro item member
      cases gives : given item with
      | none => rfl
      | some found => cases sound item member found gives
  | some found =>
      rcases complete found rfl with ⟨item, member, gives⟩
      have listed : found ∈ items.filterMap given := List.mem_filterMap.mpr ⟨item, member, gives⟩
      rcases Option.isSome_iff_exists.mp
        (List.getLast?_isSome.mpr (List.ne_nil_of_mem listed)) with ⟨last, isLast⟩
      rcases List.mem_filterMap.mp (List.mem_of_getLast? isLast) with ⟨other, otherMember, other⟩
      rw [isLast, sound _ otherMember last other]

def firstScore (results : List EvalResultRow) : Option Rat :=
  (findFirstResult results ["token_f1_overlap", "semantic_similarity"]).bind (·.score)

def lastScore (results : List EvalResultRow) : Option Rat :=
  ((results.map fun result =>
    ({ toStoredResult := result.toStoredResult, writtenBy := 0 } : EvalResult)).filterMap
      similarityScore).getLast?

theorem firstScore_eq (results : List EvalResultRow) :
    firstScore results =
      ((results.find? (·.evaluatorName == "token_f1_overlap")).or
        (results.find? (·.evaluatorName == "semantic_similarity"))).bind (·.score) := by
  unfold firstScore findFirstResult
  cases token : results.find? (·.evaluatorName == "token_f1_overlap") <;>
    cases old : results.find? (·.evaluatorName == "semantic_similarity") <;>
    simp [token, old]

def aliasScore (results : List EvalResultRow) : Option Rat :=
  (results.find? (·.evaluatorName == "semantic_similarity")).bind (·.score)

/-- The evaluator of the new name failed where that of the old one has a score. -/
def HidesSimilarity (results : List EvalResultRow) : Prop :=
  (∃ result ∈ results, result.evaluatorName = "token_f1_overlap" ∧ result.errored = true) ∧
    ∃ result ∈ results, result.evaluatorName = "semantic_similarity" ∧ result.score.isSome = true

structure RecordedSimilarity (names : List String)
    (thresholds : EvaluatorName → Except PythonException PythonFloat)
    (results : List EvalResultRow) : Prop where
  nodup : (results.map (·.evaluatorName)).Nodup
  named : results = [] ∨ results.map (·.evaluatorName) = names
  shaped : ∀ result ∈ results, result.toEvaluationResult.Shaped result.evaluatorName
  similar : ∃ similarity : Option Rat, (∀ score, similarity = some score → 0 ≤ score) ∧
    ∀ result ∈ results, ∀ evaluator : EvaluatorName, evaluator.Similarity →
      result.evaluatorName = evaluator.text →
      EvaluatorContext.SimilarityResult similarity (thresholds evaluator)
        result.toEvaluationResult

theorem EvaluationResult.Shaped.of_score {result : EvalResultRow} {score : Rat}
    (shaped : result.toEvaluationResult.Shaped result.evaluatorName)
    (scored : result.score = some score) : result.errored = false ∧ result.skipped = false := by
  generalize result.evaluatorName = name at shaped
  generalize result.toEvaluationResult = evaluated at shaped scored ⊢
  cases shaped with
  | skipped details errorMessage => cases scored
  | scored score passed details => exact ⟨rfl, rfl⟩
  | errored errorMessage => cases scored

namespace RecordedSimilarity

variable {names : List String}
variable {thresholds : EvaluatorName → Except PythonException PythonFloat}
variable {results : List EvalResultRow} {result : EvalResultRow}

theorem find?_of_mem (recorded : RecordedSimilarity names thresholds results)
    (member : result ∈ results) {name : String} (named : result.evaluatorName = name) :
    results.find? (·.evaluatorName == name) = some result := by
  cases found : results.find? (·.evaluatorName == name) with
  | none =>
      have unnamed := List.find?_eq_none.mp found result member
      simp [named] at unnamed
  | some other =>
      rcases mem_of_find?_key found with ⟨otherMember, otherNamed⟩
      rw [List.inj_on_of_nodup_map recorded.nodup otherMember member
        (otherNamed.trans named.symm)]

theorem similarityScore_eq (recorded : RecordedSimilarity names thresholds results)
    (member : result ∈ results) {score : Rat} :
    similarityScore { toStoredResult := result.toStoredResult, writtenBy := 0 } =
        some score ↔
      (result.evaluatorName = "semantic_similarity" ∨
        result.evaluatorName = "token_f1_overlap") ∧ result.score = some score := by
  unfold similarityScore
  cases scored : result.score with
  | none => simp
  | some other =>
      have flags := (recorded.shaped result member).of_score scored
      simp [similarityNames, flags.1, flags.2]

/-- Unless the new name hides the old one, both readers find the same score. -/
theorem lastScore_eq (recorded : RecordedSimilarity names thresholds results)
    (seen : ¬HidesSimilarity results) : lastScore results = firstScore results := by
  rw [lastScore, List.filterMap_map]
  apply getLast?_filterMap
  · intro result member score scored
    rcases (recorded.similarityScore_eq member).mp scored with ⟨named | named, isScore⟩
    · cases found : results.find? (·.evaluatorName == "token_f1_overlap") with
      | none =>
          rw [firstScore_eq, found, Option.none_or, recorded.find?_of_mem member named]
          exact isScore
      | some token =>
          rcases mem_of_find?_key found with ⟨tokenMember, tokenNamed⟩
          rcases recorded.similar with ⟨similarity, _, kinds⟩
          rw [firstScore_eq, found, Option.some_or]
          cases kinds result member .semanticSimilarity (.inl rfl) named with
          | none _ noScore => cases isScore.symm.trans noScore
          | errored _ _ _ _ noScore _ => cases isScore.symm.trans noScore
          | scored own _ ownSome _ ownScore =>
              cases isScore.symm.trans ownScore
              cases kinds token tokenMember .tokenF1Overlap (.inr rfl) tokenNamed with
              | none noSimilarity _ => cases ownSome.symm.trans noSimilarity
              | scored other _ otherSome _ otherScore =>
                  cases ownSome.symm.trans otherSome
                  exact otherScore
              | errored _ _ _ _ _ isErrored =>
                  have hasScore : result.score.isSome = true := by
                    rw [isScore]
                    rfl
                  exact absurd ⟨⟨token, tokenMember, tokenNamed, isErrored⟩,
                    ⟨result, member, named, hasScore⟩⟩ seen
    · rw [firstScore_eq, recorded.find?_of_mem member named, Option.some_or]
      exact isScore
  · intro score isFirst
    rw [firstScore_eq] at isFirst
    cases found : results.find? (·.evaluatorName == "token_f1_overlap") with
    | some token =>
        rw [found, Option.some_or] at isFirst
        rcases mem_of_find?_key found with ⟨member, named⟩
        exact ⟨token, member, (recorded.similarityScore_eq member).mpr ⟨.inr named, isFirst⟩⟩
    | none =>
        rw [found, Option.none_or] at isFirst
        rcases Option.bind_eq_some_iff.mp isFirst with ⟨result, foundResult, isScore⟩
        rcases mem_of_find?_key foundResult with ⟨member, named⟩
        exact ⟨result, member, (recorded.similarityScore_eq member).mpr ⟨.inl named, isScore⟩⟩

/-- A hidden score comes from a threshold that is no number. -/
theorem refused_of_hides (recorded : RecordedSimilarity names thresholds results)
    (hides : HidesSimilarity results) :
    "token_f1_overlap" ∈ names ∧ ∃ exc, thresholds .tokenF1Overlap = .error exc := by
  rcases hides with ⟨⟨token, tokenMember, tokenNamed, tokenErrored⟩,
    ⟨result, member, named, hasScore⟩⟩
  rcases Option.isSome_iff_exists.mp hasScore with ⟨score, isScore⟩
  rcases recorded.similar with ⟨similarity, _, kinds⟩
  constructor
  · rcases recorded.named with empty | listed
    · rw [empty] at member
      cases member
    · rw [← listed, ← tokenNamed]
      exact List.mem_map_of_mem tokenMember
  · cases kinds result member .semanticSimilarity (.inl rfl) named with
    | none _ noScore => cases isScore.symm.trans noScore
    | errored _ _ _ _ noScore _ => cases isScore.symm.trans noScore
    | scored own _ ownSome _ _ =>
        cases kinds token tokenMember .tokenF1Overlap (.inr rfl) tokenNamed with
        | none noSimilarity _ => cases ownSome.symm.trans noSimilarity
        | scored _ _ _ _ otherScore =>
            have flags := (recorded.shaped token tokenMember).of_score otherScore
            cases tokenErrored.symm.trans flags.1
        | errored _ exc _ refused _ _ => exact ⟨exc, refused⟩

section Refused

variable {exc : PythonException}

theorem score_of_refused (recorded : RecordedSimilarity names thresholds results)
    (refused : thresholds .tokenF1Overlap = .error exc) (member : result ∈ results)
    (named : result.evaluatorName = "token_f1_overlap") : result.score = none := by
  rcases recorded.similar with ⟨similarity, _, kinds⟩
  cases kinds result member .tokenF1Overlap (.inr rfl) named with
  | none _ noScore => exact noScore
  | scored _ _ _ converted _ => cases converted.symm.trans refused
  | errored _ _ _ _ noScore _ => exact noScore

theorem firstScore_of_refused (recorded : RecordedSimilarity names thresholds results)
    (refused : thresholds .tokenF1Overlap = .error exc) (listed : "token_f1_overlap" ∈ names) :
    firstScore results = none := by
  rw [firstScore_eq]
  rcases recorded.named with empty | named
  · rw [empty]
    rfl
  · rw [← named] at listed
    rcases List.mem_map.mp listed with ⟨token, member, tokenNamed⟩
    rw [recorded.find?_of_mem member tokenNamed, Option.some_or]
    exact recorded.score_of_refused refused member tokenNamed

theorem lastScore_of_refused (recorded : RecordedSimilarity names thresholds results)
    (refused : thresholds .tokenF1Overlap = .error exc) :
    lastScore results = aliasScore results := by
  rw [lastScore, List.filterMap_map]
  apply getLast?_filterMap
  · intro result member score scored
    rcases (recorded.similarityScore_eq member).mp scored with ⟨named | named, isScore⟩
    · rw [aliasScore, recorded.find?_of_mem member named]
      exact isScore
    · cases isScore.symm.trans (recorded.score_of_refused refused member named)
  · intro score isAlias
    rcases Option.bind_eq_some_iff.mp isAlias with ⟨result, found, isScore⟩
    rcases mem_of_find?_key found with ⟨member, named⟩
    exact ⟨result, member, (recorded.similarityScore_eq member).mpr ⟨.inl named, isScore⟩⟩

end Refused

theorem aliasScore_nonneg (recorded : RecordedSimilarity names thresholds results) {score : Rat}
    (isAlias : aliasScore results = some score) : 0 ≤ score := by
  rcases Option.bind_eq_some_iff.mp isAlias with ⟨result, found, isScore⟩
  rcases mem_of_find?_key found with ⟨member, named⟩
  rcases recorded.similar with ⟨similarity, nonnegative, kinds⟩
  cases kinds result member .semanticSimilarity (.inl rfl) named with
  | none _ noScore => cases isScore.symm.trans noScore
  | errored _ _ _ _ noScore _ => cases isScore.symm.trans noScore
  | scored own _ ownSome _ ownScore =>
      cases isScore.symm.trans ownScore
      exact nonnegative _ ownSome

end RecordedSimilarity

/-! ## The similarity of a run -/

namespace Database

variable (db : Database) (runId : String)

def aliasScores : List Rat :=
  (db.itemsOf runId).filterMap fun item => aliasScore (db.resultsOf item.id)

/-- No item hides a score, or the mean of the scores is too small to be missed. -/
def SimilarityShown : Prop :=
  (∀ item ∈ db.itemsOf runId, ¬HidesSimilarity (db.resultsOf item.id)) ∨
    roundTo 6 (average (db.aliasScores runId)) ≤ displayTolerance (db.itemsOf runId).length

variable {db runId} {names : List String}
variable {thresholds : EvaluatorName → Except PythonException PythonFloat}

section

variable (recorded : ∀ item ∈ db.itemsOf runId,
  RecordedSimilarity names thresholds (db.resultsOf item.id))

include recorded

theorem firstScores_eq
    (seen : ∀ item ∈ db.itemsOf runId, ¬HidesSimilarity (db.resultsOf item.id)) :
    (db.itemsOf runId).filterMap (fun item => firstScore (db.resultsOf item.id)) =
      (db.itemsOf runId).filterMap fun item => lastScore (db.resultsOf item.id) := by
  apply List.filterMap_congr
  intro item member
  exact ((recorded item member).lastScore_eq (seen item member)).symm

theorem firstScores_of_hides {hider : EvalRunItem} (member : hider ∈ db.itemsOf runId)
    (hides : HidesSimilarity (db.resultsOf hider.id)) :
    (db.itemsOf runId).filterMap (fun item => firstScore (db.resultsOf item.id)) = [] ∧
      (db.itemsOf runId).filterMap (fun item => lastScore (db.resultsOf item.id)) =
        db.aliasScores runId := by
  rcases (recorded hider member).refused_of_hides hides with ⟨listed, exc, refused⟩
  constructor
  · rw [List.filterMap_eq_nil_iff]
    intro item itemMember
    exact (recorded item itemMember).firstScore_of_refused refused listed
  · apply List.filterMap_congr
    intro item itemMember
    exact (recorded item itemMember).lastScore_of_refused refused

theorem average_aliasScores_nonneg : 0 ≤ average (db.aliasScores runId) := by
  apply average_nonneg
  intro score member
  rcases List.mem_filterMap.mp member with ⟨item, itemMember, isAlias⟩
  exact (recorded item itemMember).aliasScore_nonneg isAlias

end

theorem ExecutedRun.recordedSimilarity {context : EvaluatorContext}
    {loadAdapter : String → Except PythonException Adapter} {installed : String → Bool}
    {run : EvalRunRow} {plan : RunPlan}
    (executed : db.ExecutedRun (context.environment loadAdapter installed) run plan) :
    ∃ names thresholds, ∀ item ∈ db.itemsOf run.id,
      RecordedSimilarity names thresholds (db.resultsOf item.id) := by
  let env := context.environment loadAdapter installed
  rcases executed.accepted with ⟨accepted, valid⟩
  rcases Environment.validateEvaluatorConfig_ok valid with ⟨specs, held, _, checked⟩
  rcases Environment.validateSpecs_ok checked with ⟨specsOk, distinct⟩
  let thresholds : EvaluatorName → Except PythonException PythonFloat := fun evaluator =>
    match specs.find? fun spec => env.specName spec == evaluator.text with
    | some spec => context.threshold spec
    | none => .error ⟨""⟩
  refine ⟨specs.map env.resultName, thresholds, ?_⟩
  intro item member
  have shaped := executed.shaped member
  rcases executed.evaluated member with empty | ⟨case, output, results, _, evaluated, rows⟩
  · rw [empty]
    exact ⟨by simp, .inl rfl, by simp, none, by simp, by simp⟩
  · rcases Environment.evaluateCase_of_accepted valid case.payload output with ⟨_, again, nodup⟩
    cases evaluated.symm.trans again
    have mapped := Environment.forall₂_of_held held evaluated
    have rowNames : (db.resultsOf item.id).map (·.evaluatorName) =
        results.map (·.evaluatorName) := by
      have names := congrArg (List.map (·.evaluatorName)) rows
      rw [List.map_map, List.map_map] at names
      exact names
    refine ⟨rowNames ▸ nodup, .inr (rowNames.trans (Environment.forall₂_names mapped)), shaped,
      (context.similarity case.payload output).map Column.numeric, ?_, ?_⟩
    · intro score isScore
      rcases Option.map_eq_some_iff.mp isScore with ⟨similarity, similar, rfl⟩
      exact Column.numeric_nonneg (EvaluatorContext.similarity_nonneg similar)
    intro row rowMember evaluator alike named
    have listed : row.toEvaluationResult ∈ results.map (·.rounded) :=
      rows ▸ List.mem_map_of_mem rowMember
    rcases List.mem_map.mp listed with ⟨result, resultMember, isRow⟩
    have resultNamed : result.evaluatorName = evaluator.text := by
      rw [← named, ← isRow]
      rfl
    rcases EvaluatorContext.recorded_of_mem (fun spec member => (specsOk spec member).1) mapped
      resultMember resultNamed with ⟨spec, specMember, registered, recorded⟩
    have isName : env.specName spec = evaluator.text := (evaluatorRegistry_text registered).symm
    have threshold : thresholds evaluator = context.threshold spec := by
      cases found : specs.find? fun spec => env.specName spec == evaluator.text with
      | none =>
          have unnamed := List.find?_eq_none.mp found spec specMember
          simp [isName] at unnamed
      | some other =>
          rcases mem_of_find?_key found with ⟨otherMember, otherNamed⟩
          have stripped : env.strippedName other = env.strippedName spec := by
            rw [Environment.strippedName, Environment.strippedName, otherNamed, isName]
          have same : other = spec :=
            List.inj_on_of_nodup_map distinct otherMember specMember stripped
          simp only [thresholds, found, same]
    rw [threshold, ← isRow, recorded]
    exact (EvaluatorContext.recordedResult_similarity alike).rounded

/-! ## Both sides -/

structure SameRun (db later : Database) (runId : String) : Prop where
  run : later.run? runId = db.run? runId
  items : later.itemsOf runId = db.itemsOf runId
  results : ∀ item ∈ db.itemsOf runId, later.resultsOf item.id = db.resultsOf item.id

theorem sameRun_of_tables {later : Database} (runs : later.evalRuns = db.evalRuns)
    (items : later.evalRunItems = db.evalRunItems) (results : later.evalResults = db.evalResults)
    (runId : String) : SameRun db later runId where
  run := by rw [run?, runs, run?]
  items := by rw [itemsOf, items, itemsOf]
  results item _ := by rw [resultsOf, results, resultsOf]

section

variable {later : Database} {run : EvalRunRow} {floats : FloatConversion}

theorem SameRun.displayed (same : SameRun db later run.id) (metric : Metric) :
    (later.runRows run).items.filterMap (·.displaySample metric) =
      (db.itemsOf run.id).filterMap fun item => (db.itemRows item).displaySample metric := by
  rw [runRows, List.filterMap_map, same.items]
  apply List.filterMap_congr
  intro item member
  cases metric <;>
    simp [ItemRows.displaySample, itemRows, ItemRows.casePassed, ItemRows.semantic,
      same.results item member]

theorem SameRun.length_items (same : SameRun db later run.id) :
    (later.runRows run).items.length = (db.itemsOf run.id).length := by
  rw [runRows, List.length_map, same.items]

theorem statistic_collected (consistent : db.Consistent) (metric : Metric) :
    metric.statistic (caseSamples (collectRunMetricSamples (db.itemRecords run.id)) metric).values =
      metric.statistic ((db.itemsOf run.id).filterMap fun item =>
        itemSample metric (db.itemRecord item)) := by
  have permuted := values_collectRunMetricSamples (distinct_itemRecords consistent run.id) metric
  rw [itemRecords_eq, List.filterMap_map] at permuted
  exact metric.statistic_perm permuted

/-- A column is close to the statistic of the stored samples; the similarity is if it
is shown. -/
theorem column_agrees_iff (consistent : db.Consistent) (same : SameRun db later run.id)
    (recorded : ∀ item ∈ db.itemsOf run.id,
      RecordedSimilarity names thresholds (db.resultsOf item.id)) :
    (∀ metric, |((later.runRows run).toDashboardRow floats).column metric -
        roundTo 6 (metric.statistic
          (caseSamples (collectRunMetricSamples (db.itemRecords run.id)) metric).values)| ≤
            displayTolerance (later.runRows run).items.length) ↔
      db.SimilarityShown run.id := by
  have close : ∀ metric, |((later.runRows run).toDashboardRow floats).column metric -
      roundTo 6 (metric.statistic ((db.itemsOf run.id).filterMap fun item =>
        (db.itemRows item).displaySample metric))| ≤
          displayTolerance (later.runRows run).items.length := by
    intro metric
    rw [← same.displayed metric]
    exact abs_column_sub_le metric
  simp only [statistic_collected consistent]
  by_cases seen : ∀ item ∈ db.itemsOf run.id, ¬HidesSimilarity (db.resultsOf item.id)
  · refine ⟨fun _ => .inl seen, fun _ metric => ?_⟩
    by_cases similarity : metric = .semanticSimilarity
    · subst similarity
      have scores : (db.itemsOf run.id).filterMap (fun item =>
            (db.itemRows item).displaySample .semanticSimilarity) =
          (db.itemsOf run.id).filterMap fun item =>
            itemSample .semanticSimilarity (db.itemRecord item) :=
        firstScores_eq recorded seen
      rw [← scores]
      exact close .semanticSimilarity
    · simp only [← displaySample_eq _ similarity]
      exact close metric
  · have hidden := seen
    push Not at hidden
    rcases hidden with ⟨hider, member, hides⟩
    rcases firstScores_of_hides recorded member hides with ⟨displayed, reported⟩
    -- Without a score the column is zero.
    have zero : ((later.runRows run).toDashboardRow floats).column .semanticSimilarity = 0 := by
      have empty : (later.runRows run).items.filterMap (·.displaySample .semanticSimilarity) = [] :=
        (same.displayed .semanticSimilarity).trans displayed
      have column : ((later.runRows run).toDashboardRow floats).column .semanticSimilarity =
          roundedAverage floats (((later.runRows run).items.filterMap
            (·.displaySample .semanticSimilarity)).map Binary64.nearest) := rfl
      rw [column, empty]
      rfl
    have point : Metric.semanticSimilarity.statistic ((db.itemsOf run.id).filterMap fun item =>
        itemSample .semanticSimilarity (db.itemRecord item)) = average (db.aliasScores run.id) :=
      congrArg average reported
    have similar : |((later.runRows run).toDashboardRow floats).column .semanticSimilarity -
        roundTo 6 (Metric.semanticSimilarity.statistic ((db.itemsOf run.id).filterMap fun item =>
          itemSample .semanticSimilarity (db.itemRecord item)))| =
            roundTo 6 (average (db.aliasScores run.id)) := by
      rw [zero, point, zero_sub, abs_neg,
        abs_of_nonneg (roundTo_nonneg (average_aliasScores_nonneg recorded))]
    rw [SimilarityShown, or_iff_right seen, ← same.length_items, ← similar]
    constructor
    · exact fun agree => agree .semanticSimilarity
    · intro small metric
      by_cases similarity : metric = .semanticSimilarity
      · subst similarity
        exact small
      · simp only [← displaySample_eq _ similarity]
        exact close metric

end

theorem loadDashboard_some {organizationId : String} {selected : Option String}
    {rows : DashboardRows} (loaded : db.loadDashboard organizationId selected = some rows) :
    db.reportOf rows.comparison.id = some rows.report ∧
      (∃ baseline, db.run? rows.comparison.baselineRunId = some baseline ∧
        rows.baseline = db.runRows baseline) ∧
      ∃ candidate, db.run? rows.comparison.candidateRunId = some candidate ∧
        rows.candidate = db.runRows candidate := by
  unfold loadDashboard at loaded
  rcases Option.bind_eq_some_iff.mp loaded with ⟨comparison, _, loaded⟩
  rcases Option.bind_eq_some_iff.mp loaded with ⟨report, reported, loaded⟩
  rcases Option.bind_eq_some_iff.mp loaded with ⟨baseline, baselineFound, loaded⟩
  rcases Option.bind_eq_some_iff.mp loaded with ⟨candidate, candidateFound, loaded⟩
  cases loaded
  exact ⟨reported, ⟨baseline, baselineFound, rfl⟩, candidate, candidateFound, rfl⟩

end Database

/-- The row of a run shows the points of a report, up to the rounding of each side. -/
def RunRows.ShowsPoints (floats : FloatConversion) (rows : RunRows) (point : Metric → Rat) : Prop :=
  ∀ metric, |(rows.toDashboardRow floats).column metric - point metric| ≤
    displayTolerance rows.items.length

/-- For runs that are not huge this is at most one unit of the last decimal. -/
theorem RunRows.ShowsPoints.abs_sub_le_unit {floats : FloatConversion} {rows : RunRows}
    {point : Metric → Rat} (shows : rows.ShowsPoints floats point)
    (few : rows.items.length ≤ 80000) {metric : Metric}
    (displayed : HasDecimals 6 ((rows.toDashboardRow floats).column metric))
    (reported : HasDecimals 6 (point metric)) :
    |(rows.toDashboardRow floats).column metric - point metric| ≤ 1 / 10 ^ 6 := by
  rcases displayed.sub reported with ⟨units, difference⟩
  have scale : (0 : Rat) < 10 ^ 6 := by positivity
  have close := (shows metric).trans_lt (displayTolerance_lt few)
  rw [difference, abs_div, abs_of_pos scale, div_lt_div_iff_of_pos_right scale] at close
  have unit : |units| ≤ 1 := by
    have below : |units| < 2 := by exact_mod_cast close
    omega
  rw [difference, abs_div, abs_of_pos scale]
  exact div_le_div_of_nonneg_right (by exact_mod_cast unit) scale.le

/-- The runs of the dashboard show the points of the stored report exactly if
the similarity of both runs is shown. -/
theorem dashboard_agrees_iff (context : EvaluatorContext)
    (loadAdapter : String → Except PythonException Adapter) (installed : String → Bool)
    (floats : FloatConversion) (comparing : ComparisonContext) (readings : RequestReadings)
    (db later : Database) (consistent : db.Consistent) (organizationId : String)
    (payload : ComparisonCreate)
    (writes : List Write) (comparison : ComparisonRow) (report : RegressionReport)
    (computed : computeComparison comparing readings db organizationId payload =
      .ok (writes, comparison, report))
    (baseline candidate : EvalRunRow) (baselinePlan candidatePlan : RunPlan)
    (baselineFound : db.run? payload.baselineRunId = some baseline)
    (candidateFound : db.run? payload.candidateRunId = some candidate)
    (baselineExecuted :
      db.ExecutedRun (context.environment loadAdapter installed) baseline baselinePlan)
    (candidateExecuted :
      db.ExecutedRun (context.environment loadAdapter installed) candidate candidatePlan)
    (baselineSame : db.SameRun later payload.baselineRunId)
    (candidateSame : db.SameRun later payload.candidateRunId)
    (selected : Option String) (rows : DashboardRows)
    (loaded : later.loadDashboard organizationId selected = some rows)
    (selects : rows.comparison = comparison)
    (stored : later.reportOf comparison.id = some report) :
    (rows.baseline.ShowsPoints floats fun metric => (rows.report.metrics metric).baselinePoint) ∧
        (rows.candidate.ShowsPoints floats fun metric =>
          (rows.report.metrics metric).candidatePoint) ↔
      db.SimilarityShown payload.baselineRunId ∧ db.SimilarityShown payload.candidateRunId := by
  have computation := computeComparison_ok computed
  rcases Database.loadDashboard_some loaded with
    ⟨reported, ⟨shownBaseline, shownBaselineFound, baselineRows⟩,
      shownCandidate, shownCandidateFound, candidateRows⟩
  rw [selects, stored] at reported
  rw [selects, computation.baselineRunId, baselineSame.run, baselineFound] at shownBaselineFound
  rw [selects, computation.candidateRunId, candidateSame.run, candidateFound]
    at shownCandidateFound
  cases reported
  cases shownBaselineFound
  cases shownCandidateFound
  have baselineId : baseline.id = payload.baselineRunId := by
    have named := List.find?_some baselineFound
    simpa using named
  have candidateId : candidate.id = payload.candidateRunId := by
    have named := List.find?_some candidateFound
    simpa using named
  rcases baselineExecuted.recordedSimilarity with ⟨names, thresholds, baselineRecorded⟩
  rcases candidateExecuted.recordedSimilarity with ⟨others, otherThresholds, candidateRecorded⟩
  rw [← baselineId] at baselineSame
  rw [← candidateId] at candidateSame
  simp only [RunRows.ShowsPoints, baselineRows, candidateRows, computation.metrics,
    baselinePoint_eq, candidatePoint_eq]
  rw [← baselineId, ← candidateId,
    Database.column_agrees_iff consistent baselineSame baselineRecorded,
    Database.column_agrees_iff consistent candidateSame candidateRecorded]

namespace Scenario

def executedState (config payload : Json) : Database :=
  stateAfter (comparedEvents config payload).dropLast

def comparingContext : ComparisonContext :=
  Deployment.comparisonContext { devDeployment with env := plainEnvironment }

def comparisonPayload : ComparisonCreate where
  baselineRunId := "baseline-0"
  candidateRunId := "candidate-0"

def comparedRow : ComparisonRow where
  id := "comparison-1"
  organizationId := defaultOrganizationId
  baselineRunId := "baseline-0"
  candidateRunId := "candidate-0"
  gateRulesId := "comparison-0"
  status := .computed
  createdAt := 1

section

variable (config payload : Json)

def comparedMetrics : Metric → MetricReport :=
  buildMetricReport firstIndex
    (sampleInput (collectRunMetricSamples
      ((executedState config payload).itemRecords "baseline-0")))
    (sampleInput (collectRunMetricSamples
      ((executedState config payload).itemRecords "candidate-0")))

def comparedReport : RegressionReport where
  id := "comparison-2"
  comparisonId := "comparison-1"
  metrics := comparedMetrics config payload
  gateVerdict := (applyGates (comparedMetrics config payload) defaultGateRules).1
  gateReasons := (applyGates (comparedMetrics config payload) defaultGateRules).2
  createdAt := 2

/-- The state after the transaction of the comparison, as far as a dashboard reads
it. -/
def reportedState : Database :=
  { executedState config payload with
    comparisons := [comparedRow]
    regressionReports := [comparedReport config payload] }

def comparedRows : DashboardRows where
  comparison := comparedRow
  report := comparedReport config payload
  baseline := (reportedState config payload).runRows (comparedRun "baseline" config payload)
  candidate := (reportedState config payload).runRows (comparedRun "candidate" config payload)
  gateRule := (reportedState config payload).gateRule? "comparison-0"
  app := ((reportedState config payload).version? "version-0").bind fun version =>
    (reportedState config payload).app? version.appId

structure HoldsComparison : Prop where
  baseline : ∃ item, HoldsRun (executedState config payload) "baseline" config payload item
  candidate : ∃ item, HoldsRun (executedState config payload) "candidate" config payload item
  baselineFound : (executedState config payload).run? "baseline-0" =
    some (comparedRun "baseline" config payload)
  candidateFound : (executedState config payload).run? "candidate-0" =
    some (comparedRun "candidate" config payload)
  comparable : ∃ runs, comparableRuns (executedState config payload) defaultOrganizationId
    comparisonPayload = .ok runs

variable {config payload}

theorem executedState_consistent : (executedState config payload).Consistent :=
  Database.Reachable.consistent ⟨0, (comparedEvents config payload).dropLast, rfl⟩

theorem reportedState_sameRun (runId : String) :
    (executedState config payload).SameRun (reportedState config payload) runId :=
  Database.sameRun_of_tables (by simp only [reportedState]) (by simp only [reportedState])
    (by simp only [reportedState]) runId

theorem reportedState_reportOf :
    (reportedState config payload).reportOf comparedRow.id =
      some (comparedReport config payload) := rfl

theorem comparedRows_candidatePoint (metric : Metric) :
    ((comparedRows config payload).report.metrics metric).candidatePoint =
      roundTo 6 (metric.statistic (caseSamples (collectRunMetricSamples
        ((executedState config payload).itemRecords (comparedRun "candidate" config payload).id))
          metric).values) :=
  candidatePoint_eq ..

namespace HoldsComparison

variable (holds : HoldsComparison config payload)

include holds

theorem computed : ∃ writes, computeComparison comparingContext
    (namedReadings "comparison").toRequestReadings (executedState config payload)
    defaultOrganizationId comparisonPayload =
      .ok (writes, comparedRow, comparedReport config payload) := by
  rcases holds.comparable with ⟨runs, comparable⟩
  rw [computeComparison, comparable]
  exact ⟨_, rfl⟩

theorem loaded : (reportedState config payload).loadDashboard defaultOrganizationId none =
    some (comparedRows config payload) := by
  have baselineFound := (reportedState_sameRun "baseline-0").run.trans holds.baselineFound
  have candidateFound := (reportedState_sameRun "candidate-0").run.trans holds.candidateFound
  have selected : (reportedState config payload).loadComparison defaultOrganizationId none =
      some comparedRow := rfl
  simp only [Database.loadDashboard, selected, reportedState_reportOf, Option.bind_eq_bind,
    Option.bind_some]
  rw [show comparedRow.baselineRunId = "baseline-0" from rfl,
    show comparedRow.candidateRunId = "candidate-0" from rfl, baselineFound, candidateFound]
  rfl

theorem baselineExecuted : (executedState config payload).ExecutedRun plainEnvironment
    (comparedRun "baseline" config payload) (comparedPlan config payload) := by
  rcases holds.baseline with ⟨item, run⟩
  exact run.executed

theorem candidateExecuted : (executedState config payload).ExecutedRun plainEnvironment
    (comparedRun "candidate" config payload) (comparedPlan config payload) := by
  rcases holds.candidate with ⟨item, run⟩
  exact run.executed

end HoldsComparison

end

set_option maxRecDepth 100000 in
theorem holdsRun_latency {name : String} (named : name = "baseline" ∨ name = "candidate") :
    ∃ item, HoldsRun (executedState (namedConfig "latency_threshold") openPayload) name
      (namedConfig "latency_threshold") openPayload item := by
  rcases named with rfl | rfl
  all_goals exact ⟨_, {
    flushed := by with_unfolding_all rfl
    configured := by with_unfolding_all rfl
    accepted := ⟨_, namedConfig_accepted (by rfl)⟩
    cases := by with_unfolding_all rfl
    items := by with_unfolding_all rfl
    results := by with_unfolding_all rfl }⟩

set_option maxRecDepth 100000 in
theorem holdsComparison_latency :
    HoldsComparison (namedConfig "latency_threshold") openPayload where
  baseline := holdsRun_latency (.inl rfl)
  candidate := holdsRun_latency (.inr rfl)
  baselineFound := by with_unfolding_all rfl
  candidateFound := by with_unfolding_all rfl
  comparable := ⟨_, by with_unfolding_all rfl⟩

def aliasConfig : Json :=
  .dict [("evaluators", .list [
    .dict [("name", .str "token_f1_overlap"), ("threshold", .str "high")],
    .dict [("name", .str "semantic_similarity")]])]

theorem aliasConfig_accepted :
    ∃ accepted, plainEnvironment.validateEvaluatorConfig aliasConfig = .ok accepted := by
  have checked : plainEnvironment.validateSpecs 0 [] [
      .dict [("name", .str "token_f1_overlap"), ("threshold", .str "high")],
      .dict [("name", .str "semantic_similarity")]] = .ok () := by rfl
  have held : aliasConfig.get "evaluators" .null = .list [
      .dict [("name", .str "token_f1_overlap"), ("threshold", .str "high")],
      .dict [("name", .str "semantic_similarity")]] := rfl
  rw [Environment.validateEvaluatorConfig, held]
  simp only [checked, bind, Except.bind]
  exact ⟨_, rfl⟩

set_option maxRecDepth 100000 in
theorem holdsRun_alias {name : String} (named : name = "baseline" ∨ name = "candidate") :
    ∃ item, HoldsRun (executedState aliasConfig plainPayload) name
      aliasConfig plainPayload item := by
  rcases named with rfl | rfl
  all_goals exact ⟨_, {
    flushed := by with_unfolding_all rfl
    configured := by with_unfolding_all rfl
    accepted := aliasConfig_accepted
    cases := by with_unfolding_all rfl
    items := by with_unfolding_all rfl
    results := by with_unfolding_all rfl }⟩

set_option maxRecDepth 100000 in
theorem holdsComparison_alias : HoldsComparison aliasConfig plainPayload where
  baseline := holdsRun_alias (.inl rfl)
  candidate := holdsRun_alias (.inr rfl)
  baselineFound := by with_unfolding_all rfl
  candidateFound := by with_unfolding_all rfl
  comparable := ⟨_, by with_unfolding_all rfl⟩

theorem aliasScores_alias :
    (executedState aliasConfig plainPayload).aliasScores "candidate-0" = [1] ∧
      ∃ item ∈ (executedState aliasConfig plainPayload).itemsOf "candidate-0",
        HidesSimilarity ((executedState aliasConfig plainPayload).resultsOf item.id) := by
  unfold HidesSimilarity
  decide +kernel

end Scenario

theorem dashboard_agrees_iff_scenario :
    ((Scenario.comparedRows (Scenario.namedConfig "latency_threshold")
          Scenario.openPayload).baseline.ShowsPoints Scenario.devDeployment.floats fun metric =>
        ((Scenario.comparedRows (Scenario.namedConfig "latency_threshold")
          Scenario.openPayload).report.metrics metric).baselinePoint) ∧
      ((Scenario.comparedRows (Scenario.namedConfig "latency_threshold")
          Scenario.openPayload).candidate.ShowsPoints Scenario.devDeployment.floats fun metric =>
        ((Scenario.comparedRows (Scenario.namedConfig "latency_threshold")
          Scenario.openPayload).report.metrics metric).candidatePoint) ↔
      (Scenario.executedState (Scenario.namedConfig "latency_threshold")
          Scenario.openPayload).SimilarityShown "baseline-0" ∧
        (Scenario.executedState (Scenario.namedConfig "latency_threshold")
          Scenario.openPayload).SimilarityShown "candidate-0" := by
  have holds := Scenario.holdsComparison_latency
  rcases holds.computed with ⟨writes, computed⟩
  exact dashboard_agrees_iff Scenario.plainContext _ _ _ _ _ _ _ Scenario.executedState_consistent
    _ _ _ _ _ computed _ _ _ _ holds.baselineFound holds.candidateFound holds.baselineExecuted
    holds.candidateExecuted (Scenario.reportedState_sameRun _) (Scenario.reportedState_sameRun _)
    _ _ holds.loaded rfl Scenario.reportedState_reportOf

/-- The dashboard shows `0.0` where the report says `1.0`. -/
theorem similarity_is_hidden :
    ¬∀ (context : EvaluatorContext) (loadAdapter : String → Except PythonException Adapter)
      (installed : String → Bool) (floats : FloatConversion) (comparing : ComparisonContext)
      (readings : RequestReadings) (db later : Database), db.Consistent →
      ∀ (organizationId : String) (payload : ComparisonCreate) (writes : List Write)
        (comparison : ComparisonRow) (report : RegressionReport),
        computeComparison comparing readings db organizationId payload =
          .ok (writes, comparison, report) →
      ∀ (baseline candidate : EvalRunRow) (baselinePlan candidatePlan : RunPlan),
        db.run? payload.baselineRunId = some baseline →
        db.run? payload.candidateRunId = some candidate →
        db.ExecutedRun (context.environment loadAdapter installed) baseline baselinePlan →
        db.ExecutedRun (context.environment loadAdapter installed) candidate candidatePlan →
        db.SameRun later payload.baselineRunId → db.SameRun later payload.candidateRunId →
      ∀ (selected : Option String) (rows : DashboardRows),
        later.loadDashboard organizationId selected = some rows →
        rows.comparison = comparison → later.reportOf comparison.id = some report →
        (rows.baseline.ShowsPoints floats fun metric =>
            (rows.report.metrics metric).baselinePoint) ∧
          rows.candidate.ShowsPoints floats fun metric =>
            (rows.report.metrics metric).candidatePoint := by
  intro agree
  have holds := Scenario.holdsComparison_alias
  rcases holds.computed with ⟨writes, computed⟩
  have agreed := (agree Scenario.plainContext _ _ Scenario.devDeployment.floats _ _ _ _
    Scenario.executedState_consistent _ _ _ _ _ computed _ _ _ _ holds.baselineFound
    holds.candidateFound holds.baselineExecuted holds.candidateExecuted
    (Scenario.reportedState_sameRun _) (Scenario.reportedState_sameRun _) _ _ holds.loaded rfl
    Scenario.reportedState_reportOf).2
  rcases holds.candidateExecuted.recordedSimilarity with ⟨names, thresholds, recorded⟩
  simp only [RunRows.ShowsPoints, Scenario.comparedRows_candidatePoint] at agreed
  have shown := (Database.column_agrees_iff Scenario.executedState_consistent
    (Scenario.reportedState_sameRun _) recorded).mp agreed
  rcases Scenario.aliasScores_alias with ⟨scores, item, member, hides⟩
  rcases shown with seen | small
  · exact seen item member hides
  · have one : (1 : Rat) ≤ displayTolerance 1 := by
      have mean : roundTo 6 (average [1]) = (1 : Rat) := by decide +kernel
      have listed : ((Scenario.executedState Scenario.aliasConfig
          Scenario.plainPayload).itemsOf "candidate-0").length = 1 := by decide +kernel
      have small : roundTo 6 (average ((Scenario.executedState Scenario.aliasConfig
          Scenario.plainPayload).aliasScores "candidate-0")) ≤
            displayTolerance ((Scenario.executedState Scenario.aliasConfig
              Scenario.plainPayload).itemsOf "candidate-0").length := small
      rw [scores, mean, listed] at small
      exact small
    have tolerance := @displayTolerance_lt 1 (by decide)
    norm_num at tolerance
    linarith

end EvalForge
