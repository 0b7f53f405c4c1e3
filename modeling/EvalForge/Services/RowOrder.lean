import EvalForge.Evaluators.Acceptance
import EvalForge.Evaluators.Similarity
import EvalForge.Services.PassRate

/-! # The order of the rows

The result rows of an item are read in no particular order, and the last score
of either name of the token overlap becomes the similarity of the case. Both
names record the same score, so the order is not seen in the report.
-/

namespace EvalForge

open Foundation

/-- The result rows of an item are those of one evaluation under an accepted
configuration, with their scores in six digits, or it has none. -/
def Environment.Evaluated (env : Environment) (item : ItemRecord) : Prop :=
  item.results = [] ∨ ∃ config accepted payload output results,
    env.validateEvaluatorConfig config = .ok accepted ∧
      env.evaluateCase payload output config = .ok results ∧
      (item.results.map (·.toEvaluationResult)).Perm (results.map (·.rounded))

structure ItemRecord.SameRows (item other : ItemRecord) : Prop where
  row : item.row = other.row
  results : item.results.Perm other.results

def Reordered (items others : List ItemRecord) : Prop :=
  ∃ permuted, items.Perm permuted ∧ List.Forall₂ ItemRecord.SameRows permuted others

/-! ## The scores of an evaluation -/

section

variable {context : EvaluatorContext} {loadAdapter : String → Except PythonException Adapter}
variable {installed : String → Bool} {item other : ItemRecord}

theorem similarityScore_eq_some {result : EvalResult} {score : Rat}
    (scored : similarityScore result = some score) :
    (∃ evaluator : EvaluatorName, evaluator.Similarity ∧
      result.evaluatorName = evaluator.text) ∧ result.score = some score := by
  unfold similarityScore at scored
  cases held : result.score with
  | none =>
      rw [held] at scored
      cases scored
  | some value =>
      rw [held] at scored
      dsimp only at scored
      split at scored
      · next counts =>
        cases scored
        refine ⟨?_, rfl⟩
        rcases List.mem_cons.mp counts.1 with old | new
        · exact ⟨.semanticSimilarity, .inl rfl, old⟩
        · exact ⟨.tokenF1Overlap, .inr rfl, List.mem_singleton.mp new⟩
      · cases scored

theorem Environment.Evaluated.similarity
    (evaluated : (context.environment loadAdapter installed).Evaluated item) :
    ∃ score, ∀ result ∈ item.results, ∀ value, similarityScore result = some value →
      value = score := by
  rcases evaluated with empty | ⟨_, _, payload, output, results, valid, ran, rows⟩
  · rw [empty]
    exact ⟨0, fun result member => nomatch member⟩
  · rcases Environment.validateEvaluatorConfig_ok valid with ⟨specs, held, _, checked⟩
    have dicts := (Environment.validateSpecs_ok checked).1
    refine ⟨((context.similarity payload output).map Column.numeric).getD 0, ?_⟩
    intro result member value scored
    rcases similarityScore_eq_some scored with ⟨⟨evaluator, alike, named⟩, isScore⟩
    rcases List.mem_map.mp (rows.mem_iff.mp (List.mem_map_of_mem member)) with
      ⟨original, originalMember, rounded⟩
    rcases EvaluatorContext.recorded_of_mem (fun spec member => (dicts spec member).1)
      (Environment.forall₂_of_held held ran) originalMember
      ((congrArg (·.evaluatorName) rounded).trans named) with ⟨spec, _, _, recorded⟩
    have kind : EvaluatorContext.SimilarityResult
        ((context.similarity payload output).map Column.numeric) (context.threshold spec)
        result.toEvaluationResult := by
      rw [← rounded, recorded]
      exact (EvaluatorContext.recordedResult_similarity alike).rounded
    cases kind with
    | none _ noScore => cases isScore.symm.trans noScore
    | errored _ _ _ _ noScore _ => cases isScore.symm.trans noScore
    | scored score _ similar _ ownScore =>
        cases isScore.symm.trans ownScore
        rw [similar, Option.getD_some]

/-! ## The samples -/

theorem ItemRecord.SameRows.passes_iff (same : item.SameRows other) :
    item.Passes ↔ other.Passes := by
  have member : ∀ result, result ∈ item.results ↔ result ∈ other.results :=
    fun result => same.results.mem_iff
  constructor
  · rintro ⟨⟨result, resultMember, applicable⟩, ran, passed⟩
    exact ⟨⟨result, (member result).mp resultMember, applicable⟩,
      fun result otherMember => ran result ((member result).mpr otherMember),
      fun result otherMember => passed result ((member result).mpr otherMember)⟩
  · rintro ⟨⟨result, resultMember, applicable⟩, ran, passed⟩
    exact ⟨⟨result, (member result).mpr resultMember, applicable⟩,
      fun result otherMember => ran result ((member result).mp otherMember),
      fun result otherMember => passed result ((member result).mp otherMember)⟩

theorem ItemRecord.SameRows.similarity_eq (same : item.SameRows other)
    (evaluated : (context.environment loadAdapter installed).Evaluated item) :
    item.results.filterMap similarityScore = other.results.filterMap similarityScore := by
  rcases evaluated.similarity with ⟨score, each⟩
  have permuted := same.results.filterMap similarityScore
  have equal : ∀ value ∈ item.results.filterMap similarityScore, value = score := by
    intro value member
    rcases List.mem_filterMap.mp member with ⟨result, resultMember, scored⟩
    exact each result resultMember value scored
  rw [List.eq_replicate_of_mem equal, List.eq_replicate_of_mem
    fun value member => equal value (permuted.mem_iff.mpr member), permuted.length_eq]

theorem ItemRecord.SameRows.itemSample_eq (same : item.SameRows other)
    (evaluated : (context.environment loadAdapter installed).Evaluated item)
    (metric : Metric) : itemSample metric item = itemSample metric other := by
  cases metric with
  | passRate =>
      rw [ItemRecord.itemSample_passRate, ItemRecord.itemSample_passRate]
      simp only [same.passes_iff]
  | semanticSimilarity => simp only [itemSample, same.similarity_eq evaluated]
  | p95LatencyMs => simp only [itemSample, same.row]
  | costMeanUsd => simp only [itemSample, same.row]

theorem foldl_collectItem_eq {items others : List ItemRecord}
    (related : List.Forall₂ (fun item other => item.row.caseId = other.row.caseId ∧
      ∀ metric, itemSample metric item = itemSample metric other) items others)
    (samples : MetricSamples) :
    items.foldl collectItem samples = others.foldl collectItem samples := by
  induction related generalizing samples with
  | nil => rfl
  | @cons item other _ _ head _ induction =>
      have first : collectItem samples item = collectItem samples other := by
        funext metric
        rw [collectItem_apply, collectItem_apply, head.2 metric, head.1]
      rw [List.foldl_cons, List.foldl_cons, first, induction]

/-- The samples of a run do not depend on the order of its rows. -/
theorem Reordered.collectRunMetricSamples_eq {items others : List ItemRecord}
    (reordered : Reordered items others) (distinct : (items.map (·.row.caseId)).Nodup)
    (evaluated : ∀ item ∈ items, (context.environment loadAdapter installed).Evaluated item) :
    collectRunMetricSamples others = collectRunMetricSamples items := by
  rcases reordered with ⟨permuted, items_permuted, rows⟩
  have related : List.Forall₂ (fun item other => item.row.caseId = other.row.caseId ∧
      ∀ metric, itemSample metric item = itemSample metric other) permuted others := by
    rw [List.forall₂_iff_get] at rows ⊢
    refine ⟨rows.1, ?_⟩
    intro index bound otherBound
    have same := rows.2 index bound otherBound
    refine ⟨congrArg EvalRunItem.caseId same.row, ?_⟩
    exact same.itemSample_eq (evaluated _ (items_permuted.mem_iff.mpr (List.get_mem _ _)))
  rw [collectRunMetricSamples, collectRunMetricSamples,
    insertionSort_eq_of_perm items_permuted distinct]
  exact (foldl_collectItem_eq
    (forall₂_insertionSort_of_key (fun _ _ same => same.1) related) _).symm

end

/-- Whatever the order in which the rows of both runs are read, the samples and
the report are the same. -/
theorem report_ignores_row_order (context : EvaluatorContext)
    (loadAdapter : String → Except PythonException Adapter) (installed : String → Bool)
    (baseline candidate : List ItemRecord)
    (baselineDistinct : (baseline.map (·.row.caseId)).Nodup)
    (candidateDistinct : (candidate.map (·.row.caseId)).Nodup)
    (evaluated : ∀ item ∈ baseline ++ candidate,
      (context.environment loadAdapter installed).Evaluated item)
    (draws : Draws) (baselineRead candidateRead : List ItemRecord)
    (baselineReordered : Reordered baseline baselineRead)
    (candidateReordered : Reordered candidate candidateRead) :
    collectRunMetricSamples baselineRead = collectRunMetricSamples baseline ∧
      collectRunMetricSamples candidateRead = collectRunMetricSamples candidate ∧
      buildMetricReport draws (sampleInput (collectRunMetricSamples baselineRead))
          (sampleInput (collectRunMetricSamples candidateRead)) =
        buildMetricReport draws (sampleInput (collectRunMetricSamples baseline))
          (sampleInput (collectRunMetricSamples candidate)) := by
  have baselineSame := baselineReordered.collectRunMetricSamples_eq baselineDistinct
    fun item member => evaluated item (List.mem_append_left _ member)
  have candidateSame := candidateReordered.collectRunMetricSamples_eq candidateDistinct
    fun item member => evaluated item (List.mem_append_right _ member)
  exact ⟨baselineSame, candidateSame, by rw [baselineSame, candidateSame]⟩

namespace Scenario

/-- Both names of the token overlap, the old one with a higher threshold. -/
def bothNamesConfig : Json :=
  .dict [("evaluators", .list [
    .dict [("name", .str "semantic_similarity"), ("threshold", .float 1)],
    .dict [("name", .str "token_f1_overlap")]])]

theorem bothNamesConfig_accepted :
    plainEnvironment.validateEvaluatorConfig bothNamesConfig = .ok bothNamesConfig := rfl

def bothNames : List EvaluationResult :=
  match plainEnvironment.evaluateCase plainPayload plainOutput bothNamesConfig with
  | .ok results => results
  | .error _ => []

def bothNamesResults : List EvalResult :=
  ((bothNames.mapM (EvaluationResult.store? plainEnvironment.storesJson)).getD []).map fun result =>
    { toStoredResult := result, writtenBy := 0 }

theorem bothNames_storable :
    ∀ result ∈ bothNames, result.Storable plainEnvironment.storesJson := by
  decide +kernel

def overlapItem (caseId : String) (results : List EvalResult) : ItemRecord where
  row := {
    id := caseId
    runId := "run-1"
    caseId
    status := .completed }
  results := results

theorem overlapItem_evaluated (caseId : String) :
    plainEnvironment.Evaluated (overlapItem caseId bothNamesResults) := by
  rcases Environment.evaluateCase_of_accepted bothNamesConfig_accepted plainPayload
    plainOutput with ⟨results, ran, _⟩
  have evaluated : bothNames = results := by simp only [bothNames, ran]
  rcases EvaluationResult.mapM_store?_isSome bothNames_storable with ⟨rows, stored⟩
  refine .inr ⟨_, _, _, _, results, bothNamesConfig_accepted, ran, List.Perm.of_eq ?_⟩
  rw [← evaluated, ← (EvaluationResult.mapM_store?_some stored).2]
  simp only [overlapItem, bothNamesResults, stored, Option.getD_some, List.map_map,
    Function.comp_def]

end Scenario

/-- Two cases, read the other way round and with their rows the other way round. -/
theorem report_ignores_row_order_scenario :
    buildMetricReport Scenario.firstIndex
        (sampleInput (collectRunMetricSamples
          [Scenario.overlapItem "case-2" Scenario.bothNamesResults.reverse,
            Scenario.overlapItem "case-1" Scenario.bothNamesResults.reverse]))
        (sampleInput (collectRunMetricSamples
          [Scenario.overlapItem "case-1" Scenario.bothNamesResults.reverse])) =
      buildMetricReport Scenario.firstIndex
        (sampleInput (collectRunMetricSamples
          [Scenario.overlapItem "case-1" Scenario.bothNamesResults,
            Scenario.overlapItem "case-2" Scenario.bothNamesResults]))
        (sampleInput (collectRunMetricSamples
          [Scenario.overlapItem "case-1" Scenario.bothNamesResults])) := by
  have reversed : ∀ caseId, (Scenario.overlapItem caseId Scenario.bothNamesResults).SameRows
      (Scenario.overlapItem caseId Scenario.bothNamesResults.reverse) :=
    fun caseId => ⟨rfl, (List.reverse_perm _).symm⟩
  have evaluated := Scenario.overlapItem_evaluated
  refine (report_ignores_row_order Scenario.plainContext
    (fun _ => .ok fun _ _ => .ok Scenario.plainOutput) (fun _ => true)
    [Scenario.overlapItem "case-1" Scenario.bothNamesResults,
      Scenario.overlapItem "case-2" Scenario.bothNamesResults]
    [Scenario.overlapItem "case-1" Scenario.bothNamesResults] (by decide) (by decide) ?_
    Scenario.firstIndex _ _
    ⟨_, .swap _ _ [], .cons (reversed _) (.cons (reversed _) .nil)⟩
    ⟨_, .refl _, .cons (reversed _) .nil⟩).2.2
  · intro item member
    simp only [List.cons_append, List.nil_append, List.mem_cons, List.not_mem_nil, or_false]
      at member
    rcases member with rfl | rfl | rfl
    · exact evaluated _
    · exact evaluated _
    · exact evaluated _

end EvalForge
