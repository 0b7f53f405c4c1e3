import EvalForge.Api.RunCommit
import EvalForge.Demo.Evaluations
import EvalForge.Services.PassRate

/-! # The runs of the demo

Whatever the order and the ids of its cases, a run of the demo completes; every
case passes in the baseline and fails in the candidate.
-/

namespace EvalForge

open Foundation

/-! ## Cases that complete -/

section

variable {env : Environment} {inputs : ExecutionInputs} {plan : RunPlan} {adapter : Adapter}

structure Completes (env : Environment) (plan : RunPlan) (adapter : Adapter) (case : EvalCase)
    (output : AdapterOutput) (results : List EvaluationResult) : Prop where
  answered : adapter (env.extractQuestion case.payload) plan.version.config = .ok output
  evaluated : env.evaluateCase case.payload output plan.evaluatorConfig.config = .ok results
  distinct : (results.map (·.evaluatorName)).Nodup
  stores : StoresOutput env.storesJson case plan.version output results

variable {case : EvalCase} {output : AdapterOutput} {results : List EvaluationResult}

structure CompletedItem (case : EvalCase) (output : AdapterOutput)
    (results : List EvaluationResult) (item : ItemRecord) : Prop where
  caseId : item.row.caseId = case.id
  latency : item.row.recordedLatencyMs = some output.latencyMs
  results : item.results.map (·.toEvaluationResult) = results.map (·.rounded)

theorem Completes.held (completes : Completes env plan adapter case output results)
    (runId : String) (index : Nat) :
    (executeCase env inputs plan adapter runId index case).item.Held env.storesJson := by
  have stores := completes.stores
  rw [executeCase_answered completes.answered completes.evaluated]
  exact {
    distinct := completes.distinct
    error := by rintro text ⟨⟩
    latency := by rintro latency ⟨⟩; exact stores.latency
    cost := by rintro cost ⟨⟩; exact stores.cost
    payload := by rintro payload ⟨⟩; exact stores.payload
    storable := stores.storable }

theorem executeCase_completes (completes : Completes env plan adapter case output results)
    (runId : String) (index : Nat) :
    (executeCase env inputs plan adapter runId index case).completed = 1 ∧
      (executeCase env inputs plan adapter runId index case).errored = 0 ∧
      ∃ item,
        (executeCase env inputs plan adapter runId index case).item.flush env.storesJson =
          some item ∧ CompletedItem case output results item := by
  rcases (completes.held runId index).flushes with ⟨item, written⟩
  have flushed := (SessionItem.flush_some written).2
  rw [executeCase_answered completes.answered completes.evaluated] at written flushed ⊢
  exact ⟨rfl, rfl, item, written, flushed.caseId, flushed.latency, flushed.results⟩

theorem executeCases_complete (runId : String) {cases : List EvalCase}
    (each : ∀ case ∈ cases, ∃ output results, Completes env plan adapter case output results)
    (index completed errored : Nat) :
    ∃ items, executeCases env inputs plan adapter runId index completed errored cases =
      .ok (items, completed + cases.length, errored) := by
  induction cases generalizing index completed errored with
  | nil => exact ⟨[], rfl⟩
  | cons case cases induction =>
      rcases each case List.mem_cons_self with ⟨output, results, completes⟩
      rcases @executeCase_completes _ inputs _ _ _ _ _ completes runId index with
        ⟨completedOne, erroredOne, item, flushed, -⟩
      rcases induction (fun other member => each other (List.mem_cons_of_mem case member))
        (index + 1) (completed + 1) errored with ⟨items, executed⟩
      refine ⟨item :: items, ?_⟩
      simp only [executeCases, flushed, completedOne, erroredOne, Nat.add_zero, executed, bind,
        Except.bind, pure, Except.pure, List.length_cons]
      rw [Nat.add_assoc, Nat.add_comm 1]

end

/-! ## The cases of the demo -/

section

variable {context : EvaluatorContext} (plain : context.ReadsPlainValues)
variable {loadAdapter : String → Except PythonException Adapter} {installed : String → Bool}

include plain

theorem extractQuestion_casePayload (doc : BaseDoc) (tag : String) :
    (context.environment loadAdapter installed).extractQuestion (doc.casePayload tag) =
      questionForDoc doc.docId :=
  plain.text_str (questionForDoc doc.docId)

end

structure DemoItem (context : EvaluatorContext) (answerFor : BaseDoc → String) (latencyMs : Int)
    (item : ItemRecord) : Prop where
  recorded : item.row.recordedLatencyMs = some latencyMs
  evaluated : ∃ doc ∈ baseDocs, ∃ tag output topK,
    DemoAnswers context topK doc (answerFor doc) latencyMs output ∧
      item.results.map (·.toEvaluationResult) =
        (demoResults context (doc.casePayload tag) output).map (·.rounded)

section

variable {context : EvaluatorContext} (plain : context.ReadsPlainValues) {topK : Int}
variable {loadAdapter : String → Except PythonException Adapter} {installed : String → Bool}
variable {answerFor : BaseDoc → String} {latencyMs : Int}

include plain

theorem executeRun_demo {inputs : ExecutionInputs} {request : RunRequest} {plan : RunPlan}
    (checked : request.check = .ok plan)
    (loads : loadAdapter plan.version.adapterModule = .ok context.demoRun)
    (config : plan.evaluatorConfig.config = demoEvaluatorConfig)
    (held : Column.HoldsInteger latencyMs)
    (asked : ∀ case ∈ plan.cases, ∃ doc ∈ baseDocs, ∃ tag, case.payload = doc.casePayload tag)
    (answers : ∀ doc ∈ baseDocs, ∃ output,
      context.demoRun (questionForDoc doc.docId) plan.version.config = .ok output ∧
        DemoAnswers context topK doc (answerFor doc) latencyMs output) :
    ∃ record, executeRun (context.environment loadAdapter installed) inputs request = .ok record ∧
      record.run = { plan.newRun request.organizationId (inputs.newUuid 0) (inputs.utcNow 0) with
        caseCompleted := plan.cases.length
        caseErrored := 0
        completedAt := some (inputs.utcNow (2 * plan.cases.length + 1))
        status := .completed } ∧
      record.items.map (·.row.caseId) = plan.cases.map (·.id) ∧
      ∀ item ∈ record.items, DemoItem context answerFor latencyMs item := by
  have each : ∀ case ∈ plan.cases, ∃ doc ∈ baseDocs, ∃ tag output,
      case.payload = doc.casePayload tag ∧
      DemoAnswers context topK doc (answerFor doc) latencyMs output ∧
      Completes (context.environment loadAdapter installed) plan context.demoRun case output
        (demoResults context case.payload output) := by
    intro case member
    rcases asked case member with ⟨doc, docMember, tag, payload⟩
    rcases answers doc docMember with ⟨output, ran, outputs⟩
    refine ⟨doc, docMember, tag, output, payload, outputs, ?_, ?_, demoResults_names _ _, ?_⟩
    · rw [payload, extractQuestion_casePayload plain]
      exact ran
    · rw [config]
      exact evaluateCase_demo plain _ _
    · rw [payload]
      exact {
        payload := plain.stores_json _
        latency := outputs.latencyMs ▸ held
        cost := Column.holdsNumeric_of_le_one outputs.estimatedCostUsd.1
          (outputs.estimatedCostUsd.2.trans (by norm_num))
        storable := demoResults_storable plain docMember outputs held }
  have completes : ∀ case ∈ plan.cases, ∃ output results,
      Completes (context.environment loadAdapter installed) plan context.demoRun case output
        results := by
    intro case member
    rcases each case member with ⟨_, -, _, output, -, -, completes⟩
    exact ⟨output, _, completes⟩
  rcases @executeCases_complete _ inputs _ _ (inputs.newUuid 0) _ completes 0 0 0 with
    ⟨items, executed⟩
  have loaded : (context.environment loadAdapter installed).loadAdapter
      plan.version.adapterModule = .ok context.demoRun := loads
  refine ⟨{ run := _, items }, ?_, rfl, ?_, ?_⟩
  · rw [Nat.zero_add] at executed
    rw [executeRun, checked]
    simp only [bind, Except.bind, loaded, Except.mapError, RunPlan.newRun, executed]
    rfl
  · refine map_eq_of_forall₂ (executeCases_ok executed) ?_
    rintro case item ⟨index, flushed⟩
    exact (executeCase_row flushed).2.2
  · intro item member
    rcases forall₂_exists_left (executeCases_ok executed) item member with
      ⟨case, caseMember, index, flushed⟩
    rcases each case caseMember with ⟨doc, docMember, tag, output, payload, outputs, completing⟩
    rcases @executeCase_completes _ inputs _ _ _ _ _ completing (inputs.newUuid 0) index with
      ⟨-, -, stored, written, completed⟩
    cases flushed.symm.trans written
    have results := completed.results
    rw [payload] at results
    exact ⟨completed.latency.trans (congrArg some outputs.latencyMs), doc, docMember, tag, output,
      topK, outputs, results⟩

/-! ## What the metrics read of them -/

omit plain in
theorem itemSample_latency {item : ItemRecord} (demo : DemoItem context answerFor latencyMs item) :
    itemSample .p95LatencyMs item = some (latencyMs : Rat) := by
  rw [itemSample, demo.recorded, Option.map_some]

theorem itemSample_baseline {item : ItemRecord}
    (demo : DemoItem context BaseDoc.answer 120 item) : itemSample .passRate item = some 1 := by
  rcases demo.evaluated with ⟨doc, member, tag, output, topK, answers, results⟩
  have passed := @demoResults_of_expected _ plain topK doc tag output member answers
  have each : ∀ result ∈ item.results,
      result.skipped = false ∧ result.errored = false ∧ result.passed = some true := by
    intro result resultMember
    have evaluated : result.toEvaluationResult ∈ item.results.map (·.toEvaluationResult) :=
      List.mem_map_of_mem resultMember
    rw [results] at evaluated
    rcases List.mem_map.mp evaluated with ⟨evaluation, evaluationMember, same⟩
    rw [← same]
    exact passed evaluation evaluationMember
  have passes : item.Passes := by
    constructor
    · cases held : item.results with
      | nil => rw [held] at results; cases results
      | cons result rest =>
          have first := each result (held ▸ List.mem_cons_self)
          exact ⟨result, List.mem_cons_self, first.1, first.2.1, by rw [first.2.2]; rfl⟩
    · exact fun result resultMember => (each result resultMember).2.1
    · exact fun result resultMember _ => (each result resultMember).2.2
  rw [ItemRecord.itemSample_passRate, if_pos passes]

theorem itemSample_candidate {item : ItemRecord}
    (demo : DemoItem context (fun _ => hallucinatedAnswer) 260 item) :
    itemSample .passRate item = some 0 := by
  rcases demo.evaluated with ⟨doc, member, tag, output, topK, answers, results⟩
  rcases @demoResults_of_hallucinated _ plain topK doc tag output answers with
    ⟨evaluation, evaluationMember, applied, ran, failed⟩
  have fails : ¬item.Passes := by
    intro passes
    have evaluated := List.mem_map_of_mem (f := EvaluationResult.rounded) evaluationMember
    rw [← results] at evaluated
    rcases List.mem_map.mp evaluated with ⟨result, member, same⟩
    have judged : result.skipped = false ∧ result.errored = false ∧ result.passed = some false := by
      rw [same]
      exact ⟨applied, ran, failed⟩
    have passed := passes.passed result member ⟨judged.1, judged.2.1, by rw [judged.2.2]; rfl⟩
    rw [judged.2.2] at passed
    cases passed
  rw [ItemRecord.itemSample_passRate, if_neg fails]

end

/-! ## Equal samples -/

theorem sorted_replicate (count : Nat) (value : Rat) :
    sorted (List.replicate count value) = List.replicate count value :=
  List.perm_replicate.mp (List.perm_insertionSort _ _)

theorem percentile_replicate_zero (count : Nat) {percentileValue : Rat}
    (nonnegative : 0 ≤ percentileValue) :
    percentile (List.replicate count 0) percentileValue = 0 := by
  by_cases empty : List.replicate count (0 : Rat) = []
  · rw [empty, percentile, List.isEmpty_nil, if_pos rfl]
  · have zero (index : Nat) : (List.replicate count (0 : Rat)).getD index 0 = 0 := by
      rw [List.getD_eq_getElem?_getD, List.getElem?_replicate]
      split <;> rfl
    rw [percentile_eq_interpolate empty nonnegative, sorted_replicate, zero, zero]
    simp [interpolate]

theorem statistic_replicate (metric : Metric) {count : Nat} (positive : 0 < count) (value : Rat) :
    metric.statistic (List.replicate count value) = value := by
  have nonempty : List.replicate count (0 : Rat) ≠ [] := by simp; omega
  have moved : List.replicate count value =
      (List.replicate count (0 : Rat)).map (· + value) := by simp
  have zero : metric.statistic (List.replicate count 0) = 0 := by
    cases metric with
    | p95LatencyMs => exact percentile_replicate_zero count (by norm_num)
    | _ => simp [Metric.statistic, average]
  rw [moved, metric.statistic_eq, metric.location.shift value nonempty, ← metric.statistic_eq, zero,
    zero_add]

section

variable {items : List ItemRecord} {metric : Metric} {value : Rat}

theorem filterMap_equal (sampled : ∀ item ∈ items, itemSample metric item = some value) :
    items.filterMap (itemSample metric) = List.replicate items.length value := by
  rw [List.filterMap_congr sampled, List.filterMap_eq_map', List.map_const']

theorem statistic_of_equal (distinct : (items.map (·.row.caseId)).Nodup) (nonempty : items ≠ [])
    (sampled : ∀ item ∈ items, itemSample metric item = .some value) :
    metric.statistic (caseSamples (collectRunMetricSamples items) metric).values = value := by
  have permuted := values_collectRunMetricSamples distinct metric
  rw [filterMap_equal sampled] at permuted
  rw [metric.statistic_perm permuted, statistic_replicate metric (List.length_pos_iff.mpr nonempty)]

theorem mem_caseIds_collectItem {samples : MetricSamples} {item : ItemRecord} {value : Rat}
    (sampled : itemSample metric item = .some value) (caseId : String) :
    caseId ∈ (caseSamples (collectItem samples item) metric).caseIds ↔
      caseId = item.row.caseId ∨ caseId ∈ (caseSamples samples metric).caseIds := by
  rw [caseSamples, collectItem_apply, sampled, Option.getD_some, CaseSamples.insert,
    Finset.mem_insert]

theorem mem_caseIds_foldl {samples : MetricSamples}
    (sampled : ∀ item ∈ items, itemSample metric item = .some value) (caseId : String) :
    caseId ∈ (caseSamples (items.foldl collectItem samples) metric).caseIds ↔
      caseId ∈ (caseSamples samples metric).caseIds ∨ ∃ item ∈ items, item.row.caseId = caseId := by
  induction items generalizing samples with
  | nil => simp
  | cons item items induction =>
      rcases List.forall_mem_cons.mp sampled with ⟨first, rest⟩
      rw [List.foldl_cons, induction rest, mem_caseIds_collectItem first, List.exists_mem_cons_iff,
        or_comm (a := caseId = item.row.caseId), or_assoc, eq_comm (a := caseId)]

theorem mem_caseIds (sampled : ∀ item ∈ items, itemSample metric item = .some value)
    (caseId : String) :
    caseId ∈ (caseSamples (collectRunMetricSamples items) metric).caseIds ↔
      caseId ∈ items.map (·.row.caseId) := by
  have permuted := List.perm_insertionSort
    (fun left right : ItemRecord => left.row.caseId ≤ right.row.caseId) items
  rw [collectRunMetricSamples, @mem_caseIds_foldl _ metric value _
    (fun item member => sampled item (permuted.mem_iff.mp member)), List.mem_map]
  simp [caseSamples, CaseSamples.empty, permuted.mem_iff]

end

/-! ## The verdict -/

section

variable {baseline candidate : List ItemRecord}
variable (distinct : (baseline.map (·.row.caseId)).Nodup)
variable (same : candidate.map (·.row.caseId) = baseline.map (·.row.caseId))
variable (nonempty : baseline ≠ [])

include distinct same nonempty

/-- A metric whose samples all regress by more than the tolerance fails. -/
theorem metricVerdict_eq_fail_of_equal {rule : GateRule} {before after : Rat} (draws : Draws)
    (stored : HasDecimals 6 before ∧ HasDecimals 6 after)
    (baselineSamples : ∀ item ∈ baseline, itemSample rule.metric item = .some before)
    (candidateSamples : ∀ item ∈ candidate, itemSample rule.metric item = .some after)
    (regressed : rule.direction.Regressed rule.tolerance (after - before)) :
    rule.metricVerdict (buildMetricReport draws (sampleInput (collectRunMetricSamples baseline))
      (sampleInput (collectRunMetricSamples candidate)) rule.metric) = .fail := by
  have shared (caseId : String) :
      caseId ∈ sharedCaseIds (collectRunMetricSamples baseline) (collectRunMetricSamples candidate)
        rule.metric ↔ caseId ∈ baseline.map (·.row.caseId) := by
    rw [sharedCaseIds, Finset.mem_inter, mem_caseIds baselineSamples, mem_caseIds candidateSamples,
      same, and_self]
  have samples : ∀ caseId ∈ baseline.map (·.row.caseId),
      (caseSamples (collectRunMetricSamples baseline) rule.metric).sample caseId = before ∧
        (caseSamples (collectRunMetricSamples candidate) rule.metric).sample caseId = after := by
    intro caseId member
    constructor
    · rcases List.mem_map.mp member with ⟨item, itemMember, rfl⟩
      exact sample_collectRunMetricSamples distinct itemMember (baselineSamples item itemMember)
    · rw [← same] at member distinct
      rcases List.mem_map.mp member with ⟨item, itemMember, rfl⟩
      exact sample_collectRunMetricSamples distinct itemMember (candidateSamples item itemMember)
  apply metricVerdict_eq_fail_of_regressed
  · rcases List.exists_mem_of_ne_nil baseline nonempty with ⟨item, member⟩
    exact ⟨item.row.caseId, (shared _).mpr (List.mem_map_of_mem member)⟩
  · intro caseId member
    rcases samples caseId ((shared caseId).mp member) with ⟨first, second⟩
    rw [first, second]
    exact stored
  · intro caseId member
    rcases samples caseId ((shared caseId).mp member) with ⟨first, second⟩
    rw [first, second]
    exact regressed

end

end EvalForge
