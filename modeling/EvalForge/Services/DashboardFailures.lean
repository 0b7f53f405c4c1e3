import EvalForge.Api.TenantConsistency
import EvalForge.Evaluators.Acceptance
import EvalForge.Services.CollectedSamples
import EvalForge.Services.DashboardAggregation
import EvalForge.Services.ExecutedRows
import Mathlib.Data.List.ReduceOption

/-! # The failures of the dashboard

The gate counts an item as failed unless all of its applicable evaluators pass.
The trace cases and the tags of the dashboard count it as failed when an
evaluator or its execution did.
-/

namespace EvalForge

open Foundation

/-! ## The statistics of the tags -/

/-- The two dictionaries of `_run_tag_stats`, read with the default `0`. -/
structure TagStats where
  counts : String → Nat
  failures : String → Nat
  deriving Inhabited

def increment (tag : String) (counts : String → Nat) : String → Nat :=
  fun other => if other = tag then counts tag + 1 else counts other

/-- The condition of `_run_tag_stats`, which repeats that of `_build_trace_cases`. -/
def ItemRows.failedExecution (rows : ItemRows) : Bool :=
  rows.results.any (fun result =>
    (result.passed == some false || result.errored) && !result.skipped) ||
  rows.item.status.failed

def TagStats.countItem (text : Json → String) (stats : TagStats) (rows : ItemRows) : TagStats :=
  match rows.case with
  | none => stats
  | some case =>
      let tag := firstTag text case.payload
      { counts := increment tag stats.counts
        failures :=
          if rows.failedExecution then increment tag stats.failures else stats.failures }

def runTagStats (text : Json → String) (items : List ItemRows) : TagStats :=
  items.foldl (TagStats.countItem text) { counts := fun _ => 0, failures := fun _ => 0 }

section TagStats

variable {text : Json → String} {rows : ItemRows} {items : List ItemRows} {tag : String}

theorem ItemRows.failedExecution_eq (rows : ItemRows) :
    rows.failedExecution = rows.failure.isSome := by
  unfold failedExecution failure
  cases found : rows.results.find? (·.failed) with
  | some result =>
      have failed : rows.results.any (fun result =>
          (result.passed == some false || result.errored) && !result.skipped) = true :=
        any_of_find? found
      simp [failed]
  | none =>
      have passed : rows.results.any (fun result =>
          (result.passed == some false || result.errored) && !result.skipped) = false := by
        rw [List.any_eq_false]
        exact List.find?_eq_none.mp found
      rw [passed, Bool.false_or]
      cases rows.item.status.failed <;> rfl

theorem runTagStats_counts_of (stats : TagStats) :
    (items.foldl (TagStats.countItem text) stats).counts tag =
      stats.counts tag + (runTags text items).count tag := by
  induction items generalizing stats with
  | nil => rfl
  | cons rows items induction =>
      rw [List.foldl_cons, induction, runTags, runTags]
      cases cased : rows.case with
      | none => simp [TagStats.countItem, cased]
      | some case =>
          by_cases same : tag = firstTag text case.payload
          · subst same
            simp [TagStats.countItem, cased, increment]
            omega
          · simp [TagStats.countItem, cased, increment, same, Ne.symm same]

theorem runTagStats_failures_of (stats : TagStats) :
    (items.foldl (TagStats.countItem text) stats).failures tag =
      stats.failures tag + (runTags text (items.filter (·.failure.isSome))).count tag := by
  induction items generalizing stats with
  | nil => rfl
  | cons rows items induction =>
      rw [List.foldl_cons, induction]
      cases failed : rows.failure.isSome with
      | false =>
          rw [List.filter_cons_of_neg (by simp [failed])]
          cases cased : rows.case <;>
            simp [TagStats.countItem, cased, ItemRows.failedExecution_eq, failed]
      | true =>
          rw [List.filter_cons_of_pos (by simp [failed]), runTags, runTags]
          cases cased : rows.case with
          | none => simp [TagStats.countItem, cased]
          | some case =>
              by_cases same : tag = firstTag text case.payload
              · subst same
                simp [TagStats.countItem, cased, increment, ItemRows.failedExecution_eq, failed]
                omega
              · simp [TagStats.countItem, cased, increment, ItemRows.failedExecution_eq, failed,
                  same, Ne.symm same]

/-- The breakdown is read from the statistics of the two runs. -/
theorem buildTagBreakdown_eq (baseline candidate : RunRows) :
    buildTagBreakdown text baseline candidate =
      ((runTags text baseline.items ++ runTags text candidate.items ++
          runTags text (candidate.items.filter (·.failure.isSome))).dedup.insertionSort
            (· ≤ ·)).map fun tag =>
        { tag
          baselineCaseCount := (runTagStats text baseline.items).counts tag
          candidateCaseCount := (runTagStats text candidate.items).counts tag
          candidateFailureCount := (runTagStats text candidate.items).failures tag
          candidatePassRate := candidatePassRate ((runTagStats text candidate.items).counts tag)
            ((runTagStats text candidate.items).failures tag) } := by
  simp only [runTagStats, runTagStats_counts_of, runTagStats_failures_of, zero_add]
  rfl

theorem sum_map_count {tags values : List String} (nodup : tags.Nodup)
    (covers : ∀ value ∈ values, value ∈ tags) :
    (tags.map fun tag => values.count tag).sum = values.length := by
  have counted : ∑ tag ∈ tags.toFinset, (values : Multiset String).count tag =
      (values : Multiset String).card :=
    Multiset.sum_count_eq_card (by simpa using covers)
  rw [List.sum_toFinset _ nodup] at counted
  simpa using counted

theorem sum_map_count_sorted {tags values : List String}
    (covers : ∀ value ∈ values, value ∈ tags) :
    ((tags.dedup.insertionSort (· ≤ ·)).map fun tag => values.count tag).sum = values.length := by
  apply sum_map_count ((List.perm_insertionSort _ _).nodup_iff.mpr (List.nodup_dedup _))
  intro value member
  rw [List.mem_insertionSort, List.mem_dedup]
  exact covers value member

theorem sum_candidateCaseCount (baseline candidate : RunRows) :
    ((buildTagBreakdown text baseline candidate).map (·.candidateCaseCount)).sum =
      (runTags text candidate.items).length := by
  rw [buildTagBreakdown, List.map_map]
  apply sum_map_count_sorted
  intro tag member
  exact List.mem_append_left _ (List.mem_append_right _ member)

theorem sum_candidateFailureCount (baseline candidate : RunRows) :
    ((buildTagBreakdown text baseline candidate).map (·.candidateFailureCount)).sum =
      (runTags text (candidate.items.filter (·.failure.isSome))).length := by
  rw [buildTagBreakdown, List.map_map]
  apply sum_map_count_sorted
  intro tag member
  exact List.mem_append_right _ member

theorem length_runTags (cased : ∀ rows ∈ items, rows.case.isSome = true) :
    (runTags text items).length = items.length := by
  induction items with
  | nil => rfl
  | cons rows items induction =>
      rcases Option.isSome_iff_exists.mp (cased rows List.mem_cons_self) with ⟨case, found⟩
      have rest := induction fun other member => cased other (List.mem_cons_of_mem _ member)
      rw [runTags] at rest
      simp [runTags, found, rest]

end TagStats

/-! ## The trace cases -/

namespace ItemRows

variable (text : Json → String) (rows : ItemRows)

def Listed : Prop := rows.failure.isSome = true ∧ rows.case.isSome = true

def Counted : Prop :=
  ∃ case, rows.case = some case ∧ ∀ stats : TagStats,
    (stats.countItem text rows).failures (firstTag text case.payload) =
      stats.failures (firstTag text case.payload) + 1

variable {text rows}

theorem counted_iff : rows.Counted text ↔ rows.Listed := by
  unfold Counted Listed
  cases cased : rows.case with
  | none => simp
  | some case =>
      cases failed : rows.failure.isSome <;>
        simp [TagStats.countItem, cased, increment, failedExecution_eq, failed]

end ItemRows

section TraceCases

variable {floats : FloatConversion} {text : Json → String} {baseline candidate : RunRows}
variable {rows : ItemRows} {traceCases : List DashboardTraceCase} {adapterModule : String}

theorem buildTraceCase_listed {row : DashboardTraceCase}
    (built : buildTraceCase floats text baseline adapterModule rows = .ok (some row)) :
    rows.Listed := by
  unfold buildTraceCase at built
  split at built
  · next failedResult case failed cased => simp [ItemRows.Listed, failed, cased]
  · cases built

theorem buildTraceCase_of_listed (listed : rows.Listed) {row : Option DashboardTraceCase}
    (built : buildTraceCase floats text baseline adapterModule rows = .ok row) :
    row.isSome = true := by
  rcases listed with ⟨failed, cased⟩
  rcases Option.isSome_iff_exists.mp failed with ⟨failedResult, failed⟩
  rcases Option.isSome_iff_exists.mp cased with ⟨case, cased⟩
  have returns : Returns (fun row : Option DashboardTraceCase => row.isSome = true)
      (buildTraceCase floats text baseline adapterModule rows) := by
    unfold buildTraceCase
    simp only [failed, cased]
    apply Returns.bind
    intro shown
    exact .pure rfl
  exact returns row built

/-- The rows that are returned are those of the listed items. -/
theorem listed_iff_mem (built : buildTraceCases floats text baseline candidate = .ok traceCases)
    (member : rows ∈ candidate.items) :
    rows.Listed ↔ ∃ row ∈ traceCases, buildTraceCase floats text baseline
      ((candidate.version.map (·.adapterModule)).getD "unknown") rows = .ok (some row) := by
  constructor
  · intro listed
    unfold buildTraceCases at built
    cases mapped : (candidate.items.insertionSort fun rows other =>
        rows.item.caseId ≤ other.item.caseId).mapM (buildTraceCase floats text baseline
          ((candidate.version.map (·.adapterModule)).getD "unknown")) with
    | error exc => simp [mapped, bind, Except.bind] at built
    | ok optional =>
        simp only [mapped, bind, Except.bind, pure, Except.pure] at built
        cases built
        have related := (forall₂_of_mapM mapped).flip
        rcases forall₂_exists_left related rows ((List.mem_insertionSort _).mpr member) with
          ⟨row, rowMember, rowBuilt⟩
        rcases Option.isSome_iff_exists.mp (buildTraceCase_of_listed listed rowBuilt) with
          ⟨shown, rfl⟩
        refine ⟨shown, ?_, rowBuilt⟩
        rw [List.mem_insertionSort, List.reduceOption_mem_iff]
        exact rowMember
  · rintro ⟨row, -, rowBuilt⟩
    exact buildTraceCase_listed rowBuilt

end TraceCases

/-! ## The samples of the gate -/

section Samples

theorem EvaluationResult.Shaped.cases_failed {result : EvalResultRow}
    (shaped : result.toEvaluationResult.Shaped result.evaluatorName) :
    (result.skipped = true ∧ result.errored = false ∧ result.passed = none) ∨
      (result.skipped = false ∧ result.failed = true) ∨
      (result.skipped = false ∧ result.errored = false ∧ result.passed = some true) := by
  have failed : result.failed = ((result.passed == some false || result.errored) &&
    !result.skipped) := rfl
  rw [failed]
  generalize result.evaluatorName = name at shaped
  generalize result.toEvaluationResult = evaluated at shaped ⊢
  cases shaped with
  | skipped details errorMessage => simp
  | scored score passed details => cases passed <;> simp
  | errored errorMessage => simp

theorem casePassed_of_none_failed {rows : ItemRows}
    (shaped : ∀ result ∈ rows.results,
      result.toEvaluationResult.Shaped result.evaluatorName)
    (someCounts : ∃ result ∈ rows.results, ¬result.skipped = true)
    (noneFailed : ∀ result ∈ rows.results, ¬result.failed = true) :
    rows.casePassed = true := by
  have fine : ∀ result ∈ rows.results, result.errored = false ∧
      (result.skipped = false → result.passed = some true) := by
    intro result member
    rcases (shaped result member).cases_failed with
      ⟨skip, errored, _⟩ | ⟨_, failed⟩ | ⟨_, errored, passed⟩
    · exact ⟨errored, by simp [skip]⟩
    · exact absurd failed (noneFailed result member)
    · exact ⟨errored, fun _ => passed⟩
  rcases someCounts with ⟨counted, countedMember, notSkipped⟩
  have counts := fine counted countedMember
  simp only [ItemRows.casePassed, Bool.and_eq_true, Bool.not_eq_true', List.all_eq_true,
    List.mem_filter, List.any_eq_false, List.isEmpty_eq_false_iff_exists_mem]
  refine ⟨⟨⟨counted, countedMember, ?_⟩, ?_⟩, ?_⟩
  · simp [counts.1, counts.2 (by simpa using notSkipped), notSkipped]
  · intro result member
    simp [(fine result member).1]
  · rintro result ⟨member, applicable⟩
    have notSkipped : result.skipped = false := applicable.1.1
    simp [(fine result member).2 notSkipped]

theorem not_casePassed_of_skipped {rows : ItemRows}
    (skipped : ∀ result ∈ rows.results, result.skipped = true) : rows.casePassed = false := by
  have notApplicable : rows.results.filter (fun result =>
      !result.skipped && !result.errored && result.passed.isSome) = [] := by
    rw [List.filter_eq_nil_iff]
    intro result member
    simp [skipped result member]
  simp [ItemRows.casePassed, notApplicable]

theorem not_casePassed_of_failed {rows : ItemRows} {result : EvalResultRow}
    (member : result ∈ rows.results) (failed : result.failed = true) :
    rows.casePassed = false := by
  simp only [ItemRows.casePassed, Bool.and_eq_false_iff, Bool.not_eq_false', List.any_eq_true,
    List.all_eq_false, List.mem_filter]
  simp only [EvalResultRow.failed, Bool.and_eq_true, Bool.or_eq_true, beq_iff_eq,
    Bool.not_eq_true'] at failed
  by_cases errored : result.errored = true
  · exact .inl (.inr ⟨result, member, errored⟩)
  · right
    have passed := failed.1.resolve_right errored
    exact ⟨result, ⟨member, by simp [failed.2, errored, passed]⟩, by simp [passed]⟩

theorem casePassed_eq_false_iff {rows : ItemRows}
    (shaped : ∀ result ∈ rows.results,
      result.toEvaluationResult.Shaped result.evaluatorName) :
    rows.casePassed = false ↔
      (∀ result ∈ rows.results, result.skipped = true) ∨
        ∃ result ∈ rows.results, result.failed = true := by
  constructor
  · intro notPassed
    by_contra neither
    rw [not_or] at neither
    rcases neither with ⟨someCounts, noneFailed⟩
    push Not at someCounts noneFailed
    rw [casePassed_of_none_failed shaped someCounts noneFailed] at notPassed
    cases notPassed
  · rintro (skipped | ⟨result, member, failed⟩)
    · exact not_casePassed_of_skipped skipped
    · exact not_casePassed_of_failed member failed

/-- Unless a result failed, the results are all skipped exactly if the
execution failed. -/
def ItemRows.FailsAlike (rows : ItemRows) : Prop :=
  (∃ result ∈ rows.results, result.failed = true) ∨
    ((∀ result ∈ rows.results, result.skipped = true) ↔ rows.item.status.failed = true)

theorem failsAlike_iff {rows : ItemRows}
    (shaped : ∀ result ∈ rows.results,
      result.toEvaluationResult.Shaped result.evaluatorName) :
    (rows.casePassed = false ↔ rows.failure.isSome = true) ↔ rows.FailsAlike := by
  have listed : rows.failure.isSome = true ↔
      (∃ result ∈ rows.results, result.failed = true) ∨ rows.item.status.failed = true := by
    rw [← ItemRows.failedExecution_eq, ItemRows.failedExecution, Bool.or_eq_true,
      List.any_eq_true]
    rfl
  rw [casePassed_eq_false_iff shaped, listed, ItemRows.FailsAlike]
  by_cases failed : ∃ result ∈ rows.results, result.failed = true
  · simp [failed]
  · simp [failed]

end Samples

/-! ## Both on the rows of a run -/

namespace Database

variable (db : Database)

def passRateSample (runId caseId : String) : Rat :=
  (caseSamples (collectRunMetricSamples (db.itemRecords runId)) .passRate).sample caseId

variable {db} {run : EvalRunRow} {item : EvalRunItem}

def itemRecord (db : Database) (row : EvalRunItem) : ItemRecord where
  row := row
  results := (db.resultsOf row.id).map fun result =>
    { toStoredResult := result.toStoredResult, writtenBy := 0 }

theorem itemRecords_eq (runId : String) :
    db.itemRecords runId = (db.itemsOf runId).map db.itemRecord := rfl

theorem distinct_itemRecords (consistent : db.Consistent) (runId : String) :
    ((db.itemRecords runId).map (·.row.caseId)).Nodup := by
  rw [itemRecords_eq, List.map_map, List.Nodup, List.pairwise_map]
  have keyed := consistent.keyed.evalRunItems.filter (·.runId == runId)
  refine List.Pairwise.imp_of_mem ?_ keyed
  intro left right leftMember rightMember free same
  have leftRun := (List.mem_filter.mp leftMember).2
  have rightRun := (List.mem_filter.mp rightMember).2
  simp only [beq_iff_eq] at leftRun rightRun
  have sameCase : left.caseId = right.caseId := same
  simp [EvalRunItem.conflicts, leftRun, rightRun, sameCase] at free

theorem itemRecord_casePassed (row : EvalRunItem) :
    (db.itemRecord row).casePassed = (db.itemRows row).casePassed := by
  simp only [ItemRecord.casePassed, ItemRows.casePassed, itemRows, itemRecord, List.filter_map,
    List.isEmpty_map, List.any_map, List.all_map]
  rfl

theorem passRateSample_eq (consistent : db.Consistent) (member : item ∈ db.itemsOf run.id) :
    db.passRateSample run.id item.caseId = if (db.itemRows item).casePassed then 1 else 0 := by
  rw [← itemRecord_casePassed]
  apply sample_collectRunMetricSamples (distinct_itemRecords consistent run.id)
    (List.mem_map_of_mem member)
  rfl

theorem passRateSample_eq_zero_iff (consistent : db.Consistent)
    (member : item ∈ db.itemsOf run.id) :
    db.passRateSample run.id item.caseId = 0 ↔ (db.itemRows item).casePassed = false := by
  rw [passRateSample_eq consistent member]
  cases (db.itemRows item).casePassed <;> simp

theorem statistic_passRate (consistent : db.Consistent) (runId : String) :
    Metric.passRate.statistic
        (caseSamples (collectRunMetricSamples (db.itemRecords runId)) .passRate).values =
      if (db.itemsOf runId).isEmpty then 0
      else ((db.itemsOf runId).countP fun item => (db.itemRows item).casePassed : Nat) /
        ((db.itemsOf runId).length : Rat) := by
  have collected := values_collectRunMetricSamples (distinct_itemRecords consistent runId)
    .passRate
  have samples : (db.itemRecords runId).filterMap (itemSample .passRate) =
      (db.itemsOf runId).map fun item => if (db.itemRows item).casePassed then (1 : Rat) else 0 := by
    rw [itemRecords_eq, List.filterMap_map, ← List.filterMap_eq_map'
      (f := fun item => if (db.itemRows item).casePassed then (1 : Rat) else 0)]
    congr 1
    funext item
    simp only [Function.comp_apply, itemSample, itemRecord_casePassed]
  rw [samples] at collected
  have sum : ((db.itemsOf runId).map fun item =>
      if (db.itemRows item).casePassed then (1 : Rat) else 0).sum =
      ((db.itemsOf runId).countP fun item => (db.itemRows item).casePassed : Nat) := by
    induction db.itemsOf runId with
    | nil => rfl
    | cons item items induction =>
        rw [List.map_cons, List.sum_cons, induction, List.countP_cons]
        split
        · push_cast
          ring
        · push_cast
          ring
  simp only [Metric.statistic, average, collected.sum_eq, collected.length_eq,
    List.isEmpty_iff_length_eq_zero, List.length_map, sum]

end Database

/-- For every item of the candidate run the gate's sample is zero exactly if the
dashboard lists and counts it as a failure, and the rate that the tags give is
the candidate's point. -/
structure FailuresAgree (text : Json → String) (draws : Draws) (db : Database)
    (run : EvalRunRow) (baseline : RunRows) (baselineSamples : MetricSamples) : Prop where
  items : ∀ item ∈ db.itemsOf run.id,
    (db.passRateSample run.id item.caseId = 0 ↔
      (db.itemRows item).Listed ∧ (db.itemRows item).Counted text)
  rate :
    let tags := buildTagBreakdown text baseline (db.runRows run)
    let caseCount : Nat := (tags.map (·.candidateCaseCount)).sum
    let failureCount : Nat := (tags.map (·.candidateFailureCount)).sum
    caseCount ≠ 0 →
      roundTo 6 (1 - failureCount / caseCount : Rat) =
        (buildMetricReport draws (sampleInput baselineSamples)
          (sampleInput (collectRunMetricSamples (db.itemRecords run.id)))
          .passRate).candidatePoint

section Agreement

variable {text : Json → String} {draws : Draws} {db : Database} {run : EvalRunRow}
variable {baseline : RunRows} {baselineSamples : MetricSamples}

theorem FailuresAgree.of_items (consistent : db.Consistent)
    (cased : ∀ item ∈ db.itemsOf run.id, (db.itemRows item).case.isSome = true)
    (alike : ∀ item ∈ db.itemsOf run.id, ((db.itemRows item).casePassed = false ↔
      (db.itemRows item).failure.isSome = true)) :
    FailuresAgree text draws db run baseline baselineSamples where
  items item member := by
    rw [Database.passRateSample_eq_zero_iff consistent member, ItemRows.counted_iff, and_self,
      alike item member, ItemRows.Listed, and_iff_left (cased item member)]
  rate := by
    have rowsCased : ∀ rows ∈ (db.runRows run).items, rows.case.isSome = true := by
      intro rows member
      rcases List.mem_map.mp member with ⟨item, itemMember, rfl⟩
      exact cased item itemMember
    have failures : ((db.runRows run).items.filter (·.failure.isSome)).length =
        (db.itemsOf run.id).countP fun item => !(db.itemRows item).casePassed := by
      rw [← List.countP_eq_length_filter, Database.runRows, List.countP_map]
      apply List.countP_congr
      intro item member
      rw [Function.comp_apply, Bool.not_eq_true', alike item member]
    have total := List.length_eq_countP_add_countP
      (fun item => (db.itemRows item).casePassed) (l := db.itemsOf run.id)
    simp only [Bool.not_eq_true, Bool.decide_eq_false] at total
    simp only [sum_candidateCaseCount, sum_candidateFailureCount,
      length_runTags rowsCased,
      length_runTags fun rows member => rowsCased rows (List.mem_of_mem_filter member), failures]
    rw [candidatePoint_eq, Database.statistic_passRate consistent]
    intro positiveCount
    have length : (db.runRows run).items.length = (db.itemsOf run.id).length := by
      simp [Database.runRows]
    rw [length] at positiveCount ⊢
    have nonempty : (db.itemsOf run.id).isEmpty = false := by
      simpa using positiveCount
    have positive : ((db.itemsOf run.id).length : Rat) ≠ 0 := by exact_mod_cast positiveCount
    rw [nonempty, if_neg Bool.false_ne_true]
    congr 1
    field_simp
    have counted : ((db.itemsOf run.id).length : Rat) =
        ((db.itemsOf run.id).countP fun item => (db.itemRows item).casePassed : Nat) +
          ((db.itemsOf run.id).countP fun item => !(db.itemRows item).casePassed : Nat) := by
      exact_mod_cast total
    linarith

end Agreement

/-- The failures of the dashboard are those of the gate exactly if no item
without a failed result is skipped by all of its evaluators although it was
executed, or passed although its execution failed. -/
theorem dashboard_failures_iff (context : EvaluatorContext)
    (loadAdapter : String → Except PythonException Adapter) (installed : String → Bool)
    (floats : FloatConversion) (draws : Draws) (db : Database) (consistent : db.Consistent)
    (run : EvalRunRow) (plan : RunPlan)
    (executed : db.ExecutedRun (context.environment loadAdapter installed) run plan)
    (baseline : RunRows) (baselineSamples : MetricSamples) :
    (∀ traceCases, buildTraceCases floats context.text baseline (db.runRows run) =
        .ok traceCases → ∀ item ∈ db.itemsOf run.id,
          ((db.itemRows item).Listed ↔ ∃ row ∈ traceCases,
            buildTraceCase floats context.text baseline
              (((db.runRows run).version.map (·.adapterModule)).getD "unknown")
              (db.itemRows item) = .ok (some row))) ∧
      (FailuresAgree context.text draws db run baseline baselineSamples ↔
        ∀ item ∈ db.itemsOf run.id, (db.itemRows item).FailsAlike) := by
  have cased : ∀ item ∈ db.itemsOf run.id, (db.itemRows item).case.isSome = true := by
    intro item member
    rcases executed.case item member with ⟨case, found⟩
    exact Option.isSome_iff_exists.mpr ⟨case, found⟩
  have shaped : ∀ item ∈ db.itemsOf run.id, ∀ result ∈ (db.itemRows item).results,
      result.toEvaluationResult.Shaped result.evaluatorName :=
    fun item member => executed.shaped member
  constructor
  · intro traceCases built item member
    exact listed_iff_mem built (List.mem_map_of_mem member)
  · constructor
    · intro agree item member
      rw [← failsAlike_iff (shaped item member),
        ← Database.passRateSample_eq_zero_iff consistent member, agree.items item member,
        ItemRows.counted_iff, and_self, ItemRows.Listed, and_iff_left (cased item member)]
    · intro alike
      exact .of_items consistent cased fun item member =>
        (failsAlike_iff (shaped item member)).mpr (alike item member)

namespace Scenario

def comparedRequests (config : Json) (payloads : List Json) : List (String × TenantRequest) := [
  ("app", .createApp { name := "Assistant" }),
  ("version", .createAppVersion "app-0" { name := "v1", adapterModule := "app.adapters.demo_rag" }),
  ("suite", .createEvalSuite "app-0" { name := "Questions" }),
  ("case", .importEvalCases "suite-0" { cases := payloads.map fun payload => { payload } }),
  ("config", .createEvaluatorConfig { name := "Gate", config }),
  ("baseline", devRun),
  ("candidate", devRun),
  ("comparison", .createComparison
    { baselineRunId := "baseline-0", candidateRunId := "candidate-0" })]

def comparingEvents (config : Json) (payloads : List Json) : List Event :=
  (comparedRequests config payloads).map fun (name, request) =>
    .call { namedCall name {} (.tenant request) with
      deployment := { devDeployment with env := plainEnvironment } }

def comparedEvents (config payload : Json) : List Event := comparingEvents config [payload]

def comparedState (config payload : Json) : Database := stateAfter (comparedEvents config payload)

def comparedPlan (config payload : Json) : RunPlan where
  version := {
    id := "version-0", appId := "app-0", config := .dict []
    adapterModule := "app.adapters.demo_rag" }
  suite := { id := "suite-0", appId := "app-0" }
  evaluatorConfig := { id := "config-0", config }
  cases := [{ id := "case-0", payload }]

def comparedRun (name : String) (config payload : Json) : EvalRunRow where
  toEvalRun :=
    { (comparedPlan config payload).newRun defaultOrganizationId (issuedId name 0) 0 with
      status := .completed
      completedAt := some 3
      caseCompleted := 1 }
  createdAt := 0

def comparedItem (name : String) (config payload : Json) : Option ItemRecord :=
  (executeCase plainEnvironment (namedReadings name).run.execution (comparedPlan config payload)
    (fun _ _ => .ok plainOutput) (issuedId name 0) 0 { id := "case-0", payload }).item.flush
      plainEnvironment.storesJson

structure HoldsRun (db : Database) (name : String) (config payload : Json)
    (item : ItemRecord) : Prop where
  flushed : comparedItem name config payload = some item
  configured : (db.evaluatorConfig? "config-0").map (·.toEvaluatorConfig) =
    some { id := "config-0", config }
  accepted : ∃ accepted, plainEnvironment.validateEvaluatorConfig config = .ok accepted
  cases : (db.case? item.row.caseId).map (·.toEvalCase) = some { id := "case-0", payload }
  items : db.itemsOf (issuedId name 0) = [item.row]
  results : (db.resultsOf item.row.id).map (·.toEvaluationResult) =
    item.results.map (·.toEvaluationResult)

theorem HoldsRun.executed {db : Database} {name : String} {config payload : Json}
    {item : ItemRecord} (holds : HoldsRun db name config payload item) :
    db.ExecutedRun plainEnvironment (comparedRun name config payload)
      (comparedPlan config payload) where
  finalised := rfl
  configured := holds.configured
  accepted := holds.accepted
  items row member := by
    have listed : row ∈ [item.row] := holds.items ▸ member
    cases List.mem_singleton.mp listed
    rcases Option.map_eq_some_iff.mp holds.cases with ⟨case, found, same⟩
    refine ⟨case, item, found, ?_, rfl, holds.results⟩
    rw [same]
    exact .synchronous _ _ _ _ _ holds.flushed

def openPayload : Json := .dict [("input", .str "Which module?")]

def latencyState : Database := comparedState (namedConfig "latency_threshold") openPayload

def latencyRun : EvalRunRow := comparedRun "candidate" (namedConfig "latency_threshold") openPayload

set_option maxRecDepth 100000 in
theorem latencyState_holds :
    ∃ item, HoldsRun latencyState "candidate" (namedConfig "latency_threshold") openPayload item :=
  ⟨_, {
    flushed := by with_unfolding_all rfl
    configured := by with_unfolding_all rfl
    accepted := ⟨_, namedConfig_accepted (by rfl)⟩
    cases := by with_unfolding_all rfl
    items := by with_unfolding_all rfl
    results := by with_unfolding_all rfl }⟩

def skippedState : Database := comparedState (namedConfig "exact_match") openPayload

set_option maxRecDepth 100000 in
theorem skippedState_holds :
    ∃ item, HoldsRun skippedState "candidate" (namedConfig "exact_match") openPayload item :=
  ⟨_, {
    flushed := by with_unfolding_all rfl
    configured := by with_unfolding_all rfl
    accepted := ⟨_, namedConfig_accepted (by rfl)⟩
    cases := by with_unfolding_all rfl
    items := by with_unfolding_all rfl
    results := by with_unfolding_all rfl }⟩

theorem skippedState_failing : ∀ row ∈ skippedState.itemsOf "candidate-0",
    (skippedState.itemRows row).casePassed = false ∧
      (skippedState.itemRows row).failure.isSome = false := by
  decide +kernel

end Scenario

theorem dashboard_failures_iff_scenario :
    (∀ traceCases, buildTraceCases Scenario.devDeployment.floats Scenario.plainContext.text
        (Scenario.latencyState.runRows Scenario.latencyRun)
        (Scenario.latencyState.runRows Scenario.latencyRun) = .ok traceCases →
      ∀ item ∈ Scenario.latencyState.itemsOf "candidate-0",
        ((Scenario.latencyState.itemRows item).Listed ↔
          ∃ row ∈ traceCases, buildTraceCase Scenario.devDeployment.floats
            Scenario.plainContext.text (Scenario.latencyState.runRows Scenario.latencyRun)
            (((Scenario.latencyState.runRows Scenario.latencyRun).version.map
              (·.adapterModule)).getD "unknown")
            (Scenario.latencyState.itemRows item) = .ok (some row))) ∧
      (FailuresAgree Scenario.plainContext.text Scenario.firstIndex Scenario.latencyState
          Scenario.latencyRun (Scenario.latencyState.runRows Scenario.latencyRun) (fun _ => none) ↔
        ∀ item ∈ Scenario.latencyState.itemsOf "candidate-0",
          (Scenario.latencyState.itemRows item).FailsAlike) := by
  rcases Scenario.latencyState_holds with ⟨item, holds⟩
  exact dashboard_failures_iff Scenario.plainContext _ _ _ _ _
    (Database.Reachable.consistent ⟨0, Scenario.comparedEvents _ _, rfl⟩) _ _ holds.executed _ _

set_option maxRecDepth 100000 in
/-- An item that its only evaluator skips has the sample `0.0`, and the
dashboard does not list it. -/
theorem skipped_item_is_not_listed :
    ¬∀ (context : EvaluatorContext) (loadAdapter : String → Except PythonException Adapter)
      (installed : String → Bool) (draws : Draws) (db : Database), db.Consistent →
      ∀ (run : EvalRunRow) (plan : RunPlan),
        db.ExecutedRun (context.environment loadAdapter installed) run plan →
        ∀ (baseline : RunRows) (baselineSamples : MetricSamples),
          FailuresAgree context.text draws db run baseline baselineSamples := by
  intro agree
  have consistent : Scenario.skippedState.Consistent :=
    Database.Reachable.consistent ⟨0, Scenario.comparedEvents _ _, rfl⟩
  rcases Scenario.skippedState_holds with ⟨item, holds⟩
  have agreed := agree _ _ _ Scenario.firstIndex _ consistent _ _ holds.executed
    (Scenario.skippedState.runRows (Scenario.comparedRun "baseline"
      (Scenario.namedConfig "exact_match") Scenario.openPayload)) (fun _ => none)
  have member : item.row ∈ Scenario.skippedState.itemsOf "candidate-0" := by
    have listed : Scenario.skippedState.itemsOf "candidate-0" = [item.row] := holds.items
    rw [listed]
    exact List.mem_singleton_self _
  have failing := Scenario.skippedState_failing item.row member
  have listed := (agreed.items item.row member).mp
    ((Database.passRateSample_eq_zero_iff consistent member).mpr failing.1)
  have passedOver := failing.2
  rw [listed.1.1] at passedOver
  cases passedOver

end EvalForge
