import EvalForge.Demo.Scenario

/-! # What the demo scenario shows

With any number of cases, any evaluation order and any bootstrap draws, the gates
fail the candidate.
-/

namespace EvalForge

open Foundation

/-! ## The two runs, side by side -/

section

variable {context : EvaluatorContext} {answerFor otherAnswerFor : BaseDoc → String}
variable {latencyMs otherLatencyMs : Int} {readings : DemoReadings} {caseCount : Nat}
variable {version otherVersion : AppVersionRow} {runReadings otherReadings : RunReadings}
variable {db middle next : Database} {record other : RunRecord}

theorem version?_of_mem (consistent : db.Consistent) (member : version ∈ db.appVersions) :
    db.version? version.id = some version := by
  refine consistent.keyed.appVersions.find?_eq_some member (beq_self_eq_true _) ?_
  intro stored same
  simp [AppVersionRow.conflicts, beq_iff_eq.mp same]

theorem caseIdsOf_eq {runId : String} {items : List ItemRecord}
    (read : db.itemRecords runId = items.map (·.stored)) :
    db.caseIdsOf runId = (items.map (·.row.caseId)).toFinset := by
  have rows := congrArg (List.map (·.row.caseId)) read
  rw [Database.itemRecords, List.map_map, List.map_map] at rows
  exact congrArg List.toFinset rows

structure HoldsRun (context : EvaluatorContext) (answerFor : BaseDoc → String) (latencyMs : Int)
    (readings : DemoReadings) (caseCount : Nat) (version : AppVersionRow)
    (runReadings : RunReadings) (db : Database) (record : RunRecord) : Prop where
  demo : DemoRun context answerFor latencyMs readings caseCount version runReadings.execution record
  run : db.run? record.run.id = some { toEvalRun := record.run, createdAt := runReadings.createdAt }
  items : db.itemRecords record.run.id = record.items.map (·.stored)

theorem RunsDemo.holds (runs : RunsDemo context answerFor latencyMs readings caseCount version
    runReadings db next record) :
    HoldsRun context answerFor latencyMs readings caseCount version runReadings next record :=
  ⟨runs.demo, runs.read.run, Database.itemRecords_of_storedItems runs.read.items⟩

theorem HoldsRun.later (holds : HoldsRun context answerFor latencyMs readings caseCount version
    runReadings middle record) (read : StoredRun otherReadings other middle next)
    (apart : record.run.id ≠ other.run.id) :
    HoldsRun context answerFor latencyMs readings caseCount version runReadings next record := by
  rcases read.others record.run.id apart with ⟨run, items⟩
  refine ⟨holds.demo, run.trans holds.run, ?_⟩
  rw [Database.itemRecords_eq_map, items, ← Database.itemRecords_eq_map]
  exact holds.items

theorem comparable_of_holds (stored : readings.Stored caseCount db)
    (versions : version ∈ db.appVersions ∧ otherVersion ∈ db.appVersions)
    (ofApp : version.appId = otherVersion.appId)
    (holds : HoldsRun context answerFor latencyMs readings caseCount version runReadings db record)
    (otherHolds : HoldsRun context otherAnswerFor otherLatencyMs readings caseCount otherVersion
      otherReadings db other) :
    Comparable db defaultOrganizationId
      { baselineRunId := record.run.id, candidateRunId := other.run.id } := by
  have ownRun : record.run.organizationId = defaultOrganizationId := by rw [holds.demo.run]; rfl
  have otherRun : other.run.organizationId = defaultOrganizationId := by
    rw [otherHolds.demo.run]; rfl
  have found := tenantRun_of_run? stored.consistent holds.run
  have otherFound := tenantRun_of_run? stored.consistent otherHolds.run
  refine ⟨⟨_, _, ownRun ▸ found, otherRun ▸ otherFound, ?_, ?_, ⟨version, otherVersion, ?_, ?_,
    ofApp⟩, ?_, ?_⟩, fun _ given => by cases given⟩
  · simp only [holds.demo.run, otherHolds.demo.run]
    rfl
  · simp only [holds.demo.run, otherHolds.demo.run]
    rfl
  · simp only [holds.demo.run]
    exact version?_of_mem stored.consistent versions.1
  · simp only [otherHolds.demo.run]
    exact version?_of_mem stored.consistent versions.2
  · simp only [holds.demo.run, otherHolds.demo.run]
    exact ⟨rfl, rfl⟩
  · rw [caseIdsOf_eq holds.items, caseIdsOf_eq otherHolds.items, holds.demo.caseIds,
      otherHolds.demo.caseIds]

theorem commitNamedComparison_commits {comparing : ComparisonContext}
    {evalReadings : RunEvalsReadings} {baselineRunId candidateRunId : String}
    (stored : readings.Stored caseCount db)
    (comparable : Comparable db defaultOrganizationId { baselineRunId, candidateRunId }) :
    ∃ final comparison report,
      commitNamedComparison comparing evalReadings db baselineRunId candidateRunId =
        .ok (final, comparison, report) ∧
      CommitsComparison db final defaultOrganizationId { baselineRunId, candidateRunId } comparison
        report := by
  have fresh : FreshIds evalReadings.comparison db := by
    constructor
    · rw [stored.gateRules]; exact List.forall_mem_nil _
    · rw [stored.comparisons]; exact List.forall_mem_nil _
    · rw [stored.regressionReports]; exact List.forall_mem_nil _
  have free : ¬NameTaken evalReadings.comparison db defaultOrganizationId := by
    rintro ⟨rule, member, -⟩
    rw [stored.gateRules] at member
    cases member
  rcases @commitComparison_default comparing _ _ _ _ stored.consistent stored.rules fresh
    comparable rfl free with ⟨comparison, report, compared, commits⟩
  rw [commitComparison] at compared commits
  cases computed : computeComparison comparing evalReadings.comparison db defaultOrganizationId
      { baselineRunId, candidateRunId } with
  | error error =>
      simp only [computed] at compared
      cases compared
  | ok accepted =>
      rcases accepted with ⟨writes, made, madeReport⟩
      simp only [computed] at compared commits
      cases committed : db.commit writes with
      | none =>
          simp only [committed] at compared
          cases compared
      | some final =>
          simp only [committed] at compared commits
          cases compared
          refine ⟨final, _, _, ?_, commits⟩
          simp only [commitNamedComparison, computed, Except.mapError, bind, Except.bind, committed]
          rfl

end

/-! ## The verdict of the gates -/

theorem passRate_tolerance : (0 : Rat) ≤ 2 / 100 := by norm_num

theorem latency_tolerance : (0 : Rat) ≤ 50 := by norm_num

def passRateGate : GateRule := ⟨.passRate, .higherBetter, 2 / 100, passRate_tolerance⟩

def latencyGate : GateRule := ⟨.p95LatencyMs, .lowerBetter, 50, latency_tolerance⟩

theorem demoGates_mem :
    passRateGate ∈ defaultGateRules.entries ∧ latencyGate ∈ defaultGateRules.entries :=
  ⟨List.mem_cons_self, List.mem_cons_of_mem _ (List.mem_cons_of_mem _ List.mem_cons_self)⟩

theorem reason_of_fail {metrics : Metric → MetricReport} {rule : GateRule}
    (member : rule ∈ defaultGateRules.entries)
    (fails : rule.metricVerdict (metrics rule.metric) = .fail) :
    ∃ reason ∈ (applyGates metrics defaultGateRules).2,
      reason.metric = rule.metric ∧ reason.verdict = .fail := by
  have notPass : rule.metricVerdict (metrics rule.metric) ≠ .pass := by
    rw [fails]
    decide
  exact ⟨_, mem_reasons_iff.mpr ⟨rule, member, GateRule.reason_eq_some_iff.mpr ⟨notPass, rfl⟩⟩, rfl,
    fails⟩

structure GatesFail (metrics : Metric → MetricReport) (verdict : Verdict)
    (reasons : List GateReason) : Prop where
  passRate : (metrics .passRate).baselinePoint = 1 ∧ (metrics .passRate).candidatePoint = 0
  latency : (metrics .p95LatencyMs).baselinePoint = 120 ∧
    (metrics .p95LatencyMs).candidatePoint = 260
  verdict : verdict = .fail
  reasons : ∀ metric ∈ [Metric.passRate, .p95LatencyMs],
    ∃ reason ∈ reasons, reason.metric = metric ∧ reason.verdict = .fail

section

variable {context : EvaluatorContext} (plain : context.ReadsPlainValues)
variable {baseline candidate : List ItemRecord}

include plain

theorem gatesFail (draws : Draws) (distinct : (baseline.map (·.row.caseId)).Nodup)
    (same : candidate.map (·.row.caseId) = baseline.map (·.row.caseId)) (nonempty : baseline ≠ [])
    (baselineItems : ∀ item ∈ baseline, DemoItem context BaseDoc.answer 120 item)
    (candidateItems : ∀ item ∈ candidate,
      DemoItem context (fun _ => hallucinatedAnswer) 260 item) :
    let metrics := buildMetricReport draws (sampleInput (collectRunMetricSamples baseline))
      (sampleInput (collectRunMetricSamples candidate))
    GatesFail metrics (applyGates metrics defaultGateRules).1
      (applyGates metrics defaultGateRules).2 := by
  have candidateSome : candidate ≠ [] := by
    rintro rfl
    exact nonempty (List.map_eq_nil_iff.mp same.symm)
  have candidateDistinct : (candidate.map (·.row.caseId)).Nodup := same ▸ distinct
  have passes := fun item member => itemSample_baseline plain (baselineItems item member)
  have fails := fun item member => itemSample_candidate plain (candidateItems item member)
  have fast := fun item member => itemSample_latency (baselineItems item member)
  have slow := fun item member => itemSample_latency (candidateItems item member)
  have integral (value : Int) : HasDecimals 6 (value : Rat) :=
    ⟨value * 10 ^ 6, by push_cast; ring⟩
  have passRateDrop : passRateGate.direction.Regressed passRateGate.tolerance (0 - 1) := by
    change (0 - 1 : Rat) < -(2 / 100)
    norm_num
  have latencyRise : latencyGate.direction.Regressed latencyGate.tolerance (260 - 120) := by
    change (50 : Rat) < 260 - 120
    norm_num
  have passRateFails := @metricVerdict_eq_fail_of_equal _ _ distinct same nonempty passRateGate 1 0
    draws ⟨integral 1, integral 0⟩ passes fails passRateDrop
  have latencyFails := @metricVerdict_eq_fail_of_equal _ _ distinct same nonempty latencyGate 120 260
    draws ⟨integral 120, integral 260⟩ fast slow latencyRise
  refine ⟨⟨?_, ?_⟩, ⟨?_, ?_⟩, applyGates_eq_fail demoGates_mem.1 passRateFails, ?_⟩
  · rw [baselinePoint_eq, statistic_of_equal distinct nonempty passes]
    exact (integral 1).roundTo_eq
  · rw [candidatePoint_eq, statistic_of_equal candidateDistinct candidateSome fails]
    exact (integral 0).roundTo_eq
  · rw [baselinePoint_eq, statistic_of_equal distinct nonempty fast]
    exact (integral 120).roundTo_eq
  · rw [candidatePoint_eq, statistic_of_equal candidateDistinct candidateSome slow]
    exact (integral 260).roundTo_eq
  · intro metric member
    rcases List.mem_cons.mp member with rfl | second
    · exact reason_of_fail demoGates_mem.1 passRateFails
    · rw [List.mem_singleton.mp second]
      exact reason_of_fail demoGates_mem.2 latencyFails

end

/-! ## The scenario -/

def CompletesAll (db : Database) (version : AppVersionRow) (runId : String) (caseCount : Nat) :
    Prop :=
  ∃ run, db.run? runId = some run ∧ run.appVersionId = version.id ∧ run.status = .completed ∧
    run.caseCount = caseCount ∧ run.caseCompleted = caseCount ∧ run.caseErrored = 0

theorem HoldsRun.completesAll {context : EvaluatorContext} {answerFor : BaseDoc → String}
    {latencyMs : Int} {readings : DemoReadings} {caseCount : Nat} {version : AppVersionRow}
    {runReadings : RunReadings} {db : Database} {record : RunRecord}
    (holds : HoldsRun context answerFor latencyMs readings caseCount version runReadings db
      record) : CompletesAll db version record.run.id caseCount := by
  refine ⟨_, holds.run, ?_, ?_, ?_, ?_, ?_⟩
  · simp only [holds.demo.run]
    rfl
  · simp only [holds.demo.run]
  · simp only [holds.demo.run]
    exact readings.length_ordered caseCount
  · simp only [holds.demo.run]
  · simp only [holds.demo.run]

/-- The database holds one comparison, of two complete runs, with its report by the
stored default rules. -/
structure StoresComparison (draws : Draws) (readings : DemoReadings) (caseCount : Nat)
    (final : Database) (comparison : ComparisonRow) (report : RegressionReport) : Prop where
  comparisons : final.comparisons = [comparison]
  regressionReports : final.regressionReports = [report]
  reported : report.comparisonId = comparison.id
  gateRule : ∃ gateRule, final.gateRules = [gateRule] ∧ comparison.gateRulesId = gateRule.id ∧
    gateRule.rules = defaultGateRules.toJson
  baseline : CompletesAll final readings.baselineVersion comparison.baselineRunId caseCount
  candidate : CompletesAll final readings.candidateVersion comparison.candidateRunId caseCount
  metrics : report.metrics = buildMetricReport draws
    (sampleInput (collectRunMetricSamples (final.itemRecords comparison.baselineRunId)))
    (sampleInput (collectRunMetricSamples (final.itemRecords comparison.candidateRunId)))
  gated : (report.gateVerdict, report.gateReasons) = applyGates report.metrics defaultGateRules

/-- Both runs complete, the stored gates fail the candidate, and this is what the
scenario returns. -/
structure DemoOutcome (draws : Draws) (readings : DemoReadings) (caseCount : Nat)
    (final : Database) (result : DemoResult) : Prop where
  counts : result.caseCount = caseCount ∧ result.totalCaseExecutions = 2 * caseCount
  completed : result.baselineStatus = .completed ∧ result.candidateStatus = .completed
  stored : ∃ comparison report,
    StoresComparison draws readings caseCount final comparison report ∧
    GatesFail report.metrics report.gateVerdict report.gateReasons ∧
    result.metrics = report.metrics ∧ result.gateVerdict = report.gateVerdict ∧
    result.gateReasons = report.gateReasons

section

variable {context : EvaluatorContext} (plain : context.ReadsPlainValues)
variable {loadAdapter : String → Except PythonException Adapter} {installed : String → Bool}
variable (loads : loadAdapter "app.adapters.demo_rag" = .ok context.demoRun)
variable {comparing : ComparisonContext} {readings : DemoReadings} (distinct : readings.Distinct)
variable (createdAt : Nat) {caseCount : Nat}

include plain loads distinct

theorem runDemoScenario_fails (cases : 0 < caseCount) :
    ∃ final result,
      runDemoScenario (context.environment loadAdapter installed) comparing readings caseCount
        (Database.migrated createdAt) = .ok (final, result) ∧
      DemoOutcome comparing.draws readings caseCount final result := by
  have seeded := seeded_stored distinct createdAt caseCount
  have versions {db : Database} (stored : readings.Stored caseCount db) :
      readings.baselineVersion ∈ db.appVersions ∧ readings.candidateVersion ∈ db.appVersions := by
    rw [stored.appVersions]
    exact ⟨List.mem_cons_self, List.mem_cons_of_mem _ List.mem_cons_self⟩
  have fresh : NewRunIds readings.baseline (readings.seeded createdAt caseCount) :=
    newRunIds_of_unissued distinct.baseline (List.forall_mem_nil _)
  have baselineAnswers := fun doc (member : doc ∈ baseDocs) =>
    demoRun_baseline plain (le_refl 1) member
  have candidateAnswers := fun doc (member : doc ∈ baseDocs) =>
    demoRun_candidate plain (le_refl 1) member
  rcases @executeNamedRun_demo _ _ _ _ _ plain _ installed loads _ 120 _ seeded cases fresh _
    (versions seeded).1 rfl rfl (by decide) baselineAnswers with ⟨baseline, middle, baselineRan, first⟩
  have baselineIds : ∀ id ∈ middle.runRowIds, readings.baseline.Issues id := by
    intro id member
    rcases first.ids id member with unstored | issued
    · cases unstored
    · exact issued
  have unissued : ∀ id ∈ middle.runRowIds, ¬readings.candidate.Issues id :=
    fun id member => distinct.apart id (baselineIds id member)
  rcases @executeNamedRun_demo _ _ _ _ _ plain _ installed loads _ 260 _ first.stored cases
    (newRunIds_of_unissued distinct.candidate unissued) _ (versions first.stored).2 rfl rfl
    (by decide) candidateAnswers with ⟨candidate, compared, candidateRan, second⟩
  have runsApart : baseline.run.id ≠ candidate.run.id := by
    rw [first.demo.run, second.demo.run]
    exact fun same => distinct.apart _ (.inl ⟨0, rfl⟩) (.inl ⟨0, same⟩)
  have holds := first.holds.later second.read runsApart
  have comparable := comparable_of_holds second.stored (versions second.stored) rfl holds
    second.holds
  rcases @commitNamedComparison_commits _ _ _ comparing readings.toRunEvalsReadings _ _
    second.stored comparable with ⟨final, comparison, report, ran, commits⟩
  rcases commitNamedComparison_ok ran with ⟨writes, -, computation⟩
  rcases commits.tables with ⟨gateRules, tables, byDefault, -⟩
  rcases byDefault rfl with ⟨gateRule, single, -, rules, ruleId⟩
  have metrics := computation.metrics
  rw [holds.items, second.holds.items, collectRunMetricSamples_stored,
    collectRunMetricSamples_stored] at metrics
  have gated : (report.gateVerdict, report.gateReasons) =
      applyGates report.metrics defaultGateRules := by
    rw [computation.default, computation.metrics]
  have caseIds : (baseline.items.map (·.row.caseId)).Nodup := by
    rw [first.demo.caseIds]
    exact readings.ordered_nodup distinct caseCount
  have nonempty : baseline.items ≠ [] := by
    intro empty
    have length := congrArg List.length first.demo.caseIds
    rw [empty, List.length_map, List.length_map, readings.length_ordered] at length
    exact cases.ne length
  have fails := gatesFail plain comparing.draws caseIds
    (second.demo.caseIds.trans first.demo.caseIds.symm) nonempty first.demo.items
    second.demo.items
  simp only [← metrics, ← gated] at fails
  refine ⟨final, {
      caseCount
      totalCaseExecutions := caseCount * 2
      baselineStatus := baseline.run.status
      candidateStatus := candidate.run.status
      gateVerdict := report.gateVerdict
      metrics := report.metrics
      gateReasons := report.gateReasons }, ?_, ⟨rfl, Nat.mul_comm _ _⟩, ⟨?_, ?_⟩, comparison,
    report, ?_, fails, rfl, rfl, rfl⟩
  · rw [runDemoScenario, commit_writes distinct]
    simp only [baselineRan, candidateRan, ran, bind, Except.bind]
    rfl
  · simp only [first.demo.run]
  · simp only [second.demo.run]
  · subst tables
    constructor
    · rw [second.stored.comparisons, List.nil_append]
    · rw [second.stored.regressionReports, List.nil_append]
    · exact commits.reported
    · exact ⟨gateRule, by rw [second.stored.gateRules, single, List.nil_append], ruleId, rules⟩
    · rw [commits.baselineRun]
      exact holds.completesAll
    · rw [commits.candidateRun]
      exact second.holds.completesAll
    · rw [commits.baselineRun, commits.candidateRun]
      exact computation.metrics
    · exact gated

omit plain loads in
theorem runDemoScenario_zero {env : Environment} :
    runDemoScenario env comparing readings 0 (Database.migrated createdAt) =
      .error (.run (.invalidRunRequest "No cases found in suite")) := by
  have seeded := seeded_stored distinct createdAt 0
  have member : readings.baselineVersion ∈ (readings.seeded createdAt 0).appVersions :=
    List.mem_cons_self
  have checked := (seeded.check_eq member rfl).trans (if_pos rfl)
  rw [runDemoScenario, commit_writes distinct]
  simp only [executeNamedRun, executeRun, checked, bind, Except.bind, Except.mapError]

end

/-- Whatever the number of cases, their order and the draws, the demo completes
both runs and its gates fail the candidate; without a case it is refused. -/
theorem demo_scenario_fails (context : EvaluatorContext) (plain : context.ReadsPlainValues)
    (loadAdapter : String → Except PythonException Adapter) (installed : String → Bool)
    (loads : loadAdapter "app.adapters.demo_rag" = .ok context.demoRun)
    (comparing : ComparisonContext) (readings : DemoReadings) (distinct : readings.Distinct)
    (createdAt caseCount : Nat) :
    let ran := runDemoScenario (context.environment loadAdapter installed) comparing readings
      caseCount (Database.migrated createdAt)
    if caseCount = 0 then ran = .error (.run (.invalidRunRequest "No cases found in suite"))
    else ∃ final result, ran = .ok (final, result) ∧
      DemoOutcome comparing.draws readings caseCount final result := by
  split
  · next noCases =>
    subst noCases
    exact runDemoScenario_zero distinct createdAt
  · next someCases =>
    exact runDemoScenario_fails plain loads distinct createdAt (Nat.pos_of_ne_zero someCases)

namespace Scenario

def markedRun (mark : Char) : RunReadings :=
  { unaryRun mark with
    dispatch := { (unaryRun mark).dispatch with newUuid := unaryId mark } }

theorem markedRun_issuesOnce (mark : Char) : (markedRun mark).IssuesOnce where
  ids := unaryId_injective mark
  evidence _ _ _ _ same := unaryEvidenceId_injective same

theorem head?_of_issues {mark : Char} {id : String} (issued : (markedRun mark).Issues id) :
    id.toList.head? = some mark := by
  rcases issued with ⟨index, rfl⟩ | ⟨index, rfl⟩ | ⟨index, position, rfl⟩
  · exact congrArg List.head? String.toList_ofList
  · exact congrArg List.head? String.toList_ofList
  · exact congrArg List.head? String.toList_ofList

def demoReadings : DemoReadings :=
  { cliReadings with
    rows := { (namedReadings "").toRequestReadings with newUuid := unaryId 'r' }
    baseline := markedRun 'b'
    candidate := markedRun 'c' }

theorem demoReadings_distinct : demoReadings.Distinct where
  rows := unaryId_injective 'r'
  baseline := markedRun_issuesOnce 'b'
  candidate := markedRun_issuesOnce 'c'
  apart id ofBaseline ofCandidate := by
    have same := (head?_of_issues ofBaseline).symm.trans (head?_of_issues ofCandidate)
    revert same
    decide

end Scenario

theorem demo_scenario_fails_scenario :
    ∃ final result,
      runDemoScenario (Scenario.plainContext.environment
          (fun _ => .ok Scenario.plainContext.demoRun) fun _ => true)
        Scenario.comparingContext Scenario.demoReadings 12 (Database.migrated 0) =
          .ok (final, result) ∧
      DemoOutcome Scenario.comparingContext.draws Scenario.demoReadings 12 final result :=
  demo_scenario_fails Scenario.plainContext Scenario.plainContext_readsPlainValues _ (fun _ => true)
    rfl Scenario.comparingContext Scenario.demoReadings Scenario.demoReadings_distinct 0 12

end EvalForge
