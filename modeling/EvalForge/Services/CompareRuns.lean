import EvalForge.Db.Queries
import EvalForge.Db.Session
import EvalForge.Schemas.Execution
import EvalForge.Services.Authentication
import EvalForge.Services.GateRuleValidation

/-! # Computing a comparison

`compute_comparison` on two stored runs: its checks, the gate rules it takes or
creates, and the rows it inserts.
-/

namespace EvalForge

structure ComparisonContext where
  draws : Draws
  floats : FloatConversion
  text : Json → String

/-- The items of a run with their results, as the metrics read them. -/
def Database.itemRecords (db : Database) (runId : String) : List ItemRecord :=
  (db.itemsOf runId).map fun row =>
    { row, results := (db.resultsOf row.id).map fun result =>
        { toStoredResult := result.toStoredResult, writtenBy := 0 } }

def Database.caseIdsOf (db : Database) (runId : String) : Finset String :=
  ((db.itemsOf runId).map (·.caseId)).toFinset

/-- `run.status in {"completed", "partial"}`. -/
def RunStatus.comparable : RunStatus → Bool
  | .completed | .partialRun => true
  | .pending | .running | .failed => false

def comparableRuns (db : Database) (organizationId : String) (payload : ComparisonCreate) :
    Except ValidationError (EvalRunRow × EvalRunRow) :=
  match db.tenantRun organizationId payload.baselineRunId,
      db.tenantRun organizationId payload.candidateRunId with
  | none, _ => .error (.valueError "Baseline run not found")
  | _, none => .error (.valueError "Candidate run not found")
  | some baseline, some candidate =>
      if baseline.suiteId ≠ candidate.suiteId then
        .error (.valueError "Runs must use the same suite")
      else if baseline.evaluatorConfigId ≠ candidate.evaluatorConfigId then
        .error (.valueError "Runs must use the same evaluator configuration")
      else
        match db.version? baseline.appVersionId, db.version? candidate.appVersionId with
        | some baselineVersion, some candidateVersion =>
            if baselineVersion.appId ≠ candidateVersion.appId then
              .error (.valueError "Runs must belong to the same app")
            else if !baseline.status.comparable || !candidate.status.comparable then
              .error (.valueError "Runs must be completed before comparison")
            else if db.caseIdsOf payload.baselineRunId ≠ db.caseIdsOf payload.candidateRunId then
              .error (.valueError "Runs must contain the same evaluation cases")
            else .ok (baseline, candidate)
        | _, _ => .error (.valueError "Run app version not found")

/-- The gate rules of a comparison: the inserts of the default ones, their id,
and the rules. -/
def comparisonGateRules (context : ComparisonContext) (readings : RequestReadings)
    (db : Database) (organizationId : String) :
    Option String → Except ValidationError (List Write × String × GateRules)
  | none =>
      let gateRuleId := readings.newUuid 0
      let shortId := PythonText.truncate 8 gateRuleId
      let row : GateRuleRow :=
        { id := gateRuleId, organizationId, name := s!"default-gates-{shortId}"
          rules := defaultGateRules.toJson, createdAt := readings.utcNow 0 }
      .ok ([.insertGateRule row], gateRuleId, defaultGateRules)
  | some gateRulesId =>
      match db.tenantGateRule organizationId gateRulesId with
      | none => .error (.valueError "Gate rules not found")
      | some stored => do
          let rules ← validateGateRules context.floats context.text stored.rules
          -- `gate_rules_id or new_uuid()`: an empty id does not name the rules.
          let gateRuleId := if gateRulesId = "" then readings.newUuid 0 else gateRulesId
          return ([], gateRuleId, rules)

def computeComparison (context : ComparisonContext) (readings : RequestReadings) (db : Database)
    (organizationId : String) (payload : ComparisonCreate) :
    Except ValidationError (List Write × ComparisonRow × RegressionReport) := do
  let _ ← comparableRuns db organizationId payload
  let (writes, gateRuleId, gateRules) ←
    comparisonGateRules context readings db organizationId payload.gateRulesId
  let baselineMetrics := collectRunMetricSamples (db.itemRecords payload.baselineRunId)
  let candidateMetrics := collectRunMetricSamples (db.itemRecords payload.candidateRunId)
  let metrics := buildMetricReport context.draws (sampleInput baselineMetrics)
    (sampleInput candidateMetrics)
  let (verdict, reasons) := applyGates metrics gateRules
  let comparison : ComparisonRow :=
    { id := readings.newUuid 1, organizationId
      baselineRunId := payload.baselineRunId, candidateRunId := payload.candidateRunId
      gateRulesId := gateRuleId, status := .computed, createdAt := readings.utcNow 1 }
  let report : RegressionReport :=
    { id := readings.newUuid 2, comparisonId := comparison.id, metrics
      gateVerdict := verdict, gateReasons := reasons, createdAt := readings.utcNow 2 }
  return (writes ++ [.insertComparison comparison, .insertReport report], comparison, report)

/-! ## What an accepted comparison has checked -/

theorem comparableRuns_ok {db : Database} {organizationId : String} {payload : ComparisonCreate}
    {baseline candidate : EvalRunRow}
    (compared : comparableRuns db organizationId payload = .ok (baseline, candidate)) :
    db.tenantRun organizationId payload.baselineRunId = some baseline ∧
    db.tenantRun organizationId payload.candidateRunId = some candidate ∧
    baseline.suiteId = candidate.suiteId ∧
    baseline.evaluatorConfigId = candidate.evaluatorConfigId ∧
    (∃ baselineVersion candidateVersion,
      db.version? baseline.appVersionId = some baselineVersion ∧
      db.version? candidate.appVersionId = some candidateVersion ∧
      baselineVersion.appId = candidateVersion.appId) ∧
    db.caseIdsOf payload.baselineRunId = db.caseIdsOf payload.candidateRunId := by
  unfold comparableRuns at compared
  split at compared
  · cases compared
  · cases compared
  · next foundBaseline foundCandidate baselineFound candidateFound =>
      split at compared
      · cases compared
      · next sameSuite =>
          split at compared
          · cases compared
          · next sameConfig =>
              split at compared
              · next baselineVersion candidateVersion baselineVersioned candidateVersioned =>
                  split at compared
                  · cases compared
                  · next sameApp =>
                      split at compared
                      · cases compared
                      · split at compared
                        · cases compared
                        · next sameCases =>
                            cases compared
                            exact ⟨baselineFound, candidateFound, not_not.mp sameSuite,
                              not_not.mp sameConfig, ⟨_, _, baselineVersioned, candidateVersioned,
                                not_not.mp sameApp⟩, not_not.mp sameCases⟩
              · cases compared

structure ComputedComparison (context : ComparisonContext) (readings : RequestReadings)
    (db : Database) (organizationId : String) (payload : ComparisonCreate) (writes : List Write)
    (comparison : ComparisonRow) (report : RegressionReport) : Prop where
  compared : ∃ runs, comparableRuns db organizationId payload = .ok runs
  gated : ∃ inserts gateRuleId gateRules,
    comparisonGateRules context readings db organizationId payload.gateRulesId =
      .ok (inserts, gateRuleId, gateRules) ∧
    writes = inserts ++ [.insertComparison comparison, .insertReport report] ∧
    (report.gateVerdict, report.gateReasons) = applyGates report.metrics gateRules
  baselineRunId : comparison.baselineRunId = payload.baselineRunId
  candidateRunId : comparison.candidateRunId = payload.candidateRunId
  metrics : report.metrics = buildMetricReport context.draws
    (sampleInput (collectRunMetricSamples (db.itemRecords payload.baselineRunId)))
    (sampleInput (collectRunMetricSamples (db.itemRecords payload.candidateRunId)))

theorem computeComparison_ok {context : ComparisonContext} {readings : RequestReadings}
    {db : Database} {organizationId : String} {payload : ComparisonCreate} {writes : List Write}
    {comparison : ComparisonRow} {report : RegressionReport}
    (computed : computeComparison context readings db organizationId payload =
      .ok (writes, comparison, report)) :
    ComputedComparison context readings db organizationId payload writes comparison report := by
  unfold computeComparison at computed
  cases compared : comparableRuns db organizationId payload with
  | error error => simp [compared, bind, Except.bind] at computed
  | ok runs =>
      cases ruled : comparisonGateRules context readings db organizationId payload.gateRulesId with
      | error error => simp [compared, ruled, bind, Except.bind] at computed
      | ok gated =>
          simp only [compared, ruled, bind, Except.bind, pure, Except.pure, Except.ok.injEq,
            Prod.mk.injEq] at computed
          rcases computed with ⟨rfl, rfl, rfl⟩
          exact ⟨⟨runs, compared⟩, ⟨_, _, _, ruled, rfl, rfl⟩, rfl, rfl, rfl⟩

end EvalForge
