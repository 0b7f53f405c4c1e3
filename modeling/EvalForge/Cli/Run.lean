import EvalForge.Api.Runs
import EvalForge.Core.Tenancy
import EvalForge.Db.Frames
import EvalForge.Foundation.Returns
import EvalForge.Services.CompareRuns
import EvalForge.Services.DashboardAgreement
import EvalForge.Services.GateAgreement

/-! # The run command

`run_evals` looks its rows up by name, executes a baseline and a candidate run
and compares them.
-/

namespace EvalForge

open Foundation

/-! ## The command -/

/-- What the command reads outside the database: the ids and instants of its
rows, the databases that each poll of a run sees before the deadline, and the
errors of the session. -/
structure RunEvalsReadings where
  gateRule : RequestReadings
  baseline : RunReadings
  candidate : RunReadings
  baselinePolls : List Database
  candidatePolls : List Database
  comparison : RequestReadings
  refreshError : PythonException
  integrityError : PythonException

inductive RunEvalsError
  | exited (message : String) (available : List String)
  | run (error : RunError)
  | comparison (error : ValidationError)
  | raised (exc : PythonException)

section Execution

variable (readings : RunReadings) (db : Database) (payload : RunCreate)

/-- `execute_run` in the default organization, with its commit. -/
def executeNamedRun (env : Environment) : Except RunEvalsError (Database × EvalRun) := do
  let record ←
    (executeRun env readings.execution (runRequest db defaultOrganizationId payload)).mapError .run
  match db.commit (record.writes readings) with
  | none => .error (.raised readings.execution.integrityError)
  | some db => .ok (db, record.run)

end Execution

/-- `compute_comparison` in the default organization, with its commit. No gate rule
is passed on. -/
def commitNamedComparison (context : ComparisonContext) (readings : RunEvalsReadings)
    (db : Database) (baselineRunId candidateRunId : String) :
    Except RunEvalsError (Database × ComparisonRow × RegressionReport) := do
  let (writes, comparison, report) ←
    (computeComparison context readings.comparison db defaultOrganizationId
      { baselineRunId, candidateRunId }).mapError .comparison
  match db.commit writes with
  | none => .error (.raised readings.integrityError)
  | some db => return (db, comparison, report)

section Gates

variable {env : Environment} {context : ComparisonContext} {readings : RunEvalsReadings}
variable {arguments : RunEvalsArguments} {db final : Database}
variable {baselineRunId candidateRunId : String} {comparison : ComparisonRow}
variable {report : RegressionReport}

theorem commitNamedComparison_ok
    (committed : commitNamedComparison context readings db baselineRunId candidateRunId =
      .ok (final, comparison, report)) :
    ∃ writes, db.commit writes = some final ∧
      ComputedComparison context readings.comparison db defaultOrganizationId
        { baselineRunId, candidateRunId } writes comparison report := by
  unfold commitNamedComparison at committed
  cases computed : computeComparison context readings.comparison db defaultOrganizationId
      { baselineRunId, candidateRunId } with
  | error error =>
      rw [computed] at committed
      cases committed
  | ok accepted =>
      rcases accepted with ⟨writes, made, madeReport⟩
      simp only [computed, Except.mapError, bind, Except.bind] at committed
      cases written : db.commit writes with
      | none =>
          rw [written] at committed
          cases committed
      | some next =>
          rw [written] at committed
          cases committed
          exact ⟨writes, written, computeComparison_ok computed⟩

theorem ComputedComparison.default {requestReadings : RequestReadings} {writes : List Write}
    (computation : ComputedComparison context requestReadings db defaultOrganizationId
      { baselineRunId, candidateRunId } writes comparison report) :
    (report.gateVerdict, report.gateReasons) =
      applyGates (buildMetricReport context.draws
        (sampleInput (collectRunMetricSamples (db.itemRecords baselineRunId)))
        (sampleInput (collectRunMetricSamples (db.itemRecords candidateRunId))))
        defaultGateRules := by
  rcases computation.gated with ⟨inserts, gateRuleId, gateRules, ruled, -, gated⟩
  cases ruled
  rw [gated, computation.metrics]

end Gates

namespace Scenario

def cliReadings : RunEvalsReadings where
  gateRule := (namedReadings "gates").toRequestReadings
  baseline := (namedReadings "baseline").run
  candidate := (namedReadings "candidate").run
  baselinePolls := []
  candidatePolls := []
  comparison := (namedReadings "comparison").toRequestReadings
  refreshError := ⟨""⟩
  integrityError := ⟨""⟩

end Scenario

end EvalForge
