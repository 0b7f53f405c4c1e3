import EvalForge.Api.GateRules
import EvalForge.Services.CiGateReport
import EvalForge.Services.CompareRuns

/-! # Comparisons -/

namespace EvalForge

open Foundation

def buildComparisonResponse (comparison : ComparisonRow) (report : RegressionReport) :
    ComparisonRead where
  id := comparison.id
  baselineRunId := comparison.baselineRunId
  candidateRunId := comparison.candidateRunId
  gateRulesId := comparison.gateRulesId
  status := comparison.status
  createdAt := comparison.createdAt
  report := report

def createComparison (context : ComparisonContext) (readings : RequestReadings) (db : Database)
    (principal : Principal) (payload : ComparisonCreate) :
    Except HttpError (List Write × ComparisonRead) := do
  requireRole principal .evaluator
  let (writes, comparison, report) ←
    (computeComparison context readings db principal.organizationId payload).mapError (·.toHttp 409)
  return (writes, buildComparisonResponse comparison report)

/-- A comparison without a report is left out. -/
def listComparisons (db : Database) (principal : Principal) (query : PageQuery) :
    List ComparisonRead :=
  (page (·.createdAt) query.limit query.offset
    (db.comparisonsOf principal.organizationId)).filterMap fun comparison =>
      (db.reportOf comparison.id).map (buildComparisonResponse comparison)

def tenantComparisonOr404 (db : Database) (principal : Principal) (comparisonId : String) :
    Except HttpError (ComparisonRow × RegressionReport) :=
  match db.tenantComparison principal.organizationId comparisonId with
  | none => .error (httpError 404 "Comparison not found")
  | some comparison =>
      match db.reportOf comparisonId with
      | none => .error (httpError 404 "Regression report not found")
      | some report => .ok (comparison, report)

def getComparison (db : Database) (principal : Principal) (comparisonId : String) :
    Except HttpError ComparisonRead := do
  let (comparison, report) ← tenantComparisonOr404 db principal comparisonId
  return buildComparisonResponse comparison report

def getGateDecision (db : Database) (principal : Principal) (comparisonId : String) :
    Except HttpError GateDecisionRead := do
  let (_, report) ← tenantComparisonOr404 db principal comparisonId
  return { verdict := report.gateVerdict, reasons := report.gateReasons }

def getCiGateReport (generatedAt : Nat) (db : Database) (principal : Principal)
    (comparisonId : String) (dashboardUrl : Option String) (failOnWarn : Bool) :
    Except HttpError CIGateReportRead := do
  let (comparison, report) ← tenantComparisonOr404 db principal comparisonId
  return buildCiGateReport generatedAt comparison report dashboardUrl failOnWarn

end EvalForge
