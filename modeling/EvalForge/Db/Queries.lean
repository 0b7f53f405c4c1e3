import EvalForge.Models.Database
import EvalForge.Foundation.Tables

/-! # Queries

What the handlers select. A table without an order is read in the order of its
insertion.
-/

namespace EvalForge

open Foundation

namespace Database

variable (db : Database)

/-! ## By primary key -/

def app? (id : String) : Option App := db.apps.find? (·.id == id)

def version? (id : String) : Option AppVersionRow := db.appVersions.find? (·.id == id)

def suite? (id : String) : Option EvalSuiteRow := db.evalSuites.find? (·.id == id)

def case? (id : String) : Option EvalCaseRow := db.evalCases.find? (·.id == id)

def run? (id : String) : Option EvalRunRow := db.evalRuns.find? (·.id == id)

def gateRule? (id : String) : Option GateRuleRow := db.gateRules.find? (·.id == id)

/-! ## Rows of an organization -/

variable (organizationId : String)

def appOwned (appId : String) : Bool :=
  db.apps.any fun app => app.id == appId && app.organizationId == organizationId

def appsOf : List App := db.apps.filter (·.organizationId == organizationId)

def tenantApp (appId : String) : Option App :=
  db.apps.find? fun app => app.id == appId && app.organizationId == organizationId

def tenantVersion (versionId : String) : Option AppVersionRow :=
  db.appVersions.find? fun version =>
    version.id == versionId && db.appOwned organizationId version.appId

def tenantSuite (suiteId : String) : Option EvalSuiteRow :=
  db.evalSuites.find? fun suite =>
    suite.id == suiteId && db.appOwned organizationId suite.appId

def evaluatorConfigsOf : List EvaluatorConfigRow :=
  db.evaluatorConfigs.filter (·.organizationId == organizationId)

def tenantEvaluatorConfig (configId : String) : Option EvaluatorConfigRow :=
  db.evaluatorConfigs.find? fun config =>
    config.id == configId && config.organizationId == organizationId

def gateRulesOf : List GateRuleRow :=
  db.gateRules.filter (·.organizationId == organizationId)

def tenantGateRule (ruleId : String) : Option GateRuleRow :=
  db.gateRules.find? fun rule => rule.id == ruleId && rule.organizationId == organizationId

def runsOf : List EvalRunRow := db.evalRuns.filter (·.organizationId == organizationId)

def tenantRun (runId : String) : Option EvalRunRow :=
  db.evalRuns.find? fun run => run.id == runId && run.organizationId == organizationId

def comparisonsOf : List ComparisonRow :=
  db.comparisons.filter (·.organizationId == organizationId)

def tenantComparison (comparisonId : String) : Option ComparisonRow :=
  db.comparisons.find? fun comparison =>
    comparison.id == comparisonId && comparison.organizationId == organizationId

/-! ## Rows below another row -/

def versionsOf (appId : String) : List AppVersionRow := db.appVersions.filter (·.appId == appId)

def suitesOf (appId : String) : List EvalSuiteRow := db.evalSuites.filter (·.appId == appId)

def casesOf (suiteId : String) : List EvalCaseRow :=
  db.evalCases.filter fun case => db.evalSuiteCases.any fun link =>
    link.caseId == case.id && link.suiteId == suiteId

def itemsOf (runId : String) : List EvalRunItem := db.evalRunItems.filter (·.runId == runId)

def resultsOf (itemId : String) : List EvalResultRow :=
  db.evalResults.filter (·.runItemId == itemId)

def traceOf (itemId : String) : Option TraceRow := db.traces.find? (·.runItemId == itemId)

def reportOf (comparisonId : String) : Option RegressionReport :=
  db.regressionReports.find? (·.comparisonId == comparisonId)

end Database

/-- `ORDER BY created_at`. -/
def byCreation (createdAt : Row → Nat) (rows : List Row) : List Row :=
  rows.insertionSort fun row other => createdAt row ≤ createdAt other

end EvalForge
