import EvalForge.Models.Entities
import EvalForge.Models.Identity
import EvalForge.Services.Comparison

/-! # The database

All tables, with the columns that the handlers read.
-/

namespace EvalForge

/-! ## Rows -/

structure App where
  id : String
  organizationId : String
  name : String
  description : String
  createdAt : Nat

structure AppVersionRow extends AppVersion where
  name : String
  createdAt : Nat

structure EvalSuiteRow extends EvalSuite where
  name : String
  createdAt : Nat

structure EvalCaseRow extends EvalCase where
  externalId : Option String
  createdAt : Nat

structure EvalSuiteCase where
  suiteId : String
  caseId : String
  createdAt : Nat

structure EvaluatorConfigRow extends EvaluatorConfig where
  organizationId : String
  name : String
  createdAt : Nat

structure EvalRunRow extends EvalRun where
  createdAt : Nat

structure TraceRow where
  id : String
  runItemId : String
  payload : Json
  createdAt : Nat

structure EvalResultRow extends StoredResult where
  id : String
  runItemId : String
  createdAt : Nat

structure GateRuleRow where
  id : String
  organizationId : String
  name : String
  rules : Json
  createdAt : Nat

/-- `pending` is only the default of the column. -/
inductive ComparisonStatus
  | pending
  | computed
  deriving DecidableEq, Repr

structure ComparisonRow where
  id : String
  organizationId : String
  baselineRunId : String
  candidateRunId : String
  gateRulesId : String
  status : ComparisonStatus := .pending
  createdAt : Nat

structure RegressionReport where
  id : String
  comparisonId : String
  metrics : Metric → MetricReport
  gateVerdict : Verdict
  gateReasons : List GateReason
  createdAt : Nat

structure Database where
  organizations : List Organization := []
  users : List User := []
  memberships : List Membership := []
  authSessions : List AuthSession := []
  personalApiKeys : List PersonalApiKey := []
  apps : List App := []
  appVersions : List AppVersionRow := []
  evalSuites : List EvalSuiteRow := []
  evalCases : List EvalCaseRow := []
  evalSuiteCases : List EvalSuiteCase := []
  evaluatorConfigs : List EvaluatorConfigRow := []
  evalRuns : List EvalRunRow := []
  evalRunItems : List EvalRunItem := []
  traces : List TraceRow := []
  evalResults : List EvalResultRow := []
  gateRules : List GateRuleRow := []
  comparisons : List ComparisonRow := []
  regressionReports : List RegressionReport := []

def Database.migrated (createdAt : Nat) : Database where
  organizations := [{
    id := "00000000-0000-0000-0000-000000000001"
    name := "Default Workspace"
    slug := "default"
    createdAt }]

end EvalForge
