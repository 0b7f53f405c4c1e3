import EvalForge.Api.Authentication
import EvalForge.Api.Comparisons
import EvalForge.Api.Dashboard
import EvalForge.Api.EvaluatorConfigs
import EvalForge.Api.Runs
import EvalForge.Api.Suites
import EvalForge.Db.Frames
import EvalForge.Foundation.Transitions

/-! # Serving requests

The routes that read or write rows, and the states of the database that any
sequence of requests and of worker transactions reaches.
-/

namespace EvalForge

open Foundation

/-- What the handlers of one process compute with. -/
structure Deployment extends BootstrapContext where
  env : Environment
  draws : Draws
  floats : FloatConversion
  repr : String → String
  demoSnapshot : Except HttpError Json

def Deployment.comparisonContext (deployment : Deployment) : ComparisonContext where
  draws := deployment.draws
  floats := deployment.floats
  text := deployment.env.text

/-- What a request reads outside the database. A UUID is not empty. -/
structure Readings extends RequestReadings where
  run : RunReadings
  checkedAt : Nat
  usedAt : Nat
  newUuid_ne : ∀ index, newUuid index ≠ ""

/-! ## Routes -/

inductive TenantRequest
  | listApps (query : PageQuery)
  | getApp (appId : String)
  | createApp (payload : AppCreate)
  | listAppVersions (appId : String) (query : PageQuery)
  | createAppVersion (appId : String) (payload : AppVersionCreate)
  | listEvalSuites (appId : String) (query : PageQuery)
  | createEvalSuite (appId : String) (payload : EvalSuiteCreate)
  | importEvalCases (suiteId : String) (payload : EvalCaseImportRequest)
  | listEvalCases (suiteId : String) (tag : Option String) (query : PageQuery)
  | getEvalSuiteSummary (suiteId : String)
  | createEvaluatorConfig (payload : EvaluatorConfigCreate)
  | listEvaluatorConfigs (query : PageQuery)
  | createGateRule (payload : GateRuleCreate)
  | listGateRules (query : PageQuery)
  | getGateRule (gateRuleId : String)
  | createRun (payload : RunCreate)
  | listRuns (query : PageQuery)
  | getRun (runId : String)
  | listRunItems (runId : String) (query : PageQuery)
  | getTrace (runId caseId : String)
  | createComparison (payload : ComparisonCreate)
  | listComparisons (query : PageQuery)
  | getComparison (comparisonId : String)
  | getGateDecision (comparisonId : String)
  | getCiGateReport (comparisonId : String) (dashboardUrl : Option String) (failOnWarn : Bool)
  | getDemoDashboardSnapshot
  | getLatestDashboardSnapshot (query : DashboardQuery)

namespace TenantRequest

abbrev Answer : TenantRequest → Type
  | listApps _ => List AppRead
  | getApp _ | createApp _ => AppRead
  | listAppVersions _ _ => List AppVersionRead
  | createAppVersion _ _ => AppVersionRead
  | listEvalSuites _ _ => List EvalSuiteRead
  | createEvalSuite _ _ => EvalSuiteRead
  | importEvalCases _ _ => EvalCaseImportResult
  | listEvalCases _ _ _ => List EvalCaseRead
  | getEvalSuiteSummary _ => EvalSuiteSummary
  | createEvaluatorConfig _ => EvaluatorConfigRead
  | listEvaluatorConfigs _ => List EvaluatorConfigRead
  | createGateRule _ | getGateRule _ => GateRuleRead
  | listGateRules _ => List GateRuleRead
  | createRun _ | getRun _ => RunRead
  | listRuns _ => List RunRead
  | listRunItems _ _ => List RunItemRead
  | getTrace _ _ => TraceRead
  | createComparison _ | getComparison _ => ComparisonRead
  | listComparisons _ => List ComparisonRead
  | getGateDecision _ => GateDecisionRead
  | getCiGateReport _ _ _ => CIGateReportRead
  | getDemoDashboardSnapshot => Json
  | getLatestDashboardSnapshot _ => DashboardSnapshot

variable (deployment : Deployment) (readings : Readings) (db : Database) (principal : Principal)

def handle : (request : TenantRequest) → Reply request.Answer
  | listApps query => { answer := .ok (EvalForge.listApps db principal query) }
  | getApp appId => { answer := EvalForge.getApp db principal appId }
  | createApp payload =>
      .ofExcept (EvalForge.createApp readings.toRequestReadings db principal payload)
  | listAppVersions appId query => { answer := EvalForge.listAppVersions db principal appId query }
  | createAppVersion appId payload =>
      .ofExcept (EvalForge.createAppVersion deployment.settings.toSettingsValues deployment.repr
        readings.toRequestReadings db principal appId payload)
  | listEvalSuites appId query => { answer := EvalForge.listEvalSuites db principal appId query }
  | createEvalSuite appId payload =>
      .ofExcept
        (EvalForge.createEvalSuite readings.toRequestReadings db principal appId payload)
  | importEvalCases suiteId payload =>
      .ofExcept
        (EvalForge.importEvalCases readings.toRequestReadings db principal suiteId payload)
  | listEvalCases suiteId tag query =>
      { answer := EvalForge.listEvalCases db principal suiteId tag query }
  | getEvalSuiteSummary suiteId =>
      { answer := EvalForge.getEvalSuiteSummary db principal suiteId }
  | createEvaluatorConfig payload =>
      .ofExcept (EvalForge.createEvaluatorConfig deployment.env readings.toRequestReadings db
        principal payload)
  | listEvaluatorConfigs query =>
      { answer := .ok (EvalForge.listEvaluatorConfigs db principal query) }
  | createGateRule payload =>
      .ofExcept (EvalForge.createGateRule deployment.floats deployment.env.text
        readings.toRequestReadings db principal payload)
  | listGateRules query => { answer := .ok (EvalForge.listGateRules db principal query) }
  | getGateRule gateRuleId => { answer := EvalForge.getGateRule db principal gateRuleId }
  | createRun payload =>
      EvalForge.createRun deployment.settings.runMode deployment.env readings.run db principal
        payload
  | listRuns query => { answer := .ok (EvalForge.listRuns db principal query) }
  | getRun runId => { answer := EvalForge.getRun db principal runId }
  | listRunItems runId query => { answer := EvalForge.listRunItems db principal runId query }
  | getTrace runId caseId => { answer := EvalForge.getTrace db principal runId caseId }
  | createComparison payload =>
      .ofExcept (EvalForge.createComparison deployment.comparisonContext
        readings.toRequestReadings db principal payload)
  | listComparisons query => { answer := .ok (EvalForge.listComparisons db principal query) }
  | getComparison comparisonId =>
      { answer := EvalForge.getComparison db principal comparisonId }
  | getGateDecision comparisonId =>
      { answer := EvalForge.getGateDecision db principal comparisonId }
  | getCiGateReport comparisonId dashboardUrl failOnWarn =>
      { answer := EvalForge.getCiGateReport (readings.utcNow 0) db principal comparisonId
          dashboardUrl failOnWarn }
  | getDemoDashboardSnapshot => { answer := deployment.demoSnapshot }
  | getLatestDashboardSnapshot query =>
      { answer := EvalForge.getLatestDashboardSnapshot deployment.floats deployment.env.text db
          principal query }

end TenantRequest

inductive IdentityRequest
  | listOrganizations
  | currentOrganization
  | createOrganization (payload : OrganizationCreate)
  | listMembers
  | addMember (payload : MemberCreate)
  | updateMember (userId : String) (payload : MemberRoleUpdate)
  | removeMember (userId : String)
  | currentPrincipal
  | logout
  | changePassword (payload : PasswordChange)
  | switchOrganization (payload : OrganizationSwitch)
  | listApiKeys
  | createApiKey (payload : ApiKeyCreate)
  | revokeApiKey (apiKeyId : String)

namespace IdentityRequest

abbrev Answer : IdentityRequest → Type
  | listOrganizations => List OrganizationMembershipRead
  | currentOrganization | createOrganization _ => Organization
  | listMembers => List MemberRead
  | addMember _ | updateMember _ _ => MemberRead
  | removeMember _ | logout | changePassword _ | revokeApiKey _ => Unit
  | currentPrincipal => PrincipalRead
  | switchOrganization _ => TokenRead
  | listApiKeys => List ApiKeyRead
  | createApiKey _ => ApiKeyCreated

variable (context : BootstrapContext) (readings : RequestReadings) (db : Database)
variable (principal : Principal)

def handle : (request : IdentityRequest) → Reply request.Answer
  | listOrganizations => EvalForge.listOrganizations db principal
  | currentOrganization => EvalForge.currentOrganization db principal
  | createOrganization payload => EvalForge.createOrganization readings db principal payload
  | listMembers => EvalForge.listMembers db principal
  | addMember payload => EvalForge.addMember context.hashPassword readings db principal payload
  | updateMember userId payload => EvalForge.updateMember db principal userId payload
  | removeMember userId => EvalForge.removeMember db principal userId
  | currentPrincipal => EvalForge.currentPrincipal db principal
  | logout => EvalForge.logout readings db principal
  | changePassword payload => EvalForge.changePassword context readings db principal payload
  | switchOrganization payload => EvalForge.switchOrganization context readings db principal payload
  | listApiKeys => EvalForge.listApiKeys db principal
  | createApiKey payload => EvalForge.createApiKey context readings db principal payload
  | revokeApiKey apiKeyId => EvalForge.revokeApiKey readings db principal apiKeyId

end IdentityRequest

inductive ApiRequest
  | tenant (request : TenantRequest)
  | identity (request : IdentityRequest)

namespace ApiRequest

abbrev Answer : ApiRequest → Type
  | tenant request => request.Answer
  | identity request => request.Answer

def handle (deployment : Deployment) (readings : Readings) (db : Database)
    (principal : Principal) : (request : ApiRequest) → Reply request.Answer
  | tenant request => request.handle deployment readings db principal
  | identity request =>
      request.handle deployment.toBootstrapContext readings.toRequestReadings db principal

end ApiRequest

/-! ## Calls -/

structure Call where
  deployment : Deployment
  readings : Readings
  headers : RequestHeaders
  request : ApiRequest

namespace Call

variable (call : Call) (db : Database)

def authenticate : Reply Principal :=
  getCurrentPrincipal call.deployment.settings call.deployment.credentials
    call.readings.checkedAt call.readings.usedAt db call.headers

def principal? : Option Principal := (Reply.settle db (call.authenticate db)).2.toOption

/-- The use of an API key is committed before the handler begins. -/
def serve : Database × Except HttpError call.request.Answer :=
  let (db, principal) := Reply.settle db (call.authenticate db)
  match principal with
  | .error error => (db, .error error)
  | .ok principal =>
      Reply.settle db (call.request.handle call.deployment call.readings db principal)

end Call

/-! ## Runs of the system -/

structure WorkerTransaction where
  writes : List Write
  byWorker : ∀ write ∈ writes, write.byWorker = true

inductive Event
  | call (call : Call)
  | login (deployment : Deployment) (readings : RequestReadings) (payload : LoginCreate)
  | bootstrap (deployment : Deployment) (request : BootstrapRequest)
  | work (transaction : WorkerTransaction)

/-- Every event is possible; a transaction that fails changes nothing. -/
def serverStep (db : Database) : Event → Option Database
  | .call call => some (call.serve db).1
  | .login deployment readings payload =>
      some (Reply.settle db (loginUser deployment.toBootstrapContext readings db payload)).1
  | .bootstrap deployment request =>
      some (Reply.settle db (bootstrap deployment.toBootstrapContext db request)).1
  | .work transaction => some ((db.commit transaction.writes).getD db)

def Database.Reachable (db : Database) : Prop :=
  ∃ createdAt events, run serverStep (Database.migrated createdAt) events = some db

end EvalForge
