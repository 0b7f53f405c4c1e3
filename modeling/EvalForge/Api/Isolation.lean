import EvalForge.Api.Roles
import EvalForge.Db.TenantInserts
import EvalForge.Db.TenantQueries

/-! # Isolation of the organizations

A request on tenant rows computes the same on the rows of its organization
alone as on the whole database. So two databases with the same rows of the
organization answer it alike, and the rows of the others stay.
-/

namespace EvalForge

open Foundation

section

variable {db : Database} {principal : Principal}

/-! ## Checks -/

theorem bind_congr_ok {Error Value Result : Type} {action other : Except Error Value}
    {next otherNext : Value → Except Error Result} (same : action = other)
    (agree : ∀ value, other = .ok value → next value = otherNext value) :
    action >>= next = other >>= otherNext := by
  rw [same]
  cases checked : other with
  | error error => rfl
  | ok value => exact agree value checked

theorem alone_tenantAppOr404 (appId : String) :
    tenantAppOr404 (db.alone principal.organizationId) principal appId =
      tenantAppOr404 db principal appId := by
  unfold tenantAppOr404
  rw [Database.alone_tenantApp]

theorem alone_tenantSuiteOr404 (suiteId : String) :
    tenantSuiteOr404 (db.alone principal.organizationId) principal suiteId =
      tenantSuiteOr404 db principal suiteId := by
  unfold tenantSuiteOr404
  rw [Database.alone_tenantSuite]

theorem alone_tenantRunOr404 (runId : String) :
    tenantRunOr404 (db.alone principal.organizationId) principal runId =
      tenantRunOr404 db principal runId := by
  unfold tenantRunOr404
  rw [Database.alone_tenantRun]

theorem tenantRunOr404_ok {runId : String} {run : EvalRunRow}
    (found : tenantRunOr404 db principal runId = .ok run) :
    db.runOwned principal.organizationId runId = true := by
  unfold tenantRunOr404 at found
  split at found
  · next selected => exact Database.runOwned_of_tenantRun selected
  · cases found

theorem alone_tenantComparisonOr404 (comparisonId : String) :
    tenantComparisonOr404 (db.alone principal.organizationId) principal comparisonId =
      tenantComparisonOr404 db principal comparisonId := by
  unfold tenantComparisonOr404
  rw [Database.alone_tenantComparison]
  cases found : db.tenantComparison principal.organizationId comparisonId with
  | none => rfl
  | some comparison =>
      simp only [Database.alone_reportOf (Database.comparisonOwned_of_tenantComparison found)]

/-! ## Apps, versions and suites -/

theorem alone_listApps (query : PageQuery) :
    listApps (db.alone principal.organizationId) principal query =
      listApps db principal query := by
  rw [listApps, Database.alone_appsOf, listApps]

theorem alone_getApp (appId : String) :
    getApp (db.alone principal.organizationId) principal appId = getApp db principal appId := by
  rw [getApp, alone_tenantAppOr404, getApp]

theorem alone_listAppVersions (appId : String) (query : PageQuery) :
    listAppVersions (db.alone principal.organizationId) principal appId query =
      listAppVersions db principal appId query := by
  refine bind_congr_ok (alone_tenantAppOr404 appId) fun app found => ?_
  rw [Database.alone_versionsOf (tenantAppOr404_ok found)]

theorem alone_listEvalSuites (appId : String) (query : PageQuery) :
    listEvalSuites (db.alone principal.organizationId) principal appId query =
      listEvalSuites db principal appId query := by
  refine bind_congr_ok (alone_tenantAppOr404 appId) fun app found => ?_
  rw [Database.alone_suitesOf (tenantAppOr404_ok found)]

theorem alone_createApp (readings : RequestReadings) (payload : AppCreate) :
    createApp readings (db.alone principal.organizationId) principal payload =
      createApp readings db principal payload := by
  rw [createApp, Database.alone_appsOf, createApp]

theorem alone_createAppVersion (settings : SettingsValues) (repr : String → String)
    (readings : RequestReadings) (appId : String) (payload : AppVersionCreate) :
    createAppVersion settings repr readings (db.alone principal.organizationId) principal appId
        payload =
      createAppVersion settings repr readings db principal appId payload := by
  refine bind_congr_ok rfl fun _ _ => ?_
  refine bind_congr_ok (alone_tenantAppOr404 appId) fun app found => ?_
  rw [Database.alone_versionsOf (tenantAppOr404_ok found)]

theorem alone_createEvalSuite (readings : RequestReadings) (appId : String)
    (payload : EvalSuiteCreate) :
    createEvalSuite readings (db.alone principal.organizationId) principal appId payload =
      createEvalSuite readings db principal appId payload := by
  refine bind_congr_ok rfl fun _ _ => ?_
  refine bind_congr_ok (alone_tenantAppOr404 appId) fun app found => ?_
  rw [Database.alone_suitesOf (tenantAppOr404_ok found)]

/-! ## Cases -/

theorem alone_listEvalCases (suiteId : String) (tag : Option String) (query : PageQuery) :
    listEvalCases (db.alone principal.organizationId) principal suiteId tag query =
      listEvalCases db principal suiteId tag query := by
  refine bind_congr_ok (alone_tenantSuiteOr404 suiteId) fun suite found => ?_
  rw [Database.alone_casesOf (tenantSuiteOr404_ok found)]

theorem alone_getEvalSuiteSummary (suiteId : String) :
    getEvalSuiteSummary (db.alone principal.organizationId) principal suiteId =
      getEvalSuiteSummary db principal suiteId := by
  refine bind_congr_ok (alone_tenantSuiteOr404 suiteId) fun suite found => ?_
  rw [Database.alone_casesOf (tenantSuiteOr404_ok found)]

theorem alone_importEvalCases (readings : RequestReadings) (suiteId : String)
    (payload : EvalCaseImportRequest) :
    importEvalCases readings (db.alone principal.organizationId) principal suiteId payload =
      importEvalCases readings db principal suiteId payload := by
  rw [importEvalCases, alone_tenantSuiteOr404, importEvalCases]

/-! ## Configurations and gate rules -/

theorem alone_createEvaluatorConfig (env : Environment) (readings : RequestReadings)
    (payload : EvaluatorConfigCreate) :
    createEvaluatorConfig env readings (db.alone principal.organizationId) principal payload =
      createEvaluatorConfig env readings db principal payload := by
  rw [createEvaluatorConfig, Database.alone_evaluatorConfigsOf, createEvaluatorConfig]

theorem alone_listEvaluatorConfigs (query : PageQuery) :
    listEvaluatorConfigs (db.alone principal.organizationId) principal query =
      listEvaluatorConfigs db principal query := by
  rw [listEvaluatorConfigs, Database.alone_evaluatorConfigsOf, listEvaluatorConfigs]

theorem alone_createGateRule (floats : FloatConversion) (text : Json → String)
    (readings : RequestReadings) (payload : GateRuleCreate) :
    createGateRule floats text readings (db.alone principal.organizationId) principal payload =
      createGateRule floats text readings db principal payload := by
  rw [createGateRule, Database.alone_gateRulesOf, createGateRule]

theorem alone_listGateRules (query : PageQuery) :
    listGateRules (db.alone principal.organizationId) principal query =
      listGateRules db principal query := by
  rw [listGateRules, Database.alone_gateRulesOf, listGateRules]

theorem alone_getGateRule (gateRuleId : String) :
    getGateRule (db.alone principal.organizationId) principal gateRuleId =
      getGateRule db principal gateRuleId := by
  rw [getGateRule, Database.alone_tenantGateRule, getGateRule]

/-! ## Runs -/

theorem alone_check (db : Database) (organizationId : String) (payload : RunCreate) :
    (runRequest (db.alone organizationId) organizationId payload).check =
      (runRequest db organizationId payload).check := by
  simp only [runRequest, RunRequest.check, Database.alone_tenantVersion,
    Database.alone_tenantSuite, Database.alone_tenantEvaluatorConfig]
  cases suited : db.tenantSuite organizationId payload.suiteId with
  | none => cases db.tenantVersion organizationId payload.appVersionId <;> rfl
  | some suite =>
      rw [Database.alone_casesOf (Database.suiteOwned_of_tenantSuite suited)]

theorem executeRun_congr (env : Environment) (inputs : ExecutionInputs)
    {request other : RunRequest} (sameCheck : request.check = other.check)
    (sameOrganization : request.organizationId = other.organizationId) :
    executeRun env inputs request = executeRun env inputs other := by
  rw [executeRun, sameCheck, sameOrganization, executeRun]

theorem dispatchRun_congr (inputs : DispatchInputs) {request other : RunRequest}
    (sameCheck : request.check = other.check)
    (sameOrganization : request.organizationId = other.organizationId) :
    dispatchRun inputs request = dispatchRun inputs other := by
  rw [dispatchRun, sameCheck, sameOrganization, dispatchRun]

theorem alone_createRun (runMode : String) (env : Environment) (readings : RunReadings)
    (payload : RunCreate) :
    createRun runMode env readings (db.alone principal.organizationId) principal payload =
      createRun runMode env readings db principal payload := by
  have sameCheck := alone_check db principal.organizationId payload
  have executed := executeRun_congr env readings.execution sameCheck rfl
  have dispatched := dispatchRun_congr readings.dispatch sameCheck rfl
  simp only [createRun, createSyncRun, createCeleryRun, executed, dispatched]

theorem alone_listRuns (query : PageQuery) :
    listRuns (db.alone principal.organizationId) principal query =
      listRuns db principal query := by
  rw [listRuns, Database.alone_runsOf, listRuns]

theorem alone_getRun (runId : String) :
    getRun (db.alone principal.organizationId) principal runId = getRun db principal runId := by
  rw [getRun, alone_tenantRunOr404, getRun]

theorem alone_listRunItems (runId : String) (query : PageQuery) :
    listRunItems (db.alone principal.organizationId) principal runId query =
      listRunItems db principal runId query := by
  refine bind_congr_ok (alone_tenantRunOr404 runId) fun run found => ?_
  have own := tenantRunOr404_ok found
  rw [Database.alone_itemsOf own]
  refine congrArg Except.ok (List.map_congr_left fun item member => ?_)
  have selected := List.mem_of_mem_drop (List.mem_of_mem_take member)
  rw [List.mem_insertionSort] at selected
  rw [Database.alone_resultsOf (Database.itemOwned_of_mem own selected)]

theorem alone_getTrace (runId caseId : String) :
    getTrace (db.alone principal.organizationId) principal runId caseId =
      getTrace db principal runId caseId := by
  refine bind_congr_ok (alone_tenantRunOr404 runId) fun run found => ?_
  have own := tenantRunOr404_ok found
  rw [Database.alone_itemsOf own]
  cases item? : (db.itemsOf runId).find? (·.caseId == caseId) with
  | none => rfl
  | some item =>
      have member := List.mem_of_find?_eq_some item?
      simp only [Database.alone_traceOf (Database.itemOwned_of_mem own member)]

/-! ## Comparisons -/

theorem alone_comparableRuns (consistent : db.Consistent) (organizationId : String)
    (payload : ComparisonCreate) :
    comparableRuns (db.alone organizationId) organizationId payload =
      comparableRuns db organizationId payload := by
  unfold comparableRuns
  rw [Database.alone_tenantRun, Database.alone_tenantRun]
  cases baselineFound : db.tenantRun organizationId payload.baselineRunId with
  | none => rfl
  | some baseline =>
      cases candidateFound : db.tenantRun organizationId payload.candidateRunId with
      | none => rfl
      | some candidate =>
          have versions {runId : String} {run : EvalRunRow}
              (found : db.tenantRun organizationId runId = some run) :
              (db.alone organizationId).version? run.appVersionId =
                db.version? run.appVersionId := by
            rcases run?_of_tenantRun consistent found with ⟨-, own, -⟩
            rcases (consistent.refer.evalRuns run (List.mem_of_find?_eq_some found)).owned own with
              ⟨version, _, _, _, versioned, -, -, -, -, ownVersion, -⟩
            rw [Database.alone_version? versioned ownVersion, versioned]
          simp only [versions baselineFound, versions candidateFound,
            Database.alone_caseIdsOf (Database.runOwned_of_tenantRun baselineFound),
            Database.alone_caseIdsOf (Database.runOwned_of_tenantRun candidateFound)]

theorem alone_comparisonGateRules (context : ComparisonContext) (readings : RequestReadings)
    (organizationId : String) (gateRulesId : Option String) :
    comparisonGateRules context readings (db.alone organizationId) organizationId gateRulesId =
      comparisonGateRules context readings db organizationId gateRulesId := by
  cases gateRulesId with
  | none => rfl
  | some gateRulesId => simp only [comparisonGateRules, Database.alone_tenantGateRule]

theorem alone_computeComparison (context : ComparisonContext) (readings : RequestReadings)
    (consistent : db.Consistent) (organizationId : String) (payload : ComparisonCreate) :
    computeComparison context readings (db.alone organizationId) organizationId payload =
      computeComparison context readings db organizationId payload := by
  refine bind_congr_ok (alone_comparableRuns consistent organizationId payload)
    fun runs compared => ?_
  rcases comparableRuns_ok compared with ⟨baselineFound, candidateFound, -⟩
  rw [alone_comparisonGateRules,
    Database.alone_itemRecords (Database.runOwned_of_tenantRun baselineFound),
    Database.alone_itemRecords (Database.runOwned_of_tenantRun candidateFound)]

theorem alone_createComparison (context : ComparisonContext) (readings : RequestReadings)
    (consistent : db.Consistent) (payload : ComparisonCreate) :
    createComparison context readings (db.alone principal.organizationId) principal payload =
      createComparison context readings db principal payload := by
  rw [createComparison, alone_computeComparison context readings consistent, createComparison]

theorem alone_listComparisons (query : PageQuery) :
    listComparisons (db.alone principal.organizationId) principal query =
      listComparisons db principal query := by
  unfold listComparisons
  rw [Database.alone_comparisonsOf]
  refine List.filterMap_congr fun comparison member => ?_
  have selected := List.mem_of_mem_drop (List.mem_of_mem_take member)
  rw [List.mem_insertionSort] at selected
  rcases List.mem_filter.mp selected with ⟨stored, owned⟩
  have own : db.comparisonOwned principal.organizationId comparison.id = true :=
    List.any_eq_true.mpr ⟨comparison, stored, by rw [beq_self_eq_true, owned, Bool.and_self]⟩
  rw [Database.alone_reportOf own]

theorem alone_getComparison (comparisonId : String) :
    getComparison (db.alone principal.organizationId) principal comparisonId =
      getComparison db principal comparisonId := by
  rw [getComparison, alone_tenantComparisonOr404, getComparison]

theorem alone_getGateDecision (comparisonId : String) :
    getGateDecision (db.alone principal.organizationId) principal comparisonId =
      getGateDecision db principal comparisonId := by
  rw [getGateDecision, alone_tenantComparisonOr404, getGateDecision]

theorem alone_getCiGateReport (generatedAt : Nat) (comparisonId : String)
    (dashboardUrl : Option String) (failOnWarn : Bool) :
    getCiGateReport generatedAt (db.alone principal.organizationId) principal comparisonId
        dashboardUrl failOnWarn =
      getCiGateReport generatedAt db principal comparisonId dashboardUrl failOnWarn := by
  rw [getCiGateReport, alone_tenantComparisonOr404, getCiGateReport]

theorem alone_getLatestDashboardSnapshot (floats : FloatConversion) (text : Json → String)
    (consistent : db.Consistent) (query : DashboardQuery) :
    getLatestDashboardSnapshot floats text (db.alone principal.organizationId) principal query =
      getLatestDashboardSnapshot floats text db principal query := by
  unfold getLatestDashboardSnapshot buildLatestDashboardSnapshot
  rw [Database.alone_loadDashboard consistent]

/-! ## All requests -/

/-- Every request on tenant rows reads the rows of its organization only. -/
theorem TenantRequest.handle_alone (deployment : Deployment) (readings : Readings)
    (consistent : db.Consistent) (request : TenantRequest) :
    request.handle deployment readings (db.alone principal.organizationId) principal =
      request.handle deployment readings db principal := by
  cases request with
  | listApps query => simp only [handle, alone_listApps]
  | getApp appId => simp only [handle, alone_getApp]
  | createApp payload => simp only [handle, alone_createApp]
  | listAppVersions appId query => simp only [handle, alone_listAppVersions]
  | createAppVersion appId payload => simp only [handle, alone_createAppVersion]
  | listEvalSuites appId query => simp only [handle, alone_listEvalSuites]
  | createEvalSuite appId payload => simp only [handle, alone_createEvalSuite]
  | importEvalCases suiteId payload => simp only [handle, alone_importEvalCases]
  | listEvalCases suiteId tag query => simp only [handle, alone_listEvalCases]
  | getEvalSuiteSummary suiteId => simp only [handle, alone_getEvalSuiteSummary]
  | createEvaluatorConfig payload => simp only [handle, alone_createEvaluatorConfig]
  | listEvaluatorConfigs query => simp only [handle, alone_listEvaluatorConfigs]
  | createGateRule payload => simp only [handle, alone_createGateRule]
  | listGateRules query => simp only [handle, alone_listGateRules]
  | getGateRule gateRuleId => simp only [handle, alone_getGateRule]
  | createRun payload => simp only [handle, alone_createRun]
  | listRuns query => simp only [handle, alone_listRuns]
  | getRun runId => simp only [handle, alone_getRun]
  | listRunItems runId query => simp only [handle, alone_listRunItems]
  | getTrace runId caseId => simp only [handle, alone_getTrace]
  | createComparison payload =>
      simp only [handle, alone_createComparison _ _ consistent]
  | listComparisons query => simp only [handle, alone_listComparisons]
  | getComparison comparisonId => simp only [handle, alone_getComparison]
  | getGateDecision comparisonId => simp only [handle, alone_getGateDecision]
  | getCiGateReport comparisonId dashboardUrl failOnWarn =>
      simp only [handle, alone_getCiGateReport]
  | getDemoDashboardSnapshot => rfl
  | getLatestDashboardSnapshot query =>
      simp only [handle, alone_getLatestDashboardSnapshot _ _ consistent]

end

/-! ## Settled requests -/

section

variable {db next : Database} {principal : Principal} {organizationId : String}

theorem settle_alone {Answer : Type} {reply : Reply Answer}
    (same : (db.alone organizationId).commit reply.writes =
      (db.commit reply.writes).map (·.alone organizationId)) :
    Reply.settle (db.alone organizationId) reply =
      ((Reply.settle db reply).1.alone organizationId, (Reply.settle db reply).2) := by
  unfold Reply.settle
  rw [same]
  cases db.commit reply.writes with
  | none => rfl
  | some next => rfl

def Readings.FreshIn (readings : Readings) (db : Database) : Prop :=
  ∀ id, readings.Issues id → id ∉ db.tenantIds

theorem Database.Unused.part {id : String} (unused : db.Unused id) (mine : Bool) :
    (db.part organizationId mine).Unused id where
  apps app member := unused.apps app (List.mem_filter.mp member).1
  appVersions version member := unused.appVersions version (List.mem_filter.mp member).1
  evalSuites suite member := unused.evalSuites suite (List.mem_filter.mp member).1
  evalCases case member := unused.evalCases case (List.mem_filter.mp member).1
  evaluatorConfigs config member := unused.evaluatorConfigs config (List.mem_filter.mp member).1
  evalRuns run member := unused.evalRuns run (List.mem_filter.mp member).1
  evalRunItems item member := unused.evalRunItems item (List.mem_filter.mp member).1
  traces trace member := unused.traces trace (List.mem_filter.mp member).1
  evalResults result member := unused.evalResults result (List.mem_filter.mp member).1
  gateRules gateRule member := unused.gateRules gateRule (List.mem_filter.mp member).1
  comparisons comparison member := unused.comparisons comparison (List.mem_filter.mp member).1
  regressionReports report member := unused.regressionReports report (List.mem_filter.mp member).1

theorem TenantRequest.handle_admits {deployment : Deployment} {readings : Readings}
    (sync : deployment.settings.runMode = "sync") (consistent : db.Consistent)
    (request : TenantRequest) :
    let writes := (request.handle deployment readings db principal).writes
    db.Admits principal.organizationId writes ∧
      ∀ write ∈ writes, ∀ id, write.newId = some id → readings.Issues id := by
  intro writes
  have written : RequestWrites deployment.settings.runMode principal db readings.Issues writes :=
    request.handle_writes deployment readings consistent
  clear_value writes
  rcases written with rfl | ⟨inserts, updates, rfl, created, -, onlyInserts⟩
  · exact ⟨trivial, List.forall_mem_nil _⟩
  · rw [onlyInserts sync, List.append_nil]
    exact ⟨created.admits, created.newIds⟩

theorem TenantRequest.settle_alone {deployment : Deployment} {readings : Readings}
    (sync : deployment.settings.runMode = "sync") (consistent : db.Consistent)
    (present : db.hasOrganization principal.organizationId = true)
    (fresh : readings.FreshIn db) (request : TenantRequest) :
    let view := db.alone principal.organizationId
    let settled := Reply.settle db (request.handle deployment readings db principal)
    Reply.settle view (request.handle deployment readings view principal) =
      (settled.1.alone principal.organizationId, settled.2) := by
  simp only [request.handle_alone deployment readings consistent]
  rcases request.handle_admits sync consistent with ⟨admits, newIds⟩
  exact EvalForge.settle_alone (Database.alone_commit consistent present admits
    fun write member id new =>
      (Database.unused_of_not_mem (fresh id (newIds write member id new))).part false)

/-! ## The rows of the others -/

structure SameOthers (organizationId : String) (db next : Database) : Prop where
  part : next.part organizationId false = db.part organizationId false
  organizations : next.organizations = db.organizations
  users : next.users = db.users
  memberships : next.memberships = db.memberships
  authSessions : next.authSessions = db.authSessions
  personalApiKeys : next.personalApiKeys.filter (·.organizationId != organizationId) =
    db.personalApiKeys.filter (·.organizationId != organizationId)

theorem SameOthers.refl (organizationId : String) (db : Database) :
    SameOthers organizationId db db := ⟨rfl, rfl, rfl, rfl, rfl, rfl⟩

theorem SameOthers.of_identityTables
    (part : next.part organizationId false = db.part organizationId false)
    (same : next.identityTables = db.identityTables) : SameOthers organizationId db next where
  part := part
  organizations := by
    have organizations := congrArg Database.organizations same
    exact organizations
  users := by
    have users := congrArg Database.users same
    exact users
  memberships := by
    have memberships := congrArg Database.memberships same
    exact memberships
  authSessions := by
    have authSessions := congrArg Database.authSessions same
    exact authSessions
  personalApiKeys := by
    have personalApiKeys := congrArg Database.personalApiKeys same
    exact congrArg (·.filter (·.organizationId != organizationId)) personalApiKeys

theorem SameOthers.trans {last : Database} (first : SameOthers organizationId db next)
    (second : SameOthers organizationId next last) : SameOthers organizationId db last where
  part := second.part.trans first.part
  organizations := second.organizations.trans first.organizations
  users := second.users.trans first.users
  memberships := second.memberships.trans first.memberships
  authSessions := second.authSessions.trans first.authSessions
  personalApiKeys := second.personalApiKeys.trans first.personalApiKeys

theorem SameOthers.othersOf (same : SameOthers organizationId db next) :
    next.othersOf organizationId = db.othersOf organizationId := by
  unfold Database.othersOf
  rw [same.part, same.organizations, same.users, same.memberships, same.authSessions,
    same.personalApiKeys]

theorem TenantRequest.settle_others {deployment : Deployment} {readings : Readings}
    (sync : deployment.settings.runMode = "sync") (consistent : db.Consistent)
    (request : TenantRequest) :
    SameOthers principal.organizationId db
      (Reply.settle db (request.handle deployment readings db principal)).1 := by
  refine settle_keeps (SameOthers principal.organizationId db) (.refl _ db) fun next committed => ?_
  rcases Database.others_commit consistent (request.handle_admits sync consistent).1 committed with
    ⟨part, identities⟩
  exact .of_identityTables part identities

theorem Call.authenticate_others {call : Call} (identities : db.IdentityConsistent)
    (authenticated : (call.authenticate db).answer = .ok principal) :
    SameOthers principal.organizationId db (Reply.settle db (call.authenticate db)).1 := by
  refine settle_keeps (SameOthers principal.organizationId db) (.refl _ db) fun next committed => ?_
  rcases call.authenticate_touches db with
    unwritten | ⟨other, answered, apiKey, member, own, touched⟩
  · rw [unwritten] at committed
    cases committed
    exact .refl _ db
  · rw [touched] at committed
    cases committed
    cases authenticated.symm.trans answered
    -- The id of the key is the key of one organization only.
    have apart : ∀ row ∈ db.personalApiKeys, (row.id == apiKey.id) = true →
        (row.organizationId != principal.organizationId) = false := by
      intro row rowMember identified
      have same : row = apiKey := by
        refine identities.apiKeys.eq_of_conflicts rowMember member ?_ ?_
        · simp [PersonalApiKey.conflicts, beq_iff_eq.mp identified]
        · simp [PersonalApiKey.conflicts, beq_iff_eq.mp identified]
      rw [same, own]
      simp
    exact { SameOthers.refl principal.organizationId db with
      personalApiKeys := filter_updateWhere_of_apart fun row rowMember selected =>
        ⟨apart row rowMember selected, apart row rowMember selected⟩ }

/-! ## Two databases -/

theorem alone_of_tenantTables (same : next.tenantTables = db.tenantTables)
    (organizationId : String) : next.alone organizationId = db.alone organizationId := by
  have views : next.tenantTables.alone organizationId = db.tenantTables.alone organizationId := by
    rw [same]
  exact views

theorem freshIn_of_tenantTables {readings : Readings}
    (same : next.tenantTables = db.tenantTables) (fresh : readings.FreshIn db) :
    readings.FreshIn next := by
  have tables : readings.FreshIn db.tenantTables := fresh
  rw [← same] at tables
  exact tables

theorem rowsOf_of_alone {other : Database}
    (same : db.alone organizationId = other.alone organizationId) :
    db.rowsOf organizationId = other.rowsOf organizationId := by
  have rows := congrArg (fun view : Database => { view with organizations := [] }) same
  exact rows

theorem alone_of_rowsOf {other : Database}
    (same : db.rowsOf organizationId = other.rowsOf organizationId) :
    db.alone organizationId = other.alone organizationId := by
  rw [Database.alone, same, Database.alone]

/-- What a call on tenant rows answers and leaves is computed from the rows of its
organization alone. -/
theorem Call.serve_alone {call : Call} {request : TenantRequest}
    (requested : call.request = .tenant request)
    (sync : call.deployment.settings.runMode = "sync") (reachable : db.Reachable)
    (found : call.principal? db = some principal) (fresh : call.readings.FreshIn db) :
    let view := db.alone principal.organizationId
    Reply.settle view (call.request.handle call.deployment call.readings view principal) =
      ((call.serve db).1.alone principal.organizationId, (call.serve db).2) := by
  rcases Call.principal?_eq_some found with ⟨authenticated, settled⟩
  have same := call.authenticate_same db
  have consistent := call.authenticate_consistent reachable.consistent
  have present := hasOrganization_of_same same
    (call.hasOrganization reachable.identityConsistent authenticated)
  have freshThere := freshIn_of_tenantTables same.tenantTables fresh
  simp only [Call.serve_of_settled settled,
    ← alone_of_tenantTables same.tenantTables principal.organizationId]
  rcases call with ⟨deployment, readings, headers, _⟩
  cases requested
  exact request.settle_alone sync consistent present freshThere

theorem Call.serve_others {call : Call} {request : TenantRequest}
    (requested : call.request = .tenant request)
    (sync : call.deployment.settings.runMode = "sync") (reachable : db.Reachable)
    (found : call.principal? db = some principal) :
    (call.serve db).1.othersOf principal.organizationId =
      db.othersOf principal.organizationId := by
  rcases Call.principal?_eq_some found with ⟨authenticated, settled⟩
  have authentication := call.authenticate_others reachable.identityConsistent authenticated
  have consistent := call.authenticate_consistent reachable.consistent
  rw [Call.serve_of_settled settled]
  rcases call with ⟨deployment, readings, headers, _⟩
  cases requested
  exact (authentication.trans (request.settle_others sync consistent)).othersOf

/-- Two reachable databases with the same rows of an organization answer a request
of its principal alike and leave the same rows of it, and neither changes a row
of another organization. -/
theorem reachable_isolated {other : Database} (reachable : db.Reachable)
    (otherReachable : other.Reachable) {call : Call} {request : TenantRequest}
    (requested : call.request = .tenant request)
    (sync : call.deployment.settings.runMode = "sync")
    (found : call.principal? db = some principal)
    (otherFound : call.principal? other = some principal)
    (agree : db.rowsOf principal.organizationId = other.rowsOf principal.organizationId)
    (fresh : call.readings.FreshIn db) (otherFresh : call.readings.FreshIn other) :
    (call.serve db).2 = (call.serve other).2 ∧
    (call.serve db).1.rowsOf principal.organizationId =
      (call.serve other).1.rowsOf principal.organizationId ∧
    (call.serve db).1.othersOf principal.organizationId =
      db.othersOf principal.organizationId ∧
    (call.serve other).1.othersOf principal.organizationId =
      other.othersOf principal.organizationId := by
  have served := call.serve_alone requested sync reachable found fresh
  have otherServed := call.serve_alone requested sync otherReachable otherFound otherFresh
  simp only [alone_of_rowsOf agree] at served
  have same := served.symm.trans otherServed
  rw [Prod.mk.injEq] at same
  exact ⟨same.2, rowsOf_of_alone same.1, call.serve_others requested sync reachable found,
    call.serve_others requested sync otherReachable otherFound⟩

end

namespace Scenario

/-- The same requests after Alice bootstrapped an organization with an app. -/
def sharedEvents : List Event := [
  .bootstrap devDeployment (bootstrapOf "alice" "alpha"),
  .call (namedCall "other" { xEvalforgeApiKey := some "efs_alice" }
    (.tenant (.createApp { name := "Assistant" })))] ++ devEvents

theorem rowsOf_sharedEvents :
    (stateAfter devEvents).rowsOf defaultOrganizationId =
      (stateAfter sharedEvents).rowsOf defaultOrganizationId := by
  with_unfolding_all rfl

theorem freshIn_namedReadings {db : Database} {name : String} {first : Char}
    (begins : name.toList.head? = some first)
    (others : ∀ id ∈ db.tenantIds, id.toList.head? ≠ some first) :
    (namedReadings name).FreshIn db := by
  have beginsIssued {name : String} (begins : name.toList.head? = some first) (index : Nat) :
      (issuedId name index).toList.head? = some first := by
    simp [issuedId, begins]
  intro id issued member
  refine others id member ?_
  rcases issued with ⟨index, rfl⟩ | ⟨index, rfl⟩ | ⟨index, rfl⟩ | ⟨index, position, rfl⟩
  · exact beginsIssued begins index
  · exact beginsIssued begins index
  · exact beginsIssued begins index
  · exact beginsIssued (beginsIssued begins index) position

def nextCall : Call := namedCall "next" {} (.tenant devRun)

theorem requested_nextCall : nextCall.request = .tenant devRun := rfl

theorem principal?_nextCall :
    nextCall.principal? (stateAfter devEvents) = some (systemPrincipal .development) := rfl

theorem begins_next : "next".toList.head? = some 'n' := rfl

end Scenario

theorem reachable_isolated_scenario :
    (Scenario.nextCall.serve (Scenario.stateAfter Scenario.devEvents)).2 =
        (Scenario.nextCall.serve (Scenario.stateAfter Scenario.sharedEvents)).2 ∧
      (Scenario.nextCall.serve (Scenario.stateAfter Scenario.sharedEvents)).1.othersOf
          defaultOrganizationId =
        (Scenario.stateAfter Scenario.sharedEvents).othersOf defaultOrganizationId := by
  have isolated := reachable_isolated ⟨0, Scenario.devEvents, rfl⟩
    ⟨0, Scenario.sharedEvents, rfl⟩ Scenario.requested_nextCall rfl
    Scenario.principal?_nextCall rfl Scenario.rowsOf_sharedEvents
    (Scenario.freshIn_namedReadings Scenario.begins_next (by decide +kernel))
    (Scenario.freshIn_namedReadings Scenario.begins_next (by decide +kernel))
  exact ⟨isolated.1, isolated.2.2.2⟩

end EvalForge
