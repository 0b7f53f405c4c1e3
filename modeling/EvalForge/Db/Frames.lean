import EvalForge.Db.Session

/-! # What a statement changes

The row that an insert appends, and the tables that a statement leaves alone.
-/

namespace EvalForge

open Foundation

/-! ## Inserts -/

section

variable {db next : Database}

theorem inserted {Row : Type} (referenced : Bool) {conflicts : Row → Row → Bool} {row : Row}
    {table : List Row} (set : List Row → Database)
    (applied : ((insertReferencing referenced conflicts row table).bind fun table =>
      some (set table)) = some next) :
    referenced = true ∧ (∀ stored ∈ table, conflicts row stored = false) ∧
      next = set (table ++ [row]) := by
  rcases Option.bind_eq_some_iff.mp applied with ⟨changed, insertion, changes⟩
  rcases insertReferencing_eq_some_iff.mp insertion with ⟨there, free, equal⟩
  cases changes
  exact ⟨there, free, congrArg set equal⟩

theorem apply_insertMembership {row : Membership}
    (applied : db.apply (.insertMembership row) = some next) :
    (db.hasOrganization row.organizationId && db.hasUser row.userId) = true ∧
    (∀ stored ∈ db.memberships, row.conflicts stored = false) ∧
    next = { db with memberships := db.memberships ++ [row] } :=
  inserted _ (fun memberships => { db with memberships }) applied

theorem apply_insertAuthSession {row : AuthSession}
    (applied : db.apply (.insertAuthSession row) = some next) :
    (db.hasOrganization row.organizationId && db.hasUser row.userId) = true ∧
    (∀ stored ∈ db.authSessions, row.conflicts stored = false) ∧
    next = { db with authSessions := db.authSessions ++ [row] } :=
  inserted _ (fun authSessions => { db with authSessions }) applied

theorem apply_insertApiKey {row : PersonalApiKey}
    (applied : db.apply (.insertApiKey row) = some next) :
    (db.hasOrganization row.organizationId && db.hasUser row.userId) = true ∧
    (∀ stored ∈ db.personalApiKeys, row.conflicts stored = false) ∧
    next = { db with personalApiKeys := db.personalApiKeys ++ [row] } :=
  inserted _ (fun personalApiKeys => { db with personalApiKeys }) applied

theorem apply_insertOrganization {row : Organization}
    (applied : db.apply (.insertOrganization row) = some next) :
    (∀ stored ∈ db.organizations, row.conflicts stored = false) ∧
    next = { db with organizations := db.organizations ++ [row] } :=
  (inserted true (fun organizations => { db with organizations }) applied).2

theorem apply_insertUser {row : User} (applied : db.apply (.insertUser row) = some next) :
    (∀ stored ∈ db.users, row.conflicts stored = false) ∧
    next = { db with users := db.users ++ [row] } :=
  (inserted true (fun users => { db with users }) applied).2

theorem apply_insertApp {row : App} (applied : db.apply (.insertApp row) = some next) :
    db.hasOrganization row.organizationId = true ∧
    (∀ stored ∈ db.apps, row.conflicts stored = false) ∧
    next = { db with apps := db.apps ++ [row] } :=
  inserted _ (fun apps => { db with apps }) applied

theorem apply_insertVersion {row : AppVersionRow}
    (applied : db.apply (.insertVersion row) = some next) :
    db.hasApp row.appId = true ∧ (∀ stored ∈ db.appVersions, row.conflicts stored = false) ∧
    next = { db with appVersions := db.appVersions ++ [row] } :=
  inserted _ (fun appVersions => { db with appVersions }) applied

theorem apply_insertSuite {row : EvalSuiteRow}
    (applied : db.apply (.insertSuite row) = some next) :
    db.hasApp row.appId = true ∧ (∀ stored ∈ db.evalSuites, row.conflicts stored = false) ∧
    next = { db with evalSuites := db.evalSuites ++ [row] } :=
  inserted _ (fun evalSuites => { db with evalSuites }) applied

theorem apply_insertLinkedCase {row : EvalCaseRow} {link : EvalSuiteCase}
    (applied : db.apply (.insertLinkedCase row link) = some next) :
    db.hasSuite link.suiteId = true ∧
    (∀ stored ∈ db.evalCases, row.conflicts stored = false) ∧
    (∀ stored ∈ db.evalSuiteCases, link.conflicts stored = false) ∧
    next = { db with
      evalCases := db.evalCases ++ [row]
      evalSuiteCases := db.evalSuiteCases ++ [link] } := by
  rcases Option.bind_eq_some_iff.mp applied with ⟨evalCases, insertion, linking⟩
  rcases insertUnique_eq_some_iff.mp insertion with ⟨freeCase, equal⟩
  subst equal
  rcases inserted _ (fun evalSuiteCases =>
    { db with evalCases := db.evalCases ++ [row], evalSuiteCases }) linking with
    ⟨referenced, freeLink, equal⟩
  rw [Bool.and_eq_true] at referenced
  exact ⟨referenced.1, freeCase, freeLink, equal⟩

theorem apply_insertEvaluatorConfig {row : EvaluatorConfigRow}
    (applied : db.apply (.insertEvaluatorConfig row) = some next) :
    db.hasOrganization row.organizationId = true ∧
    (∀ stored ∈ db.evaluatorConfigs, row.conflicts stored = false) ∧
    next = { db with evaluatorConfigs := db.evaluatorConfigs ++ [row] } :=
  inserted _ (fun evaluatorConfigs => { db with evaluatorConfigs }) applied

theorem apply_insertRun {row : EvalRunRow} (applied : db.apply (.insertRun row) = some next) :
    (db.hasOrganization row.organizationId && db.hasVersion row.appVersionId &&
      db.hasSuite row.suiteId && db.hasEvaluatorConfig row.evaluatorConfigId) = true ∧
    (∀ stored ∈ db.evalRuns, row.conflicts stored = false) ∧
    next = { db with evalRuns := db.evalRuns ++ [row] } :=
  inserted _ (fun evalRuns => { db with evalRuns }) applied

theorem apply_insertItem {row : EvalRunItem} (applied : db.apply (.insertItem row) = some next) :
    (db.hasRun row.runId && db.hasCase row.caseId) = true ∧
    (∀ stored ∈ db.evalRunItems, row.conflicts stored = false) ∧
    next = { db with evalRunItems := db.evalRunItems ++ [row] } :=
  inserted _ (fun evalRunItems => { db with evalRunItems }) applied

theorem apply_insertTrace {row : TraceRow} (applied : db.apply (.insertTrace row) = some next) :
    db.hasItem row.runItemId = true ∧ (∀ stored ∈ db.traces, row.conflicts stored = false) ∧
    next = { db with traces := db.traces ++ [row] } :=
  inserted _ (fun traces => { db with traces }) applied

theorem apply_insertResult {row : EvalResultRow}
    (applied : db.apply (.insertResult row) = some next) :
    db.hasItem row.runItemId = true ∧
    (∀ stored ∈ db.evalResults, row.conflicts stored = false) ∧
    next = { db with evalResults := db.evalResults ++ [row] } :=
  inserted _ (fun evalResults => { db with evalResults }) applied

theorem apply_insertGateRule {row : GateRuleRow}
    (applied : db.apply (.insertGateRule row) = some next) :
    db.hasOrganization row.organizationId = true ∧
    (∀ stored ∈ db.gateRules, row.conflicts stored = false) ∧
    next = { db with gateRules := db.gateRules ++ [row] } :=
  inserted _ (fun gateRules => { db with gateRules }) applied

theorem apply_insertComparison {row : ComparisonRow}
    (applied : db.apply (.insertComparison row) = some next) :
    (db.hasOrganization row.organizationId && db.hasRun row.baselineRunId &&
      db.hasRun row.candidateRunId && db.hasGateRule row.gateRulesId) = true ∧
    (∀ stored ∈ db.comparisons, row.conflicts stored = false) ∧
    next = { db with comparisons := db.comparisons ++ [row] } :=
  inserted _ (fun comparisons => { db with comparisons }) applied

theorem apply_insertReport {row : RegressionReport}
    (applied : db.apply (.insertReport row) = some next) :
    db.hasComparison row.comparisonId = true ∧
    (∀ stored ∈ db.regressionReports, row.conflicts stored = false) ∧
    next = { db with regressionReports := db.regressionReports ++ [row] } :=
  inserted _ (fun regressionReports => { db with regressionReports }) applied

end

/-! ## Frames -/

/-- The statements on users, organizations, memberships and credentials. -/
def Write.onIdentity : Write → Bool
  | .insertOrganization .. | .insertUser .. | .setLockout .. | .setPasswordHash ..
  | .insertMembership .. | .setRole .. | .deleteMembership .. | .insertAuthSession ..
  | .revokeSession .. | .insertApiKey .. | .touchApiKey .. | .revokeApiKey .. => true
  | _ => false

/-- The statements of the worker tasks: they change the rows of existing items
and runs, and write and delete evidence. -/
def Write.byWorker : Write → Bool
  | .setRunProgress .. | .setItem .. | .insertTrace .. | .insertResult .. | .deleteEvidence .. =>
      true
  | _ => false

def Write.newId : Write → Option String
  | .insertApp row => some row.id
  | .insertVersion row => some row.id
  | .insertSuite row => some row.id
  | .insertLinkedCase row _ => some row.id
  | .insertEvaluatorConfig row => some row.id
  | .insertRun row => some row.id
  | .insertItem row => some row.id
  | .insertTrace row => some row.id
  | .insertResult row => some row.id
  | .insertGateRule row => some row.id
  | .insertComparison row => some row.id
  | .insertReport row => some row.id
  | _ => none

def Database.tenantTables (db : Database) : Database :=
  { db with
    organizations := [], users := [], memberships := [], authSessions := []
    personalApiKeys := [] }

def Database.identityTables (db : Database) : Database where
  organizations := db.organizations
  users := db.users
  memberships := db.memberships
  authSessions := db.authSessions
  personalApiKeys := db.personalApiKeys

theorem apply_onIdentity {db next : Database} {write : Write}
    (onIdentity : write.onIdentity = true) (applied : db.apply write = some next) :
    next.tenantTables = db.tenantTables := by
  cases write <;> first
    | cases onIdentity; done
    | cases applied; rfl
    | rcases Option.bind_eq_some_iff.mp applied with ⟨table, -, insertion⟩
      cases insertion
      rfl

theorem apply_onTenant {db next : Database} {write : Write}
    (onTenant : write.onIdentity = false) (applied : db.apply write = some next) :
    next.identityTables = db.identityTables := by
  cases write with
  | insertLinkedCase row link =>
      rcases apply_insertLinkedCase applied with ⟨-, -, -, equal⟩
      rw [equal]
      rfl
  | _ => first
    | cases onTenant; done
    | cases applied; rfl
    | rcases Option.bind_eq_some_iff.mp applied with ⟨table, -, insertion⟩
      cases insertion
      rfl

theorem hasOrganization_of_identityTables {db next : Database} {organizationId : String}
    (same : next.identityTables = db.identityTables)
    (present : db.hasOrganization organizationId = true) :
    next.hasOrganization organizationId = true := by
  have organizations := congrArg Database.organizations same
  have sameOrganizations : next.organizations = db.organizations := organizations
  rw [Database.hasOrganization, sameOrganizations]
  exact present

theorem commit_keeps (Kept : Database → Prop) (Allowed : Write → Prop)
    (keeps : ∀ db next write, Allowed write → Kept db → db.apply write = some next → Kept next)
    {db next : Database} {writes : List Write} (allowed : ∀ write ∈ writes, Allowed write)
    (kept : Kept db) (committed : db.commit writes = some next) : Kept next := by
  induction writes generalizing db with
  | nil =>
      cases committed
      exact kept
  | cons write writes induction =>
      rcases Option.bind_eq_some_iff.mp committed with ⟨middle, applied, rest⟩
      exact induction (fun other member => allowed other (List.mem_cons_of_mem write member))
        (keeps db middle write (allowed write List.mem_cons_self) kept applied) rest

theorem commit_onIdentity {db next : Database} {writes : List Write}
    (onIdentity : ∀ write ∈ writes, write.onIdentity = true)
    (committed : db.commit writes = some next) : next.tenantTables = db.tenantTables :=
  commit_keeps (fun current => current.tenantTables = db.tenantTables) (·.onIdentity = true)
    (fun _ _ _ allowed kept applied => (apply_onIdentity allowed applied).trans kept)
    onIdentity rfl committed

theorem commit_onTenant {db next : Database} {writes : List Write}
    (onTenant : ∀ write ∈ writes, write.onIdentity = false)
    (committed : db.commit writes = some next) : next.identityTables = db.identityTables :=
  commit_keeps (fun current => current.identityTables = db.identityTables) (·.onIdentity = false)
    (fun _ _ _ allowed kept applied => (apply_onTenant allowed applied).trans kept)
    onTenant rfl committed

end EvalForge
