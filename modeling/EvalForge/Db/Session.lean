import EvalForge.Core.Tenancy
import EvalForge.Foundation.Tables
import EvalForge.Models.Database

/-! # Sessions

The statements that a session flushes. A statement that breaks a primary key, a
unique constraint or a foreign key fails, and then its transaction leaves
nothing.
-/

namespace EvalForge

open Foundation

/-- What a session flushes. A case is written together with its link. -/
inductive Write
  | insertOrganization (row : Organization)
  | insertUser (row : User)
  | setLockout (userId : String) (failedLoginAttempts : Nat) (lockedUntil : Option Nat)
  | setPasswordHash (userId passwordHash : String)
  | insertMembership (row : Membership)
  | setRole (organizationId userId : String) (role : Role)
  | deleteMembership (organizationId userId : String)
  | insertAuthSession (row : AuthSession)
  | revokeSession (sessionId : String) (revokedAt : Nat)
  | insertApiKey (row : PersonalApiKey)
  | touchApiKey (apiKeyId : String) (lastUsedAt : Nat)
  | revokeApiKey (apiKeyId : String) (revokedAt : Nat)
  | insertApp (row : App)
  | insertVersion (row : AppVersionRow)
  | insertSuite (row : EvalSuiteRow)
  | insertLinkedCase (row : EvalCaseRow) (link : EvalSuiteCase)
  | insertEvaluatorConfig (row : EvaluatorConfigRow)
  | insertRun (row : EvalRunRow)
  | setRunProgress (runId : String) (status : RunStatus) (caseCompleted caseErrored : Nat)
      (completedAt : Option Nat)
  | insertItem (row : EvalRunItem)
  | setItem (itemId : String) (row : EvalRunItem)
  | insertTrace (row : TraceRow)
  | insertResult (row : EvalResultRow)
  | deleteEvidence (itemId : String)
  | insertGateRule (row : GateRuleRow)
  | insertComparison (row : ComparisonRow)
  | insertReport (row : RegressionReport)

/-! The primary keys and unique constraints of the tables. -/

def Organization.conflicts (row stored : Organization) : Bool :=
  row.id == stored.id || row.slug == stored.slug

def User.conflicts (row stored : User) : Bool :=
  row.id == stored.id || row.email == stored.email

def Membership.conflicts (row stored : Membership) : Bool :=
  row.organizationId == stored.organizationId && row.userId == stored.userId

def AuthSession.conflicts (row stored : AuthSession) : Bool :=
  row.id == stored.id || row.tokenHash == stored.tokenHash

def PersonalApiKey.conflicts (row stored : PersonalApiKey) : Bool :=
  row.id == stored.id || row.tokenHash == stored.tokenHash ||
    (row.userId == stored.userId && row.organizationId == stored.organizationId &&
      row.name == stored.name)

def App.conflicts (row stored : App) : Bool :=
  row.id == stored.id || (row.organizationId == stored.organizationId && row.name == stored.name)

def AppVersionRow.conflicts (row stored : AppVersionRow) : Bool :=
  row.id == stored.id || (row.appId == stored.appId && row.name == stored.name)

def EvalSuiteRow.conflicts (row stored : EvalSuiteRow) : Bool :=
  row.id == stored.id || (row.appId == stored.appId && row.name == stored.name)

def EvalCaseRow.conflicts (row stored : EvalCaseRow) : Bool :=
  row.id == stored.id

def EvalSuiteCase.conflicts (row stored : EvalSuiteCase) : Bool :=
  row.suiteId == stored.suiteId && row.caseId == stored.caseId

def EvaluatorConfigRow.conflicts (row stored : EvaluatorConfigRow) : Bool :=
  row.id == stored.id || (row.organizationId == stored.organizationId && row.name == stored.name)

def EvalRunRow.conflicts (row stored : EvalRunRow) : Bool :=
  row.id == stored.id

def EvalRunItem.conflicts (row stored : EvalRunItem) : Bool :=
  row.id == stored.id || (row.runId == stored.runId && row.caseId == stored.caseId)

def TraceRow.conflicts (row stored : TraceRow) : Bool :=
  row.id == stored.id || row.runItemId == stored.runItemId

def EvalResultRow.conflicts (row stored : EvalResultRow) : Bool :=
  row.id == stored.id ||
    (row.runItemId == stored.runItemId && row.evaluatorName == stored.evaluatorName)

def GateRuleRow.conflicts (row stored : GateRuleRow) : Bool :=
  row.id == stored.id || (row.organizationId == stored.organizationId && row.name == stored.name)

def ComparisonRow.conflicts (row stored : ComparisonRow) : Bool :=
  row.id == stored.id

def RegressionReport.conflicts (row stored : RegressionReport) : Bool :=
  row.id == stored.id || row.comparisonId == stored.comparisonId

/-! What the foreign keys refer to. -/

namespace Database

variable (db : Database)

def hasOrganization (id : String) : Bool := db.organizations.any (·.id == id)

def hasUser (id : String) : Bool := db.users.any (·.id == id)

def hasApp (id : String) : Bool := db.apps.any (·.id == id)

def hasVersion (id : String) : Bool := db.appVersions.any (·.id == id)

def hasSuite (id : String) : Bool := db.evalSuites.any (·.id == id)

def hasCase (id : String) : Bool := db.evalCases.any (·.id == id)

def hasEvaluatorConfig (id : String) : Bool := db.evaluatorConfigs.any (·.id == id)

def hasRun (id : String) : Bool := db.evalRuns.any (·.id == id)

def hasItem (id : String) : Bool := db.evalRunItems.any (·.id == id)

def hasGateRule (id : String) : Bool := db.gateRules.any (·.id == id)

def hasComparison (id : String) : Bool := db.comparisons.any (·.id == id)

end Database

/-- One statement; `none` is an `IntegrityError`. -/
def Database.apply (db : Database) : Write → Option Database
  | .insertOrganization row => do
      let organizations ← insertUnique Organization.conflicts row db.organizations
      return { db with organizations }
  | .insertUser row => do
      let users ← insertUnique User.conflicts row db.users
      return { db with users }
  | .setLockout userId failedLoginAttempts lockedUntil =>
      some { db with
        users := updateWhere (·.id == userId)
          (fun user => { user with failedLoginAttempts, lockedUntil }) db.users }
  | .setPasswordHash userId passwordHash =>
      some { db with
        users := updateWhere (·.id == userId)
          (fun user => { user with passwordHash := some passwordHash }) db.users }
  | .insertMembership row => do
      let memberships ← insertReferencing
        (db.hasOrganization row.organizationId && db.hasUser row.userId)
        Membership.conflicts row db.memberships
      return { db with memberships }
  | .setRole organizationId userId role =>
      some { db with
        memberships := updateWhere
          (fun row => row.organizationId == organizationId && row.userId == userId)
          (fun row => { row with role }) db.memberships }
  | .deleteMembership organizationId userId =>
      some { db with
        memberships := db.memberships.filter fun row =>
          !(row.organizationId == organizationId && row.userId == userId) }
  | .insertAuthSession row => do
      let authSessions ← insertReferencing
        (db.hasOrganization row.organizationId && db.hasUser row.userId)
        AuthSession.conflicts row db.authSessions
      return { db with authSessions }
  | .revokeSession sessionId revokedAt =>
      some { db with
        authSessions := updateWhere (·.id == sessionId)
          (fun row => { row with revokedAt := some revokedAt }) db.authSessions }
  | .insertApiKey row => do
      let personalApiKeys ← insertReferencing
        (db.hasOrganization row.organizationId && db.hasUser row.userId)
        PersonalApiKey.conflicts row db.personalApiKeys
      return { db with personalApiKeys }
  | .touchApiKey apiKeyId lastUsedAt =>
      some { db with
        personalApiKeys := updateWhere (·.id == apiKeyId)
          (fun row => { row with lastUsedAt := some lastUsedAt }) db.personalApiKeys }
  | .revokeApiKey apiKeyId revokedAt =>
      some { db with
        personalApiKeys := updateWhere (·.id == apiKeyId)
          (fun row => { row with revokedAt := some revokedAt }) db.personalApiKeys }
  | .insertApp row => do
      let apps ← insertReferencing (db.hasOrganization row.organizationId)
        App.conflicts row db.apps
      return { db with apps }
  | .insertVersion row => do
      let appVersions ← insertReferencing (db.hasApp row.appId)
        AppVersionRow.conflicts row db.appVersions
      return { db with appVersions }
  | .insertSuite row => do
      let evalSuites ← insertReferencing (db.hasApp row.appId)
        EvalSuiteRow.conflicts row db.evalSuites
      return { db with evalSuites }
  | .insertLinkedCase row link => do
      let evalCases ← insertUnique EvalCaseRow.conflicts row db.evalCases
      let evalSuiteCases ← insertReferencing
        (db.hasSuite link.suiteId && evalCases.any (·.id == link.caseId))
        EvalSuiteCase.conflicts link db.evalSuiteCases
      return { db with evalCases, evalSuiteCases }
  | .insertEvaluatorConfig row => do
      let evaluatorConfigs ← insertReferencing (db.hasOrganization row.organizationId)
        EvaluatorConfigRow.conflicts row db.evaluatorConfigs
      return { db with evaluatorConfigs }
  | .insertRun row => do
      let evalRuns ← insertReferencing
        (db.hasOrganization row.organizationId && db.hasVersion row.appVersionId &&
          db.hasSuite row.suiteId && db.hasEvaluatorConfig row.evaluatorConfigId)
        EvalRunRow.conflicts row db.evalRuns
      return { db with evalRuns }
  | .setRunProgress runId status caseCompleted caseErrored completedAt =>
      some { db with
        evalRuns := updateWhere (·.id == runId)
          (fun row => { row with status, caseCompleted, caseErrored, completedAt }) db.evalRuns }
  | .insertItem row => do
      let evalRunItems ← insertReferencing (db.hasRun row.runId && db.hasCase row.caseId)
        EvalRunItem.conflicts row db.evalRunItems
      return { db with evalRunItems }
  | .setItem itemId changed =>
      some { db with
        evalRunItems := updateWhere (·.id == itemId)
          (fun row => { changed with id := row.id, runId := row.runId, caseId := row.caseId })
          db.evalRunItems }
  | .insertTrace row => do
      let traces ← insertReferencing (db.hasItem row.runItemId)
        TraceRow.conflicts row db.traces
      return { db with traces }
  | .insertResult row => do
      let evalResults ← insertReferencing (db.hasItem row.runItemId)
        EvalResultRow.conflicts row db.evalResults
      return { db with evalResults }
  | .deleteEvidence itemId =>
      some { db with
        traces := db.traces.filter (·.runItemId != itemId)
        evalResults := db.evalResults.filter (·.runItemId != itemId) }
  | .insertGateRule row => do
      let gateRules ← insertReferencing (db.hasOrganization row.organizationId)
        GateRuleRow.conflicts row db.gateRules
      return { db with gateRules }
  | .insertComparison row => do
      let comparisons ← insertReferencing
        (db.hasOrganization row.organizationId && db.hasRun row.baselineRunId &&
          db.hasRun row.candidateRunId && db.hasGateRule row.gateRulesId)
        ComparisonRow.conflicts row db.comparisons
      return { db with comparisons }
  | .insertReport row => do
      let regressionReports ← insertReferencing (db.hasComparison row.comparisonId)
        RegressionReport.conflicts row db.regressionReports
      return { db with regressionReports }

def Database.commit (db : Database) : List Write → Option Database
  | [] => some db
  | write :: writes => do
      let next ← db.apply write
      next.commit writes

theorem Database.commit_append (db : Database) (first second : List Write) :
    db.commit (first ++ second) = (db.commit first).bind (·.commit second) := by
  induction first generalizing db with
  | nil => rfl
  | cons write first induction =>
      simp only [List.cons_append, Database.commit]
      cases db.apply write with
      | none => rfl
      | some next => exact induction next

/-! ## Replies -/

/-- What a handler commits, and what it answers once that succeeded. -/
structure Reply (Answer : Type) where
  writes : List Write := []
  answer : Except HttpError Answer

/-- A handler that commits only when it does not raise. -/
def Reply.ofExcept (result : Except HttpError (List Write × Answer)) : Reply Answer :=
  match result with
  | .ok (writes, answer) => { writes, answer := .ok answer }
  | .error error => { answer := .error error }

def Reply.settle (db : Database) (reply : Reply Answer) : Database × Except HttpError Answer :=
  match db.commit reply.writes with
  | some next => (next, reply.answer)
  | none => (db, .error internalServerError)

end EvalForge
