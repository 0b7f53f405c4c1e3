import EvalForge.Db.Frames
import EvalForge.Foundation.Growth

/-! # What the database keeps

Rows are appended; of a stored row only its mutable columns change, and a
credential that is revoked stays so. Memberships are the one table from which
rows go. A lookup by the columns that are kept finds the same row in every later
state.
-/

namespace EvalForge

open Foundation

/-! ## Rows -/

def User.Precedes (user later : User) : Prop :=
  ∃ passwordHash failedLoginAttempts lockedUntil,
    later = { user with passwordHash, failedLoginAttempts, lockedUntil }

def AuthSession.Precedes (authSession later : AuthSession) : Prop :=
  ∃ revokedAt, (authSession.revokedAt ≠ none → revokedAt ≠ none) ∧
    later = { authSession with revokedAt }

def PersonalApiKey.Precedes (apiKey later : PersonalApiKey) : Prop :=
  ∃ lastUsedAt revokedAt, (apiKey.revokedAt ≠ none → revokedAt ≠ none) ∧
    later = { apiKey with lastUsedAt, revokedAt }

def EvalRunRow.Precedes (run later : EvalRunRow) : Prop :=
  ∃ status caseCompleted caseErrored completedAt,
    later = { run with status, caseCompleted, caseErrored, completedAt }

def EvalRunItem.Precedes (item later : EvalRunItem) : Prop :=
  later.id = item.id ∧ later.runId = item.runId ∧ later.caseId = item.caseId

theorem User.Precedes.refl (user : User) : user.Precedes user := ⟨_, _, _, rfl⟩

theorem User.Precedes.trans {first second third : User} (before : first.Precedes second)
    (after : second.Precedes third) : first.Precedes third := by
  rcases before with ⟨_, _, _, rfl⟩
  rcases after with ⟨_, _, _, rfl⟩
  exact ⟨_, _, _, rfl⟩

theorem AuthSession.Precedes.refl (authSession : AuthSession) : authSession.Precedes authSession :=
  ⟨_, fun revoked => revoked, rfl⟩

theorem AuthSession.Precedes.trans {first second third : AuthSession}
    (before : first.Precedes second) (after : second.Precedes third) : first.Precedes third := by
  rcases before with ⟨_, stays, rfl⟩
  rcases after with ⟨_, staysOn, rfl⟩
  exact ⟨_, fun revoked => staysOn (stays revoked), rfl⟩

theorem PersonalApiKey.Precedes.refl (apiKey : PersonalApiKey) : apiKey.Precedes apiKey :=
  ⟨_, _, fun revoked => revoked, rfl⟩

theorem PersonalApiKey.Precedes.trans {first second third : PersonalApiKey}
    (before : first.Precedes second) (after : second.Precedes third) : first.Precedes third := by
  rcases before with ⟨_, _, stays, rfl⟩
  rcases after with ⟨_, _, staysOn, rfl⟩
  exact ⟨_, _, fun revoked => staysOn (stays revoked), rfl⟩

theorem EvalRunRow.Precedes.refl (run : EvalRunRow) : run.Precedes run := ⟨_, _, _, _, rfl⟩

theorem EvalRunRow.Precedes.trans {first second third : EvalRunRow}
    (before : first.Precedes second) (after : second.Precedes third) : first.Precedes third := by
  rcases before with ⟨_, _, _, _, rfl⟩
  rcases after with ⟨_, _, _, _, rfl⟩
  exact ⟨_, _, _, _, rfl⟩

theorem EvalRunItem.Precedes.refl (item : EvalRunItem) : item.Precedes item := ⟨rfl, rfl, rfl⟩

theorem EvalRunItem.Precedes.trans {first second third : EvalRunItem}
    (before : first.Precedes second) (after : second.Precedes third) : first.Precedes third :=
  ⟨after.1.trans before.1, after.2.1.trans before.2.1, after.2.2.trans before.2.2⟩

/-! ## Tables -/

structure Database.Precedes (db next : Database) : Prop where
  organizations : db.organizations <+: next.organizations
  users : Grows User.Precedes db.users next.users
  authSessions : Grows AuthSession.Precedes db.authSessions next.authSessions
  personalApiKeys : Grows PersonalApiKey.Precedes db.personalApiKeys next.personalApiKeys
  apps : db.apps <+: next.apps
  appVersions : db.appVersions <+: next.appVersions
  evalSuites : db.evalSuites <+: next.evalSuites
  evalCases : db.evalCases <+: next.evalCases
  evalSuiteCases : db.evalSuiteCases <+: next.evalSuiteCases
  evaluatorConfigs : db.evaluatorConfigs <+: next.evaluatorConfigs
  evalRuns : Grows EvalRunRow.Precedes db.evalRuns next.evalRuns
  evalRunItems : Grows EvalRunItem.Precedes db.evalRunItems next.evalRunItems
  gateRules : db.gateRules <+: next.gateRules
  comparisons : db.comparisons <+: next.comparisons
  regressionReports : db.regressionReports <+: next.regressionReports

namespace Database.Precedes

theorem refl (db : Database) : db.Precedes db where
  organizations := List.prefix_refl _
  users := .refl User.Precedes.refl _
  authSessions := .refl AuthSession.Precedes.refl _
  personalApiKeys := .refl PersonalApiKey.Precedes.refl _
  apps := List.prefix_refl _
  appVersions := List.prefix_refl _
  evalSuites := List.prefix_refl _
  evalCases := List.prefix_refl _
  evalSuiteCases := List.prefix_refl _
  evaluatorConfigs := List.prefix_refl _
  evalRuns := .refl EvalRunRow.Precedes.refl _
  evalRunItems := .refl EvalRunItem.Precedes.refl _
  gateRules := List.prefix_refl _
  comparisons := List.prefix_refl _
  regressionReports := List.prefix_refl _

theorem trans {first second third : Database} (before : first.Precedes second)
    (after : second.Precedes third) : first.Precedes third where
  organizations := before.organizations.trans after.organizations
  users := before.users.trans User.Precedes.trans after.users
  authSessions := before.authSessions.trans AuthSession.Precedes.trans after.authSessions
  personalApiKeys :=
    before.personalApiKeys.trans PersonalApiKey.Precedes.trans after.personalApiKeys
  apps := before.apps.trans after.apps
  appVersions := before.appVersions.trans after.appVersions
  evalSuites := before.evalSuites.trans after.evalSuites
  evalCases := before.evalCases.trans after.evalCases
  evalSuiteCases := before.evalSuiteCases.trans after.evalSuiteCases
  evaluatorConfigs := before.evaluatorConfigs.trans after.evaluatorConfigs
  evalRuns := before.evalRuns.trans EvalRunRow.Precedes.trans after.evalRuns
  evalRunItems := before.evalRunItems.trans EvalRunItem.Precedes.trans after.evalRunItems
  gateRules := before.gateRules.trans after.gateRules
  comparisons := before.comparisons.trans after.comparisons
  regressionReports := before.regressionReports.trans after.regressionReports

/-! ## Statements -/

theorem of_apply {db next : Database} {write : Write} (applied : db.apply write = some next) :
    db.Precedes next := by
  cases write with
  | insertOrganization row =>
      rcases apply_insertOrganization applied with ⟨-, rfl⟩
      exact { refl db with organizations := List.prefix_append _ _ }
  | insertUser row =>
      rcases apply_insertUser applied with ⟨-, rfl⟩
      exact { refl db with users := .append User.Precedes.refl _ _ }
  | setLockout userId failedLoginAttempts lockedUntil =>
      cases applied
      exact { refl db with
        users := .updateWhere User.Precedes.refl (fun _ => ⟨_, _, _, rfl⟩) _ }
  | setPasswordHash userId passwordHash =>
      cases applied
      exact { refl db with
        users := .updateWhere User.Precedes.refl (fun _ => ⟨_, _, _, rfl⟩) _ }
  | insertMembership row =>
      rcases apply_insertMembership applied with ⟨-, -, rfl⟩
      exact { refl db with }
  | setRole organizationId userId role =>
      cases applied
      exact { refl db with }
  | deleteMembership organizationId userId =>
      cases applied
      exact { refl db with }
  | insertAuthSession row =>
      rcases apply_insertAuthSession applied with ⟨-, -, rfl⟩
      exact { refl db with authSessions := .append AuthSession.Precedes.refl _ _ }
  | revokeSession sessionId revokedAt =>
      cases applied
      exact { refl db with
        authSessions := .updateWhere AuthSession.Precedes.refl
          (fun _ => ⟨_, fun _ => Option.some_ne_none _, rfl⟩) _ }
  | insertApiKey row =>
      rcases apply_insertApiKey applied with ⟨-, -, rfl⟩
      exact { refl db with personalApiKeys := .append PersonalApiKey.Precedes.refl _ _ }
  | touchApiKey apiKeyId lastUsedAt =>
      cases applied
      exact { refl db with
        personalApiKeys := .updateWhere PersonalApiKey.Precedes.refl
          (fun _ => ⟨_, _, fun revoked => revoked, rfl⟩) _ }
  | revokeApiKey apiKeyId revokedAt =>
      cases applied
      exact { refl db with
        personalApiKeys := .updateWhere PersonalApiKey.Precedes.refl
          (fun _ => ⟨_, _, fun _ => Option.some_ne_none _, rfl⟩) _ }
  | insertApp row =>
      rcases apply_insertApp applied with ⟨-, -, rfl⟩
      exact { refl db with apps := List.prefix_append _ _ }
  | insertVersion row =>
      rcases apply_insertVersion applied with ⟨-, -, rfl⟩
      exact { refl db with appVersions := List.prefix_append _ _ }
  | insertSuite row =>
      rcases apply_insertSuite applied with ⟨-, -, rfl⟩
      exact { refl db with evalSuites := List.prefix_append _ _ }
  | insertLinkedCase row link =>
      rcases apply_insertLinkedCase applied with ⟨-, -, -, rfl⟩
      exact { refl db with
        evalCases := List.prefix_append _ _
        evalSuiteCases := List.prefix_append _ _ }
  | insertEvaluatorConfig row =>
      rcases apply_insertEvaluatorConfig applied with ⟨-, -, rfl⟩
      exact { refl db with evaluatorConfigs := List.prefix_append _ _ }
  | insertRun row =>
      rcases apply_insertRun applied with ⟨-, -, rfl⟩
      exact { refl db with evalRuns := .append EvalRunRow.Precedes.refl _ _ }
  | setRunProgress runId status caseCompleted caseErrored completedAt =>
      cases applied
      exact { refl db with
        evalRuns := .updateWhere EvalRunRow.Precedes.refl (fun _ => ⟨_, _, _, _, rfl⟩) _ }
  | insertItem row =>
      rcases apply_insertItem applied with ⟨-, -, rfl⟩
      exact { refl db with evalRunItems := .append EvalRunItem.Precedes.refl _ _ }
  | setItem itemId changed =>
      cases applied
      have kept : ∀ row : EvalRunItem, row.Precedes
          { changed with id := row.id, runId := row.runId, caseId := row.caseId } :=
        fun _ => ⟨rfl, rfl, rfl⟩
      exact { refl db with evalRunItems := .updateWhere EvalRunItem.Precedes.refl kept _ }
  | insertTrace row =>
      rcases apply_insertTrace applied with ⟨-, -, rfl⟩
      exact { refl db with }
  | insertResult row =>
      rcases apply_insertResult applied with ⟨-, -, rfl⟩
      exact { refl db with }
  | deleteEvidence itemId =>
      cases applied
      exact { refl db with }
  | insertGateRule row =>
      rcases apply_insertGateRule applied with ⟨-, -, rfl⟩
      exact { refl db with gateRules := List.prefix_append _ _ }
  | insertComparison row =>
      rcases apply_insertComparison applied with ⟨-, -, rfl⟩
      exact { refl db with comparisons := List.prefix_append _ _ }
  | insertReport row =>
      rcases apply_insertReport applied with ⟨-, -, rfl⟩
      exact { refl db with regressionReports := List.prefix_append _ _ }

theorem of_commit {db next : Database} {writes : List Write}
    (committed : db.commit writes = some next) : db.Precedes next := by
  induction writes generalizing db with
  | nil =>
      cases committed
      exact refl _
  | cons write writes induction =>
      rcases Option.bind_eq_some_iff.mp committed with ⟨middle, applied, rest⟩
      exact (of_apply applied).trans (induction rest)

theorem of_settle {Answer : Type} (db : Database) (reply : Reply Answer) :
    db.Precedes (Reply.settle db reply).1 := by
  unfold Reply.settle
  split
  · next committed => exact of_commit committed
  · exact refl db

end Database.Precedes

theorem commit_cons {db next : Database} {write : Write} {writes : List Write}
    (committed : db.commit (write :: writes) = some next) :
    ∃ middle, db.apply write = some middle ∧ middle.commit writes = some next :=
  Option.bind_eq_some_iff.mp committed

theorem Reply.settle_ok {Answer : Type} {db : Database} {reply : Reply Answer} {answer : Answer}
    (answered : (Reply.settle db reply).2 = .ok answer) :
    reply.answer = .ok answer ∧ db.commit reply.writes = some (Reply.settle db reply).1 := by
  unfold Reply.settle at answered ⊢
  split at answered
  · next committed => exact ⟨answered, committed⟩
  · cases answered

end EvalForge
