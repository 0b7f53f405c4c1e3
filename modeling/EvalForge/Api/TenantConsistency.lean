import EvalForge.Api.CreatedRows
import EvalForge.Api.IdentityWrites
import EvalForge.Services.GateLaws
import EvalForge.Workers.Deliveries

/-! # Consistency over all runs

Every request, login, bootstrap and worker transaction keeps the rows
consistent, so every state that is reached from the migrated database is.
-/

namespace EvalForge

open Foundation

theorem settle_keeps (Kept : Database → Prop) {db : Database} {Answer : Type}
    {reply : Reply Answer} (kept : Kept db)
    (keeps : ∀ next, db.commit reply.writes = some next → Kept next) :
    Kept (Reply.settle db reply).1 := by
  unfold Reply.settle
  split
  · next committed => exact keeps _ committed
  · exact kept

theorem Database.Consistent.settle_onIdentity {db : Database} {Answer : Type}
    {reply : Reply Answer} (consistent : db.Consistent)
    (onIdentity : ∀ write ∈ reply.writes, write.onIdentity = true) :
    (Reply.settle db reply).1.Consistent :=
  settle_keeps Consistent consistent fun _ committed =>
    consistent.of_tenantTables (commit_onIdentity onIdentity committed)

theorem Database.Consistent.settle_requestWrites {db : Database} {principal : Principal}
    {runMode : String} {issued : String → Prop} {Answer : Type} {reply : Reply Answer}
    (consistent : db.Consistent)
    (written : RequestWrites runMode principal db issued reply.writes) :
    (Reply.settle db reply).1.Consistent := by
  refine settle_keeps Consistent consistent fun next committed => ?_
  rcases written with unwritten | ⟨inserts, updates, equal, created, byWorker, -⟩
  · rw [unwritten] at committed
    cases committed
    exact consistent
  · rw [equal, Database.commit_append] at committed
    rcases Option.bind_eq_some_iff.mp committed with ⟨middle, inserted, updated⟩
    exact (consistent.commit created.admits inserted).commitByWorker byWorker updated

theorem Call.authenticate_consistent {db : Database} (call : Call) (consistent : db.Consistent) :
    (Reply.settle db (call.authenticate db)).1.Consistent := by
  refine consistent.settle_onIdentity fun write member => ?_
  exact onIdentity_of_onCredentials (call.authenticate_writes db write member)

theorem ApiRequest.settle_consistent {db : Database} (deployment : Deployment)
    (readings : Readings) (principal : Principal) (request : ApiRequest)
    (consistent : db.Consistent) :
    (Reply.settle db (request.handle deployment readings db principal)).1.Consistent := by
  cases request with
  | tenant request =>
      exact consistent.settle_requestWrites (request.handle_writes deployment readings consistent)
  | identity request => exact consistent.settle_onIdentity request.handle_writes.onIdentity

theorem Call.serve_consistent {db : Database} (call : Call) (consistent : db.Consistent) :
    (call.serve db).1.Consistent := by
  have authenticated := call.authenticate_consistent consistent
  simp only [Call.serve]
  split
  · exact authenticated
  · next principal _ =>
      exact call.request.settle_consistent call.deployment call.readings principal authenticated

theorem serverStep_consistent (db : Database) (event : Event) (next : Database)
    (consistent : db.Consistent) (stepped : serverStep db event = some next) :
    next.Consistent := by
  cases event with
  | call call =>
      cases stepped
      exact call.serve_consistent consistent
  | login deployment readings payload =>
      cases stepped
      exact consistent.settle_onIdentity fun write member =>
        onIdentity_of_onCredentials (loginUser_writes write member)
  | bootstrap deployment request =>
      cases stepped
      exact consistent.settle_onIdentity bootstrap_writes
  | work transaction =>
      cases stepped
      cases committed : db.commit transaction.writes with
      | none => exact consistent
      | some next => exact consistent.commitByWorker transaction.byWorker committed

theorem Database.Reachable.consistent {db : Database} (reachable : db.Reachable) :
    db.Consistent := by
  rcases reachable with ⟨createdAt, events, ran⟩
  exact run_invariant Database.Consistent
    (fun current event next consistent stepped =>
      serverStep_consistent current event next consistent stepped)
    ran (Database.consistent_migrated createdAt)

section

variable (Kept : Database → Prop)
variable (preserves : ∀ {db next : Database} {writes : List Write}, Kept db →
  db.commit writes = some next → Kept next)

include preserves

theorem serverStep_keeps (db : Database) (event : Event) (next : Database) (kept : Kept db)
    (stepped : serverStep db event = some next) : Kept next := by
  cases event with
  | call call =>
      cases stepped
      have authenticated : Kept (Reply.settle db (call.authenticate db)).1 :=
        settle_keeps Kept kept fun _ committed => preserves kept committed
      simp only [Call.serve]
      split
      · exact authenticated
      · exact settle_keeps Kept authenticated fun _ committed => preserves authenticated committed
  | login deployment readings payload =>
      cases stepped
      exact settle_keeps Kept kept fun _ committed => preserves kept committed
  | bootstrap deployment request =>
      cases stepped
      exact settle_keeps Kept kept fun _ committed => preserves kept committed
  | work transaction =>
      cases stepped
      cases committed : db.commit transaction.writes with
      | none => exact kept
      | some next => exact preserves kept committed

theorem Database.Reachable.keeps {db : Database} (reachable : db.Reachable)
    (initial : ∀ createdAt, Kept (Database.migrated createdAt)) : Kept db := by
  rcases reachable with ⟨createdAt, events, ran⟩
  exact run_invariant Kept (serverStep_keeps Kept preserves) ran (initial createdAt)

end

/-- Referential tenant consistency is invariant. -/
theorem reachable_tenantConsistent {db : Database} (reachable : db.Reachable) :
    db.TenantConsistent :=
  reachable.consistent.tenantConsistent

/-! A deployment without an API key, in which the development principal makes
two runs and compares them. -/

namespace Scenario

def issuedId (name : String) (index : Nat) : String := name ++ "-" ++ toString index

theorem issuedId_ne (name : String) (index : Nat) : issuedId name index ≠ "" := by
  intro empty
  have listed := congrArg String.toList empty
  simp [issuedId] at listed

def devDeployment : Deployment where
  settings := { bootstrapToken := some "bootstrap", accepted := rfl }
  credentials := plainCredentials
  hashPassword password _ := password
  env := environment
  draws := firstIndex
  floats := { ofText := fun _ => .notConvertible, ofInt := fun value => .finite value }
  repr text := text
  demoSnapshot := .error internalServerError

def namedReadings (name : String) : Readings where
  newUuid := issuedId name
  utcNow index := index
  tokenUrlsafe := name
  salt := "salt"
  run :=
    { execution :=
        { newUuid := issuedId name, utcNow := fun index => index, integrityError := ⟨""⟩ }
      dispatch := { newUuid := issuedId name, taskId := issuedId name, utcNow := 0 }
      createdAt := 0
      evidenceUuid := fun index position => issuedId (issuedId name index) position
      evidenceCreatedAt := fun _ _ => 0
      submissionFails := none }
  checkedAt := 0
  usedAt := 0
  newUuid_ne := issuedId_ne name

def namedCall (name : String) (headers : RequestHeaders) (request : ApiRequest) : Call where
  deployment := devDeployment
  readings := namedReadings name
  headers := headers
  request := request

def devRun : TenantRequest :=
  .createRun { appVersionId := "version-0", suiteId := "suite-0", evaluatorConfigId := "config-0" }

def devRequests : List (String × TenantRequest) := [
  ("app", .createApp { name := "Assistant" }),
  ("version", .createAppVersion "app-0" { name := "v1", adapterModule := "app.adapters.demo_rag" }),
  ("suite", .createEvalSuite "app-0" { name := "Questions" }),
  ("case", .importEvalCases "suite-0"
    { cases := [{ payload := .dict [("input", .str "Which module?")] }] }),
  ("config", .createEvaluatorConfig { name := "Exact", config := evaluatorConfig.config }),
  ("baseline", devRun),
  ("candidate", devRun),
  ("comparison", .createComparison
    { baselineRunId := "baseline-0", candidateRunId := "candidate-0" })]

def devEvents : List Event :=
  devRequests.map fun (name, request) => .call (namedCall name {} (.tenant request))

def stateAfter (events : List Event) : Database :=
  events.foldl (fun db event => (serverStep db event).getD db) (Database.migrated 0)

end Scenario

theorem reachable_tenantConsistent_scenario :
    (Scenario.stateAfter Scenario.devEvents).comparisons.map (·.id) = ["comparison-1"] ∧
      (Scenario.stateAfter Scenario.devEvents).TenantConsistent :=
  ⟨by decide +kernel, reachable_tenantConsistent ⟨0, Scenario.devEvents, rfl⟩⟩

end EvalForge
