import EvalForge.Api.History

/-! # Requests that leave the runs

Runs, items and their evidence are written by the request that creates a run and by
the workers. Every other request leaves these tables as they are.
-/

namespace EvalForge

open Foundation

/-- The statements on runs, items and evidence. -/
def Write.onRuns : Write → Bool
  | .insertRun .. | .setRunProgress .. | .insertItem .. | .setItem .. | .insertTrace ..
  | .insertResult .. | .deleteEvidence .. => true
  | _ => false

def Database.runTables (db : Database) : Database where
  evalRuns := db.evalRuns
  evalRunItems := db.evalRunItems
  traces := db.traces
  evalResults := db.evalResults

/-! ## Statements -/

section

variable {db next : Database}

theorem apply_offRuns {write : Write} (offRuns : write.onRuns = false)
    (applied : db.apply write = some next) : next.runTables = db.runTables := by
  cases write with
  | insertLinkedCase row link =>
      rcases apply_insertLinkedCase applied with ⟨-, -, -, equal⟩
      rw [equal]
      rfl
  | _ => first
    | cases offRuns; done
    | cases applied; rfl
    | rcases Option.bind_eq_some_iff.mp applied with ⟨table, -, insertion⟩
      cases insertion
      rfl

def OffRuns (writes : List Write) : Prop :=
  ∀ write ∈ writes, write.onRuns = false

theorem OffRuns.nil : OffRuns [] := List.forall_mem_nil _

theorem OffRuns.single {write : Write} (offRuns : write.onRuns = false) : OffRuns [write] := by
  intro other member
  rw [List.mem_singleton.mp member]
  exact offRuns

theorem OffRuns.ofExcept {Answer : Type} {result : Except HttpError (List Write × Answer)}
    (accepted : ∀ writes answer, result = .ok (writes, answer) → OffRuns writes) :
    OffRuns (Reply.ofExcept result).writes := by
  cases result with
  | error error => exact .nil
  | ok reply => exact accepted reply.1 reply.2 rfl

theorem OffRuns.of_onIdentity {writes : List Write}
    (onIdentity : ∀ write ∈ writes, write.onIdentity = true) : OffRuns writes := by
  intro write member
  have identity := onIdentity write member
  cases write with
  | insertRun | setRunProgress | insertItem | setItem | insertTrace | insertResult
  | deleteEvidence => cases identity
  | _ => rfl

theorem OffRuns.commit {writes : List Write} (offRuns : OffRuns writes)
    (committed : db.commit writes = some next) : next.runTables = db.runTables :=
  commit_keeps (fun current => current.runTables = db.runTables) (·.onRuns = false)
    (fun _ _ _ allowed kept applied => (apply_offRuns allowed applied).trans kept) offRuns rfl
    committed

theorem OffRuns.settle {Answer : Type} {reply : Reply Answer} (offRuns : OffRuns reply.writes) :
    (Reply.settle db reply).1.runTables = db.runTables :=
  settle_keeps (fun current => current.runTables = db.runTables) rfl fun _ committed =>
    offRuns.commit committed

end

/-! ## Requests -/

section Handlers

variable {db : Database} {principal : Principal} {readings : RequestReadings}

theorem createAppVersion_offRuns {settings : SettingsValues} {repr : String → String}
    (appId : String) (payload : AppVersionCreate) :
    OffRuns (Reply.ofExcept
      (createAppVersion settings repr readings db principal appId payload)).writes := by
  refine .ofExcept fun writes answer created => ?_
  unfold createAppVersion at created
  rcases bind_eq_ok_iff.mp created with ⟨_, -, created⟩
  rcases bind_eq_ok_iff.mp created with ⟨app, -, created⟩
  rcases bind_eq_ok_iff.mp created with ⟨_, -, created⟩
  simp only [] at created
  split at created
  · cases created
  · split at created
    · cases created
    · cases created
      exact .single rfl

theorem createEvalSuite_offRuns (appId : String) (payload : EvalSuiteCreate) :
    OffRuns (Reply.ofExcept (createEvalSuite readings db principal appId payload)).writes := by
  refine .ofExcept fun writes answer created => ?_
  unfold createEvalSuite at created
  rcases bind_eq_ok_iff.mp created with ⟨_, -, created⟩
  rcases bind_eq_ok_iff.mp created with ⟨app, -, created⟩
  simp only [] at created
  split at created
  · cases created
  · cases created
    exact .single rfl

theorem importEvalCases_offRuns (suiteId : String) (payload : EvalCaseImportRequest) :
    OffRuns (Reply.ofExcept (importEvalCases readings db principal suiteId payload)).writes := by
  refine .ofExcept fun writes answer created => ?_
  unfold importEvalCases at created
  rcases bind_eq_ok_iff.mp created with ⟨_, -, created⟩
  rcases bind_eq_ok_iff.mp created with ⟨suite, -, created⟩
  cases created
  intro write member
  rcases importCases_links write member with ⟨case, link, rfl, -⟩
  rfl

theorem createEvaluatorConfig_offRuns {env : Environment} (payload : EvaluatorConfigCreate) :
    OffRuns (Reply.ofExcept (createEvaluatorConfig env readings db principal payload)).writes := by
  refine .ofExcept fun writes answer created => ?_
  unfold createEvaluatorConfig at created
  rcases bind_eq_ok_iff.mp created with ⟨_, -, created⟩
  simp only [] at created
  split at created
  · cases created
  · rcases bind_eq_ok_iff.mp created with ⟨validated, -, created⟩
    cases created
    exact .single rfl

theorem createComparison_offRuns {context : ComparisonContext} (payload : ComparisonCreate) :
    OffRuns (Reply.ofExcept (createComparison context readings db principal payload)).writes := by
  refine .ofExcept fun writes answer created => ?_
  unfold createComparison at created
  rcases bind_eq_ok_iff.mp created with ⟨_, -, created⟩
  rcases bind_eq_ok_iff.mp created with ⟨⟨inserts, comparison, report⟩, computed, created⟩
  cases created
  rw [mapError_eq_ok_iff] at computed
  rcases (computeComparison_ok computed).gated with ⟨rules, gateRuleId, gateRules, ruled, rfl, -⟩
  have rulesOff : OffRuns rules := by
    cases given : payload.gateRulesId with
    | none =>
        rw [given] at ruled
        cases ruled
        exact .single rfl
    | some gateRulesId =>
        simp only [given, comparisonGateRules] at ruled
        split at ruled
        · cases ruled
        · rcases bind_eq_ok_iff.mp ruled with ⟨_, -, ruled⟩
          cases ruled
          exact .nil
  intro write member
  rcases List.mem_append.mp member with rule | rest
  · exact rulesOff write rule
  · rcases List.mem_cons.mp rest with rfl | last
    · rfl
    · rw [List.mem_singleton.mp last]
      rfl

end Handlers

def ApiRequest.createsRun : ApiRequest → Bool
  | .tenant (.createRun _) => true
  | _ => false

theorem ApiRequest.handle_offRuns (deployment : Deployment) (readings : Readings) (db : Database)
    (principal : Principal) {request : ApiRequest} (other : request.createsRun = false) :
    OffRuns (request.handle deployment readings db principal).writes := by
  cases request with
  | identity request => exact .of_onIdentity request.handle_writes.onIdentity
  | tenant request =>
      cases request with
      | createRun payload => cases other
      | createApp payload =>
          refine .ofExcept fun writes answer created => ?_
          rcases createApp_ok created with ⟨app, -, rfl, -⟩
          exact .single rfl
      | createAppVersion appId payload => exact createAppVersion_offRuns appId payload
      | createEvalSuite appId payload => exact createEvalSuite_offRuns appId payload
      | importEvalCases suiteId payload => exact importEvalCases_offRuns suiteId payload
      | createEvaluatorConfig payload => exact createEvaluatorConfig_offRuns payload
      | createGateRule payload =>
          refine .ofExcept fun writes answer created => ?_
          rcases createGateRule_ok created with ⟨rule, -, rfl, -⟩
          exact .single rfl
      | createComparison payload => exact createComparison_offRuns payload
      | _ => exact .nil

theorem Call.begins_runTables (call : Call) (db : Database) :
    (call.begins db).runTables = db.runTables :=
  (OffRuns.of_onIdentity fun write member =>
    onIdentity_of_onCredentials (call.authenticate_writes db write member)).settle

theorem Call.serve_runTables {call : Call} (other : call.request.createsRun = false)
    (db : Database) : (call.serve db).1.runTables = db.runTables := by
  have begins := call.begins_runTables db
  cases settled : (Reply.settle db (call.authenticate db)).2 with
  | error error =>
      simp only [Call.serve, settled]
      exact begins
  | ok principal =>
      rw [Call.serve_of_settled settled]
      exact (ApiRequest.handle_offRuns _ _ _ _ other).settle.trans begins

end EvalForge
