import EvalForge.Api.Roles

/-! # What stored rules and runs can be relied on

Every stored gate rule was validated, or is the default one, and every stored
run belongs to an organization that is still there. The former depends on what
the handlers insert, the latter on the foreign keys alone.
-/

namespace EvalForge

open Foundation

/-! ## Runs belong to organizations -/

section

variable {db next : Database}

theorem apply_runs {write : Write} (applied : db.apply write = some next) :
    ∀ run ∈ next.evalRuns, (∃ stored ∈ db.evalRuns, stored.organizationId = run.organizationId) ∨
      db.hasOrganization run.organizationId = true := by
  intro run member
  cases write with
  | insertRun row =>
      rcases apply_insertRun applied with ⟨referenced, -, rfl⟩
      rcases List.mem_append.mp member with old | new
      · exact .inl ⟨run, old, rfl⟩
      · rw [List.mem_singleton.mp new]
        simp only [Bool.and_eq_true] at referenced
        exact .inr referenced.1.1.1
  | setRunProgress runId status caseCompleted caseErrored completedAt =>
      cases applied
      rcases mem_updateWhere.mp member with ⟨stored, storedMember, rfl⟩
      refine .inl ⟨stored, storedMember, ?_⟩
      split <;> rfl
  | insertLinkedCase row link =>
      rcases apply_insertLinkedCase applied with ⟨-, -, -, rfl⟩
      exact .inl ⟨run, member, rfl⟩
  | _ => first
    | cases applied; exact .inl ⟨run, member, rfl⟩
    | rcases Option.bind_eq_some_iff.mp applied with ⟨table, -, insertion⟩
      cases insertion
      exact .inl ⟨run, member, rfl⟩

end

def Database.RunsOwned (db : Database) : Prop :=
  ∀ run ∈ db.evalRuns, db.hasOrganization run.organizationId = true

theorem Database.RunsOwned.apply {db next : Database} {write : Write} (owned : db.RunsOwned)
    (applied : db.apply write = some next) : next.RunsOwned := by
  intro run member
  rcases apply_runs applied run member with ⟨stored, storedMember, same⟩ | referenced
  · rw [← same]
    exact apply_hasOrganization applied (owned stored storedMember)
  · exact apply_hasOrganization applied referenced

/-! ## Gate rules are validated -/

def Write.storesRules : Write → Prop
  | .insertGateRule row => ∃ rules : GateRules, row.rules = rules.toJson
  | _ => True

def Database.RulesValidated (db : Database) : Prop :=
  ∀ row ∈ db.gateRules, ∃ rules : GateRules, row.rules = rules.toJson

theorem Database.RulesValidated.apply {db next : Database} {write : Write}
    (validated : db.RulesValidated) (stores : write.storesRules)
    (applied : db.apply write = some next) : next.RulesValidated := by
  cases write with
  | insertGateRule row =>
      rcases apply_insertGateRule applied with ⟨-, -, rfl⟩
      exact Database.forall_mem_append_singleton validated stores
  | insertLinkedCase row link =>
      rcases apply_insertLinkedCase applied with ⟨-, -, -, rfl⟩
      exact validated
  | _ => first
    | cases applied; exact validated
    | rcases Option.bind_eq_some_iff.mp applied with ⟨table, -, insertion⟩
      cases insertion
      exact validated

theorem storesRules_of_onIdentity {write : Write} (identity : write.onIdentity = true) :
    write.storesRules := by
  cases write with
  | insertGateRule => cases identity
  | _ => trivial

theorem storesRules_of_byWorker {write : Write} (byWorker : write.byWorker = true) :
    write.storesRules := by
  cases write with
  | insertGateRule => cases byWorker
  | _ => trivial

def StoresRules (writes : List Write) : Prop :=
  ∀ write ∈ writes, write.storesRules

theorem StoresRules.nil : StoresRules [] := List.forall_mem_nil _

theorem StoresRules.single {write : Write} (stores : write.storesRules) : StoresRules [write] := by
  intro other member
  rw [List.mem_singleton.mp member]
  exact stores

theorem StoresRules.append {writes others : List Write} (stores : StoresRules writes)
    (otherStores : StoresRules others) : StoresRules (writes ++ others) := by
  intro write member
  rcases List.mem_append.mp member with first | second
  · exact stores write first
  · exact otherStores write second

theorem StoresRules.ofExcept {Answer : Type} {result : Except HttpError (List Write × Answer)}
    (accepted : ∀ writes answer, result = .ok (writes, answer) → StoresRules writes) :
    StoresRules (Reply.ofExcept result).writes := by
  cases result with
  | error error => exact .nil
  | ok reply => exact accepted reply.1 reply.2 rfl

section Handlers

variable {db : Database} {principal : Principal} {readings : RequestReadings}

theorem createApp_storesRules (payload : AppCreate) :
    StoresRules (Reply.ofExcept (createApp readings db principal payload)).writes := by
  refine .ofExcept fun writes answer created => ?_
  unfold createApp at created
  rcases bind_eq_ok_iff.mp created with ⟨_, -, created⟩
  simp only [] at created
  split at created
  · cases created
  · cases created
    exact .single trivial

theorem createAppVersion_storesRules {settings : SettingsValues} {repr : String → String}
    (appId : String) (payload : AppVersionCreate) :
    StoresRules (Reply.ofExcept
      (createAppVersion settings repr readings db principal appId payload)).writes := by
  refine .ofExcept fun writes answer created => ?_
  unfold createAppVersion at created
  rcases bind_eq_ok_iff.mp created with ⟨_, -, created⟩
  rcases bind_eq_ok_iff.mp created with ⟨app, -, created⟩
  rcases bind_eq_ok_iff.mp created with ⟨_, -, created⟩
  simp only [] at created
  split at created
  · cases created
  · split at created
    · cases created
    · cases created
      exact .single trivial

theorem createEvalSuite_storesRules (appId : String) (payload : EvalSuiteCreate) :
    StoresRules (Reply.ofExcept
      (createEvalSuite readings db principal appId payload)).writes := by
  refine .ofExcept fun writes answer created => ?_
  unfold createEvalSuite at created
  rcases bind_eq_ok_iff.mp created with ⟨_, -, created⟩
  rcases bind_eq_ok_iff.mp created with ⟨app, -, created⟩
  simp only [] at created
  split at created
  · cases created
  · cases created
    exact .single trivial

theorem importEvalCases_storesRules (suiteId : String) (payload : EvalCaseImportRequest) :
    StoresRules (Reply.ofExcept
      (importEvalCases readings db principal suiteId payload)).writes := by
  refine .ofExcept fun writes answer created => ?_
  unfold importEvalCases at created
  rcases bind_eq_ok_iff.mp created with ⟨_, -, created⟩
  rcases bind_eq_ok_iff.mp created with ⟨suite, -, created⟩
  cases created
  intro write member
  rcases importCases_links write member with ⟨case, link, rfl, -⟩
  trivial

theorem createEvaluatorConfig_storesRules {env : Environment}
    (payload : EvaluatorConfigCreate) :
    StoresRules (Reply.ofExcept
      (createEvaluatorConfig env readings db principal payload)).writes := by
  refine .ofExcept fun writes answer created => ?_
  unfold createEvaluatorConfig at created
  rcases bind_eq_ok_iff.mp created with ⟨_, -, created⟩
  simp only [] at created
  split at created
  · cases created
  · rcases bind_eq_ok_iff.mp created with ⟨validated, -, created⟩
    cases created
    exact .single trivial

theorem createGateRule_storesRules {floats : FloatConversion} {text : Json → String}
    (payload : GateRuleCreate) :
    StoresRules (Reply.ofExcept
      (createGateRule floats text readings db principal payload)).writes := by
  refine .ofExcept fun writes answer created => ?_
  unfold createGateRule at created
  rcases bind_eq_ok_iff.mp created with ⟨_, -, created⟩
  simp only [] at created
  split at created
  · cases created
  · rcases bind_eq_ok_iff.mp created with ⟨rules, -, created⟩
    cases created
    exact .single ⟨rules, rfl⟩

theorem comparisonGateRules_storesRules {context : ComparisonContext} {organizationId : String}
    {gateRulesId : Option String} {writes : List Write} {gateRuleId : String}
    {gateRules : GateRules}
    (ruled : comparisonGateRules context readings db organizationId gateRulesId =
      .ok (writes, gateRuleId, gateRules)) : StoresRules writes := by
  cases gateRulesId with
  | none =>
      cases ruled
      exact .single ⟨defaultGateRules, rfl⟩
  | some gateRulesId =>
      simp only [comparisonGateRules] at ruled
      split at ruled
      · cases ruled
      · rcases bind_eq_ok_iff.mp ruled with ⟨rules, -, ruled⟩
        cases ruled
        exact .nil

theorem createComparison_storesRules {context : ComparisonContext} (payload : ComparisonCreate) :
    StoresRules (Reply.ofExcept
      (createComparison context readings db principal payload)).writes := by
  refine .ofExcept fun writes answer created => ?_
  unfold createComparison at created
  rcases bind_eq_ok_iff.mp created with ⟨_, -, created⟩
  rcases bind_eq_ok_iff.mp created with ⟨⟨inserts, comparison, report⟩, computed, created⟩
  cases created
  rw [mapError_eq_ok_iff] at computed
  rcases (computeComparison_ok computed).gated with ⟨rows, gateRuleId, gateRules, ruled, rfl, -⟩
  refine (comparisonGateRules_storesRules ruled).append ?_
  intro write member
  rcases List.mem_cons.mp member with rfl | last
  · trivial
  · rw [List.mem_singleton.mp last]
    trivial

end Handlers

/-! ## Runs store no rules -/

theorem itemWrites_storesRules (readings : RunReadings) (index : Nat) (item : ItemRecord) :
    StoresRules (itemWrites readings index item) := by
  intro write member
  rcases List.mem_cons.mp member with rfl | evidence
  · trivial
  · rcases List.mem_append.mp evidence with trace | result
    · rcases List.mem_mapIdx.mp trace with ⟨position, -, rfl⟩
      trivial
    · rcases List.mem_mapIdx.mp result with ⟨position, -, rfl⟩
      trivial

theorem createSyncRun_storesRules {env : Environment} {readings : RunReadings}
    (request : RunRequest) : StoresRules (createSyncRun env readings request).writes := by
  unfold createSyncRun
  split
  · exact .nil
  · next record executed =>
      intro write member
      rcases List.mem_cons.mp member with rfl | later
      · trivial
      · rcases List.mem_flatten.mp later with ⟨group, groupMember, inGroup⟩
        rcases List.mem_mapIdx.mp groupMember with ⟨index, bound, rfl⟩
        exact itemWrites_storesRules readings index _ write inGroup

theorem createCeleryRun_storesRules {readings : RunReadings} (request : RunRequest) :
    StoresRules (createCeleryRun readings request).writes := by
  unfold createCeleryRun
  split
  · exact .nil
  · next system dispatched =>
      have inserts : StoresRules (system.writes readings.createdAt) := by
        intro write member
        rcases List.mem_cons.mp member with rfl | later
        · trivial
        · rcases List.mem_map.mp later with ⟨row, -, rfl⟩
          trivial
      simp only []
      split
      · next completedAt submitting fails =>
          exact inserts.append fun write member =>
            storesRules_of_byWorker (failureWrites_byWorker system completedAt write member)
      · exact inserts

theorem createRun_storesRules {runMode : String} {env : Environment} {readings : RunReadings}
    {db : Database} {principal : Principal} (payload : RunCreate) :
    StoresRules (createRun runMode env readings db principal payload).writes := by
  unfold createRun
  split
  · exact .nil
  · simp only []
    split
    · exact createCeleryRun_storesRules _
    · exact createSyncRun_storesRules _

theorem TenantRequest.handle_storesRules (deployment : Deployment) (readings : Readings)
    (db : Database) (principal : Principal) (request : TenantRequest) :
    StoresRules (request.handle deployment readings db principal).writes := by
  cases request with
  | createApp payload => exact createApp_storesRules payload
  | createAppVersion appId payload => exact createAppVersion_storesRules appId payload
  | createEvalSuite appId payload => exact createEvalSuite_storesRules appId payload
  | importEvalCases suiteId payload => exact importEvalCases_storesRules suiteId payload
  | createEvaluatorConfig payload => exact createEvaluatorConfig_storesRules payload
  | createGateRule payload => exact createGateRule_storesRules payload
  | createRun payload => exact createRun_storesRules payload
  | createComparison payload => exact createComparison_storesRules payload
  | _ => exact .nil

/-! ## Every reachable state -/

/-- What the comparison of two stored runs relies on. -/
structure Database.RulesStored (db : Database) : Prop where
  validated : db.RulesValidated
  owned : db.RunsOwned

theorem Database.RulesStored.commit {db next : Database} {writes : List Write}
    (stored : db.RulesStored) (stores : StoresRules writes)
    (committed : db.commit writes = some next) : next.RulesStored :=
  commit_keeps Database.RulesStored Write.storesRules
    (fun _ _ _ allowed kept applied =>
      ⟨kept.validated.apply allowed applied, kept.owned.apply applied⟩)
    stores stored committed

theorem Database.RulesStored.settle {db : Database} {Answer : Type} {reply : Reply Answer}
    (stored : db.RulesStored) (stores : StoresRules reply.writes) :
    (Reply.settle db reply).1.RulesStored :=
  settle_keeps Database.RulesStored stored fun _ committed => stored.commit stores committed

theorem storesRules_of_all_onIdentity {writes : List Write}
    (onIdentity : ∀ write ∈ writes, write.onIdentity = true) : StoresRules writes :=
  fun write member => storesRules_of_onIdentity (onIdentity write member)

theorem serverStep_rulesStored (db : Database) (event : Event) (next : Database)
    (stored : db.RulesStored) (stepped : serverStep db event = some next) :
    next.RulesStored := by
  cases event with
  | call call =>
      cases stepped
      have authenticated : (Reply.settle db (call.authenticate db)).1.RulesStored :=
        stored.settle (storesRules_of_all_onIdentity fun write member =>
          onIdentity_of_onCredentials (call.authenticate_writes db write member))
      simp only [Call.serve]
      split
      · exact authenticated
      · next principal _ =>
          refine authenticated.settle ?_
          cases call.request with
          | tenant request => exact request.handle_storesRules _ _ _ principal
          | identity request =>
              exact storesRules_of_all_onIdentity request.handle_writes.onIdentity
  | login deployment readings payload =>
      cases stepped
      exact stored.settle (storesRules_of_all_onIdentity fun write member =>
        onIdentity_of_onCredentials (loginUser_writes write member))
  | bootstrap deployment request =>
      cases stepped
      exact stored.settle (storesRules_of_all_onIdentity bootstrap_writes)
  | work transaction =>
      cases stepped
      cases committed : db.commit transaction.writes with
      | none => exact stored
      | some next =>
          exact stored.commit (fun write member =>
            storesRules_of_byWorker (transaction.byWorker write member)) committed

theorem Database.Reachable.rulesStored {db : Database} (reachable : db.Reachable) :
    db.RulesStored := by
  rcases reachable with ⟨createdAt, events, ran⟩
  exact run_invariant Database.RulesStored
    (fun current event next stored stepped =>
      serverStep_rulesStored current event next stored stepped)
    ran ⟨List.forall_mem_nil _, List.forall_mem_nil _⟩

end EvalForge
