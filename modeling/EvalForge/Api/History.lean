import EvalForge.Api.Roles
import EvalForge.Db.History

/-! # What stays answered

No request, login, bootstrap or worker transaction takes back a stored row. What
a creation has answered, the endpoint that reads it by its id answers from then
on, and a comparison keeps its verdict.
-/

namespace EvalForge

open Foundation

/-! ## Runs -/

section

variable {db next later : Database}

theorem serverStep_precedes {event : Event} (stepped : serverStep db event = some next) :
    db.Precedes next :=
  serverStep_keeps (fun current => db.Precedes current)
    (fun kept committed => kept.trans (.of_commit committed)) db event next (.refl db) stepped

theorem run_precedes {events : List Event} (ran : run serverStep db events = some later) :
    db.Precedes later :=
  run_invariant (fun current => db.Precedes current)
    (fun _ _ _ kept stepped => kept.trans (serverStep_precedes stepped)) ran (.refl db)

theorem Database.Reachable.run {db later : Database} {events : List Event}
    (reachable : db.Reachable) (ran : Foundation.run serverStep db events = some later) :
    later.Reachable := by
  rcases reachable with ⟨createdAt, before, reached⟩
  exact ⟨createdAt, before ++ events, run_trans reached ran⟩

theorem Database.Reachable.serve {db : Database} (reachable : db.Reachable) (call : Call) :
    (call.serve db).1.Reachable :=
  @Database.Reachable.run _ _ [.call call] reachable rfl

/-! ## Lookups -/

theorem Database.Precedes.tenantApp {organizationId appId : String} {app : App}
    (kept : db.Precedes later) (found : db.tenantApp organizationId appId = some app) :
    later.tenantApp organizationId appId = some app :=
  kept.apps.find?_eq_some found

theorem Database.Precedes.tenantGateRule {organizationId ruleId : String} {rule : GateRuleRow}
    (kept : db.Precedes later) (found : db.tenantGateRule organizationId ruleId = some rule) :
    later.tenantGateRule organizationId ruleId = some rule :=
  kept.gateRules.find?_eq_some found

theorem Database.Precedes.tenantComparison {organizationId comparisonId : String}
    {comparison : ComparisonRow} (kept : db.Precedes later)
    (found : db.tenantComparison organizationId comparisonId = some comparison) :
    later.tenantComparison organizationId comparisonId = some comparison :=
  kept.comparisons.find?_eq_some found

theorem Database.Precedes.reportOf {comparisonId : String} {report : RegressionReport}
    (kept : db.Precedes later) (found : db.reportOf comparisonId = some report) :
    later.reportOf comparisonId = some report :=
  kept.regressionReports.find?_eq_some found

theorem tenantComparisonOr404_later {reader : Principal} {comparisonId : String}
    {comparison : ComparisonRow} {report : RegressionReport} (kept : db.Precedes later)
    (found : db.tenantComparison reader.organizationId comparisonId = some comparison)
    (reported : db.reportOf comparisonId = some report) :
    tenantComparisonOr404 later reader comparisonId = .ok (comparison, report) := by
  simp only [tenantComparisonOr404, kept.tenantComparison found, kept.reportOf reported]

/-! ## New rows -/

theorem tenantApp_inserted {app : App} (applied : db.apply (.insertApp app) = some next) :
    next.tenantApp app.organizationId app.id = some app := by
  rcases apply_insertApp applied with ⟨-, free, rfl⟩
  refine find?_append_new (by simp) fun stored member => ?_
  have distinct := free stored member
  simp only [App.conflicts, Bool.or_eq_false_iff, beq_eq_false_iff_ne] at distinct
  simp [Ne.symm distinct.1]

theorem tenantGateRule_inserted {rule : GateRuleRow}
    (applied : db.apply (.insertGateRule rule) = some next) :
    next.tenantGateRule rule.organizationId rule.id = some rule := by
  rcases apply_insertGateRule applied with ⟨-, free, rfl⟩
  refine find?_append_new (by simp) fun stored member => ?_
  have distinct := free stored member
  simp only [GateRuleRow.conflicts, Bool.or_eq_false_iff, beq_eq_false_iff_ne] at distinct
  simp [Ne.symm distinct.1]

theorem tenantComparison_inserted {comparison : ComparisonRow}
    (applied : db.apply (.insertComparison comparison) = some next) :
    next.tenantComparison comparison.organizationId comparison.id = some comparison := by
  rcases apply_insertComparison applied with ⟨-, free, rfl⟩
  refine find?_append_new (by simp) fun stored member => ?_
  have distinct := free stored member
  simp only [ComparisonRow.conflicts, beq_eq_false_iff_ne] at distinct
  simp [Ne.symm distinct]

theorem reportOf_inserted {report : RegressionReport}
    (applied : db.apply (.insertReport report) = some next) :
    next.reportOf report.comparisonId = some report := by
  rcases apply_insertReport applied with ⟨-, free, rfl⟩
  refine find?_append_new (by simp) fun stored member => ?_
  have distinct := free stored member
  simp only [RegressionReport.conflicts, Bool.or_eq_false_iff, beq_eq_false_iff_ne] at distinct
  simp [Ne.symm distinct.2]

/-! ## Answered requests -/

def Call.begins (call : Call) (db : Database) : Database :=
  (Reply.settle db (call.authenticate db)).1

theorem Call.serve_ok {call : Call} {answer : call.request.Answer}
    (answered : (call.serve db).2 = .ok answer) :
    ∃ principal, call.principal? db = some principal ∧
      (call.request.handle call.deployment call.readings (call.begins db) principal).answer =
        .ok answer ∧
      (call.begins db).commit (call.request.handle call.deployment call.readings (call.begins db)
        principal).writes = some (call.serve db).1 := by
  cases settled : (Reply.settle db (call.authenticate db)).2 with
  | error error =>
      simp only [Call.serve, settled] at answered
      cases answered
  | ok principal =>
      have found : call.principal? db = some principal := by
        rw [Call.principal?, settled]
        rfl
      rw [Call.serve_of_settled settled] at answered ⊢
      exact ⟨principal, found, Reply.settle_ok answered⟩

end

abbrev Call.asking (call : Call) (request : ApiRequest) : Call := { call with request }

/-- In every later state, every principal of the organization reads the answer. -/
def StaysAnswered {Answer : Type} (db : Database) (organizationId : String)
    (read : Database → Principal → Except HttpError Answer) (answer : Answer) : Prop :=
  ∀ events later reader, run serverStep db events = some later →
    reader.organizationId = organizationId → read later reader = .ok answer

/-! ## Creations -/

theorem Reply.ofExcept_ok {Answer : Type} {result : Except HttpError (List Write × Answer)}
    {answer : Answer} (answered : (Reply.ofExcept result).answer = .ok answer) :
    result = .ok ((Reply.ofExcept result).writes, answer) := by
  cases result with
  | error error => cases answered
  | ok pair =>
      cases answered
      rfl

section

variable {db next : Database} {principal : Principal} {readings : RequestReadings}
variable {writes : List Write}

theorem createApp_ok {payload : AppCreate} {answer : AppRead}
    (created : createApp readings db principal payload = .ok (writes, answer)) :
    ∃ app : App, app.organizationId = principal.organizationId ∧ writes = [.insertApp app] ∧
      answer = app.read := by
  unfold createApp at created
  rcases bind_eq_ok_iff.mp created with ⟨_, -, created⟩
  simp only [] at created
  split at created
  · cases created
  · cases created
    exact ⟨_, rfl, rfl, rfl⟩

theorem createGateRule_ok {floats : FloatConversion} {text : Json → String}
    {payload : GateRuleCreate} {answer : GateRuleRead}
    (created : createGateRule floats text readings db principal payload = .ok (writes, answer)) :
    ∃ rule : GateRuleRow, rule.organizationId = principal.organizationId ∧
      writes = [.insertGateRule rule] ∧ answer = rule.read := by
  unfold createGateRule at created
  rcases bind_eq_ok_iff.mp created with ⟨_, -, created⟩
  simp only [] at created
  split at created
  · cases created
  · rcases bind_eq_ok_iff.mp created with ⟨rules, -, created⟩
    cases created
    exact ⟨_, rfl, rfl, rfl⟩

theorem createComparison_ok {context : ComparisonContext} {payload : ComparisonCreate}
    {answer : ComparisonRead}
    (created : createComparison context readings db principal payload = .ok (writes, answer)) :
    ∃ inserts comparison report, comparison.organizationId = principal.organizationId ∧
      report.comparisonId = comparison.id ∧
      writes = inserts ++ [.insertComparison comparison, .insertReport report] ∧
      answer = buildComparisonResponse comparison report := by
  unfold createComparison at created
  rcases bind_eq_ok_iff.mp created with ⟨_, -, created⟩
  rcases bind_eq_ok_iff.mp created with ⟨⟨written, comparison, report⟩, computed, created⟩
  cases created
  have computed := mapError_eq_ok_iff.mp computed
  unfold computeComparison at computed
  rcases bind_eq_ok_iff.mp computed with ⟨_, -, computed⟩
  rcases bind_eq_ok_iff.mp computed with ⟨⟨inserts, gateRuleId, gateRules⟩, -, computed⟩
  cases computed
  exact ⟨inserts, _, _, rfl, rfl, rfl, rfl⟩

end

/-- What a principal of the organization creates stays as it was answered; of a
comparison, the verdict for the pipeline as well. -/
structure CreationsStay (call : Call) (db : Database) (organizationId : String) : Prop where
  app : ∀ payload answer,
    ((call.asking (.tenant (.createApp payload))).serve db).2 = .ok answer →
    StaysAnswered ((call.asking (.tenant (.createApp payload))).serve db).1 organizationId
      (fun later reader => getApp later reader answer.id) answer
  gateRule : ∀ payload answer,
    ((call.asking (.tenant (.createGateRule payload))).serve db).2 = .ok answer →
    StaysAnswered ((call.asking (.tenant (.createGateRule payload))).serve db).1 organizationId
      (fun later reader => getGateRule later reader answer.id) answer
  comparison : ∀ payload answer,
    ((call.asking (.tenant (.createComparison payload))).serve db).2 = .ok answer →
    StaysAnswered ((call.asking (.tenant (.createComparison payload))).serve db).1 organizationId
      (fun later reader => getComparison later reader answer.id) answer
  decision : ∀ payload answer,
    ((call.asking (.tenant (.createComparison payload))).serve db).2 = .ok answer →
    StaysAnswered ((call.asking (.tenant (.createComparison payload))).serve db).1 organizationId
      (fun later reader => getGateDecision later reader answer.id)
      { verdict := answer.report.gateVerdict, reasons := answer.report.gateReasons }
  pipeline : ∀ payload answer,
    ((call.asking (.tenant (.createComparison payload))).serve db).2 = .ok answer →
    ∀ failOnWarn, StaysAnswered
      ((call.asking (.tenant (.createComparison payload))).serve db).1 organizationId
      (fun later reader => (getCiGateReport (call.readings.utcNow 0) later reader answer.id none
        failOnWarn).map (·.shouldFailCi))
      (shouldFailCi answer.report.gateVerdict failOnWarn)

section

variable {call : Call} {db : Database} {principal : Principal}

theorem createdComparison_later (found : call.principal? db = some principal)
    {payload : ComparisonCreate} {answer : ComparisonRead}
    (answered : ((call.asking (.tenant (.createComparison payload))).serve db).2 = .ok answer)
    {events : List Event} {later : Database} {reader : Principal}
    (ran : run serverStep ((call.asking (.tenant (.createComparison payload))).serve db).1 events =
      some later)
    (own : reader.organizationId = principal.organizationId) :
    ∃ comparison report, answer = buildComparisonResponse comparison report ∧
      tenantComparisonOr404 later reader answer.id = .ok (comparison, report) := by
  rcases Call.serve_ok answered with ⟨served, foundAgain, created, committed⟩
  cases found.symm.trans foundAgain
  rcases createComparison_ok (Reply.ofExcept_ok created) with
    ⟨inserts, comparison, report, ofPrincipal, reported, written, rfl⟩
  refine ⟨comparison, report, rfl, ?_⟩
  have writes := committed
  simp only [ApiRequest.handle, TenantRequest.handle] at writes
  rw [written, Database.commit_append] at writes
  rcases Option.bind_eq_some_iff.mp writes with ⟨ruled, -, inserted⟩
  rcases Option.bind_eq_some_iff.mp inserted with ⟨compared, comparisonApplied, rest⟩
  rcases Option.bind_eq_some_iff.mp rest with ⟨next, reportApplied, last⟩
  have stored := tenantComparison_inserted comparisonApplied
  have storedReport := reportOf_inserted reportApplied
  rw [ofPrincipal, ← own] at stored
  rw [reported] at storedReport
  cases last
  exact tenantComparisonOr404_later (run_precedes ran)
    ((Database.Precedes.of_apply reportApplied).tenantComparison stored) storedReport

theorem createdApp_later (found : call.principal? db = some principal) {payload : AppCreate}
    {answer : AppRead}
    (answered : ((call.asking (.tenant (.createApp payload))).serve db).2 = .ok answer)
    {events : List Event} {later : Database} {reader : Principal}
    (ran : run serverStep ((call.asking (.tenant (.createApp payload))).serve db).1 events =
      some later)
    (own : reader.organizationId = principal.organizationId) :
    getApp later reader answer.id = .ok answer := by
  rcases Call.serve_ok answered with ⟨served, foundAgain, created, committed⟩
  cases found.symm.trans foundAgain
  rcases createApp_ok (Reply.ofExcept_ok created) with ⟨app, ofPrincipal, written, rfl⟩
  have writes := committed
  simp only [ApiRequest.handle, TenantRequest.handle] at writes
  rw [written] at writes
  rcases Option.bind_eq_some_iff.mp writes with ⟨next, applied, last⟩
  cases last
  have stored := (run_precedes ran).tenantApp (tenantApp_inserted applied)
  rw [ofPrincipal, ← own] at stored
  have lookup : later.tenantApp reader.organizationId app.read.id = some app := stored
  rw [getApp, tenantAppOr404, lookup]
  rfl

theorem createdGateRule_later (found : call.principal? db = some principal)
    {payload : GateRuleCreate} {answer : GateRuleRead}
    (answered : ((call.asking (.tenant (.createGateRule payload))).serve db).2 = .ok answer)
    {events : List Event} {later : Database} {reader : Principal}
    (ran : run serverStep ((call.asking (.tenant (.createGateRule payload))).serve db).1 events =
      some later)
    (own : reader.organizationId = principal.organizationId) :
    getGateRule later reader answer.id = .ok answer := by
  rcases Call.serve_ok answered with ⟨served, foundAgain, created, committed⟩
  cases found.symm.trans foundAgain
  rcases createGateRule_ok (Reply.ofExcept_ok created) with ⟨rule, ofPrincipal, written, rfl⟩
  have writes := committed
  simp only [ApiRequest.handle, TenantRequest.handle] at writes
  rw [written] at writes
  rcases Option.bind_eq_some_iff.mp writes with ⟨next, applied, last⟩
  cases last
  have stored := (run_precedes ran).tenantGateRule (tenantGateRule_inserted applied)
  rw [ofPrincipal, ← own] at stored
  have lookup : later.tenantGateRule reader.organizationId rule.read.id = some rule := stored
  rw [getGateRule, lookup]

/-- What an endpoint has answered for a new row stays its answer in every run. -/
theorem creations_stay (found : call.principal? db = some principal) :
    CreationsStay call db principal.organizationId where
  app _ _ answered _ _ _ ran own := createdApp_later found answered ran own
  gateRule _ _ answered _ _ _ ran own := createdGateRule_later found answered ran own
  comparison payload answer answered events later reader ran own := by
    rcases createdComparison_later found answered ran own with ⟨comparison, report, rfl, lookup⟩
    simp only [getComparison, lookup]
    rfl
  decision payload answer answered events later reader ran own := by
    rcases createdComparison_later found answered ran own with ⟨comparison, report, rfl, lookup⟩
    simp only [getGateDecision, lookup]
    rfl
  pipeline payload answer answered failOnWarn events later reader ran own := by
    rcases createdComparison_later found answered ran own with ⟨comparison, report, rfl, lookup⟩
    simp only [getCiGateReport, lookup]
    rfl

end

namespace Scenario

def comparisonEvents : List Event := devEvents.take 7

def comparisonCall : Call :=
  namedCall "comparison" {} (.tenant (.createComparison
    { baselineRunId := "baseline-0", candidateRunId := "candidate-0" }))

end Scenario

theorem creations_stay_scenario :
    (Scenario.comparisonCall.serve (Scenario.stateAfter Scenario.comparisonEvents)).2.isOk = true ∧
      CreationsStay Scenario.comparisonCall (Scenario.stateAfter Scenario.comparisonEvents)
        defaultOrganizationId :=
  ⟨by decide +kernel, @creations_stay _ _ (systemPrincipal .development) rfl⟩

end EvalForge
