import EvalForge.Api.ComparisonCommit
import EvalForge.Workers.SettledRuns

/-! # Repeated comparisons

What a comparison has found of two runs every later one finds again, whatever
requests are served and whatever the workers do in between.
-/

namespace EvalForge

open Foundation

/-! ## The later steps of a run -/

/-- Its workers have taken these steps since, or it is no run of the workers and is
stored as before. -/
inductive RunHistory (env : Environment) (start current : Cluster) (runId : String) : Prop
  | stored (absent : ∀ dispatched ∈ current.runs, dispatched.current.run.id ≠ runId)
      (same : start.db.SameStoredRun current.db runId)
  | worked (before after : Dispatched) (actions : List RunAction)
      (member : before ∈ start.runs) (afterMember : after ∈ current.runs)
      (named : before.current.run.id = runId) (afterNamed : after.current.run.id = runId)
      (initial : after.initial = before.initial)
      (extended : after.actions = before.actions ++ actions)
      (ran : run (runStep env) before.current actions = some after.current)

section

variable {env : Environment} {start cluster next : Cluster} {event : ClusterEvent}
variable {runId : String}

theorem RunHistory.refl (runId : String) (start : Cluster) : RunHistory env start start runId := by
  by_cases worked : ∃ dispatched ∈ start.runs, dispatched.current.run.id = runId
  · rcases worked with ⟨dispatched, member, named⟩
    exact .worked dispatched dispatched [] member member named named rfl
      (List.append_nil _).symm rfl
  · push Not at worked
    exact .stored worked (.refl start.db runId)

theorem RunHistory.serves {dispatched : Option Dispatched} {changed : Database}
    (history : RunHistory env start cluster runId) (there : (cluster.db.run? runId).isSome)
    (serves : ServesRuns env cluster.db changed dispatched) :
    RunHistory env start { db := changed, runs := cluster.runs ++ dispatched.toList } runId := by
  cases history with
  | stored absent same =>
      refine .stored (fun other member => ?_) (same.trans (serves.others runId there))
      rcases List.mem_append.mp member with old | new
      · exact absent other old
      · have apart := (serves.joins other (Option.mem_toList.mp new)).2
        exact (isSome_run?_ne there apart).symm
  | worked before after actions member afterMember named afterNamed initial extended ran =>
      exact .worked before after actions member (List.mem_append_left _ afterMember) named
        afterNamed initial extended ran

theorem RunHistory.changes {changed : Database} (history : RunHistory env start cluster runId)
    (there : (cluster.db.run? runId).isSome)
    (same : changed.runTables = cluster.db.runTables) :
    RunHistory env start { cluster with db := changed } runId := by
  have kept := history.serves there (.of_runTables same)
  rw [Option.toList_none, List.append_nil] at kept
  exact kept

theorem RunHistory.work {index : Nat} {readings : EvidenceReadings} {action : RunAction}
    {dispatched : Dispatched} {after : RunSystem} (history : RunHistory env start cluster runId)
    (sound : cluster.Sound env) (held : cluster.runs[index]? = some dispatched)
    (stepped : runStep env dispatched.current action = some after) :
    RunHistory env start {
      db := (cluster.db.commit
        (dispatched.current.transaction env.storesJson readings action)).getD cluster.db
      runs := cluster.runs.set index (dispatched.extend action after) } runId := by
  have own := List.mem_of_getElem? held
  have sameId : after.run.id = dispatched.current.run.id := (runStep_transition stepped).runId
  cases history with
  | stored absent same =>
      refine .stored (fun other member => ?_) (same.trans (sound.others own runId ?_))
      · rcases List.mem_or_eq_of_mem_set member with old | rfl
        · exact absent other old
        · exact sameId ▸ absent dispatched own
      · exact (absent dispatched own).symm
  | worked before last actions member lastMember named lastNamed initial extended ran =>
      rcases List.mem_iff_getElem?.mp lastMember with ⟨position, found⟩
      by_cases same : position = index
      · -- The step is one of this run.
        subst same
        cases held.symm.trans found
        refine .worked before (dispatched.extend action after) (actions ++ [action]) member
          (List.mem_set (List.getElem?_eq_some_iff.mp held).1 _) named (sameId.trans lastNamed)
          initial ?_ ?_
        · rw [Dispatched.extend, extended, List.append_assoc]
        · rw [run_append, ran]
          exact stepped
      · refine .worked before last actions member ?_ named lastNamed initial extended ran
        refine List.mem_iff_getElem?.mpr ⟨position, ?_⟩
        rw [List.getElem?_set, if_neg (Ne.symm same)]
        exact found

theorem clusterStep_precedes (stepped : clusterStep env cluster event = some next) :
    cluster.db.Precedes next.db := by
  cases event with
  | call call =>
      cases stepped
      exact @serverStep_precedes _ _ (.call call) rfl
  | login deployment readings payload =>
      cases stepped
      exact @serverStep_precedes _ _ (.login deployment readings payload) rfl
  | bootstrap deployment request =>
      cases stepped
      exact @serverStep_precedes _ _ (.bootstrap deployment request) rfl
  | work index readings action =>
      rcases Option.bind_eq_some_iff.mp stepped with ⟨dispatched, held, rest⟩
      rcases Option.bind_eq_some_iff.mp rest with ⟨after, runStepped, updated⟩
      cases updated
      exact @serverStep_precedes _ _
        (.work ⟨dispatched.current.transaction env.storesJson readings action,
          transaction_byWorker _ _ _ _⟩) rfl

theorem RunHistory.step (history : RunHistory env start cluster runId)
    (sound : cluster.Sound env) (there : (cluster.db.run? runId).isSome)
    (stepped : clusterStep env cluster event = some next) : RunHistory env start next runId := by
  cases event with
  | call call =>
      cases stepped
      exact history.serves there (call.serve_serves sound.reachable)
  | login deployment readings payload =>
      cases stepped
      have offRuns : OffRuns (loginUser deployment.toBootstrapContext readings cluster.db
          payload).writes :=
        .of_onIdentity fun write member =>
          onIdentity_of_onCredentials (loginUser_writes write member)
      exact history.changes there offRuns.settle
  | bootstrap deployment request =>
      cases stepped
      exact history.changes there (OffRuns.of_onIdentity bootstrap_writes).settle
  | work index readings action =>
      rcases Option.bind_eq_some_iff.mp stepped with ⟨dispatched, held, rest⟩
      rcases Option.bind_eq_some_iff.mp rest with ⟨after, runStepped, updated⟩
      cases updated
      exact history.work sound held runStepped

structure Follows (env : Environment) (start current : Cluster) : Prop where
  sound : current.Sound env
  precedes : start.db.Precedes current.db
  history : ∀ runId, (start.db.run? runId).isSome → RunHistory env start current runId

theorem Database.Precedes.run? {db later : Database} (kept : db.Precedes later) {row : EvalRunRow}
    (found : db.run? runId = some row) :
    ∃ next, later.run? runId = some next ∧ row.Precedes next := by
  refine kept.evalRuns.find?_eq_some ?_ found
  rintro stored later ⟨_, _, _, _, rfl⟩
  rfl

theorem Follows.run {final : Cluster} {events : List ClusterEvent} (sound : start.Sound env)
    (ran : Foundation.run (clusterStep env) start events = some final)
    (fresh : Along (clusterStep env) IssuesNewIds start events) : Follows env start final := by
  refine Transitions.invariant (Follows env start) ?_ (run_eq_some_iff.mp ran)
    ⟨sound, .refl start.db, fun runId _ => .refl runId start⟩ fresh
  intro current event next follows stepped fresh
  refine ⟨clusterStep_sound follows.sound stepped fresh,
    follows.precedes.trans (clusterStep_precedes stepped), fun runId there => ?_⟩
  rcases Option.isSome_iff_exists.mp there with ⟨row, found⟩
  rcases follows.precedes.run? found with ⟨_, current, -⟩
  refine (follows.history runId there).step follows.sound ?_ stepped
  rw [current]
  rfl

end

/-! ## What a comparison reads -/

structure ReadsSame (db later : Database) (runId : String) : Prop where
  comparable : ∀ row, db.run? runId = some row → row.status.comparable = true →
    ∃ next, later.run? runId = some next ∧ row.Precedes next ∧ next.status.comparable = true
  caseIds : later.caseIdsOf runId = db.caseIdsOf runId
  samples : collectRunMetricSamples (later.itemRecords runId) =
    collectRunMetricSamples (db.itemRecords runId)

theorem collectItem_of_measured {item other : ItemRecord} (same : item.measured = other.measured)
    (samples : MetricSamples) : collectItem samples item = collectItem samples other := by
  have caseId : item.row.caseId = other.row.caseId := congrArg Prod.fst same
  have latency : item.row.recordedLatencyMs = other.row.recordedLatencyMs :=
    congrArg (fun measured => measured.2.2.1) same
  have cost : item.row.recordedCostUsd = other.row.recordedCostUsd :=
    congrArg (fun measured => measured.2.2.2.1) same
  have results : item.results = other.results :=
    congrArg (fun measured => measured.2.2.2.2.2) same
  unfold collectItem ItemRecord.casePassed
  rw [caseId, latency, cost, results]

theorem foldl_collectItem_of_measured {items others : List ItemRecord}
    (same : List.Forall₂ (fun item other : ItemRecord => item.measured = other.measured)
      items others) (samples : MetricSamples) :
    items.foldl collectItem samples = others.foldl collectItem samples := by
  induction same generalizing samples with
  | nil => rfl
  | cons head _ induction =>
      rw [List.foldl_cons, List.foldl_cons, collectItem_of_measured head]
      exact induction _

theorem collectRunMetricSamples_of_measured {items others : List ItemRecord}
    (same : items.map (·.measured) = others.map (·.measured)) :
    collectRunMetricSamples items = collectRunMetricSamples others := by
  have related : List.Forall₂ (fun item other : ItemRecord => item.measured = other.measured)
      items others := by
    rw [← List.forall₂_eq_eq_eq, List.forall₂_map_left_iff, List.forall₂_map_right_iff] at same
    exact same
  refine foldl_collectItem_of_measured ?_ _
  refine forall₂_insertionSort_of_key ?_ related
  exact fun left right measured => congrArg Prod.fst measured

section

variable {env : Environment} {start final : Cluster} {runId : String}

theorem SameStoredRun.readsSame {db later : Database} (same : db.SameStoredRun later runId) :
    ReadsSame db later runId := by
  refine ⟨fun row found comparable => ⟨row, same.run.trans found, .refl row, comparable⟩, ?_, ?_⟩
  · rw [Database.caseIdsOf, same.itemsOf, Database.caseIdsOf]
  · rw [Database.itemRecords_eq_map, same.items, Database.itemRecords_eq_map]

theorem RunSettled.readsSame {db later : Database} {before after : RunSystem}
    {createdAt laterCreatedAt : Nat} (settled : RunSettled env before after)
    (stored : before.StoredIn createdAt db) (storedLater : after.StoredIn laterCreatedAt later)
    (named : before.run.id = runId) (afterNamed : after.run.id = runId)
    (precedes : db.Precedes later) : ReadsSame db later runId := by
  subst named
  have items := stored.storedItems
  have laterItems := storedLater.storedItems
  have laterRun := storedLater.run
  rw [afterNamed] at laterItems laterRun
  have measured : (after.slots.map fun slot => slot.system.item).map (·.measured) =
      (before.slots.map fun slot => slot.system.item).map (·.measured) := by
    rw [List.map_map, List.map_map]
    exact settled.measured
  refine ⟨?_, ?_, ?_⟩
  · intro row found comparable
    rcases precedes.run? found with ⟨next, nextFound, kept⟩
    refine ⟨next, nextFound, kept, ?_⟩
    cases laterRun.symm.trans nextFound
    exact settled.comparable
  · have caseIds := congrArg (List.map Prod.fst) measured
    simp only [List.map_map] at caseIds
    rw [Database.caseIdsOf, Database.caseIdsOf, Database.itemsOf_of_storedItems items,
      Database.itemsOf_of_storedItems laterItems]
    simp only [List.map_map]
    exact congrArg List.toFinset caseIds
  · rw [Database.itemRecords_of_storedItems items, Database.itemRecords_of_storedItems laterItems,
      collectRunMetricSamples_stored, collectRunMetricSamples_stored]
    exact collectRunMetricSamples_of_measured measured

theorem Follows.readsSame (follows : Follows env start final) (sound : start.Sound env)
    {row : EvalRunRow} (found : start.db.run? runId = some row)
    (comparable : row.status.comparable = true)
    (returned : ∀ dispatched ∈ start.runs, dispatched.current.run.id = runId →
      dispatched.current.dispatch = .returned)
    (kept : ∀ dispatched ∈ final.runs, dispatched.current.run.id = runId →
      Along (runStep env) (NoLateWrite env) dispatched.initial dispatched.actions) :
    ReadsSame start.db final.db runId := by
  have there : (start.db.run? runId).isSome := by
    rw [found]
    rfl
  cases follows.history runId there with
  | stored absent same => exact SameStoredRun.readsSame same
  | worked before after actions member afterMember named afterNamed initial extended ran =>
      have own := sound.runs before member
      have laterOwn := follows.sound.runs after afterMember
      have along := kept after afterMember afterNamed
      rw [initial, extended] at along
      rcases (along_append_iff own.reached).mp along with ⟨first, second⟩
      rcases own.accepted with ⟨inputs, request, accepted⟩
      have dispatchReturned := returned before member named
      have counted := CountSound.reached accepted own.reached first dispatchReturned
      have status : before.current.run.status.comparable = true := by
        have stored := own.stored.run
        rw [named] at stored
        cases found.symm.trans stored
        exact comparable
      have settled := RunSettled.run counted dispatchReturned status ran second
      exact settled.readsSame own.stored laterOwn.stored named afterNamed follows.precedes

end

/-! ## What a comparison finds -/

def RegressionReport.findings (report : RegressionReport) :
    (Metric → MetricReport) × Verdict × List GateReason :=
  (report.metrics, report.gateVerdict, report.gateReasons)

section

variable {db later : Database} {organizationId : String} {payload : ComparisonCreate}
variable {context : ComparisonContext} {readings otherReadings : RequestReadings}

theorem ReadsSame.tenantRun (reads : ReadsSame db later runId) (consistent : db.Consistent)
    (laterConsistent : later.Consistent) {row : EvalRunRow}
    (found : db.tenantRun organizationId runId = some row)
    (comparable : row.status.comparable = true) :
    ∃ next, later.tenantRun organizationId runId = some next ∧ row.Precedes next ∧
      next.status.comparable = true := by
  rcases run?_of_tenantRun consistent found with ⟨-, owned, foundRun⟩
  rcases reads.comparable row foundRun comparable with ⟨next, nextFound, kept, nextComparable⟩
  refine ⟨next, ?_, kept, nextComparable⟩
  have nextTenant := tenantRun_of_run? laterConsistent nextFound
  rcases kept with ⟨_, _, _, _, rfl⟩
  rw [← owned]
  exact nextTenant

theorem ComparableRuns.kept {baseline candidate : EvalRunRow} (precedes : db.Precedes later)
    (consistent : db.Consistent) (laterConsistent : later.Consistent)
    (readsBaseline : ReadsSame db later payload.baselineRunId)
    (readsCandidate : ReadsSame db later payload.candidateRunId)
    (compared : ComparableRuns db organizationId payload baseline candidate) :
    ∃ baseline candidate, ComparableRuns later organizationId payload baseline candidate := by
  rcases readsBaseline.tenantRun consistent laterConsistent compared.baselineFound
    compared.finished.1 with ⟨laterBaseline, baselineFound, baselineKept, baselineFinished⟩
  rcases readsCandidate.tenantRun consistent laterConsistent compared.candidateFound
    compared.finished.2 with ⟨laterCandidate, candidateFound, candidateKept, candidateFinished⟩
  rcases baselineKept with ⟨_, _, _, _, rfl⟩
  rcases candidateKept with ⟨_, _, _, _, rfl⟩
  rcases compared.sameApp with
    ⟨baselineVersion, candidateVersion, baselineVersioned, candidateVersioned, sameApp⟩
  refine ⟨_, _, baselineFound, candidateFound, compared.sameSuite, compared.sameConfig,
    ⟨baselineVersion, candidateVersion, ?_, ?_, sameApp⟩,
    ⟨baselineFinished, candidateFinished⟩, ?_⟩
  · exact precedes.appVersions.find?_eq_some baselineVersioned
  · exact precedes.appVersions.find?_eq_some candidateVersioned
  · rw [readsBaseline.caseIds, readsCandidate.caseIds]
    exact compared.sameCases

theorem comparisonGateRules_later (precedes : db.Precedes later) {gateRulesId : Option String}
    {writes laterWrites : List Write} {ruleId laterRuleId : String} {rules laterRules : GateRules}
    (ruled : comparisonGateRules context readings db organizationId gateRulesId =
      .ok (writes, ruleId, rules))
    (ruledLater : comparisonGateRules context otherReadings later organizationId gateRulesId =
      .ok (laterWrites, laterRuleId, laterRules)) : laterRules = rules := by
  cases gateRulesId with
  | none =>
      cases ruled
      cases ruledLater
      rfl
  | some gateRulesId =>
      cases found : db.tenantGateRule organizationId gateRulesId with
      | none => simp [comparisonGateRules, found] at ruled
      | some stored =>
          have foundLater := precedes.tenantGateRule found
          simp only [comparisonGateRules, found] at ruled
          simp only [comparisonGateRules, foundLater] at ruledLater
          rcases bind_eq_ok_iff.mp ruled with ⟨read, validated, returned⟩
          rcases bind_eq_ok_iff.mp ruledLater with ⟨readLater, validatedLater, returnedLater⟩
          cases validated.symm.trans validatedLater
          cases returned
          cases returnedLater
          rfl

theorem findings_later (precedes : db.Precedes later)
    (readsBaseline : ReadsSame db later payload.baselineRunId)
    (readsCandidate : ReadsSame db later payload.candidateRunId)
    {writes laterWrites : List Write} {comparison laterComparison : ComparisonRow}
    {report laterReport : RegressionReport}
    (computed : computeComparison context readings db organizationId payload =
      .ok (writes, comparison, report))
    (computedLater : computeComparison context otherReadings later organizationId payload =
      .ok (laterWrites, laterComparison, laterReport)) :
    laterReport.findings = report.findings := by
  have first := computeComparison_ok computed
  have second := computeComparison_ok computedLater
  rcases first.gated with ⟨_, _, rules, ruled, -, gated⟩
  rcases second.gated with ⟨_, _, laterRules, ruledLater, -, gatedLater⟩
  have metrics : laterReport.metrics = report.metrics := by
    rw [first.metrics, second.metrics, readsBaseline.samples, readsCandidate.samples]
  rw [comparisonGateRules_later precedes ruled ruledLater, metrics, ← gated] at gatedLater
  exact Prod.ext metrics gatedLater

theorem comparableRuns_of_computed {writes : List Write} {comparison : ComparisonRow}
    {report : RegressionReport}
    (computed : computeComparison context readings db organizationId payload =
      .ok (writes, comparison, report)) :
    ∃ baseline candidate, ComparableRuns db organizationId payload baseline candidate := by
  rcases (computeComparison_ok computed).compared with ⟨runs, accepted⟩
  rcases comparableRuns_cases db organizationId payload with
    ⟨baseline, candidate, -, compared⟩ | ⟨message, refused⟩
  · exact ⟨baseline, candidate, compared⟩
  · cases refused.symm.trans accepted

theorem comparable_later (precedes : db.Precedes later) (consistent : db.Consistent)
    (laterConsistent : later.Consistent)
    (readsBaseline : ReadsSame db later payload.baselineRunId)
    (readsCandidate : ReadsSame db later payload.candidateRunId)
    {writes : List Write} {comparison : ComparisonRow} {report : RegressionReport}
    (computed : computeComparison context readings db organizationId payload =
      .ok (writes, comparison, report)) : Comparable later organizationId payload := by
  rcases comparableRuns_of_computed computed with ⟨baseline, candidate, compared⟩
  refine ⟨?_, fun gateRulesId given => ?_⟩
  · exact compared.kept precedes consistent laterConsistent readsBaseline readsCandidate
  · rcases (computeComparison_ok computed).gated with ⟨_, _, rules, ruled, -⟩
    rw [given] at ruled
    cases stored : db.tenantGateRule organizationId gateRulesId with
    | none => simp [comparisonGateRules, stored] at ruled
    | some gateRule => exact ⟨gateRule, precedes.tenantGateRule stored⟩

end

/-! ## Answered comparisons -/

section

variable {db : Database} {call : Call} {principal : Principal} {payload : ComparisonCreate}
variable {organizationId : String} {answer : ComparisonRead}

theorem Call.begins_tenantTables (call : Call) (db : Database) :
    (call.begins db).tenantTables = db.tenantTables :=
  (call.authenticate_same db).tenantTables

theorem Database.Reachable.begins (reachable : db.Reachable) (call : Call) :
    (call.begins db).Reachable := by
  let listing := call.asking (.tenant (.listRuns { limit := 1 }))
  have served := reachable.serve listing
  have same : (listing.serve db).1 = listing.begins db := by
    unfold Call.serve Call.begins
    cases settled : (Reply.settle db (listing.authenticate db)).2 with
    | error error => simp only [settled]
    | ok principal =>
        simp only [settled]
        rfl
  rw [same] at served
  exact served

theorem computeComparison_of_tenantTables {context : ComparisonContext}
    {readings : RequestReadings} {next : Database}
    (same : next.tenantTables = db.tenantTables) :
    computeComparison context readings next organizationId payload =
      computeComparison context readings db organizationId payload := by
  have views : computeComparison context readings next.tenantTables organizationId payload =
      computeComparison context readings db.tenantTables organizationId payload := by
    rw [same]
  exact views

theorem freshIds_of_tenantTables {readings : RequestReadings} {next : Database}
    (same : next.tenantTables = db.tenantTables) (fresh : FreshIds readings db) :
    FreshIds readings next := by
  have gateRules := congrArg Database.gateRules same
  have comparisons := congrArg Database.comparisons same
  have reports := congrArg Database.regressionReports same
  exact ⟨gateRules ▸ fresh.gateRule, comparisons ▸ fresh.comparison, reports ▸ fresh.report⟩

theorem comparable_of_tenantTables {next : Database}
    (same : next.tenantTables = db.tenantTables)
    (comparable : Comparable db organizationId payload) :
    Comparable next organizationId payload := by
  have runs : ∃ baseline candidate,
      ComparableRuns db.tenantTables organizationId payload baseline candidate := by
    rcases comparable.runs with ⟨baseline, candidate, compared⟩
    exact ⟨baseline, candidate, ⟨compared.baselineFound, compared.candidateFound,
      compared.sameSuite, compared.sameConfig, compared.sameApp, compared.finished,
      compared.sameCases⟩⟩
  have tables : Comparable db.tenantTables organizationId payload := ⟨runs, comparable.gateRule⟩
  rw [← same] at tables
  rcases tables.runs with ⟨baseline, candidate, compared⟩
  exact ⟨⟨baseline, candidate, ⟨compared.baselineFound, compared.candidateFound,
    compared.sameSuite, compared.sameConfig, compared.sameApp, compared.finished,
    compared.sameCases⟩⟩, tables.gateRule⟩

theorem createComparison_computed {context : ComparisonContext} {readings : RequestReadings}
    {writes : List Write}
    (created : createComparison context readings db principal payload = .ok (writes, answer)) :
    ∃ comparison, computeComparison context readings db principal.organizationId payload =
      .ok (writes, comparison, answer.report) := by
  unfold createComparison at created
  rcases bind_eq_ok_iff.mp created with ⟨_, -, created⟩
  rcases bind_eq_ok_iff.mp created with ⟨⟨written, comparison, report⟩, computed, created⟩
  cases created
  exact ⟨comparison, mapError_eq_ok_iff.mp computed⟩

theorem answered_computed (found : call.principal? db = some principal)
    (answered : ((call.asking (.tenant (.createComparison payload))).serve db).2 = .ok answer) :
    ∃ writes comparison, computeComparison call.deployment.comparisonContext
      call.readings.toRequestReadings db principal.organizationId payload =
        .ok (writes, comparison, answer.report) := by
  rcases Call.serve_ok answered with ⟨served, foundAgain, created, -⟩
  cases found.symm.trans foundAgain
  rcases createComparison_computed (Reply.ofExcept_ok created) with ⟨comparison, computed⟩
  have same : computeComparison call.deployment.comparisonContext
      call.readings.toRequestReadings (call.begins db) principal.organizationId payload =
      computeComparison call.deployment.comparisonContext call.readings.toRequestReadings db
        principal.organizationId payload :=
    computeComparison_of_tenantTables (call.begins_tenantTables db)
  exact ⟨_, comparison, same.symm.trans computed⟩

theorem answered_of_compares (found : call.principal? db = some principal)
    (allowed : requireRole principal .evaluator = .ok ())
    (compares : Compares call.deployment.comparisonContext call.readings.toRequestReadings
      (call.begins db) principal.organizationId payload) :
    ∃ answer, ((call.asking (.tenant (.createComparison payload))).serve db).2 = .ok answer := by
  rcases compares with ⟨comparison, report, returned, -⟩
  unfold commitComparison at returned
  split at returned
  · cases returned
  · next writes computedComparison computedReport computed =>
    split at returned
    · next next committed =>
      cases returned
      refine ⟨buildComparisonResponse comparison report, ?_⟩
      have settled : (Reply.settle db
          ((call.asking (.tenant (.createComparison payload))).authenticate db)).2 =
          .ok principal := by
        have optional : (Reply.settle db (call.authenticate db)).2.toOption = some principal :=
          found
        cases settled : (Reply.settle db (call.authenticate db)).2 with
        | error error =>
            rw [settled] at optional
            cases optional
        | ok served =>
            rw [settled] at optional
            cases optional
            exact settled
      rw [Call.serve_of_settled settled]
      change (Reply.settle (call.begins db) (.ofExcept (createComparison
        call.deployment.comparisonContext call.readings.toRequestReadings (call.begins db)
        principal payload))).2 = _
      have created : createComparison call.deployment.comparisonContext
          call.readings.toRequestReadings (call.begins db) principal payload =
          .ok (writes, buildComparisonResponse comparison report) := by
        simp only [createComparison, allowed, computed, Except.mapError, bind, Except.bind, pure,
          Except.pure]
      rw [created]
      simp only [Reply.ofExcept, Reply.settle, committed]
    · cases returned

end

/-- In this state the comparison is answered to every evaluator of the organization, and
with these findings only. -/
structure Repeats (context : ComparisonContext) (db : Database) (organizationId : String)
    (payload : ComparisonCreate) (report : RegressionReport) : Prop where
  findings : ∀ (call : Call) (principal : Principal) (answer : ComparisonRead),
    call.deployment.comparisonContext = context → call.principal? db = some principal →
    principal.organizationId = organizationId →
    ((call.asking (.tenant (.createComparison payload))).serve db).2 = .ok answer →
    answer.report.findings = report.findings
  answered : ∀ (call : Call) (principal : Principal),
    call.deployment.comparisonContext = context → call.principal? db = some principal →
    principal.organizationId = organizationId → requireRole principal .evaluator = .ok () →
    FreshIds call.readings.toRequestReadings db →
    (payload.gateRulesId = none →
      ¬NameTaken call.readings.toRequestReadings db organizationId) →
    ∃ answer, ((call.asking (.tenant (.createComparison payload))).serve db).2 = .ok answer

/-- A comparison of two runs whose submissions are over can be repeated: unless a late
write of a delivery meets a terminal item, every later request for it finds the same. -/
theorem comparisons_repeat (env : Environment) (createdAt : Nat)
    (before between : List ClusterEvent) (middle final : Cluster)
    (ran : run (clusterStep env) { db := .migrated createdAt } before = some middle)
    (resumed : run (clusterStep env) middle between = some final)
    (fresh : Along (clusterStep env) IssuesNewIds { db := .migrated createdAt }
      (before ++ between))
    (call : Call) (principal : Principal) (found : call.principal? middle.db = some principal)
    (payload : ComparisonCreate) (answer : ComparisonRead)
    (answered : ((call.asking (.tenant (.createComparison payload))).serve middle.db).2 =
      .ok answer)
    (submitted : ∀ dispatched ∈ middle.runs,
      dispatched.current.run.id ∈ [payload.baselineRunId, payload.candidateRunId] →
      dispatched.current.dispatch = .returned)
    (kept : ∀ dispatched ∈ final.runs,
      dispatched.current.run.id ∈ [payload.baselineRunId, payload.candidateRunId] →
      Along (runStep env) (NoLateWrite env) dispatched.initial dispatched.actions) :
    Repeats call.deployment.comparisonContext final.db principal.organizationId payload
      answer.report := by
  rcases (along_append_iff ran).mp fresh with ⟨first, second⟩
  have sound := cluster_sound createdAt ran first
  have follows := Follows.run sound resumed second
  have consistent := sound.reachable.consistent
  have laterConsistent := follows.sound.reachable.consistent
  rcases answered_computed found answered with ⟨writes, comparison, computed⟩
  rcases comparableRuns_of_computed computed with ⟨baseline, candidate, compared⟩
  have readsBaseline : ReadsSame middle.db final.db payload.baselineRunId :=
    follows.readsSame sound (run?_of_tenantRun consistent compared.baselineFound).2.2
      compared.finished.1
      (fun dispatched member named => submitted dispatched member (by simp [named]))
      (fun dispatched member named => kept dispatched member (by simp [named]))
  have readsCandidate : ReadsSame middle.db final.db payload.candidateRunId :=
    follows.readsSame sound (run?_of_tenantRun consistent compared.candidateFound).2.2
      compared.finished.2
      (fun dispatched member named => submitted dispatched member (by simp [named]))
      (fun dispatched member named => kept dispatched member (by simp [named]))
  constructor
  · intro again reader other sameContext readerFound own otherAnswered
    rcases answered_computed readerFound otherAnswered with
      ⟨laterWrites, laterComparison, computedLater⟩
    rw [sameContext, own] at computedLater
    exact findings_later follows.precedes readsBaseline readsCandidate computed computedLater
  · intro again reader sameContext readerFound own allowed freshIds free
    refine answered_of_compares readerFound allowed ?_
    have same := again.begins_tenantTables final.db
    have reachable := follows.sound.reachable.begins again
    have freshBegins := freshIds_of_tenantTables same freshIds
    have comparable : Comparable (again.begins final.db) reader.organizationId payload := by
      rw [own]
      exact comparable_of_tenantTables same (comparable_later follows.precedes consistent
        laterConsistent readsBaseline readsCandidate computed)
    cases given : payload.gateRulesId with
    | none =>
        refine commitComparison_default reachable.consistent reachable.rulesStored freshBegins
          comparable given fun taken => free given ?_
        rw [own] at taken
        have tables : NameTaken again.readings.toRequestReadings
            (again.begins final.db).tenantTables principal.organizationId := taken
        rw [same] at tables
        exact tables
    | some gateRulesId =>
        exact commitComparison_given reachable.consistent reachable.rulesStored freshBegins
          comparable given

namespace Scenario

def chordComparison : ComparisonCreate where
  baselineRunId := "baseline-0"
  candidateRunId := "chord-0"

def chordComparisonCall : Call :=
  namedCall "comparison" {} (.tenant (.createComparison chordComparison))

def chordComparisonEvents : List ClusterEvent :=
  [.call chordComparisonCall, .call (namedCall "candidate" {} (.tenant devRun))]

theorem chordComparisonEvents_settled :
    (clusterState.any fun middle =>
      (chordComparisonCall.serve middle.db).2.isOk &&
      middle.runs.all (fun dispatched => decide (dispatched.current.dispatch = .returned)) &&
      (run (clusterStep environment) middle chordComparisonEvents).any fun final =>
        final.runs.all fun dispatched =>
          !dispatched.initial.slots.isEmpty &&
          decide (Along (runStep environment)
            (fun current action _ => current.chained action = true ∧ current.dispatch ≠ .failed)
            dispatched.initial dispatched.actions)) = true := by
  decide +kernel

end Scenario

theorem comparisons_repeat_scenario :
    ∃ middle final answer, Scenario.clusterState = some middle ∧
      run (clusterStep Scenario.environment) middle Scenario.chordComparisonEvents = some final ∧
      Repeats Scenario.devDeployment.comparisonContext final.db defaultOrganizationId
        Scenario.chordComparison answer := by
  rcases (Option.any_eq_true _ _).mp Scenario.chordComparisonEvents_settled with
    ⟨middle, ran, settled⟩
  simp only [Bool.and_eq_true, List.all_eq_true, decide_eq_true_eq] at settled
  rcases settled with ⟨⟨answered, submitted⟩, later⟩
  rcases (Option.any_eq_true _ _).mp later with ⟨final, resumed, chained⟩
  simp only [Bool.and_eq_true, List.all_eq_true, decide_eq_true_eq, Bool.not_eq_true',
    List.isEmpty_eq_false_iff] at chained
  have fresh : Along (clusterStep Scenario.environment) IssuesNewIds { db := .migrated 0 }
      (Scenario.clusterEvents ++ Scenario.chordComparisonEvents) := by
    refine (along_append_iff ran).mpr ⟨Scenario.clusterEvents_new, Along.of_actions ?_⟩
    intro event member current next
    rcases List.mem_cons.mp member with rfl | member
    · trivial
    · rw [List.mem_singleton.mp member]
      trivial
  have sound := cluster_sound 0 (run_trans ran resumed) fresh
  cases report : (Scenario.chordComparisonCall.serve middle.db).2 with
  | error error =>
      rw [report] at answered
      cases answered
  | ok answer =>
      refine ⟨middle, final, answer.report, ran, resumed, ?_⟩
      exact comparisons_repeat Scenario.environment 0 Scenario.clusterEvents
        Scenario.chordComparisonEvents middle final ran resumed fresh Scenario.chordComparisonCall
        (systemPrincipal .development) rfl Scenario.chordComparison answer report
        (fun dispatched member _ => submitted dispatched member)
        (fun dispatched member _ => by
          rcases (sound.runs dispatched member).accepted with ⟨inputs, request, accepted⟩
          exact noLateWrite_of_chained accepted (chained dispatched member).1
            (chained dispatched member).2)

end EvalForge
