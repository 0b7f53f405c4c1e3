import EvalForge.Db.Frames
import EvalForge.Db.Queries
import EvalForge.Services.CompareRuns

/-! # Consistency of the tenant rows

The tables have plain foreign keys only. That the rows which a run, an item or a
comparison refers to are of one organization is an invariant: the inserts that
are admissible for an organization keep it, and so does every statement of a
worker.
-/

namespace EvalForge

open Foundation

namespace Database

variable (db : Database)

def evaluatorConfig? (id : String) : Option EvaluatorConfigRow :=
  db.evaluatorConfigs.find? (·.id == id)

/-! ## What is consistent -/

/-- The version and the suite of a run are of one app, and that app, the
evaluator configuration and the run of one organization. -/
def RunConsistent (run : EvalRunRow) : Prop :=
  ∃ version suite app config,
    db.version? run.appVersionId = some version ∧
    db.suite? run.suiteId = some suite ∧
    db.evaluatorConfig? run.evaluatorConfigId = some config ∧
    db.app? version.appId = some app ∧
    suite.appId = version.appId ∧
    app.organizationId = run.organizationId ∧
    config.organizationId = run.organizationId

def ItemConsistent (item : EvalRunItem) : Prop :=
  ∃ run, db.run? item.runId = some run ∧
    ∃ link ∈ db.evalSuiteCases, link.suiteId = run.suiteId ∧ link.caseId = item.caseId

def ComparisonConsistent (comparison : ComparisonRow) : Prop :=
  ∃ baseline candidate baselineVersion candidateVersion gateRule,
    db.run? comparison.baselineRunId = some baseline ∧
    db.run? comparison.candidateRunId = some candidate ∧
    db.gateRule? comparison.gateRulesId = some gateRule ∧
    baseline.organizationId = comparison.organizationId ∧
    candidate.organizationId = comparison.organizationId ∧
    gateRule.organizationId = comparison.organizationId ∧
    baseline.suiteId = candidate.suiteId ∧
    baseline.evaluatorConfigId = candidate.evaluatorConfigId ∧
    db.version? baseline.appVersionId = some baselineVersion ∧
    db.version? candidate.appVersionId = some candidateVersion ∧
    baselineVersion.appId = candidateVersion.appId ∧
    db.caseIdsOf comparison.baselineRunId = db.caseIdsOf comparison.candidateRunId

structure TenantConsistent : Prop where
  runs : ∀ run ∈ db.evalRuns, db.RunConsistent run
  items : ∀ item ∈ db.evalRunItems, db.ItemConsistent item
  distinctCases : db.evalRunItems.Pairwise fun item other =>
    item.runId = other.runId → item.caseId ≠ other.caseId
  comparisons : ∀ comparison ∈ db.comparisons, db.ComparisonConsistent comparison

/-- The primary keys that the lookups rely on. -/
structure TablesKeyed : Prop where
  apps : Keyed App.conflicts db.apps
  appVersions : Keyed AppVersionRow.conflicts db.appVersions
  evalSuites : Keyed EvalSuiteRow.conflicts db.evalSuites
  evaluatorConfigs : Keyed EvaluatorConfigRow.conflicts db.evaluatorConfigs
  evalRuns : Keyed EvalRunRow.conflicts db.evalRuns
  evalRunItems : Keyed EvalRunItem.conflicts db.evalRunItems
  gateRules : Keyed GateRuleRow.conflicts db.gateRules

/-- The rows of the second database refer to rows of the first. -/
structure RowsRefer (rows : Database) : Prop where
  appVersions : ∀ version ∈ rows.appVersions, (db.app? version.appId).isSome
  evalSuites : ∀ suite ∈ rows.evalSuites, (db.app? suite.appId).isSome
  evalSuiteCases : ∀ link ∈ rows.evalSuiteCases, (db.suite? link.suiteId).isSome
  evalRuns : ∀ run ∈ rows.evalRuns, db.RunConsistent run
  evalRunItems : ∀ item ∈ rows.evalRunItems, db.ItemConsistent item
  traces : ∀ trace ∈ rows.traces, db.hasItem trace.runItemId = true
  evalResults : ∀ result ∈ rows.evalResults, db.hasItem result.runItemId = true
  comparisons : ∀ comparison ∈ rows.comparisons, db.ComparisonConsistent comparison
  regressionReports : ∀ report ∈ rows.regressionReports,
    db.hasComparison report.comparisonId = true
  gateRules : ∀ gateRule ∈ rows.gateRules, gateRule.id ≠ ""

structure Consistent : Prop where
  keyed : db.TablesKeyed
  refer : db.RowsRefer db

/-! ## Rows below the rows of an organization -/

variable (organizationId : String)

def suiteOwned (suiteId : String) : Bool :=
  db.evalSuites.any fun suite => suite.id == suiteId && db.appOwned organizationId suite.appId

def caseOwned (caseId : String) : Bool :=
  db.evalSuiteCases.any fun link =>
    link.caseId == caseId && db.suiteOwned organizationId link.suiteId

def runOwned (runId : String) : Bool :=
  db.evalRuns.any fun run => run.id == runId && run.organizationId == organizationId

def itemOwned (itemId : String) : Bool :=
  db.evalRunItems.any fun item => item.id == itemId && db.runOwned organizationId item.runId

def comparisonOwned (comparisonId : String) : Bool :=
  db.comparisons.any fun comparison =>
    comparison.id == comparisonId && comparison.organizationId == organizationId

def Uncompared (runId : String) : Prop :=
  ∀ comparison ∈ db.comparisons,
    comparison.baselineRunId ≠ runId ∧ comparison.candidateRunId ≠ runId

theorem appOwned_of_tenantApp {db : Database} {organizationId appId : String} {app : App}
    (found : db.tenantApp organizationId appId = some app) :
    db.appOwned organizationId appId = true := any_of_find? found

theorem suiteOwned_of_tenantSuite {db : Database} {organizationId suiteId : String}
    {suite : EvalSuiteRow}
    (found : db.tenantSuite organizationId suiteId = some suite) :
    db.suiteOwned organizationId suiteId = true := any_of_find? found

theorem runOwned_of_tenantRun {db : Database} {organizationId runId : String} {run : EvalRunRow}
    (found : db.tenantRun organizationId runId = some run) :
    db.runOwned organizationId runId = true := any_of_find? found

theorem comparisonOwned_of_tenantComparison {db : Database}
    {organizationId comparisonId : String} {comparison : ComparisonRow}
    (found : db.tenantComparison organizationId comparisonId = some comparison) :
    db.comparisonOwned organizationId comparisonId = true := any_of_find? found

end Database

def Write.Admissible (organizationId : String) (db : Database) : Write → Prop
  | .insertApp row => row.organizationId = organizationId
  | .insertVersion row => db.appOwned organizationId row.appId = true
  | .insertSuite row => db.appOwned organizationId row.appId = true
  | .insertLinkedCase row link =>
      link.caseId = row.id ∧ db.suiteOwned organizationId link.suiteId = true
  | .insertEvaluatorConfig row => row.organizationId = organizationId
  | .insertGateRule row => row.organizationId = organizationId ∧ row.id ≠ ""
  | .insertRun row => row.organizationId = organizationId ∧ db.RunConsistent row
  | .insertItem row =>
      db.runOwned organizationId row.runId = true ∧ db.ItemConsistent row ∧
        db.Uncompared row.runId
  | .insertTrace row => db.itemOwned organizationId row.runItemId = true
  | .insertResult row => db.itemOwned organizationId row.runItemId = true
  | .insertComparison row => row.organizationId = organizationId ∧ db.ComparisonConsistent row
  | .insertReport row => db.comparisonOwned organizationId row.comparisonId = true
  | _ => False

def Database.Admits (organizationId : String) (db : Database) : List Write → Prop
  | [] => True
  | write :: writes =>
      write.Admissible organizationId db ∧
        ∀ next, db.apply write = some next → next.Admits organizationId writes

/-! ## Growth -/

def EvalRunRow.SameReferences (run other : EvalRunRow) : Prop :=
  other.organizationId = run.organizationId ∧ other.appVersionId = run.appVersionId ∧
    other.suiteId = run.suiteId ∧ other.evaluatorConfigId = run.evaluatorConfigId

namespace Database

/-- What is looked up stays, and the compared runs get no items. -/
structure Grows (db next : Database) : Prop where
  apps : ∀ {id app}, db.app? id = some app → next.app? id = some app
  appVersions : ∀ {id version}, db.version? id = some version → next.version? id = some version
  evalSuites : ∀ {id suite}, db.suite? id = some suite → next.suite? id = some suite
  evaluatorConfigs : ∀ {id config},
    db.evaluatorConfig? id = some config → next.evaluatorConfig? id = some config
  gateRules : ∀ {id gateRule},
    db.gateRule? id = some gateRule → next.gateRule? id = some gateRule
  evalSuiteCases : ∀ {link}, link ∈ db.evalSuiteCases → link ∈ next.evalSuiteCases
  evalRuns : ∀ {id run}, db.run? id = some run →
    ∃ other, next.run? id = some other ∧ run.SameReferences other
  evalRunItems : ∀ {id}, db.hasItem id = true → next.hasItem id = true
  comparisons : ∀ {id}, db.hasComparison id = true → next.hasComparison id = true
  compared : ∀ {comparison}, comparison ∈ db.comparisons →
    next.caseIdsOf comparison.baselineRunId = db.caseIdsOf comparison.baselineRunId ∧
    next.caseIdsOf comparison.candidateRunId = db.caseIdsOf comparison.candidateRunId

section

variable {db next : Database}

theorem Grows.refl (db : Database) : Grows db db where
  apps found := found
  appVersions found := found
  evalSuites found := found
  evaluatorConfigs found := found
  gateRules found := found
  evalSuiteCases member := member
  evalRuns found := ⟨_, found, rfl, rfl, rfl, rfl⟩
  evalRunItems present := present
  comparisons present := present
  compared _ := ⟨rfl, rfl⟩

theorem RunConsistent.grows {run : EvalRunRow} (grows : db.Grows next)
    (consistent : db.RunConsistent run) : next.RunConsistent run := by
  rcases consistent with
    ⟨version, suite, app, config, versioned, suited, configured, owned, shared⟩
  exact ⟨version, suite, app, config, grows.appVersions versioned, grows.evalSuites suited,
    grows.evaluatorConfigs configured, grows.apps owned, shared⟩

theorem ItemConsistent.grows {item : EvalRunItem} (grows : db.Grows next)
    (consistent : db.ItemConsistent item) : next.ItemConsistent item := by
  rcases consistent with ⟨run, found, link, member, suite, case⟩
  rcases grows.evalRuns found with ⟨other, otherFound, -, -, sameSuite, -⟩
  exact ⟨other, otherFound, link, grows.evalSuiteCases member, suite.trans sameSuite.symm, case⟩

theorem ComparisonConsistent.grows {comparison : ComparisonRow} (grows : db.Grows next)
    (compared : next.caseIdsOf comparison.baselineRunId = db.caseIdsOf comparison.baselineRunId ∧
      next.caseIdsOf comparison.candidateRunId = db.caseIdsOf comparison.candidateRunId)
    (consistent : db.ComparisonConsistent comparison) : next.ComparisonConsistent comparison := by
  rcases consistent with ⟨baseline, candidate, baselineVersion, candidateVersion, gateRule,
    baselineFound, candidateFound, ruled, baselineOwned, candidateOwned, ruleOwned, sameSuite,
    sameConfig, baselineVersioned, candidateVersioned, sameApp, sameCases⟩
  rcases grows.evalRuns baselineFound with
    ⟨nextBaseline, nextBaselineFound, baselineOwner, baselineVersionId, baselineSuite,
      baselineConfig⟩
  rcases grows.evalRuns candidateFound with
    ⟨nextCandidate, nextCandidateFound, candidateOwner, candidateVersionId, candidateSuite,
      candidateConfig⟩
  refine ⟨nextBaseline, nextCandidate, baselineVersion, candidateVersion, gateRule,
    nextBaselineFound, nextCandidateFound, grows.gateRules ruled,
    baselineOwner.trans baselineOwned, candidateOwner.trans candidateOwned, ruleOwned, ?_, ?_,
    ?_, ?_, sameApp, ?_⟩
  · rw [baselineSuite, candidateSuite, sameSuite]
  · rw [baselineConfig, candidateConfig, sameConfig]
  · rw [baselineVersionId]
    exact grows.appVersions baselineVersioned
  · rw [candidateVersionId]
    exact grows.appVersions candidateVersioned
  · rw [compared.1, compared.2, sameCases]

theorem RowsRefer.grows (refer : db.RowsRefer db) (grows : db.Grows next) :
    next.RowsRefer db where
  appVersions version member := by
    rcases Option.isSome_iff_exists.mp (refer.appVersions version member) with ⟨app, found⟩
    rw [grows.apps found, Option.isSome_some]
  evalSuites suite member := by
    rcases Option.isSome_iff_exists.mp (refer.evalSuites suite member) with ⟨app, found⟩
    rw [grows.apps found, Option.isSome_some]
  evalSuiteCases link member := by
    rcases Option.isSome_iff_exists.mp (refer.evalSuiteCases link member) with ⟨suite, found⟩
    rw [grows.evalSuites found, Option.isSome_some]
  evalRuns run member := (refer.evalRuns run member).grows grows
  evalRunItems item member := (refer.evalRunItems item member).grows grows
  traces trace member := grows.evalRunItems (refer.traces trace member)
  evalResults result member := grows.evalRunItems (refer.evalResults result member)
  comparisons comparison member :=
    (refer.comparisons comparison member).grows grows (grows.compared member)
  regressionReports report member := grows.comparisons (refer.regressionReports report member)
  gateRules := refer.gateRules

theorem forall_mem_append_singleton {Row : Type} {rows : List Row} {row : Row}
    {Property : Row → Prop} (stored : ∀ other ∈ rows, Property other) (added : Property row) :
    ∀ other ∈ rows ++ [row], Property other := by
  intro other member
  rcases List.mem_append.mp member with old | new
  · exact stored other old
  · rw [List.mem_singleton.mp new]
    exact added

/-! ## Inserts -/

theorem Consistent.insertApp {row : App} (consistent : db.Consistent)
    (applied : db.apply (.insertApp row) = some next) : next.Consistent := by
  rcases apply_insertApp applied with ⟨-, free, rfl⟩
  have grows : db.Grows { db with apps := db.apps ++ [row] } :=
    { Grows.refl db with apps := find?_append_of_some }
  exact {
    keyed := { consistent.keyed with apps := consistent.keyed.apps.insert free }
    refer := { consistent.refer.grows grows with } }

theorem Consistent.insertVersion {row : AppVersionRow} (consistent : db.Consistent)
    (applied : db.apply (.insertVersion row) = some next) : next.Consistent := by
  rcases apply_insertVersion applied with ⟨referenced, free, rfl⟩
  have grows : db.Grows { db with appVersions := db.appVersions ++ [row] } :=
    { Grows.refl db with appVersions := find?_append_of_some }
  have refer := consistent.refer.grows grows
  exact {
    keyed := { consistent.keyed with appVersions := consistent.keyed.appVersions.insert free }
    refer := { refer with
      appVersions := forall_mem_append_singleton refer.appVersions
        (List.find?_isSome.mpr (List.any_eq_true.mp referenced)) } }

theorem Consistent.insertSuite {row : EvalSuiteRow} (consistent : db.Consistent)
    (applied : db.apply (.insertSuite row) = some next) : next.Consistent := by
  rcases apply_insertSuite applied with ⟨referenced, free, rfl⟩
  have grows : db.Grows { db with evalSuites := db.evalSuites ++ [row] } :=
    { Grows.refl db with evalSuites := find?_append_of_some }
  have refer := consistent.refer.grows grows
  exact {
    keyed := { consistent.keyed with evalSuites := consistent.keyed.evalSuites.insert free }
    refer := { refer with
      evalSuites := forall_mem_append_singleton refer.evalSuites
        (List.find?_isSome.mpr (List.any_eq_true.mp referenced)) } }

theorem Consistent.insertLinkedCase {row : EvalCaseRow} {link : EvalSuiteCase}
    (consistent : db.Consistent)
    (applied : db.apply (.insertLinkedCase row link) = some next) : next.Consistent := by
  rcases apply_insertLinkedCase applied with ⟨referenced, -, -, rfl⟩
  have grows : db.Grows { db with
      evalCases := db.evalCases ++ [row], evalSuiteCases := db.evalSuiteCases ++ [link] } :=
    { Grows.refl db with evalSuiteCases := List.mem_append_left [link] }
  have refer := consistent.refer.grows grows
  exact {
    keyed := { consistent.keyed with }
    refer := { refer with
      evalSuiteCases := forall_mem_append_singleton refer.evalSuiteCases
        (List.find?_isSome.mpr (List.any_eq_true.mp referenced)) } }

theorem Consistent.insertEvaluatorConfig {row : EvaluatorConfigRow} (consistent : db.Consistent)
    (applied : db.apply (.insertEvaluatorConfig row) = some next) : next.Consistent := by
  rcases apply_insertEvaluatorConfig applied with ⟨-, free, rfl⟩
  have grows : db.Grows { db with evaluatorConfigs := db.evaluatorConfigs ++ [row] } :=
    { Grows.refl db with evaluatorConfigs := find?_append_of_some }
  exact {
    keyed := { consistent.keyed with
      evaluatorConfigs := consistent.keyed.evaluatorConfigs.insert free }
    refer := { consistent.refer.grows grows with } }

theorem Consistent.insertGateRule {row : GateRuleRow} (consistent : db.Consistent)
    (named : row.id ≠ "") (applied : db.apply (.insertGateRule row) = some next) :
    next.Consistent := by
  rcases apply_insertGateRule applied with ⟨-, free, rfl⟩
  have grows : db.Grows { db with gateRules := db.gateRules ++ [row] } :=
    { Grows.refl db with gateRules := find?_append_of_some }
  have refer := consistent.refer.grows grows
  exact {
    keyed := { consistent.keyed with gateRules := consistent.keyed.gateRules.insert free }
    refer := { refer with
      gateRules := forall_mem_append_singleton refer.gateRules named } }

theorem Consistent.insertRun {row : EvalRunRow} (consistent : db.Consistent)
    (rowConsistent : db.RunConsistent row) (applied : db.apply (.insertRun row) = some next) :
    next.Consistent := by
  rcases apply_insertRun applied with ⟨-, free, rfl⟩
  have grows : db.Grows { db with evalRuns := db.evalRuns ++ [row] } :=
    { Grows.refl db with
      evalRuns := fun found => ⟨_, find?_append_of_some found, rfl, rfl, rfl, rfl⟩ }
  have refer := consistent.refer.grows grows
  exact {
    keyed := { consistent.keyed with evalRuns := consistent.keyed.evalRuns.insert free }
    refer := { refer with
      evalRuns := forall_mem_append_singleton refer.evalRuns (rowConsistent.grows grows) } }

theorem caseIdsOf_append_of_ne {row : EvalRunItem} {runId : String} (other : runId ≠ row.runId) :
    Database.caseIdsOf { db with evalRunItems := db.evalRunItems ++ [row] } runId =
      db.caseIdsOf runId := by
  have unselected : (row.runId == runId) = false := beq_eq_false_iff_ne.mpr other.symm
  simp [caseIdsOf, itemsOf, List.filter_append, unselected]

theorem Consistent.insertItem {row : EvalRunItem} (consistent : db.Consistent)
    (rowConsistent : db.ItemConsistent row) (uncompared : db.Uncompared row.runId)
    (applied : db.apply (.insertItem row) = some next) : next.Consistent := by
  rcases apply_insertItem applied with ⟨-, free, rfl⟩
  have grows : db.Grows { db with evalRunItems := db.evalRunItems ++ [row] } :=
    { Grows.refl db with
      evalRunItems := fun present => by
        rw [hasItem, List.any_append, Bool.or_eq_true]
        exact .inl present
      compared := fun member =>
        ⟨caseIdsOf_append_of_ne (uncompared _ member).1,
          caseIdsOf_append_of_ne (uncompared _ member).2⟩ }
  have refer := consistent.refer.grows grows
  exact {
    keyed := { consistent.keyed with
      evalRunItems := consistent.keyed.evalRunItems.insert free }
    refer := { refer with
      evalRunItems := forall_mem_append_singleton refer.evalRunItems
        (rowConsistent.grows grows) } }

theorem Consistent.insertTrace {row : TraceRow} (consistent : db.Consistent)
    (applied : db.apply (.insertTrace row) = some next) : next.Consistent := by
  rcases apply_insertTrace applied with ⟨referenced, -, rfl⟩
  have refer := consistent.refer.grows
    (show db.Grows { db with traces := db.traces ++ [row] } from { Grows.refl db with })
  exact {
    keyed := { consistent.keyed with }
    refer := { refer with
      traces := forall_mem_append_singleton refer.traces referenced } }

theorem Consistent.insertResult {row : EvalResultRow} (consistent : db.Consistent)
    (applied : db.apply (.insertResult row) = some next) : next.Consistent := by
  rcases apply_insertResult applied with ⟨referenced, -, rfl⟩
  have refer := consistent.refer.grows
    (show db.Grows { db with evalResults := db.evalResults ++ [row] } from { Grows.refl db with })
  exact {
    keyed := { consistent.keyed with }
    refer := { refer with
      evalResults := forall_mem_append_singleton refer.evalResults referenced } }

theorem Consistent.insertComparison {row : ComparisonRow} (consistent : db.Consistent)
    (rowConsistent : db.ComparisonConsistent row)
    (applied : db.apply (.insertComparison row) = some next) : next.Consistent := by
  rcases apply_insertComparison applied with ⟨-, -, rfl⟩
  have grows : db.Grows { db with comparisons := db.comparisons ++ [row] } :=
    { Grows.refl db with
      comparisons := fun present => by
        rw [hasComparison, List.any_append, Bool.or_eq_true]
        exact .inl present }
  have refer := consistent.refer.grows grows
  exact {
    keyed := { consistent.keyed with }
    refer := { refer with
      comparisons := forall_mem_append_singleton refer.comparisons
        (rowConsistent.grows grows ⟨rfl, rfl⟩) } }

theorem Consistent.insertReport {row : RegressionReport} (consistent : db.Consistent)
    (applied : db.apply (.insertReport row) = some next) : next.Consistent := by
  rcases apply_insertReport applied with ⟨referenced, -, rfl⟩
  have refer := consistent.refer.grows
    (show db.Grows { db with regressionReports := db.regressionReports ++ [row] } from
      { Grows.refl db with })
  exact {
    keyed := { consistent.keyed with }
    refer := { refer with
      regressionReports := forall_mem_append_singleton refer.regressionReports referenced } }

/-! ## Updates -/

theorem Consistent.setRunProgress {runId : String} {status : RunStatus}
    {caseCompleted caseErrored : Nat} {completedAt : Option Nat} (consistent : db.Consistent)
    (applied : db.apply (.setRunProgress runId status caseCompleted caseErrored completedAt) =
      some next) : next.Consistent := by
  cases applied
  let change : EvalRunRow → EvalRunRow := fun row =>
    { row with status, caseCompleted, caseErrored, completedAt }
  have grows : db.Grows { db with
      evalRuns := updateWhere (·.id == runId) change db.evalRuns } :=
    { Grows.refl db with
      evalRuns := by
        intro id run found
        refine ⟨if run.id == runId then change run else run, ?_, ?_⟩
        · exact (find?_updateWhere change db.evalRuns fun _ => rfl).trans (congrArg _ found)
        · split <;> exact ⟨rfl, rfl, rfl, rfl⟩ }
  have refer := consistent.refer.grows grows
  exact {
    keyed := { consistent.keyed with
      evalRuns := consistent.keyed.evalRuns.update fun _ _ => ⟨rfl, rfl⟩ }
    refer := { refer with
      evalRuns := by
        intro run member
        rcases mem_updateWhere.mp member with ⟨stored, storedMember, equal⟩
        rw [equal]
        split
        · exact refer.evalRuns stored storedMember
        · exact refer.evalRuns stored storedMember } }

theorem Consistent.setItem {itemId : String} {row : EvalRunItem} (consistent : db.Consistent)
    (applied : db.apply (.setItem itemId row) = some next) : next.Consistent := by
  cases applied
  let change : EvalRunItem → EvalRunItem := fun stored =>
    { row with id := stored.id, runId := stored.runId, caseId := stored.caseId }
  have sameCases : ∀ runId, Database.caseIdsOf { db with
      evalRunItems := updateWhere (·.id == itemId) change db.evalRunItems } runId =
      db.caseIdsOf runId := by
    intro runId
    exact congrArg List.toFinset
      (map_filter_updateWhere change db.evalRunItems (fun _ => rfl) fun _ => rfl)
  have grows : db.Grows { db with
      evalRunItems := updateWhere (·.id == itemId) change db.evalRunItems } :=
    { Grows.refl db with
      evalRunItems := by
        intro id present
        exact (any_updateWhere change db.evalRunItems fun _ => rfl).trans present
      compared := fun _ => ⟨sameCases _, sameCases _⟩ }
  have refer := consistent.refer.grows grows
  exact {
    keyed := { consistent.keyed with
      evalRunItems := consistent.keyed.evalRunItems.update fun _ _ => ⟨rfl, rfl⟩ }
    refer := { refer with
      evalRunItems := by
        intro item member
        rcases mem_updateWhere.mp member with ⟨stored, storedMember, equal⟩
        rw [equal]
        split
        · exact refer.evalRunItems stored storedMember
        · exact refer.evalRunItems stored storedMember } }

theorem Consistent.deleteEvidence {itemId : String} (consistent : db.Consistent)
    (applied : db.apply (.deleteEvidence itemId) = some next) : next.Consistent := by
  cases applied
  exact {
    keyed := { consistent.keyed with }
    refer := { consistent.refer with
      traces := fun trace member =>
        consistent.refer.traces trace (List.mem_filter.mp member).1
      evalResults := fun result member =>
        consistent.refer.evalResults result (List.mem_filter.mp member).1 } }

theorem Consistent.of_tenantTables (same : next.tenantTables = db.tenantTables)
    (consistent : db.Consistent) : next.Consistent := by
  have tables : db.tenantTables.Consistent :=
    { keyed := { consistent.keyed with }, refer := { consistent.refer with } }
  rw [← same] at tables
  exact { keyed := { tables.keyed with }, refer := { tables.refer with } }

/-! ## Transactions -/

theorem Consistent.apply {organizationId : String} {write : Write} (consistent : db.Consistent)
    (admissible : write.Admissible organizationId db) (applied : db.apply write = some next) :
    next.Consistent := by
  cases write with
  | insertApp row => exact consistent.insertApp applied
  | insertVersion row => exact consistent.insertVersion applied
  | insertSuite row => exact consistent.insertSuite applied
  | insertLinkedCase row link => exact consistent.insertLinkedCase applied
  | insertEvaluatorConfig row => exact consistent.insertEvaluatorConfig applied
  | insertGateRule row => exact consistent.insertGateRule admissible.2 applied
  | insertRun row => exact consistent.insertRun admissible.2 applied
  | insertItem row => exact consistent.insertItem admissible.2.1 admissible.2.2 applied
  | insertTrace row => exact consistent.insertTrace applied
  | insertResult row => exact consistent.insertResult applied
  | insertComparison row => exact consistent.insertComparison admissible.2 applied
  | insertReport row => exact consistent.insertReport applied
  | _ => exact admissible.elim

theorem Consistent.commit {organizationId : String} {writes : List Write}
    (consistent : db.Consistent) (admits : db.Admits organizationId writes)
    (committed : db.commit writes = some next) : next.Consistent := by
  induction writes generalizing db with
  | nil =>
      cases committed
      exact consistent
  | cons write writes induction =>
      rcases Option.bind_eq_some_iff.mp committed with ⟨middle, applied, rest⟩
      exact induction (consistent.apply admits.1 applied) (admits.2 middle applied) rest

theorem Consistent.applyByWorker {write : Write} (byWorker : write.byWorker = true)
    (consistent : db.Consistent) (applied : db.apply write = some next) : next.Consistent := by
  cases write with
  | setRunProgress => exact consistent.setRunProgress applied
  | setItem => exact consistent.setItem applied
  | insertTrace => exact consistent.insertTrace applied
  | insertResult => exact consistent.insertResult applied
  | deleteEvidence => exact consistent.deleteEvidence applied
  | _ => cases byWorker

theorem Consistent.commitByWorker {writes : List Write}
    (byWorker : ∀ write ∈ writes, write.byWorker = true) (consistent : db.Consistent)
    (committed : db.commit writes = some next) : next.Consistent :=
  commit_keeps Consistent (·.byWorker = true)
    (fun _ _ _ allowed kept applied => kept.applyByWorker allowed applied)
    byWorker consistent committed

theorem admits_append {organizationId : String} {first second : List Write}
    (before : db.Admits organizationId first)
    (after : ∀ middle, db.commit first = some middle → middle.Admits organizationId second) :
    db.Admits organizationId (first ++ second) := by
  induction first generalizing db with
  | nil => exact after db rfl
  | cons write writes induction =>
      refine ⟨before.1, fun middle applied => induction (before.2 middle applied) ?_⟩
      intro last committed
      exact after last (Option.bind_eq_some_iff.mpr ⟨middle, applied, committed⟩)

theorem Consistent.tenantConsistent (consistent : db.Consistent) : db.TenantConsistent where
  runs := consistent.refer.evalRuns
  items := consistent.refer.evalRunItems
  distinctCases := by
    refine List.Pairwise.imp ?_ consistent.keyed.evalRunItems
    intro item other free sameRun sameCase
    simp [EvalRunItem.conflicts, sameRun, sameCase] at free
  comparisons := consistent.refer.comparisons

theorem consistent_migrated (createdAt : Nat) : (Database.migrated createdAt).Consistent where
  keyed := {
    apps := keyed_nil
    appVersions := keyed_nil
    evalSuites := keyed_nil
    evaluatorConfigs := keyed_nil
    evalRuns := keyed_nil
    evalRunItems := keyed_nil
    gateRules := keyed_nil }
  refer := {
    appVersions := List.forall_mem_nil _
    evalSuites := List.forall_mem_nil _
    evalSuiteCases := List.forall_mem_nil _
    evalRuns := List.forall_mem_nil _
    evalRunItems := List.forall_mem_nil _
    traces := List.forall_mem_nil _
    evalResults := List.forall_mem_nil _
    comparisons := List.forall_mem_nil _
    regressionReports := List.forall_mem_nil _
    gateRules := List.forall_mem_nil _ }

end

end Database

end EvalForge
