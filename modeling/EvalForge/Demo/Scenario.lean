import EvalForge.Api.ComparisonCommit
import EvalForge.Cli.Run
import EvalForge.Demo.Runs

/-! # The demo scenario

`run_demo_scenario` stores the demo in a new database, runs the baseline and the
candidate, and compares them. SQLite does not enforce that the organization of the
app exists; here it is stored.
-/

namespace EvalForge

open Foundation

/-! ## The scenario -/

/-- What the scenario reads outside its database. Nothing is polled. -/
structure DemoReadings extends RunEvalsReadings where
  rows : RequestReadings

namespace DemoReadings

variable (readings : DemoReadings)

def app : App where
  id := readings.rows.newUuid 0
  organizationId := defaultOrganizationId
  name := "demo-rag"
  description := "Deterministic RAG demo application"
  createdAt := readings.rows.utcNow 0

def baselineVersion : AppVersionRow where
  id := readings.rows.newUuid 1
  appId := readings.app.id
  name := "v1_baseline"
  adapterModule := "app.adapters.demo_rag"
  config := baselineConfig 1
  createdAt := readings.rows.utcNow 1

def candidateVersion : AppVersionRow where
  id := readings.rows.newUuid 2
  appId := readings.app.id
  name := "v2_hallucination_regression"
  adapterModule := "app.adapters.demo_rag"
  config := candidateConfig 1
  createdAt := readings.rows.utcNow 2

def suite : EvalSuiteRow where
  id := readings.rows.newUuid 3
  appId := readings.app.id
  name := "demo-rag-500"
  createdAt := readings.rows.utcNow 3

def evaluatorConfig : EvaluatorConfigRow where
  id := readings.rows.newUuid 4
  organizationId := defaultOrganizationId
  name := "default-rag"
  config := demoEvaluatorConfig
  createdAt := readings.rows.utcNow 4

def evalCase (index : Nat) (item : DemoCase) : EvalCaseRow where
  id := readings.rows.newUuid (5 + index)
  externalId := some item.externalId
  payload := item.payload
  createdAt := readings.rows.utcNow (5 + index)

def evalCases (caseCount : Nat) : List EvalCaseRow :=
  (buildEvalCases caseCount).mapIdx readings.evalCase

def link (case : EvalCaseRow) : EvalSuiteCase where
  suiteId := readings.suite.id
  caseId := case.id
  createdAt := case.createdAt

def writes (caseCount : Nat) : List Write :=
  [.insertApp readings.app, .insertVersion readings.baselineVersion,
    .insertVersion readings.candidateVersion, .insertSuite readings.suite,
    .insertEvaluatorConfig readings.evaluatorConfig] ++
  (readings.evalCases caseCount).map fun case => .insertLinkedCase case (readings.link case)

def payload (version : AppVersionRow) : RunCreate where
  appVersionId := version.id
  suiteId := readings.suite.id
  evaluatorConfigId := readings.evaluatorConfig.id

end DemoReadings

/-- What the scenario returns, but for the time that it took. -/
structure DemoResult where
  caseCount : Nat
  totalCaseExecutions : Nat
  baselineStatus : RunStatus
  candidateStatus : RunStatus
  gateVerdict : Verdict
  metrics : Metric → MetricReport
  gateReasons : List GateReason

def runDemoScenario (env : Environment) (context : ComparisonContext) (readings : DemoReadings)
    (caseCount : Nat) (db : Database) : Except RunEvalsError (Database × DemoResult) :=
  match db.commit (readings.writes caseCount) with
  | none => .error (.raised readings.integrityError)
  | some db => do
      let (db, baselineRun) ← executeNamedRun readings.baseline db
        (readings.payload readings.baselineVersion) env
      let (db, candidateRun) ← executeNamedRun readings.candidate db
        (readings.payload readings.candidateVersion) env
      let (db, _, report) ← commitNamedComparison context readings.toRunEvalsReadings db
        baselineRun.id candidateRun.id
      return (db, {
        caseCount
        totalCaseExecutions := caseCount * 2
        baselineStatus := baselineRun.status
        candidateStatus := candidateRun.status
        gateVerdict := report.gateVerdict
        metrics := report.metrics
        gateReasons := report.gateReasons })

/-! ## The stored demo -/

structure RunReadings.IssuesOnce (readings : RunReadings) : Prop where
  ids : Function.Injective readings.execution.newUuid
  evidence : ∀ index other position otherPosition,
    readings.evidenceUuid index position = readings.evidenceUuid other otherPosition →
      index = other ∧ position = otherPosition

structure DemoReadings.Distinct (readings : DemoReadings) : Prop where
  rows : Function.Injective readings.rows.newUuid
  baseline : readings.baseline.IssuesOnce
  candidate : readings.candidate.IssuesOnce
  apart : ∀ id, readings.baseline.Issues id → ¬readings.candidate.Issues id

def Database.runRowIds (db : Database) : List String :=
  db.evalRuns.map (·.id) ++ db.evalRunItems.map (·.id) ++ db.traces.map (·.id) ++
    db.evalResults.map (·.id)

/-- The tables of the demo in a database, with nothing compared yet. -/
structure DemoReadings.Stored (readings : DemoReadings) (caseCount : Nat) (db : Database) :
    Prop where
  organization : db.hasOrganization defaultOrganizationId = true
  apps : db.apps = [readings.app]
  appVersions : db.appVersions = [readings.baselineVersion, readings.candidateVersion]
  evalSuites : db.evalSuites = [readings.suite]
  evaluatorConfigs : db.evaluatorConfigs = [readings.evaluatorConfig]
  evalCases : db.evalCases = readings.evalCases caseCount
  evalSuiteCases : db.evalSuiteCases = (readings.evalCases caseCount).map readings.link
  gateRules : db.gateRules = []
  comparisons : db.comparisons = []
  regressionReports : db.regressionReports = []
  rules : db.RulesStored
  consistent : db.Consistent
  listed : db.ListedKeyed
  evidence : db.EvidenceKeyed

section

variable {readings : DemoReadings}

def Database.withCases (db : Database) (link : EvalCaseRow → EvalSuiteCase)
    (cases : List EvalCaseRow) : Database :=
  { db with
    evalCases := db.evalCases ++ cases
    evalSuiteCases := db.evalSuiteCases ++ cases.map link }

theorem commit_linkedCases {link : EvalCaseRow → EvalSuiteCase} {cases : List EvalCaseRow}
    {db : Database} (named : ∀ case, (link case).caseId = case.id)
    (suite : ∀ case ∈ cases, db.hasSuite (link case).suiteId = true)
    (keyed : Keyed EvalCaseRow.conflicts (db.evalCases ++ cases))
    (linksKeyed : Keyed EvalSuiteCase.conflicts (db.evalSuiteCases ++ cases.map link)) :
    db.commit (cases.map fun case => .insertLinkedCase case (link case)) =
      some (db.withCases link cases) := by
  induction cases generalizing db with
  | nil => simp [Database.commit, Database.withCases]
  | cons case cases induction =>
      have inserted : insertUnique EvalCaseRow.conflicts case db.evalCases =
          some (db.evalCases ++ [case]) :=
        insertUnique_eq_some_iff.mpr ⟨free_of_keyed keyed, rfl⟩
      have linked : insertReferencing (db.hasSuite (link case).suiteId &&
          (db.evalCases ++ [case]).any (·.id == (link case).caseId)) EvalSuiteCase.conflicts
          (link case) db.evalSuiteCases = some (db.evalSuiteCases ++ [link case]) := by
        refine insertReferencing_eq_some_iff.mpr ⟨?_, free_of_keyed linksKeyed, rfl⟩
        rw [suite case List.mem_cons_self, named, List.any_append]
        simp
      have applied : db.apply (.insertLinkedCase case (link case)) =
          some (db.withCases link [case]) := by
        simp only [Database.apply, inserted, linked, Option.bind_eq_bind, Option.bind_some,
          Option.pure_def]
        rfl
      have whole : (db.withCases link [case]).withCases link cases =
          db.withCases link (case :: cases) := by
        simp [Database.withCases]
      rw [List.append_cons] at keyed
      rw [List.map_cons, List.append_cons] at linksKeyed
      have rest := @induction (db.withCases link [case])
        (fun other member => suite other (List.mem_cons_of_mem case member)) keyed linksKeyed
      rw [List.map_cons, Database.commit, applied, ← whole]
      exact rest

theorem newUuid_ne (distinct : readings.Distinct) {index other : Nat} (apart : index ≠ other) :
    readings.rows.newUuid index ≠ readings.rows.newUuid other :=
  fun same => apart (distinct.rows same)

theorem evalCases_nodup (distinct : readings.Distinct) (caseCount : Nat) :
    ((readings.evalCases caseCount).map (·.id)).Nodup := by
  rw [DemoReadings.evalCases, map_mapIdx, List.Nodup, List.pairwise_iff_getElem]
  intro index other bound otherBound before
  rw [List.getElem_mapIdx, List.getElem_mapIdx]
  exact newUuid_ne distinct (by omega)

theorem evalCases_keyed (distinct : readings.Distinct) (caseCount : Nat) :
    Keyed EvalCaseRow.conflicts (readings.evalCases caseCount) := by
  refine (List.pairwise_map.mp (evalCases_nodup distinct caseCount)).imp fun apart => ?_
  rw [EvalCaseRow.conflicts, beq_eq_false_iff_ne]
  exact apart.symm

theorem links_keyed (distinct : readings.Distinct) (caseCount : Nat) :
    Keyed EvalSuiteCase.conflicts ((readings.evalCases caseCount).map readings.link) := by
  rw [Keyed, List.pairwise_map]
  refine (List.pairwise_map.mp (evalCases_nodup distinct caseCount)).imp fun apart => ?_
  rw [EvalSuiteCase.conflicts, Bool.and_eq_false_iff]
  exact .inr (beq_eq_false_iff_ne.mpr apart.symm)

theorem versions_free (distinct : readings.Distinct) :
    readings.candidateVersion.conflicts readings.baselineVersion = false := by
  have ids : readings.candidateVersion.id ≠ readings.baselineVersion.id :=
    newUuid_ne distinct (by decide)
  have names : readings.candidateVersion.name ≠ readings.baselineVersion.name := by
    change "v2_hallucination_regression" ≠ "v1_baseline"
    decide
  simp [AppVersionRow.conflicts, ids, names]

def DemoReadings.seeded (readings : DemoReadings) (createdAt caseCount : Nat) : Database :=
  { Database.migrated createdAt with
    apps := [readings.app]
    appVersions := [readings.baselineVersion, readings.candidateVersion]
    evalSuites := [readings.suite]
    evaluatorConfigs := [readings.evaluatorConfig]
    evalCases := readings.evalCases caseCount
    evalSuiteCases := (readings.evalCases caseCount).map readings.link }

theorem commit_of_applied {db next : Database} {write : Write} {writes : List Write}
    (applied : db.apply write = some next) : db.commit (write :: writes) = next.commit writes := by
  rw [Database.commit, applied]
  rfl

theorem commit_writes (distinct : readings.Distinct) (createdAt caseCount : Nat) :
    (Database.migrated createdAt).commit (readings.writes caseCount) =
      some (readings.seeded createdAt caseCount) := by
  have first : (Database.migrated createdAt).commit
      [.insertApp readings.app, .insertVersion readings.baselineVersion,
        .insertVersion readings.candidateVersion, .insertSuite readings.suite,
        .insertEvaluatorConfig readings.evaluatorConfig] =
      some { Database.migrated createdAt with
        apps := [readings.app]
        appVersions := [readings.baselineVersion, readings.candidateVersion]
        evalSuites := [readings.suite]
        evaluatorConfigs := [readings.evaluatorConfig] } := by
    let withApp := { Database.migrated createdAt with apps := [readings.app] }
    let withBaseline := { withApp with appVersions := [readings.baselineVersion] }
    let withCandidate := { withApp with
      appVersions := [readings.baselineVersion, readings.candidateVersion] }
    let withSuite := { withCandidate with evalSuites := [readings.suite] }
    have stored : [readings.app].any (·.id == readings.app.id) = true :=
      List.any_eq_true.mpr ⟨readings.app, List.mem_cons_self, beq_self_eq_true _⟩
    have app : (Database.migrated createdAt).apply (.insertApp readings.app) = some withApp :=
      @applied_of_free _ App.conflicts _ _ _
        (fun apps => { Database.migrated createdAt with apps }) rfl (List.forall_mem_nil _)
    have baseline : withApp.apply (.insertVersion readings.baselineVersion) = some withBaseline :=
      @applied_of_free _ AppVersionRow.conflicts _ _ _
        (fun appVersions => { withApp with appVersions }) stored (List.forall_mem_nil _)
    have candidate : withBaseline.apply (.insertVersion readings.candidateVersion) =
        some withCandidate :=
      @applied_of_free _ AppVersionRow.conflicts _ _ _
        (fun appVersions => { withBaseline with appVersions }) stored
        (List.forall_mem_singleton.mpr (versions_free distinct))
    have suite : withCandidate.apply (.insertSuite readings.suite) = some withSuite :=
      @applied_of_free _ EvalSuiteRow.conflicts _ _ _
        (fun evalSuites => { withCandidate with evalSuites }) stored (List.forall_mem_nil _)
    have config : withSuite.apply (.insertEvaluatorConfig readings.evaluatorConfig) =
        some { withSuite with evaluatorConfigs := [readings.evaluatorConfig] } :=
      @applied_of_free _ EvaluatorConfigRow.conflicts _ _ _
        (fun evaluatorConfigs => { withSuite with evaluatorConfigs }) rfl (List.forall_mem_nil _)
    rw [commit_of_applied app, commit_of_applied baseline, commit_of_applied candidate,
      commit_of_applied suite, commit_of_applied config]
    rfl
  rw [DemoReadings.writes, Database.commit_append, first, Option.bind_some]
  refine commit_linkedCases (fun _ => rfl) ?_ (evalCases_keyed distinct caseCount)
    (links_keyed distinct caseCount)
  intro case _
  exact List.any_eq_true.mpr ⟨readings.suite, List.mem_cons_self, beq_self_eq_true _⟩

theorem suite?_seeded (readings : DemoReadings) (createdAt caseCount : Nat) :
    ((readings.seeded createdAt caseCount).suite? readings.suite.id).isSome = true :=
  List.find?_isSome.mpr ⟨readings.suite, List.mem_cons_self, beq_self_eq_true _⟩

theorem seeded_consistent (distinct : readings.Distinct) (createdAt caseCount : Nat) :
    (readings.seeded createdAt caseCount).Consistent where
  keyed := { (Database.consistent_migrated createdAt).keyed with
    apps := List.pairwise_singleton _ _
    appVersions := List.pairwise_cons.mpr
      ⟨List.forall_mem_singleton.mpr (versions_free distinct), List.pairwise_singleton _ _⟩
    evalSuites := List.pairwise_singleton _ _
    evaluatorConfigs := List.pairwise_singleton _ _ }
  refer := {
    evalRuns := List.forall_mem_nil _
    evalRunItems := List.forall_mem_nil _
    traces := List.forall_mem_nil _
    evalResults := List.forall_mem_nil _
    comparisons := List.forall_mem_nil _
    regressionReports := List.forall_mem_nil _
    gateRules := List.forall_mem_nil _
    appVersions := by
      have app : ((readings.seeded createdAt caseCount).app? readings.app.id).isSome = true :=
        List.find?_isSome.mpr ⟨readings.app, List.mem_cons_self, beq_self_eq_true _⟩
      intro version member
      rcases List.mem_cons.mp member with rfl | candidate
      · exact app
      · rw [List.mem_singleton.mp candidate]
        exact app
    evalSuites := List.forall_mem_singleton.mpr
      (List.find?_isSome.mpr ⟨readings.app, List.mem_cons_self, beq_self_eq_true _⟩)
    evalSuiteCases := by
      intro link member
      rcases List.mem_map.mp member with ⟨case, -, rfl⟩
      exact suite?_seeded readings createdAt caseCount }

theorem seeded_stored (distinct : readings.Distinct) (createdAt caseCount : Nat) :
    readings.Stored caseCount (readings.seeded createdAt caseCount) where
  organization := rfl
  apps := rfl
  appVersions := rfl
  evalSuites := rfl
  evaluatorConfigs := rfl
  evalCases := rfl
  evalSuiteCases := rfl
  gateRules := rfl
  comparisons := rfl
  regressionReports := rfl
  rules := ⟨List.forall_mem_nil _, List.forall_mem_nil _⟩
  consistent := seeded_consistent distinct createdAt caseCount
  listed := by
    have migrated : (Database.migrated createdAt).Reachable := ⟨createdAt, [], rfl⟩
    exact migrated.listedKeyed.commit (commit_writes distinct createdAt caseCount)
  evidence := by
    have migrated : (Database.migrated createdAt).Reachable := ⟨createdAt, [], rfl⟩
    exact migrated.evidenceKeyed.commit (commit_writes distinct createdAt caseCount)

/-! ## The request for a run -/

variable {caseCount : Nat} {db : Database}

namespace DemoReadings

def ordered (readings : DemoReadings) (caseCount : Nat) : List EvalCase :=
  (byCreation (·.createdAt) (readings.evalCases caseCount)).map (·.toEvalCase)

def plan (readings : DemoReadings) (caseCount : Nat) (version : AppVersionRow) : RunPlan where
  version := version.toAppVersion
  suite := readings.suite.toEvalSuite
  evaluatorConfig := readings.evaluatorConfig.toEvaluatorConfig
  cases := readings.ordered caseCount

theorem perm_ordered (readings : DemoReadings) (caseCount : Nat) :
    (readings.ordered caseCount).Perm
      ((readings.evalCases caseCount).map (·.toEvalCase)) :=
  (List.perm_insertionSort _ _).map _

theorem length_ordered (readings : DemoReadings) (caseCount : Nat) :
    (readings.ordered caseCount).length = caseCount := by
  rw [(readings.perm_ordered caseCount).length_eq, List.length_map, evalCases, List.length_mapIdx,
    length_buildEvalCases]

theorem ordered_nodup (distinct : readings.Distinct) (caseCount : Nat) :
    ((readings.ordered caseCount).map (·.id)).Nodup := by
  refine ((readings.perm_ordered caseCount).map (·.id)).nodup_iff.mpr ?_
  rw [List.map_map]
  exact evalCases_nodup distinct caseCount

theorem asked (readings : DemoReadings) (caseCount : Nat) :
    ∀ case ∈ readings.ordered caseCount,
      ∃ doc ∈ baseDocs, ∃ tag, case.payload = doc.casePayload tag := by
  intro case member
  rcases List.mem_map.mp ((readings.perm_ordered caseCount).subset member) with ⟨row, held, rfl⟩
  rcases List.mem_mapIdx.mp held with ⟨index, bound, rfl⟩
  exact mem_buildEvalCases (List.getElem_mem bound)

namespace Stored

theorem appOwned (stored : readings.Stored caseCount db) :
    db.appOwned defaultOrganizationId readings.app.id = true := by
  refine List.any_eq_true.mpr ⟨readings.app, ?_, ?_⟩
  · rw [stored.apps]
    exact List.mem_cons_self
  · exact Bool.and_eq_true_iff.mpr ⟨beq_self_eq_true _, beq_self_eq_true _⟩

theorem tenantVersion (stored : readings.Stored caseCount db) {version : AppVersionRow}
    (member : version ∈ db.appVersions) (ofApp : version.appId = readings.app.id) :
    db.tenantVersion defaultOrganizationId version.id = some version := by
  refine stored.consistent.keyed.appVersions.find?_eq_some member ?_ ?_
  · rw [ofApp, stored.appOwned, beq_self_eq_true, Bool.and_true]
  · intro other selected
    simp [AppVersionRow.conflicts, beq_iff_eq.mp (Bool.and_eq_true_iff.mp selected).1]

theorem casesOf (stored : readings.Stored caseCount db) :
    db.casesOf readings.suite.id = readings.evalCases caseCount := by
  rw [Database.casesOf, stored.evalCases, stored.evalSuiteCases, List.filter_eq_self]
  intro case member
  refine List.any_eq_true.mpr ⟨readings.link case, List.mem_map_of_mem member, ?_⟩
  exact Bool.and_eq_true_iff.mpr ⟨beq_self_eq_true _, beq_self_eq_true _⟩

theorem runRequest_eq (stored : readings.Stored caseCount db) {version : AppVersionRow}
    (member : version ∈ db.appVersions) (ofApp : version.appId = readings.app.id) :
    runRequest db defaultOrganizationId (readings.payload version) = {
      organizationId := defaultOrganizationId
      version := some (readings.plan caseCount version).version
      suite := some (readings.plan caseCount version).suite
      evaluatorConfig := some (readings.plan caseCount version).evaluatorConfig
      suiteCases := readings.ordered caseCount
      caseIds := none } := by
  have suite : db.tenantSuite defaultOrganizationId readings.suite.id = some readings.suite := by
    rw [Database.tenantSuite, stored.evalSuites]
    refine List.find?_cons_of_pos ?_
    exact Bool.and_eq_true_iff.mpr ⟨beq_self_eq_true _, stored.appOwned⟩
  have config : db.tenantEvaluatorConfig defaultOrganizationId readings.evaluatorConfig.id =
      some readings.evaluatorConfig := by
    rw [Database.tenantEvaluatorConfig, stored.evaluatorConfigs]
    refine List.find?_cons_of_pos ?_
    exact Bool.and_eq_true_iff.mpr ⟨beq_self_eq_true _, beq_self_eq_true _⟩
  rw [runRequest, DemoReadings.payload, stored.tenantVersion member ofApp, suite, config,
    stored.casesOf]
  rfl

theorem check_eq (stored : readings.Stored caseCount db) {version : AppVersionRow}
    (member : version ∈ db.appVersions) (ofApp : version.appId = readings.app.id) :
    (runRequest db defaultOrganizationId (readings.payload version)).check =
      if caseCount = 0 then .error (.invalidRunRequest "No cases found in suite")
      else .ok (readings.plan caseCount version) := by
  have sameApp : (readings.plan caseCount version).version.appId =
      (readings.plan caseCount version).suite.appId := ofApp
  have empty : (readings.ordered caseCount).isEmpty = true ↔ caseCount = 0 := by
    rw [List.isEmpty_iff_length_eq_zero, readings.length_ordered]
  rw [stored.runRequest_eq member ofApp, RunRequest.check]
  simp only [if_neg (not_not.mpr sameApp), loadSuiteCases, validateSelectedCases, empty]
  split
  · rfl
  · rfl

end Stored

end DemoReadings

/-! ## A run of a stored version -/

section

variable {runReadings : RunReadings} {next : Database}

theorem newRunIds_of_unissued (once : runReadings.IssuesOnce)
    (unissued : ∀ id ∈ db.runRowIds, ¬runReadings.Issues id) : NewRunIds runReadings db := by
  simp only [Database.runRowIds, List.mem_append, List.mem_map] at unissued
  constructor
  · exact once.ids
  · intro stored member same
    exact unissued _ (.inl (.inl (.inl ⟨stored, member, rfl⟩))) (.inl ⟨0, same⟩)
  · intro stored member index same
    exact unissued _ (.inl (.inl (.inr ⟨stored, member, rfl⟩))) (.inl ⟨index, same⟩)
  · exact once.evidence
  · intro stored member index position same
    exact unissued _ (.inl (.inr ⟨stored, member, rfl⟩)) (.inr (.inr ⟨index, position, same⟩))
  · intro stored member index position same
    exact unissued _ (.inr ⟨stored, member, rfl⟩) (.inr (.inr ⟨index, position, same⟩))

theorem mem_runRowIds_withRunRows {writes : List Write} {id : String}
    (member : id ∈ (db.withRunRows writes).runRowIds) :
    id ∈ db.runRowIds ∨ ∃ write ∈ writes, write.newId = some id := by
  have added {Row : Type} {row? : Write → Option Row} {idOf : Row → String}
      (newId : ∀ write row, row? write = some row → write.newId = some (idOf row))
      (member : id ∈ (writes.filterMap row?).map idOf) :
      ∃ write ∈ writes, write.newId = some id := by
    rcases List.mem_map.mp member with ⟨row, rowMember, rfl⟩
    rcases List.mem_filterMap.mp rowMember with ⟨write, writeMember, ofRow⟩
    exact ⟨write, writeMember, newId write row ofRow⟩
  simp only [Database.runRowIds, Database.withRunRows, List.map_append, List.mem_append] at member ⊢
  rcases member with ((((old | run) | old | item) | old | trace) | old | result)
  · exact .inl (.inl (.inl (.inl old)))
  · exact .inr (added (fun write row ofRow => by cases write <;> cases ofRow; rfl) run)
  · exact .inl (.inl (.inl (.inr old)))
  · exact .inr (added (fun write row ofRow => by cases write <;> cases ofRow; rfl) item)
  · exact .inl (.inl (.inr old))
  · exact .inr (added (fun write row ofRow => by cases write <;> cases ofRow; rfl) trace)
  · exact .inl (.inr old)
  · exact .inr (added (fun write row ofRow => by cases write <;> cases ofRow; rfl) result)

theorem storesRules_of_ofRun {write : Write} (ofRun : write.ofRun = true) : write.storesRules := by
  cases write with
  | insertGateRule => cases ofRun
  | _ => trivial

theorem DemoReadings.Stored.commitRun (stored : readings.Stored caseCount db) {env : Environment}
    {payload : RunCreate} {record : RunRecord}
    (executed : executeRun env runReadings.execution
      (runRequest db defaultOrganizationId payload) = .ok record)
    (committed : db.commit (record.writes runReadings) = some next) :
    readings.Stored caseCount next ∧
      ∀ id ∈ next.runRowIds, id ∈ db.runRowIds ∨ runReadings.Issues id := by
  have ofRun := recordWrites_ofRun runReadings record
  have creates : CreatesRows (systemPrincipal .development) db runReadings.Issues
      (record.writes runReadings) := by
    have created := @createSyncRun_creates db (systemPrincipal .development) env runReadings ()
      rfl stored.consistent payload
    have executed : executeRun env runReadings.execution
        (runRequest db (systemPrincipal .development).organizationId payload) = .ok record :=
      executed
    simp only [createSyncRun, executed] at created
    rcases created with unwritten | creates
    · cases unwritten
    · exact creates
  have consistent := stored.consistent.commit creates.admits committed
  have listed := stored.listed.commit committed
  have evidence := stored.evidence.commit committed
  have rules := stored.rules.commit (fun write member => storesRules_of_ofRun (ofRun write member))
    committed
  have rows := commit_ofRun ofRun committed
  constructor
  · subst rows
    exact { stored with rules, consistent, listed, evidence }
  · intro id member
    rw [rows] at member
    rcases mem_runRowIds_withRunRows member with old | ⟨write, writeMember, newId⟩
    · exact .inl old
    · exact .inr (creates.newIds write writeMember id newId)

structure DemoRun (context : EvaluatorContext) (answerFor : BaseDoc → String) (latencyMs : Int)
    (readings : DemoReadings) (caseCount : Nat) (version : AppVersionRow)
    (inputs : ExecutionInputs) (record : RunRecord) : Prop where
  run : record.run =
    { (readings.plan caseCount version).newRun defaultOrganizationId (inputs.newUuid 0)
        (inputs.utcNow 0) with
      caseCompleted := caseCount
      caseErrored := 0
      completedAt := some (inputs.utcNow (2 * caseCount + 1))
      status := .completed }
  caseIds : record.items.map (·.row.caseId) = (readings.ordered caseCount).map (·.id)
  items : ∀ item ∈ record.items, DemoItem context answerFor latencyMs item

structure RunsDemo (context : EvaluatorContext) (answerFor : BaseDoc → String) (latencyMs : Int)
    (readings : DemoReadings) (caseCount : Nat) (version : AppVersionRow)
    (runReadings : RunReadings) (db next : Database) (record : RunRecord) : Prop where
  demo : DemoRun context answerFor latencyMs readings caseCount version runReadings.execution record
  stored : readings.Stored caseCount next
  read : StoredRun runReadings record db next
  ids : ∀ id ∈ next.runRowIds, id ∈ db.runRowIds ∨ runReadings.Issues id

theorem executeNamedRun_demo {context : EvaluatorContext} (plain : context.ReadsPlainValues)
    {loadAdapter : String → Except PythonException Adapter} {installed : String → Bool}
    (loads : loadAdapter "app.adapters.demo_rag" = .ok context.demoRun)
    {answerFor : BaseDoc → String} {latencyMs : Int} {topK : Int}
    (stored : readings.Stored caseCount db) (cases : 0 < caseCount)
    (fresh : NewRunIds runReadings db) {version : AppVersionRow}
    (member : version ∈ db.appVersions) (ofApp : version.appId = readings.app.id)
    (ofModule : version.adapterModule = "app.adapters.demo_rag")
    (held : Column.HoldsInteger latencyMs)
    (answers : ∀ doc ∈ baseDocs, ∃ output,
      context.demoRun (questionForDoc doc.docId) version.config = .ok output ∧
        DemoAnswers context topK doc (answerFor doc) latencyMs output) :
    ∃ record next,
      executeNamedRun runReadings db (readings.payload version)
        (context.environment loadAdapter installed) = .ok (next, record.run) ∧
      RunsDemo context answerFor latencyMs readings caseCount version runReadings db next record := by
  have checked := (stored.check_eq member ofApp).trans (if_neg cases.ne')
  have loaded : loadAdapter (readings.plan caseCount version).version.adapterModule =
      .ok context.demoRun := by
    change loadAdapter version.adapterModule = .ok context.demoRun
    rw [ofModule, loads]
  rcases @executeRun_demo _ plain topK loadAdapter installed answerFor latencyMs
    runReadings.execution _ _ checked loaded rfl held (readings.asked caseCount) answers with
    ⟨record, executed, run, caseIds, items⟩
  rcases commit_executed stored.consistent stored.listed stored.evidence stored.organization fresh
    executed with ⟨next, committed⟩
  rcases stored.commitRun executed committed with ⟨nextStored, ids⟩
  have ofRun := fun item member => (executeRun_items executed item member).1
  have read := storedRun stored.consistent nextStored.consistent committed ofRun
  have length : (readings.plan caseCount version).cases.length = caseCount :=
    readings.length_ordered caseCount
  rw [length] at run
  refine ⟨record, next, ?_, ⟨run, caseIds, items⟩, nextStored, read, ids⟩
  simp only [executeNamedRun, executed, Except.mapError, bind, Except.bind, committed]

end

end

end EvalForge
