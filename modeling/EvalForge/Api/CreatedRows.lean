import EvalForge.Api.Serve
import EvalForge.Db.Consistency

/-! # What the create handlers write

A handler that accepts its payload is called by an evaluator at least. The
rows it inserts are admissible for the organization of the principal, and
their ids are the ones it reads.
-/

namespace EvalForge

open Foundation

def RequestReadings.Issues (readings : RequestReadings) (id : String) : Prop :=
  ∃ index, id = readings.newUuid index

def RunReadings.Issues (readings : RunReadings) (id : String) : Prop :=
  (∃ index, id = readings.execution.newUuid index) ∨
    (∃ index, id = readings.dispatch.newUuid index) ∨
    ∃ index position, id = readings.evidenceUuid index position

structure CreatesRows (principal : Principal) (db : Database) (issued : String → Prop)
    (writes : List Write) : Prop where
  evaluator : Role.evaluator.level ≤ principal.role.level
  admits : db.Admits principal.organizationId writes
  newIds : ∀ write ∈ writes, ∀ id, write.newId = some id → issued id

section

variable {db : Database} {principal : Principal} {writes : List Write}

theorem CreatesRows.single {issued : String → Prop} {write : Write} {value : Unit}
    (allowed : requireRole principal .evaluator = .ok value)
    (admissible : write.Admissible principal.organizationId db)
    (newId : ∀ id, write.newId = some id → issued id) :
    CreatesRows principal db issued [write] where
  evaluator := requireRole_eq_ok_iff.mp allowed
  admits := ⟨admissible, fun _ _ => trivial⟩
  newIds other member := by
    rw [List.mem_singleton.mp member]
    exact newId

/-! ## Apps, versions and suites -/

theorem tenantAppOr404_ok {appId : String} {app : App}
    (found : tenantAppOr404 db principal appId = .ok app) :
    db.appOwned principal.organizationId appId = true := by
  unfold tenantAppOr404 at found
  split at found
  · next selected => exact Database.appOwned_of_tenantApp selected
  · cases found

theorem createApp_creates {readings : RequestReadings} {payload : AppCreate} {answer : AppRead}
    (created : createApp readings db principal payload = .ok (writes, answer)) :
    CreatesRows principal db readings.Issues writes := by
  unfold createApp at created
  rcases bind_eq_ok_iff.mp created with ⟨_, allowed, created⟩
  simp only [] at created
  split at created
  · cases created
  · cases created
    refine CreatesRows.single allowed ?_ ?_
    · exact rfl
    · intro id new
      cases new
      exact ⟨0, rfl⟩

theorem createAppVersion_creates {settings : SettingsValues} {repr : String → String}
    {readings : RequestReadings} {appId : String} {payload : AppVersionCreate}
    {answer : AppVersionRead}
    (created : createAppVersion settings repr readings db principal appId payload =
      .ok (writes, answer)) :
    CreatesRows principal db readings.Issues writes := by
  unfold createAppVersion at created
  rcases bind_eq_ok_iff.mp created with ⟨_, allowed, created⟩
  rcases bind_eq_ok_iff.mp created with ⟨app, found, created⟩
  rcases bind_eq_ok_iff.mp created with ⟨_, -, created⟩
  simp only [] at created
  split at created
  · cases created
  · split at created
    · cases created
    · cases created
      refine CreatesRows.single allowed ?_ ?_
      · exact (tenantAppOr404_ok found)
      · intro id new
        cases new
        exact ⟨0, rfl⟩

theorem createEvalSuite_creates {readings : RequestReadings} {appId : String}
    {payload : EvalSuiteCreate} {answer : EvalSuiteRead}
    (created : createEvalSuite readings db principal appId payload = .ok (writes, answer)) :
    CreatesRows principal db readings.Issues writes := by
  unfold createEvalSuite at created
  rcases bind_eq_ok_iff.mp created with ⟨_, allowed, created⟩
  rcases bind_eq_ok_iff.mp created with ⟨app, found, created⟩
  simp only [] at created
  split at created
  · cases created
  · cases created
    refine CreatesRows.single allowed ?_ ?_
    · exact (tenantAppOr404_ok found)
    · intro id new
      cases new
      exact ⟨0, rfl⟩

/-! ## Cases -/

theorem tenantSuiteOr404_ok {suiteId : String} {suite : EvalSuiteRow}
    (found : tenantSuiteOr404 db principal suiteId = .ok suite) :
    db.suiteOwned principal.organizationId suiteId = true := by
  unfold tenantSuiteOr404 at found
  split at found
  · next selected => exact Database.suiteOwned_of_tenantSuite selected
  · cases found

def Write.LinksCase (suiteId : String) (issued : String → Prop) (write : Write) : Prop :=
  ∃ case link, write = .insertLinkedCase case link ∧ link.caseId = case.id ∧
    link.suiteId = suiteId ∧ issued case.id

theorem importCases_links {readings : RequestReadings} {suiteId : String}
    {items : List EvalCaseImportItem} {index imported : Nat} :
    ∀ write ∈ (importCases readings suiteId index imported items).1,
      write.LinksCase suiteId readings.Issues := by
  induction items generalizing index imported with
  | nil => exact List.forall_mem_nil _
  | cons item items induction =>
      intro write member
      unfold importCases at member
      split at member
      · exact induction write member
      · rcases List.mem_cons.mp member with equal | later
        · exact ⟨_, _, equal, rfl, rfl, imported, rfl⟩
        · exact induction write later

theorem admits_linkedCases {organizationId suiteId : String} {issued : String → Prop}
    {writes : List Write} {db : Database}
    (owned : db.suiteOwned organizationId suiteId = true)
    (links : ∀ write ∈ writes, write.LinksCase suiteId issued) :
    db.Admits organizationId writes := by
  induction writes generalizing db with
  | nil => trivial
  | cons write writes induction =>
      rcases links write List.mem_cons_self with ⟨case, link, rfl, linked, suite, -⟩
      refine ⟨⟨linked, suite ▸ owned⟩, fun next applied => ?_⟩
      rcases apply_insertLinkedCase applied with ⟨-, -, -, rfl⟩
      exact induction owned fun other member => links other (List.mem_cons_of_mem _ member)

theorem importEvalCases_creates {readings : RequestReadings} {suiteId : String}
    {payload : EvalCaseImportRequest} {answer : EvalCaseImportResult}
    (created : importEvalCases readings db principal suiteId payload = .ok (writes, answer)) :
    CreatesRows principal db readings.Issues writes := by
  unfold importEvalCases at created
  rcases bind_eq_ok_iff.mp created with ⟨_, allowed, created⟩
  rcases bind_eq_ok_iff.mp created with ⟨suite, found, created⟩
  cases created
  have links := @importCases_links readings suiteId payload.cases 0 0
  refine ⟨requireRole_eq_ok_iff.mp allowed,
    admits_linkedCases (tenantSuiteOr404_ok found) links, ?_⟩
  intro write member id new
  rcases links write member with ⟨case, link, rfl, -, -, issued⟩
  cases new
  exact issued

/-! ## Configurations and gate rules -/

theorem createEvaluatorConfig_creates {env : Environment} {readings : RequestReadings}
    {payload : EvaluatorConfigCreate} {answer : EvaluatorConfigRead}
    (created : createEvaluatorConfig env readings db principal payload = .ok (writes, answer)) :
    CreatesRows principal db readings.Issues writes := by
  unfold createEvaluatorConfig at created
  rcases bind_eq_ok_iff.mp created with ⟨_, allowed, created⟩
  simp only [] at created
  split at created
  · cases created
  · rcases bind_eq_ok_iff.mp created with ⟨validated, -, created⟩
    cases created
    refine CreatesRows.single allowed ?_ ?_
    · exact rfl
    · intro id new
      cases new
      exact ⟨0, rfl⟩

theorem createGateRule_creates {floats : FloatConversion} {text : Json → String}
    {readings : RequestReadings} {payload : GateRuleCreate} {answer : GateRuleRead}
    (named : readings.newUuid 0 ≠ "")
    (created : createGateRule floats text readings db principal payload = .ok (writes, answer)) :
    CreatesRows principal db readings.Issues writes := by
  unfold createGateRule at created
  rcases bind_eq_ok_iff.mp created with ⟨_, allowed, created⟩
  simp only [] at created
  split at created
  · cases created
  · rcases bind_eq_ok_iff.mp created with ⟨rules, -, created⟩
    cases created
    refine CreatesRows.single allowed ?_ ?_
    · exact ⟨rfl, named⟩
    · intro id new
      cases new
      exact ⟨0, rfl⟩

/-! ## Lookups by organization -/

section

variable {organizationId : String}

theorem version?_of_tenantVersion (consistent : db.Consistent) {versionId : String}
    {version : AppVersionRow}
    (found : db.tenantVersion organizationId versionId = some version) :
    version.id = versionId ∧ db.version? versionId = some version ∧
      ∃ app, db.app? version.appId = some app ∧ app.organizationId = organizationId := by
  rcases consistent.keyed.appVersions.find?_of_find?_and
    (fun left right same => by simp [AppVersionRow.conflicts, same]) found with
    ⟨identified, selected, ofId⟩
  rcases List.any_eq_true.mp selected with ⟨app, member, owned⟩
  simp only [Bool.and_eq_true, beq_iff_eq] at owned
  refine ⟨identified, ofId, app, ?_, owned.2⟩
  refine consistent.keyed.apps.find?_eq_some member (beq_iff_eq.mpr owned.1)
    fun other same => ?_
  simp [App.conflicts, owned.1, beq_iff_eq.mp same]

theorem suite?_of_tenantSuite (consistent : db.Consistent) {suiteId : String}
    {suite : EvalSuiteRow} (found : db.tenantSuite organizationId suiteId = some suite) :
    suite.id = suiteId ∧ db.suite? suiteId = some suite := by
  have looked := consistent.keyed.evalSuites.find?_of_find?_and
    (fun left right same => by simp [EvalSuiteRow.conflicts, same]) found
  exact ⟨looked.1, looked.2.2⟩

theorem evaluatorConfig?_of_tenantEvaluatorConfig (consistent : db.Consistent)
    {configId : String} {config : EvaluatorConfigRow}
    (found : db.tenantEvaluatorConfig organizationId configId = some config) :
    config.id = configId ∧ config.organizationId = organizationId ∧
      db.evaluatorConfig? configId = some config := by
  have looked := consistent.keyed.evaluatorConfigs.find?_of_find?_and
    (fun left right same => by simp [EvaluatorConfigRow.conflicts, same]) found
  exact ⟨looked.1, beq_iff_eq.mp looked.2.1, looked.2.2⟩

theorem gateRule?_of_tenantGateRule (consistent : db.Consistent) {ruleId : String}
    {gateRule : GateRuleRow} (found : db.tenantGateRule organizationId ruleId = some gateRule) :
    gateRule.id = ruleId ∧ gateRule.organizationId = organizationId ∧
      db.gateRule? ruleId = some gateRule := by
  have looked := consistent.keyed.gateRules.find?_of_find?_and
    (fun left right same => by simp [GateRuleRow.conflicts, same]) found
  exact ⟨looked.1, beq_iff_eq.mp looked.2.1, looked.2.2⟩

theorem run?_of_tenantRun (consistent : db.Consistent) {runId : String} {run : EvalRunRow}
    (found : db.tenantRun organizationId runId = some run) :
    run.id = runId ∧ run.organizationId = organizationId ∧ db.run? runId = some run := by
  have looked := consistent.keyed.evalRuns.find?_of_find?_and
    (fun left right same => by simp [EvalRunRow.conflicts, same]) found
  exact ⟨looked.1, beq_iff_eq.mp looked.2.1, looked.2.2⟩

end

/-! ## The items of a new run -/

structure OpenRun (organizationId runId suiteId : String) (cases : List EvalCase)
    (db : Database) : Prop where
  run : ∃ run, db.run? runId = some run ∧ run.organizationId = organizationId ∧
    run.suiteId = suiteId
  uncompared : db.Uncompared runId
  linked : ∀ case ∈ cases, ∃ link ∈ db.evalSuiteCases,
    link.suiteId = suiteId ∧ link.caseId = case.id

def Write.Evidences (itemId : String) : Write → Prop
  | .insertTrace row => row.runItemId = itemId
  | .insertResult row => row.runItemId = itemId
  | _ => False

structure ItemGroup (runId : String) (cases : List EvalCase) (issued : String → Prop)
    (group : List Write) : Prop where
  inserts : ∃ row evidence, group = .insertItem row :: evidence ∧ row.runId = runId ∧
    (∃ case ∈ cases, row.caseId = case.id) ∧ ∀ write ∈ evidence, write.Evidences row.id
  newIds : ∀ write ∈ group, ∀ id, write.newId = some id → issued id

section

variable {organizationId runId suiteId : String} {cases : List EvalCase}
variable {issued : String → Prop} {next : Database}

theorem apply_evidences {itemId : String} {write : Write} (evidences : write.Evidences itemId)
    (applied : db.apply write = some next) :
    next.evalRuns = db.evalRuns ∧ next.evalRunItems = db.evalRunItems ∧
      next.comparisons = db.comparisons ∧ next.evalSuiteCases = db.evalSuiteCases := by
  cases write with
  | insertTrace row =>
      rcases apply_insertTrace applied with ⟨-, -, rfl⟩
      exact ⟨rfl, rfl, rfl, rfl⟩
  | insertResult row =>
      rcases apply_insertResult applied with ⟨-, -, rfl⟩
      exact ⟨rfl, rfl, rfl, rfl⟩
  | _ => exact evidences.elim

theorem admits_evidence {itemId : String} {writes : List Write} {db : Database}
    (owned : db.itemOwned organizationId itemId = true)
    (evidences : ∀ write ∈ writes, write.Evidences itemId) :
    db.Admits organizationId writes := by
  induction writes generalizing db with
  | nil => trivial
  | cons write writes induction =>
      have evidence := evidences write List.mem_cons_self
      refine ⟨?_, fun next applied => ?_⟩
      · cases write with
        | insertTrace row =>
            have ofItem : row.runItemId = itemId := evidence
            rw [← ofItem] at owned
            exact owned
        | insertResult row =>
            have ofItem : row.runItemId = itemId := evidence
            rw [← ofItem] at owned
            exact owned
        | _ => exact evidence.elim
      · rcases apply_evidences evidence applied with ⟨runs, items, -, -⟩
        apply induction
        · rw [Database.itemOwned, items]
          unfold Database.runOwned
          rw [runs]
          exact owned
        · exact fun other member => evidences other (List.mem_cons_of_mem write member)

theorem OpenRun.of_same (opened : OpenRun organizationId runId suiteId cases db)
    (runs : next.evalRuns = db.evalRuns) (comparisons : next.comparisons = db.comparisons)
    (links : next.evalSuiteCases = db.evalSuiteCases) :
    OpenRun organizationId runId suiteId cases next where
  run := by
    rw [Database.run?, runs]
    exact opened.run
  uncompared := by
    rw [Database.Uncompared, comparisons]
    exact opened.uncompared
  linked := by
    rw [links]
    exact opened.linked

theorem OpenRun.afterEvidence {itemId : String} {writes : List Write}
    (opened : OpenRun organizationId runId suiteId cases db)
    (evidences : ∀ write ∈ writes, write.Evidences itemId)
    (committed : db.commit writes = some next) :
    OpenRun organizationId runId suiteId cases next :=
  commit_keeps (OpenRun organizationId runId suiteId cases) (·.Evidences itemId)
    (fun _ _ _ evidence opened applied =>
      have same := apply_evidences evidence applied
      opened.of_same same.1 same.2.2.1 same.2.2.2)
    evidences opened committed

theorem OpenRun.admits_group {group : List Write}
    (opened : OpenRun organizationId runId suiteId cases db)
    (items : ItemGroup runId cases issued group) :
    db.Admits organizationId group ∧ ∀ next, db.commit group = some next →
      OpenRun organizationId runId suiteId cases next := by
  rcases items.inserts with ⟨row, evidence, rfl, ofRun, ⟨case, caseMember, ofCase⟩, evidences⟩
  rcases opened.run with ⟨run, found, owned, suite⟩
  rcases opened.linked case caseMember with ⟨link, linkMember, linkSuite, linkCase⟩
  have selected := List.find?_some found
  have runOwned : db.runOwned organizationId row.runId = true := by
    refine List.any_eq_true.mpr ⟨run, List.mem_of_find?_eq_some found, ?_⟩
    rw [Bool.and_eq_true, beq_iff_eq, beq_iff_eq, ofRun]
    exact ⟨beq_iff_eq.mp selected, owned⟩
  have itemConsistent : db.ItemConsistent row := by
    refine ⟨run, ?_, link, linkMember, linkSuite.trans suite.symm, linkCase.trans ofCase.symm⟩
    rw [ofRun]
    exact found
  have openedNext : ∀ next, db.apply (.insertItem row) = some next →
      OpenRun organizationId runId suiteId cases next := by
    intro next applied
    rcases apply_insertItem applied with ⟨-, -, rfl⟩
    exact opened.of_same rfl rfl rfl
  refine ⟨⟨⟨runOwned, itemConsistent, ofRun ▸ opened.uncompared⟩, ?_⟩, ?_⟩
  · intro next applied
    rcases apply_insertItem applied with ⟨-, -, rfl⟩
    refine admits_evidence ?_ evidences
    refine List.any_eq_true.mpr ⟨row, List.mem_append_right _ List.mem_cons_self, ?_⟩
    rw [Bool.and_eq_true]
    exact ⟨beq_self_eq_true row.id, runOwned⟩
  · intro next committed
    rcases Option.bind_eq_some_iff.mp committed with ⟨middle, applied, rest⟩
    exact (openedNext middle applied).afterEvidence evidences rest

theorem OpenRun.admits_groups {groups : List (List Write)} {db : Database}
    (opened : OpenRun organizationId runId suiteId cases db)
    (items : ∀ group ∈ groups, ItemGroup runId cases issued group) :
    db.Admits organizationId groups.flatten := by
  induction groups generalizing db with
  | nil => trivial
  | cons group groups induction =>
      rcases opened.admits_group (items group List.mem_cons_self) with ⟨admits, opens⟩
      exact Database.admits_append admits fun middle committed =>
        induction (opens middle committed) fun other member =>
          items other (List.mem_cons_of_mem group member)

end

/-! ## Runs -/

structure PlannedRun (organizationId : String) (plan : RunPlan) (run : EvalRunRow) : Prop where
  organization : run.organizationId = organizationId
  version : run.appVersionId = plan.version.id
  suite : run.suiteId = plan.suite.id
  evaluatorConfig : run.evaluatorConfigId = plan.evaluatorConfig.id

section

variable {organizationId : String} {payload : RunCreate} {plan : RunPlan} {run : EvalRunRow}

theorem PlannedRun.consistent (consistent : db.Consistent)
    (checked : (runRequest db organizationId payload).check = .ok plan)
    (planned : PlannedRun organizationId plan run) : db.RunConsistent run := by
  rcases RunRequest.check_ok checked with ⟨versioned, suited, configured, sameApp, -, -⟩
  rcases Option.map_eq_some_iff.mp versioned with ⟨version, versionFound, versionEq⟩
  rcases Option.map_eq_some_iff.mp suited with ⟨suite, suiteFound, suiteEq⟩
  rcases Option.map_eq_some_iff.mp configured with ⟨config, configFound, configEq⟩
  rcases version?_of_tenantVersion consistent versionFound with
    ⟨versionId, versionStored, app, appStored, appOwned⟩
  rcases suite?_of_tenantSuite consistent suiteFound with ⟨suiteId, suiteStored⟩
  rcases evaluatorConfig?_of_tenantEvaluatorConfig consistent configFound with
    ⟨configId, configOwned, configStored⟩
  refine ⟨version, suite, app, config, ?_, ?_, ?_, appStored, ?_, ?_, ?_⟩
  · rw [planned.version, ← versionEq, versionId]
    exact versionStored
  · rw [planned.suite, ← suiteEq, suiteId]
    exact suiteStored
  · rw [planned.evaluatorConfig, ← configEq, configId]
    exact configStored
  · rw [← versionEq, ← suiteEq] at sameApp
    exact sameApp.symm
  · rw [appOwned, planned.organization]
  · rw [configOwned, planned.organization]

theorem plan_linked (consistent : db.Consistent)
    (checked : (runRequest db organizationId payload).check = .ok plan) :
    ∀ case ∈ plan.cases, ∃ link ∈ db.evalSuiteCases,
      link.suiteId = plan.suite.id ∧ link.caseId = case.id := by
  rcases RunRequest.check_ok checked with ⟨-, suited, -, -, loaded, -⟩
  rcases Option.map_eq_some_iff.mp suited with ⟨suite, suiteFound, suiteEq⟩
  have suiteId := (suite?_of_tenantSuite consistent suiteFound).1
  intro case member
  have offered : case ∈ (runRequest db organizationId payload).suiteCases := by
    rw [loaded] at member
    unfold loadSuiteCases at member
    split at member
    · exact member
    · exact (List.mem_filter.mp member).1
  rcases List.mem_map.mp offered with ⟨row, rowMember, rowEq⟩
  rcases List.mem_filter.mp ((List.mem_insertionSort _).mp rowMember) with ⟨-, linked⟩
  rcases List.any_eq_true.mp linked with ⟨link, linkMember, selected⟩
  rw [Bool.and_eq_true, beq_iff_eq, beq_iff_eq] at selected
  refine ⟨link, linkMember, ?_, ?_⟩
  · rw [selected.2, ← suiteEq, suiteId]
  · rw [selected.1, ← rowEq]

theorem openRun_of_insertRun {next : Database} (consistent : db.Consistent)
    (checked : (runRequest db organizationId payload).check = .ok plan)
    (planned : PlannedRun organizationId plan run)
    (applied : db.apply (.insertRun run) = some next) :
    OpenRun organizationId run.id plan.suite.id plan.cases next := by
  have nextConsistent := consistent.insertRun (planned.consistent consistent checked) applied
  have linked := plan_linked consistent checked
  rcases apply_insertRun applied with ⟨-, free, rfl⟩
  have unused : ∀ {id stored}, db.run? id = some stored → id ≠ run.id := by
    intro id stored found same
    have selected := List.find?_some found
    have conflict := free stored (List.mem_of_find?_eq_some found)
    rw [EvalRunRow.conflicts, beq_eq_false_iff_ne] at conflict
    exact conflict (same.symm.trans (beq_iff_eq.mp selected).symm)
  exact {
    run := by
      refine ⟨run, nextConsistent.keyed.evalRuns.find?_eq_some
        (List.mem_append_right _ List.mem_cons_self) (beq_self_eq_true run.id) ?_,
        planned.organization, planned.suite⟩
      intro other same
      simp [EvalRunRow.conflicts, beq_iff_eq.mp same]
    uncompared := by
      intro comparison member
      rcases consistent.refer.comparisons comparison member with
        ⟨baseline, candidate, -, -, -, baselineFound, candidateFound, -⟩
      exact ⟨unused baselineFound, unused candidateFound⟩
    linked := linked }

theorem creates_run {issued : String → Prop} {value : Unit} {groups : List (List Write)}
    (allowed : requireRole principal .evaluator = .ok value) (consistent : db.Consistent)
    (checked : (runRequest db principal.organizationId payload).check = .ok plan)
    (planned : PlannedRun principal.organizationId plan run) (runIssued : issued run.id)
    (items : ∀ group ∈ groups, ItemGroup run.id plan.cases issued group) :
    CreatesRows principal db issued (.insertRun run :: groups.flatten) where
  evaluator := requireRole_eq_ok_iff.mp allowed
  admits := ⟨⟨planned.organization, planned.consistent consistent checked⟩,
    fun _ applied =>
      (openRun_of_insertRun consistent checked planned applied).admits_groups items⟩
  newIds write member := by
    rcases List.mem_cons.mp member with equal | later
    · rw [equal]
      intro id new
      cases new
      exact runIssued
    · rcases List.mem_flatten.mp later with ⟨group, groupMember, inGroup⟩
      exact (items group groupMember).newIds write inGroup

end

theorem executeCase_row {env : Environment} {inputs : ExecutionInputs} {plan : RunPlan}
    {adapter : Adapter} {runId : String} {index : Nat} {case : EvalCase} {item : ItemRecord}
    (executed : (executeCase env inputs plan adapter runId index case).item.flush env.storesJson =
      some item) :
    item.row.id = inputs.newUuid (index + 1) ∧ item.row.runId = runId ∧
      item.row.caseId = case.id := by
  rcases (SessionItem.flush_some executed).2.row with ⟨_, _, row⟩
  rw [row]
  simp only [executeCase]
  split
  · exact ⟨rfl, rfl, rfl⟩
  · split
    · exact ⟨rfl, rfl, rfl⟩
    · exact ⟨rfl, rfl, rfl⟩

theorem itemWrites_group {readings : RunReadings} {runId : String} {cases : List EvalCase}
    {item : ItemRecord} (index : Nat) (ofRun : item.row.runId = runId)
    (ofCase : ∃ case ∈ cases, item.row.caseId = case.id)
    (itemIssued : readings.Issues item.row.id) :
    ItemGroup runId cases readings.Issues (itemWrites readings index item) where
  inserts := by
    refine ⟨item.row, _, rfl, ofRun, ofCase, ?_⟩
    intro write member
    rcases List.mem_append.mp member with trace | result
    · rcases List.mem_mapIdx.mp trace with ⟨position, -, rfl⟩
      exact rfl
    · rcases List.mem_mapIdx.mp result with ⟨position, -, rfl⟩
      exact rfl
  newIds := by
    intro write member id new
    rcases List.mem_cons.mp member with rfl | evidence
    · cases new
      exact itemIssued
    · rcases List.mem_append.mp evidence with trace | result
      · rcases List.mem_mapIdx.mp trace with ⟨position, bound, rfl⟩
        cases new
        exact .inr (.inr ⟨index, position, rfl⟩)
      · rcases List.mem_mapIdx.mp result with ⟨position, bound, rfl⟩
        cases new
        exact .inr (.inr ⟨index, _, rfl⟩)

theorem createSyncRun_creates {env : Environment} {readings : RunReadings} {value : Unit}
    (allowed : requireRole principal .evaluator = .ok value) (consistent : db.Consistent)
    (payload : RunCreate) :
    let request := runRequest db principal.organizationId payload
    (createSyncRun env readings request).writes = [] ∨
      CreatesRows principal db readings.Issues (createSyncRun env readings request).writes := by
  simp only [createSyncRun]
  split
  · exact .inl rfl
  · next record executed =>
      right
      rcases executeRun_ok executed with
        ⟨plan, adapter, checked, -, items, completed, errored, ran, rfl⟩
      refine creates_run allowed consistent checked ⟨rfl, rfl, rfl, rfl⟩ (.inl ⟨0, rfl⟩) ?_
      intro group member
      rcases List.mem_mapIdx.mp member with ⟨index, bound, rfl⟩
      have itemMember : items[index] ∈ items := List.getElem_mem bound
      rcases forall₂_exists_left (executeCases_ok ran) _ itemMember with
        ⟨case, caseMember, position, flushed⟩
      rcases executeCase_row flushed with ⟨id, ofRun, ofCase⟩
      exact itemWrites_group index ofRun ⟨case, caseMember, ofCase⟩ (.inl ⟨position + 1, id⟩)

theorem mem_createSlots_row {inputs : DispatchInputs} {plan : RunPlan} {runId : String}
    {start : Nat} {cases : List EvalCase} {slot : Slot}
    (member : slot ∈ createSlots inputs plan runId start cases) :
    (∃ index, slot.system.item.row.id = inputs.newUuid index) ∧
      slot.system.item.row.runId = runId ∧
      ∃ case ∈ cases, slot.system.item.row.caseId = case.id := by
  induction cases generalizing start with
  | nil => cases member
  | cons case cases induction =>
      rcases List.mem_cons.mp member with rfl | later
      · exact ⟨⟨start + 1, rfl⟩, rfl, case, List.mem_cons_self, rfl⟩
      · rcases induction later with ⟨issued, ofRun, other, otherMember, ofCase⟩
        exact ⟨issued, ofRun, other, List.mem_cons_of_mem case otherMember, ofCase⟩

theorem dispatch_creates {readings : RunReadings} {value : Unit}
    (allowed : requireRole principal .evaluator = .ok value) (consistent : db.Consistent)
    {payload : RunCreate} {system : RunSystem}
    (dispatched : dispatchRun readings.dispatch
      (runRequest db principal.organizationId payload) = .ok system) :
    CreatesRows principal db readings.Issues (system.writes readings.createdAt) := by
  rcases dispatchRun_ok dispatched with ⟨plan, checked, rfl⟩
  have grouped (rows : List EvalRunItem) : rows.map Write.insertItem =
      (rows.map fun row => [Write.insertItem row]).flatten := by
    rw [← List.flatMap_def, List.map_eq_flatMap]
  unfold RunSystem.writes
  rw [grouped]
  refine creates_run allowed consistent checked ⟨rfl, rfl, rfl, rfl⟩ (.inr (.inl ⟨0, rfl⟩)) ?_
  intro group member
  rcases List.mem_map.mp member with ⟨row, rowMember, rfl⟩
  rcases List.mem_map.mp rowMember with ⟨slot, slotMember, rfl⟩
  rcases mem_createSlots_row slotMember with ⟨⟨index, rowId⟩, ofRun, ofCase⟩
  refine ⟨⟨_, [], rfl, ofRun, ofCase, List.forall_mem_nil _⟩, ?_⟩
  intro write writeMember id new
  rw [List.mem_singleton.mp writeMember] at new
  cases new
  exact .inr (.inl ⟨index, rowId⟩)

theorem failureWrites_byWorker (system : RunSystem) (completedAt : Nat) :
    ∀ write ∈ system.failureWrites completedAt, write.byWorker = true := by
  intro write member
  rcases List.mem_cons.mp member with rfl | item
  · rfl
  · rcases List.mem_map.mp item with ⟨row, -, rfl⟩
    rfl

theorem createCeleryRun_creates {readings : RunReadings} {value : Unit}
    (allowed : requireRole principal .evaluator = .ok value) (consistent : db.Consistent)
    (payload : RunCreate) :
    let request := runRequest db principal.organizationId payload
    (createCeleryRun readings request).writes = [] ∨
      ∃ inserts updates, (createCeleryRun readings request).writes = inserts ++ updates ∧
        CreatesRows principal db readings.Issues inserts ∧
        ∀ write ∈ updates, write.byWorker = true := by
  simp only [createCeleryRun]
  split
  · exact .inl rfl
  · next system dispatched =>
      right
      have created := dispatch_creates allowed consistent dispatched
      split
      · next completedAt submitting fails =>
          exact ⟨_, _, rfl, created, failureWrites_byWorker system completedAt⟩
      · exact ⟨_, [], (List.append_nil _).symm, created, List.forall_mem_nil _⟩

/-! ## Comparisons -/

theorem comparableRuns_consistent (consistent : db.Consistent) {organizationId : String}
    {payload : ComparisonCreate} {runs : EvalRunRow × EvalRunRow}
    (compared : comparableRuns db organizationId payload = .ok runs)
    {comparison : ComparisonRow} {gateRule : GateRuleRow}
    (ofOrganization : comparison.organizationId = organizationId)
    (ofBaseline : comparison.baselineRunId = payload.baselineRunId)
    (ofCandidate : comparison.candidateRunId = payload.candidateRunId)
    (ruled : db.gateRule? comparison.gateRulesId = some gateRule)
    (ruleOwned : gateRule.organizationId = organizationId) :
    db.ComparisonConsistent comparison := by
  rcases runs with ⟨baseline, candidate⟩
  rcases comparableRuns_ok compared with ⟨baselineFound, candidateFound, sameSuite, sameConfig,
    ⟨baselineVersion, candidateVersion, baselineVersioned, candidateVersioned, sameApp⟩, sameCases⟩
  rcases run?_of_tenantRun consistent baselineFound with ⟨-, baselineOwned, baselineStored⟩
  rcases run?_of_tenantRun consistent candidateFound with ⟨-, candidateOwned, candidateStored⟩
  refine ⟨baseline, candidate, baselineVersion, candidateVersion, gateRule, ?_, ?_, ruled,
    baselineOwned.trans ofOrganization.symm, candidateOwned.trans ofOrganization.symm,
    ruleOwned.trans ofOrganization.symm, sameSuite, sameConfig, baselineVersioned,
    candidateVersioned, sameApp, ?_⟩
  · rw [ofBaseline]
    exact baselineStored
  · rw [ofCandidate]
    exact candidateStored
  · rw [ofBaseline, ofCandidate, sameCases]

theorem admits_comparison {organizationId : String} {comparison : ComparisonRow}
    {report : RegressionReport} (ofOrganization : comparison.organizationId = organizationId)
    (consistent : db.ComparisonConsistent comparison)
    (ofComparison : report.comparisonId = comparison.id) :
    db.Admits organizationId [.insertComparison comparison, .insertReport report] := by
  refine ⟨⟨ofOrganization, consistent⟩, fun next applied => ⟨?_, fun _ _ => trivial⟩⟩
  rcases apply_insertComparison applied with ⟨-, -, rfl⟩
  refine List.any_eq_true.mpr ⟨comparison, List.mem_append_right _ List.mem_cons_self, ?_⟩
  rw [Bool.and_eq_true, beq_iff_eq, beq_iff_eq]
  exact ⟨ofComparison.symm, ofOrganization⟩

theorem comparisonGateRules_admits {context : ComparisonContext} {readings : RequestReadings}
    {organizationId : String} {gateRulesId : Option String} {gateRuleId : String}
    {gateRules : GateRules} (consistent : db.Consistent) (named : readings.newUuid 0 ≠ "")
    (ruled : comparisonGateRules context readings db organizationId gateRulesId =
      .ok (writes, gateRuleId, gateRules)) :
    db.Admits organizationId writes ∧
    (∀ write ∈ writes, ∀ id, write.newId = some id → readings.Issues id) ∧
    ∀ middle, db.commit writes = some middle → middle.Consistent ∧
      (∀ payload, comparableRuns middle organizationId payload =
        comparableRuns db organizationId payload) ∧
      ∃ gateRule, middle.gateRule? gateRuleId = some gateRule ∧
        gateRule.organizationId = organizationId := by
  cases gateRulesId with
  | none =>
      cases ruled
      refine ⟨⟨⟨rfl, named⟩, fun _ _ => trivial⟩, ?_, ?_⟩
      · intro write member id new
        rw [List.mem_singleton.mp member] at new
        cases new
        exact ⟨0, rfl⟩
      · intro middle committed
        rcases Option.bind_eq_some_iff.mp committed with ⟨next, applied, last⟩
        cases last
        have nextConsistent := consistent.insertGateRule named applied
        rcases apply_insertGateRule applied with ⟨-, -, rfl⟩
        refine ⟨nextConsistent, fun _ => rfl, _, nextConsistent.keyed.gateRules.find?_eq_some
          (List.mem_append_right _ List.mem_cons_self) (beq_self_eq_true (readings.newUuid 0)) ?_,
          rfl⟩
        intro other same
        simp [GateRuleRow.conflicts, beq_iff_eq.mp same]
  | some gateRulesId =>
      simp only [comparisonGateRules] at ruled
      split at ruled
      · cases ruled
      · next stored found =>
          rcases bind_eq_ok_iff.mp ruled with ⟨rules, -, ruled⟩
          cases ruled
          rcases gateRule?_of_tenantGateRule consistent found with ⟨ofId, owned, storedRule⟩
          refine ⟨trivial, List.forall_mem_nil _, ?_⟩
          intro middle committed
          cases committed
          -- No stored gate rule has an empty id.
          have given : gateRulesId ≠ "" := by
            rw [← ofId]
            exact consistent.refer.gateRules stored (List.mem_of_find?_eq_some found)
          rw [if_neg given]
          exact ⟨consistent, fun _ => rfl, stored, storedRule, owned⟩

theorem createComparison_creates {context : ComparisonContext} {readings : RequestReadings}
    {payload : ComparisonCreate} {answer : ComparisonRead} (consistent : db.Consistent)
    (named : readings.newUuid 0 ≠ "")
    (created : createComparison context readings db principal payload = .ok (writes, answer)) :
    CreatesRows principal db readings.Issues writes := by
  unfold createComparison at created
  rcases bind_eq_ok_iff.mp created with ⟨_, allowed, created⟩
  rcases bind_eq_ok_iff.mp created with ⟨⟨inserts, comparison, report⟩, computed, created⟩
  cases created
  rw [mapError_eq_ok_iff] at computed
  unfold computeComparison at computed
  rcases bind_eq_ok_iff.mp computed with ⟨runs, compared, computed⟩
  rcases bind_eq_ok_iff.mp computed with ⟨⟨rows, gateRuleId, gateRules⟩, ruled, computed⟩
  cases computed
  rcases comparisonGateRules_admits consistent named ruled with ⟨admits, newIds, after⟩
  refine ⟨requireRole_eq_ok_iff.mp allowed, Database.admits_append admits ?_, ?_⟩
  · intro middle committed
    rcases after middle committed with
      ⟨middleConsistent, sameRuns, gateRule, stored, owned⟩
    rw [← sameRuns] at compared
    exact admits_comparison rfl
      (comparableRuns_consistent middleConsistent compared rfl rfl rfl stored owned) rfl
  · intro write member id new
    rcases List.mem_append.mp member with rule | last
    · exact newIds write rule id new
    · rcases List.mem_cons.mp last with rfl | last
      · cases new
        exact ⟨1, rfl⟩
      · rw [List.mem_singleton.mp last] at new
        cases new
        exact ⟨2, rfl⟩

/-! ## All requests -/

def Readings.Issues (readings : Readings) (id : String) : Prop :=
  readings.toRequestReadings.Issues id ∨ readings.run.Issues id

theorem CreatesRows.weaken {issued wider : String → Prop}
    (created : CreatesRows principal db issued writes) (weaker : ∀ id, issued id → wider id) :
    CreatesRows principal db wider writes where
  evaluator := created.evaluator
  admits := created.admits
  newIds write member id new := weaker id (created.newIds write member id new)

/-- What a request writes: nothing, or the rows that it creates, and for a run
that could not be submitted the updates of these. -/
def RequestWrites (runMode : String) (principal : Principal) (db : Database)
    (issued : String → Prop) (writes : List Write) : Prop :=
  writes = [] ∨ ∃ inserts updates, writes = inserts ++ updates ∧
    CreatesRows principal db issued inserts ∧ (∀ write ∈ updates, write.byWorker = true) ∧
    (runMode = "sync" → updates = [])

theorem CreatesRows.requestWrites {runMode : String} {issued wider : String → Prop}
    (created : CreatesRows principal db issued writes) (weaker : ∀ id, issued id → wider id) :
    RequestWrites runMode principal db wider writes :=
  .inr ⟨writes, [], (List.append_nil _).symm, created.weaken weaker, List.forall_mem_nil _,
    fun _ => rfl⟩

theorem writes_ofExcept {runMode : String} {issued wider : String → Prop} {Answer : Type}
    {result : Except HttpError (List Write × Answer)}
    (created : ∀ {writes answer}, result = .ok (writes, answer) →
      CreatesRows principal db issued writes) (weaker : ∀ id, issued id → wider id) :
    RequestWrites runMode principal db wider (Reply.ofExcept result).writes := by
  cases result with
  | error error => exact .inl rfl
  | ok accepted => exact (created rfl).requestWrites weaker

theorem createRun_writes {runMode : String} {env : Environment} {readings : Readings}
    (consistent : db.Consistent) (payload : RunCreate) :
    RequestWrites runMode principal db readings.Issues
      (createRun runMode env readings.run db principal payload).writes := by
  unfold createRun
  split
  · exact .inl rfl
  · next allowed =>
      simp only []
      split
      · next celery =>
          rcases createCeleryRun_creates allowed consistent payload with unwritten | created
          · exact .inl unwritten
          · rcases created with ⟨inserts, updates, equal, created, byWorker⟩
            refine .inr ⟨inserts, updates, equal, created.weaken fun _ => .inr, byWorker, ?_⟩
            intro sync
            rw [celery] at sync
            exact absurd sync (by decide)
      · rcases createSyncRun_creates allowed consistent payload with unwritten | created
        · exact .inl unwritten
        · exact created.requestWrites fun _ => .inr

theorem TenantRequest.handle_writes (deployment : Deployment) (readings : Readings)
    (consistent : db.Consistent) (request : TenantRequest) :
    RequestWrites deployment.settings.runMode principal db readings.Issues
      (request.handle deployment readings db principal).writes := by
  cases request with
  | createApp payload => exact writes_ofExcept createApp_creates fun _ => .inl
  | createAppVersion appId payload => exact writes_ofExcept createAppVersion_creates fun _ => .inl
  | createEvalSuite appId payload => exact writes_ofExcept createEvalSuite_creates fun _ => .inl
  | importEvalCases suiteId payload =>
      exact writes_ofExcept importEvalCases_creates fun _ => .inl
  | createEvaluatorConfig payload =>
      exact writes_ofExcept createEvaluatorConfig_creates fun _ => .inl
  | createGateRule payload =>
      exact writes_ofExcept (createGateRule_creates (readings.newUuid_ne 0)) fun _ => .inl
  | createRun payload => exact createRun_writes consistent payload
  | createComparison payload =>
      exact writes_ofExcept (createComparison_creates consistent (readings.newUuid_ne 0))
        fun _ => .inl
  | _ => exact .inl rfl

end

end EvalForge
