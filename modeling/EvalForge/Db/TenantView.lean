import EvalForge.Db.Consistency

/-! # The rows of one organization

The part of the database that belongs to an organization, and the part that
belongs to the others. What a consistent row of the organization refers to is
found among the organization's rows.
-/

namespace EvalForge

open Foundation

namespace Database

/-! ## Parts -/

section

variable (organizationId : String) (mine : Bool) (owners rows db : Database)

/-- The tenant rows that are the organization's, or those that are not. The rows
above a row are looked up among the owners. -/
def select : Database where
  apps := rows.apps.filter fun app => (app.organizationId == organizationId) == mine
  appVersions := rows.appVersions.filter fun version =>
    owners.appOwned organizationId version.appId == mine
  evalSuites := rows.evalSuites.filter fun suite =>
    owners.appOwned organizationId suite.appId == mine
  evalCases := rows.evalCases.filter fun case => owners.caseOwned organizationId case.id == mine
  evalSuiteCases := rows.evalSuiteCases.filter fun link =>
    owners.suiteOwned organizationId link.suiteId == mine
  evaluatorConfigs := rows.evaluatorConfigs.filter fun config =>
    (config.organizationId == organizationId) == mine
  evalRuns := rows.evalRuns.filter fun run => (run.organizationId == organizationId) == mine
  evalRunItems := rows.evalRunItems.filter fun item =>
    owners.runOwned organizationId item.runId == mine
  traces := rows.traces.filter fun trace =>
    owners.itemOwned organizationId trace.runItemId == mine
  evalResults := rows.evalResults.filter fun result =>
    owners.itemOwned organizationId result.runItemId == mine
  gateRules := rows.gateRules.filter fun gateRule =>
    (gateRule.organizationId == organizationId) == mine
  comparisons := rows.comparisons.filter fun comparison =>
    (comparison.organizationId == organizationId) == mine
  regressionReports := rows.regressionReports.filter fun report =>
    owners.comparisonOwned organizationId report.comparisonId == mine

def part : Database := select organizationId mine db db

/-- The organization's apps with their versions, suites and cases, its evaluator
configurations, its gate rules, its runs with their items, traces and results,
and its comparisons with their reports. -/
def rowsOf : Database := db.part organizationId true

def othersOf : Database :=
  { db.part organizationId false with
    organizations := db.organizations.filter (·.id != organizationId)
    users := db.users
    memberships := db.memberships.filter (·.organizationId != organizationId)
    authSessions := db.authSessions.filter (·.organizationId != organizationId)
    personalApiKeys := db.personalApiKeys.filter (·.organizationId != organizationId) }

/-- A database in which the organization is on its own. -/
def alone : Database :=
  { db.rowsOf organizationId with
    organizations := [{ id := organizationId, name := "", slug := "", createdAt := 0 }] }

def tenantIds : List String :=
  db.apps.map (·.id) ++ db.appVersions.map (·.id) ++ db.evalSuites.map (·.id) ++
    db.evalCases.map (·.id) ++ db.evaluatorConfigs.map (·.id) ++ db.evalRuns.map (·.id) ++
    db.evalRunItems.map (·.id) ++ db.traces.map (·.id) ++ db.evalResults.map (·.id) ++
    db.gateRules.map (·.id) ++ db.comparisons.map (·.id) ++ db.regressionReports.map (·.id)

structure Unused (id : String) : Prop where
  apps : ∀ app ∈ db.apps, app.id ≠ id
  appVersions : ∀ version ∈ db.appVersions, version.id ≠ id
  evalSuites : ∀ suite ∈ db.evalSuites, suite.id ≠ id
  evalCases : ∀ case ∈ db.evalCases, case.id ≠ id
  evaluatorConfigs : ∀ config ∈ db.evaluatorConfigs, config.id ≠ id
  evalRuns : ∀ run ∈ db.evalRuns, run.id ≠ id
  evalRunItems : ∀ item ∈ db.evalRunItems, item.id ≠ id
  traces : ∀ trace ∈ db.traces, trace.id ≠ id
  evalResults : ∀ result ∈ db.evalResults, result.id ≠ id
  gateRules : ∀ gateRule ∈ db.gateRules, gateRule.id ≠ id
  comparisons : ∀ comparison ∈ db.comparisons, comparison.id ≠ id
  regressionReports : ∀ report ∈ db.regressionReports, report.id ≠ id

end

theorem unused_of_not_mem {db : Database} {id : String} (fresh : id ∉ db.tenantIds) :
    db.Unused id := by
  simp only [tenantIds, List.mem_append, List.mem_map, not_or, not_exists, not_and] at fresh
  rcases fresh with ⟨⟨⟨⟨⟨⟨⟨⟨⟨⟨⟨apps, appVersions⟩, evalSuites⟩, evalCases⟩, evaluatorConfigs⟩,
    evalRuns⟩, evalRunItems⟩, traces⟩, evalResults⟩, gateRules⟩, comparisons⟩, regressionReports⟩
  exact ⟨apps, appVersions, evalSuites, evalCases, evaluatorConfigs, evalRuns, evalRunItems,
    traces, evalResults, gateRules, comparisons, regressionReports⟩

/-! ## The owners of stored rows -/

section

variable {organizationId : String} {mine : Bool} {owners other rows db next : Database}

structure SameOwners (organizationId : String) (owners other rows : Database) : Prop where
  appVersions : ∀ version ∈ rows.appVersions,
    other.appOwned organizationId version.appId = owners.appOwned organizationId version.appId
  evalSuites : ∀ suite ∈ rows.evalSuites,
    other.appOwned organizationId suite.appId = owners.appOwned organizationId suite.appId
  evalCases : ∀ case ∈ rows.evalCases,
    other.caseOwned organizationId case.id = owners.caseOwned organizationId case.id
  evalSuiteCases : ∀ link ∈ rows.evalSuiteCases,
    other.suiteOwned organizationId link.suiteId = owners.suiteOwned organizationId link.suiteId
  evalRunItems : ∀ item ∈ rows.evalRunItems,
    other.runOwned organizationId item.runId = owners.runOwned organizationId item.runId
  traces : ∀ trace ∈ rows.traces,
    other.itemOwned organizationId trace.runItemId = owners.itemOwned organizationId trace.runItemId
  evalResults : ∀ result ∈ rows.evalResults,
    other.itemOwned organizationId result.runItemId =
      owners.itemOwned organizationId result.runItemId
  regressionReports : ∀ report ∈ rows.regressionReports,
    other.comparisonOwned organizationId report.comparisonId =
      owners.comparisonOwned organizationId report.comparisonId

theorem SameOwners.refl (organizationId : String) (owners rows : Database) :
    SameOwners organizationId owners owners rows :=
  ⟨fun _ _ => rfl, fun _ _ => rfl, fun _ _ => rfl, fun _ _ => rfl, fun _ _ => rfl,
    fun _ _ => rfl, fun _ _ => rfl, fun _ _ => rfl⟩

theorem select_congr (same : SameOwners organizationId owners other rows) :
    select organizationId mine other rows = select organizationId mine owners rows := by
  simp only [select, mk.injEq, true_and]
  refine ⟨?_, ?_, ?_, ?_, ?_, ?_, ?_, ?_⟩
  · exact List.filter_congr fun version member => by rw [same.appVersions version member]
  · exact List.filter_congr fun suite member => by rw [same.evalSuites suite member]
  · exact List.filter_congr fun case member => by rw [same.evalCases case member]
  · exact List.filter_congr fun link member => by rw [same.evalSuiteCases link member]
  · exact List.filter_congr fun item member => by rw [same.evalRunItems item member]
  · exact List.filter_congr fun trace member => by rw [same.traces trace member]
  · exact List.filter_congr fun result member => by rw [same.evalResults result member]
  · exact List.filter_congr fun report member => by rw [same.regressionReports report member]

theorem any_append_of_ne {Row : Type} {table : List Row} {row : Row} {selected : Row → Bool}
    (unselected : selected row = false) : (table ++ [row]).any selected = table.any selected := by
  rw [List.any_append, List.any_cons, List.any_nil, unselected, Bool.or_false, Bool.or_false]

theorem appOwned_insert {row : App} {appId : String}
    (free : ∀ stored ∈ db.apps, row.conflicts stored = false)
    (present : (db.app? appId).isSome) :
    appOwned { db with apps := db.apps ++ [row] } organizationId appId =
      db.appOwned organizationId appId := by
  refine any_append_of_ne ?_
  rcases Option.isSome_iff_exists.mp present with ⟨app, found⟩
  have identified := List.find?_some found
  have conflict := free app (List.mem_of_find?_eq_some found)
  rw [App.conflicts, Bool.or_eq_false_iff] at conflict
  rw [← beq_iff_eq.mp identified, conflict.1, Bool.false_and]

theorem suiteOwned_insert {row : EvalSuiteRow} {suiteId : String}
    (free : ∀ stored ∈ db.evalSuites, row.conflicts stored = false)
    (present : (db.suite? suiteId).isSome) :
    suiteOwned { db with evalSuites := db.evalSuites ++ [row] } organizationId suiteId =
      db.suiteOwned organizationId suiteId := by
  refine any_append_of_ne ?_
  rcases Option.isSome_iff_exists.mp present with ⟨suite, found⟩
  have identified := List.find?_some found
  have conflict := free suite (List.mem_of_find?_eq_some found)
  rw [EvalSuiteRow.conflicts, Bool.or_eq_false_iff] at conflict
  rw [← beq_iff_eq.mp identified, conflict.1, Bool.false_and]

theorem runOwned_insert {row stored : EvalRunRow} {runId : String}
    (free : ∀ stored ∈ db.evalRuns, row.conflicts stored = false)
    (found : db.run? runId = some stored) :
    runOwned { db with evalRuns := db.evalRuns ++ [row] } organizationId runId =
      db.runOwned organizationId runId := by
  refine any_append_of_ne ?_
  have identified := List.find?_some found
  have conflict := free stored (List.mem_of_find?_eq_some found)
  rw [EvalRunRow.conflicts] at conflict
  rw [← beq_iff_eq.mp identified, conflict, Bool.false_and]

theorem itemOwned_insert {row : EvalRunItem} {itemId : String}
    (free : ∀ stored ∈ db.evalRunItems, row.conflicts stored = false)
    (present : db.hasItem itemId = true) :
    itemOwned { db with evalRunItems := db.evalRunItems ++ [row] } organizationId itemId =
      db.itemOwned organizationId itemId := by
  refine any_append_of_ne ?_
  rcases List.any_eq_true.mp present with ⟨item, member, identified⟩
  have conflict := free item member
  rw [EvalRunItem.conflicts, Bool.or_eq_false_iff] at conflict
  rw [← beq_iff_eq.mp identified, conflict.1, Bool.false_and]

theorem comparisonOwned_insert {row : ComparisonRow} {comparisonId : String}
    (free : ∀ stored ∈ db.comparisons, row.conflicts stored = false)
    (present : db.hasComparison comparisonId = true) :
    comparisonOwned { db with comparisons := db.comparisons ++ [row] } organizationId
      comparisonId = db.comparisonOwned organizationId comparisonId := by
  refine any_append_of_ne ?_
  rcases List.any_eq_true.mp present with ⟨comparison, member, identified⟩
  have conflict := free comparison member
  rw [ComparisonRow.conflicts] at conflict
  rw [← beq_iff_eq.mp identified, conflict, Bool.false_and]

theorem caseOwned_insert {row : EvalCaseRow} {link : EvalSuiteCase} {case : EvalCaseRow}
    (free : ∀ stored ∈ db.evalCases, row.conflicts stored = false)
    (linked : link.caseId = row.id) (member : case ∈ db.evalCases) :
    caseOwned { db with evalSuiteCases := db.evalSuiteCases ++ [link] } organizationId case.id =
      db.caseOwned organizationId case.id := by
  refine any_append_of_ne ?_
  have conflict := free case member
  rw [EvalCaseRow.conflicts] at conflict
  rw [linked, conflict, Bool.false_and]

/-! ## The owners in the organization's rows -/

theorem alone_appOwned :
    (db.alone organizationId).appOwned organizationId = db.appOwned organizationId := by
  funext appId
  exact any_filter_own

theorem alone_suiteOwned :
    (db.alone organizationId).suiteOwned organizationId = db.suiteOwned organizationId := by
  funext suiteId
  unfold suiteOwned
  rw [alone_appOwned]
  exact any_filter_own

theorem alone_runOwned :
    (db.alone organizationId).runOwned organizationId = db.runOwned organizationId := by
  funext runId
  exact any_filter_own

theorem alone_itemOwned :
    (db.alone organizationId).itemOwned organizationId = db.itemOwned organizationId := by
  funext itemId
  unfold itemOwned
  rw [alone_runOwned]
  exact any_filter_own

theorem alone_comparisonOwned :
    (db.alone organizationId).comparisonOwned organizationId =
      db.comparisonOwned organizationId := by
  funext comparisonId
  exact any_filter_own

/-! ## Lookups in the organization's rows -/

theorem alone_app? {appId : String} {app : App} (found : db.app? appId = some app)
    (own : app.organizationId = organizationId) :
    (db.alone organizationId).app? appId = some app :=
  find?_filter_of_some found (by rw [own, beq_self_eq_true, beq_self_eq_true])

theorem alone_version? {versionId : String} {version : AppVersionRow}
    (found : db.version? versionId = some version)
    (own : db.appOwned organizationId version.appId = true) :
    (db.alone organizationId).version? versionId = some version :=
  find?_filter_of_some found (by rw [own, beq_self_eq_true])

theorem alone_suite? {suiteId : String} {suite : EvalSuiteRow}
    (found : db.suite? suiteId = some suite)
    (own : db.appOwned organizationId suite.appId = true) :
    (db.alone organizationId).suite? suiteId = some suite :=
  find?_filter_of_some found (by rw [own, beq_self_eq_true])

theorem alone_evaluatorConfig? {configId : String} {config : EvaluatorConfigRow}
    (found : db.evaluatorConfig? configId = some config)
    (own : config.organizationId = organizationId) :
    (db.alone organizationId).evaluatorConfig? configId = some config :=
  find?_filter_of_some found (by rw [own, beq_self_eq_true, beq_self_eq_true])

theorem alone_run? {runId : String} {run : EvalRunRow} (found : db.run? runId = some run)
    (own : run.organizationId = organizationId) :
    (db.alone organizationId).run? runId = some run :=
  find?_filter_of_some found (by rw [own, beq_self_eq_true, beq_self_eq_true])

theorem alone_gateRule? {gateRuleId : String} {gateRule : GateRuleRow}
    (found : db.gateRule? gateRuleId = some gateRule)
    (own : gateRule.organizationId = organizationId) :
    (db.alone organizationId).gateRule? gateRuleId = some gateRule :=
  find?_filter_of_some found (by rw [own, beq_self_eq_true, beq_self_eq_true])

theorem alone_case? {caseId : String} (own : db.caseOwned organizationId caseId = true) :
    (db.alone organizationId).case? caseId = db.case? caseId :=
  find?_filter_below own

theorem alone_hasCase {caseId : String} (own : db.caseOwned organizationId caseId = true) :
    (db.alone organizationId).hasCase caseId = db.hasCase caseId :=
  any_filter_below own

/-! ## What a consistent row refers to -/

theorem appOwned_of_app? {appId : String} {app : App} (found : db.app? appId = some app)
    (own : app.organizationId = organizationId) : db.appOwned organizationId appId = true := by
  have identified := List.find?_some found
  refine List.any_eq_true.mpr ⟨app, List.mem_of_find?_eq_some found, ?_⟩
  rw [identified, own, beq_self_eq_true, Bool.and_self]

theorem suiteOwned_of_suite? {suiteId : String} {suite : EvalSuiteRow}
    (found : db.suite? suiteId = some suite)
    (own : db.appOwned organizationId suite.appId = true) :
    db.suiteOwned organizationId suiteId = true := by
  have identified := List.find?_some found
  refine List.any_eq_true.mpr ⟨suite, List.mem_of_find?_eq_some found, ?_⟩
  rw [identified, own, Bool.and_self]

theorem RunConsistent.owned {run : EvalRunRow} (consistent : db.RunConsistent run)
    (own : run.organizationId = organizationId) :
    ∃ version suite app config,
      db.version? run.appVersionId = some version ∧ db.suite? run.suiteId = some suite ∧
      db.evaluatorConfig? run.evaluatorConfigId = some config ∧
      db.app? version.appId = some app ∧ app.organizationId = organizationId ∧
      db.appOwned organizationId version.appId = true ∧
      db.appOwned organizationId suite.appId = true ∧ config.organizationId = organizationId ∧
      suite.appId = version.appId := by
  rcases consistent with ⟨version, suite, app, config, versioned, suited, configured, found,
    sameApp, ofApp, ofConfig⟩
  have owned := appOwned_of_app? found (ofApp.trans own)
  exact ⟨version, suite, app, config, versioned, suited, configured, found, ofApp.trans own,
    owned, sameApp ▸ owned, ofConfig.trans own, sameApp⟩

theorem ItemConsistent.caseOwned {item : EvalRunItem} (consistent : db.Consistent)
    (itemConsistent : db.ItemConsistent item)
    (own : db.runOwned organizationId item.runId = true) :
    db.caseOwned organizationId item.caseId = true := by
  rcases itemConsistent with ⟨run, found, link, member, ofSuite, ofCase⟩
  rcases List.any_eq_true.mp own with ⟨stored, storedMember, selected⟩
  rw [Bool.and_eq_true, beq_iff_eq, beq_iff_eq] at selected
  have storedFound : db.run? item.runId = some stored :=
    consistent.keyed.evalRuns.find?_eq_some storedMember (beq_iff_eq.mpr selected.1)
      fun other same => by simp [EvalRunRow.conflicts, selected.1, beq_iff_eq.mp same]
  cases found.symm.trans storedFound
  rcases (consistent.refer.evalRuns run storedMember).owned selected.2 with
    ⟨_, suite, _, _, -, suited, -, -, -, -, ownSuite, -, -⟩
  refine List.any_eq_true.mpr ⟨link, member, ?_⟩
  rw [ofSuite, ofCase, beq_self_eq_true, suiteOwned_of_suite? suited ownSuite, Bool.and_self]

/-! ## References in the organization's rows -/

theorem alone_hasOrganization :
    (db.alone organizationId).hasOrganization organizationId = true :=
  List.any_eq_true.mpr ⟨_, List.mem_cons_self, beq_self_eq_true organizationId⟩

theorem hasApp_of_owned {appId : String} (own : db.appOwned organizationId appId = true) :
    db.hasApp appId = true := any_of_any_and own

theorem hasSuite_of_owned {suiteId : String} (own : db.suiteOwned organizationId suiteId = true) :
    db.hasSuite suiteId = true := any_of_any_and own

theorem hasRun_of_owned {runId : String} (own : db.runOwned organizationId runId = true) :
    db.hasRun runId = true := any_of_any_and own

theorem hasItem_of_owned {itemId : String} (own : db.itemOwned organizationId itemId = true) :
    db.hasItem itemId = true := any_of_any_and own

theorem hasComparison_of_owned {comparisonId : String}
    (own : db.comparisonOwned organizationId comparisonId = true) :
    db.hasComparison comparisonId = true := any_of_any_and own

theorem RunConsistent.references {run : EvalRunRow} (consistent : db.RunConsistent run)
    (present : db.hasOrganization run.organizationId = true) :
    (db.hasOrganization run.organizationId && db.hasVersion run.appVersionId &&
      db.hasSuite run.suiteId && db.hasEvaluatorConfig run.evaluatorConfigId) = true := by
  rcases consistent with ⟨version, suite, app, config, versioned, suited, configured, -⟩
  have hasVersion : db.hasVersion run.appVersionId = true := any_of_find? versioned
  have hasSuite : db.hasSuite run.suiteId = true := any_of_find? suited
  have hasConfig : db.hasEvaluatorConfig run.evaluatorConfigId = true := any_of_find? configured
  rw [present, hasVersion, hasSuite, hasConfig]
  rfl

theorem RunConsistent.alone {run : EvalRunRow} (consistent : db.RunConsistent run)
    (own : run.organizationId = organizationId) :
    (db.alone organizationId).RunConsistent run := by
  rcases consistent.owned own with ⟨version, suite, app, config, versioned, suited, configured,
    found, ofApp, ownVersion, ownSuite, ofConfig, sameApp⟩
  exact ⟨version, suite, app, config, alone_version? versioned ownVersion,
    alone_suite? suited ownSuite, alone_evaluatorConfig? configured ofConfig,
    alone_app? found ofApp, sameApp, ofApp.trans own.symm, ofConfig.trans own.symm⟩

theorem comparison_references {comparison : ComparisonRow} {baseline candidate : EvalRunRow}
    {gateRule : GateRuleRow} (present : db.hasOrganization comparison.organizationId = true)
    (baselineFound : db.run? comparison.baselineRunId = some baseline)
    (candidateFound : db.run? comparison.candidateRunId = some candidate)
    (ruled : db.gateRule? comparison.gateRulesId = some gateRule) :
    (db.hasOrganization comparison.organizationId && db.hasRun comparison.baselineRunId &&
      db.hasRun comparison.candidateRunId && db.hasGateRule comparison.gateRulesId) = true := by
  have hasBaseline : db.hasRun comparison.baselineRunId = true := any_of_find? baselineFound
  have hasCandidate : db.hasRun comparison.candidateRunId = true := any_of_find? candidateFound
  have hasRule : db.hasGateRule comparison.gateRulesId = true := any_of_find? ruled
  rw [present, hasBaseline, hasCandidate, hasRule]
  rfl

end

end Database

end EvalForge
