import EvalForge.Db.TenantView
import EvalForge.Services.DashboardAggregation

/-! # Queries for one organization

What the handlers select for an organization they find among its rows alone.
Below a row of the organization nothing else is reached, because the rows are
consistent.
-/

namespace EvalForge

open Foundation

namespace Database

section

variable {organizationId : String} {db : Database}

/-! ## By the organization -/

theorem alone_appsOf : (db.alone organizationId).appsOf organizationId =
    db.appsOf organizationId :=
  filter_filter_own

theorem alone_tenantApp (appId : String) :
    (db.alone organizationId).tenantApp organizationId appId =
      db.tenantApp organizationId appId :=
  find?_filter_own

theorem alone_tenantVersion (versionId : String) :
    (db.alone organizationId).tenantVersion organizationId versionId =
      db.tenantVersion organizationId versionId := by
  unfold tenantVersion
  rw [alone_appOwned]
  exact find?_filter_own

theorem alone_tenantSuite (suiteId : String) :
    (db.alone organizationId).tenantSuite organizationId suiteId =
      db.tenantSuite organizationId suiteId := by
  unfold tenantSuite
  rw [alone_appOwned]
  exact find?_filter_own

theorem alone_evaluatorConfigsOf :
    (db.alone organizationId).evaluatorConfigsOf organizationId =
      db.evaluatorConfigsOf organizationId :=
  filter_filter_own

theorem alone_tenantEvaluatorConfig (configId : String) :
    (db.alone organizationId).tenantEvaluatorConfig organizationId configId =
      db.tenantEvaluatorConfig organizationId configId :=
  find?_filter_own

theorem alone_gateRulesOf : (db.alone organizationId).gateRulesOf organizationId =
    db.gateRulesOf organizationId :=
  filter_filter_own

theorem alone_tenantGateRule (ruleId : String) :
    (db.alone organizationId).tenantGateRule organizationId ruleId =
      db.tenantGateRule organizationId ruleId :=
  find?_filter_own

theorem alone_runsOf : (db.alone organizationId).runsOf organizationId =
    db.runsOf organizationId :=
  filter_filter_own

theorem alone_tenantRun (runId : String) :
    (db.alone organizationId).tenantRun organizationId runId =
      db.tenantRun organizationId runId :=
  find?_filter_own

theorem alone_comparisonsOf : (db.alone organizationId).comparisonsOf organizationId =
    db.comparisonsOf organizationId :=
  filter_filter_own

theorem alone_tenantComparison (comparisonId : String) :
    (db.alone organizationId).tenantComparison organizationId comparisonId =
      db.tenantComparison organizationId comparisonId :=
  find?_filter_own

/-! ## Below a row of the organization -/

theorem alone_versionsOf {appId : String} (own : db.appOwned organizationId appId = true) :
    (db.alone organizationId).versionsOf appId = db.versionsOf appId :=
  filter_filter_below own

theorem alone_suitesOf {appId : String} (own : db.appOwned organizationId appId = true) :
    (db.alone organizationId).suitesOf appId = db.suitesOf appId :=
  filter_filter_below own

theorem alone_itemsOf {runId : String} (own : db.runOwned organizationId runId = true) :
    (db.alone organizationId).itemsOf runId = db.itemsOf runId :=
  filter_filter_below own

theorem alone_resultsOf {itemId : String} (own : db.itemOwned organizationId itemId = true) :
    (db.alone organizationId).resultsOf itemId = db.resultsOf itemId :=
  filter_filter_below own

theorem alone_traceOf {itemId : String} (own : db.itemOwned organizationId itemId = true) :
    (db.alone organizationId).traceOf itemId = db.traceOf itemId :=
  find?_filter_below own

theorem alone_reportOf {comparisonId : String}
    (own : db.comparisonOwned organizationId comparisonId = true) :
    (db.alone organizationId).reportOf comparisonId = db.reportOf comparisonId :=
  find?_filter_below own

theorem alone_casesOf {suiteId : String} (own : db.suiteOwned organizationId suiteId = true) :
    (db.alone organizationId).casesOf suiteId = db.casesOf suiteId := by
  have links (case : EvalCaseRow) :
      ((db.alone organizationId).evalSuiteCases.any fun link =>
        link.caseId == case.id && link.suiteId == suiteId) =
        db.evalSuiteCases.any fun link => link.caseId == case.id && link.suiteId == suiteId := by
    refine any_filter_of_imp fun link _ chosen => ?_
    rw [Bool.and_eq_true, beq_iff_eq, beq_iff_eq] at chosen
    rw [chosen.2, own, beq_self_eq_true]
  simp only [casesOf, links]
  refine filter_filter_of_imp fun case _ chosen => ?_
  have owned : db.caseOwned organizationId case.id = true := by
    rcases List.any_eq_true.mp chosen with ⟨link, member, linked⟩
    rw [Bool.and_eq_true, beq_iff_eq, beq_iff_eq] at linked
    exact List.any_eq_true.mpr ⟨link, member, by
      rw [linked.1, linked.2, own, beq_self_eq_true, Bool.and_self]⟩
  rw [owned, beq_self_eq_true]

/-! ## The owners of selected rows -/

theorem itemOwned_of_mem {runId : String} {item : EvalRunItem}
    (own : db.runOwned organizationId runId = true) (member : item ∈ db.itemsOf runId) :
    db.itemOwned organizationId item.id = true := by
  rcases List.mem_filter.mp member with ⟨stored, ofRun⟩
  refine List.any_eq_true.mpr ⟨item, stored, ?_⟩
  rw [beq_self_eq_true, beq_iff_eq.mp ofRun, own, Bool.and_self]

/-! ## The items of a run -/

theorem alone_itemRecords {runId : String} (own : db.runOwned organizationId runId = true) :
    (db.alone organizationId).itemRecords runId = db.itemRecords runId := by
  unfold itemRecords
  rw [alone_itemsOf own]
  refine List.map_congr_left fun item member => ?_
  rw [alone_resultsOf (itemOwned_of_mem own member)]

theorem alone_caseIdsOf {runId : String} (own : db.runOwned organizationId runId = true) :
    (db.alone organizationId).caseIdsOf runId = db.caseIdsOf runId := by
  unfold caseIdsOf
  rw [alone_itemsOf own]

theorem alone_itemRows {item : EvalRunItem} (consistent : db.Consistent)
    (own : db.runOwned organizationId item.runId = true) (member : item ∈ db.evalRunItems) :
    (db.alone organizationId).itemRows item = db.itemRows item := by
  have ownItem : db.itemOwned organizationId item.id = true :=
    List.any_eq_true.mpr ⟨item, member, by rw [beq_self_eq_true, own, Bool.and_self]⟩
  have ownCase := (consistent.refer.evalRunItems item member).caseOwned consistent own
  simp only [itemRows, alone_resultsOf ownItem, alone_traceOf ownItem, alone_case? ownCase]

theorem alone_runRows {run : EvalRunRow} (consistent : db.Consistent) (member : run ∈ db.evalRuns)
    (own : run.organizationId = organizationId) :
    (db.alone organizationId).runRows run = db.runRows run := by
  rcases (consistent.refer.evalRuns run member).owned own with
    ⟨version, suite, _, _, versioned, suited, -, -, -, ownVersion, ownSuite, -, -⟩
  have ownRun : db.runOwned organizationId run.id = true :=
    List.any_eq_true.mpr ⟨run, member, by
      rw [beq_self_eq_true, own, beq_self_eq_true, Bool.and_self]⟩
  have items : ((db.alone organizationId).itemsOf run.id).map (db.alone organizationId).itemRows =
      (db.itemsOf run.id).map db.itemRows := by
    rw [alone_itemsOf ownRun]
    refine List.map_congr_left fun item itemMember => ?_
    rcases List.mem_filter.mp itemMember with ⟨stored, ofRun⟩
    exact alone_itemRows consistent (by rw [beq_iff_eq.mp ofRun, ownRun]) stored
  simp only [runRows, items, alone_version? versioned ownVersion, versioned,
    alone_suite? suited ownSuite, suited]

/-! ## The rows of the dashboard -/

theorem alone_loadComparison (comparisonId : Option String) :
    (db.alone organizationId).loadComparison organizationId comparisonId =
      db.loadComparison organizationId comparisonId := by
  cases comparisonId with
  | some comparisonId => exact alone_tenantComparison comparisonId
  | none => simp only [loadComparison, alone_comparisonsOf]

theorem loadComparison_some {comparisonId : Option String} {comparison : ComparisonRow}
    (loaded : db.loadComparison organizationId comparisonId = some comparison) :
    comparison ∈ db.comparisons ∧ comparison.organizationId = organizationId := by
  cases comparisonId with
  | some comparisonId =>
      have selected := List.find?_some loaded
      rw [Bool.and_eq_true, beq_iff_eq, beq_iff_eq] at selected
      exact ⟨List.mem_of_find?_eq_some loaded, selected.2⟩
  | none =>
      have paged := List.mem_of_mem_head? loaded
      have sorted := List.mem_of_mem_drop (List.mem_of_mem_take paged)
      rw [List.mem_insertionSort] at sorted
      have owned := (List.mem_filter.mp sorted).1
      rcases List.mem_filter.mp owned with ⟨member, selected⟩
      exact ⟨member, beq_iff_eq.mp selected⟩

theorem alone_loadDashboard (consistent : db.Consistent) (comparisonId : Option String) :
    (db.alone organizationId).loadDashboard organizationId comparisonId =
      db.loadDashboard organizationId comparisonId := by
  unfold loadDashboard
  rw [alone_loadComparison]
  cases loaded : db.loadComparison organizationId comparisonId with
  | none => rfl
  | some comparison =>
      rcases loadComparison_some loaded with ⟨member, own⟩
      have ownComparison : db.comparisonOwned organizationId comparison.id = true :=
        List.any_eq_true.mpr ⟨comparison, member, by
          rw [beq_self_eq_true, own, beq_self_eq_true, Bool.and_self]⟩
      rcases consistent.refer.comparisons comparison member with
        ⟨baseline, candidate, _, _, gateRule, baselineFound, candidateFound, ruled, ofBaseline,
          ofCandidate, ofRule, -⟩
      have candidateMember := List.mem_of_find?_eq_some candidateFound
      rcases (consistent.refer.evalRuns candidate candidateMember).owned
        (ofCandidate.trans own) with ⟨version, _, app, _, versioned, -, -, found, ofApp,
          ownVersion, -⟩
      simp only [alone_reportOf ownComparison,
        alone_run? baselineFound (ofBaseline.trans own), baselineFound,
        alone_run? candidateFound (ofCandidate.trans own), candidateFound,
        alone_gateRule? ruled (ofRule.trans own), ruled,
        alone_runRows consistent (List.mem_of_find?_eq_some baselineFound)
          (ofBaseline.trans own),
        alone_runRows consistent candidateMember (ofCandidate.trans own),
        alone_version? versioned ownVersion, versioned, alone_app? found ofApp, found,
        Option.bind_eq_bind, Option.bind_some]

end

end Database

end EvalForge
