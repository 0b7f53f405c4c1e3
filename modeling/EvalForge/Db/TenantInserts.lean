import EvalForge.Db.TenantView

/-! # Inserts into the rows of one organization

An admissible insert whose id no other organization uses does to the
organization's rows what it does to the database, and leaves the others.
-/

namespace EvalForge

open Foundation

namespace Database

section

variable {organizationId : String} {mine : Bool} {db next : Database}

/-! ## Inserts into a part -/

theorem filter_append_own {Row : Type} {row : Row} (mine : Bool) (table : List Row)
    (owned : Row → Bool) (own : owned row = true) :
    (table ++ [row]).filter (fun stored => owned stored == mine) =
      table.filter (fun stored => owned stored == mine) ++ if mine then [row] else [] := by
  rw [List.filter_append]
  cases mine <;> simp [own]

theorem part_insertApp {row : App} (consistent : db.Consistent)
    (own : row.organizationId = organizationId)
    (free : ∀ stored ∈ db.apps, row.conflicts stored = false) :
    part organizationId mine { db with apps := db.apps ++ [row] } =
      { db.part organizationId mine with
        apps := (db.part organizationId mine).apps ++ if mine then [row] else [] } := by
  have suiteOwned (suiteId : String) :
      Database.suiteOwned { db with apps := db.apps ++ [row] } organizationId suiteId =
        db.suiteOwned organizationId suiteId := by
    refine any_congr_of_mem fun suite member => ?_
    rw [appOwned_insert free (consistent.refer.evalSuites suite member)]
  have caseOwned (caseId : String) :
      Database.caseOwned { db with apps := db.apps ++ [row] } organizationId caseId =
        db.caseOwned organizationId caseId := by
    refine any_congr_of_mem fun link member => ?_
    rw [suiteOwned]
  have same : SameOwners organizationId db { db with apps := db.apps ++ [row] }
      { db with apps := db.apps ++ [row] } :=
    { SameOwners.refl organizationId db db with
      appVersions := fun version member =>
        appOwned_insert free (consistent.refer.appVersions version member)
      evalSuites := fun suite member =>
        appOwned_insert free (consistent.refer.evalSuites suite member)
      evalCases := fun case _ => caseOwned case.id
      evalSuiteCases := fun link _ => suiteOwned link.suiteId }
  refine (select_congr same).trans ?_
  exact congrArg (fun apps => { db.part organizationId mine with apps })
    (filter_append_own mine db.apps (fun app => app.organizationId == organizationId)
      (beq_iff_eq.mpr own))

theorem part_insertVersion {row : AppVersionRow}
    (own : db.appOwned organizationId row.appId = true) :
    part organizationId mine { db with appVersions := db.appVersions ++ [row] } =
      { db.part organizationId mine with
        appVersions :=
          (db.part organizationId mine).appVersions ++ if mine then [row] else [] } :=
  congrArg (fun appVersions => { db.part organizationId mine with appVersions })
    (filter_append_own mine db.appVersions
      (fun version => db.appOwned organizationId version.appId) own)

theorem part_insertSuite {row : EvalSuiteRow} (consistent : db.Consistent)
    (own : db.appOwned organizationId row.appId = true)
    (free : ∀ stored ∈ db.evalSuites, row.conflicts stored = false) :
    part organizationId mine { db with evalSuites := db.evalSuites ++ [row] } =
      { db.part organizationId mine with
        evalSuites := (db.part organizationId mine).evalSuites ++ if mine then [row] else [] } := by
  have caseOwned (caseId : String) :
      Database.caseOwned { db with evalSuites := db.evalSuites ++ [row] } organizationId caseId =
        db.caseOwned organizationId caseId := by
    refine any_congr_of_mem fun link member => ?_
    rw [suiteOwned_insert free (consistent.refer.evalSuiteCases link member)]
  have same : SameOwners organizationId db { db with evalSuites := db.evalSuites ++ [row] }
      { db with evalSuites := db.evalSuites ++ [row] } :=
    { SameOwners.refl organizationId db { db with evalSuites := db.evalSuites ++ [row] } with
      evalCases := fun case _ => caseOwned case.id
      evalSuiteCases := fun link member =>
        suiteOwned_insert free (consistent.refer.evalSuiteCases link member) }
  refine (select_congr same).trans ?_
  exact congrArg (fun evalSuites => { db.part organizationId mine with evalSuites })
    (filter_append_own mine db.evalSuites (fun suite => db.appOwned organizationId suite.appId) own)

theorem part_insertLinkedCase {row : EvalCaseRow} {link : EvalSuiteCase}
    (linked : link.caseId = row.id) (own : db.suiteOwned organizationId link.suiteId = true)
    (free : ∀ stored ∈ db.evalCases, row.conflicts stored = false) :
    part organizationId mine { db with
      evalCases := db.evalCases ++ [row], evalSuiteCases := db.evalSuiteCases ++ [link] } =
      { db.part organizationId mine with
        evalCases := (db.part organizationId mine).evalCases ++ if mine then [row] else []
        evalSuiteCases :=
          (db.part organizationId mine).evalSuiteCases ++ if mine then [link] else [] } := by
  have caseOwned (case : EvalCaseRow) (member : case ∈ db.evalCases) :
      Database.caseOwned { db with
        evalCases := db.evalCases ++ [row], evalSuiteCases := db.evalSuiteCases ++ [link] }
        organizationId case.id = db.caseOwned organizationId case.id :=
    caseOwned_insert free linked member
  -- The new case is owned through its own link.
  have ownCase : Database.caseOwned { db with
      evalCases := db.evalCases ++ [row], evalSuiteCases := db.evalSuiteCases ++ [link] }
      organizationId row.id = true := by
    refine List.any_eq_true.mpr ⟨link, List.mem_append_right _ List.mem_cons_self, ?_⟩
    rw [Bool.and_eq_true, beq_iff_eq]
    exact ⟨linked, own⟩
  have cases := (filter_append_own mine db.evalCases (fun case => Database.caseOwned { db with
      evalCases := db.evalCases ++ [row], evalSuiteCases := db.evalSuiteCases ++ [link] }
      organizationId case.id) ownCase).trans
    (congrArg (· ++ if mine then [row] else [])
      (List.filter_congr fun case member => by rw [caseOwned case member]))
  have links := filter_append_own mine db.evalSuiteCases
    (fun link => db.suiteOwned organizationId link.suiteId) own
  exact congrArg₂ (fun evalCases evalSuiteCases =>
    { db.part organizationId mine with evalCases, evalSuiteCases }) cases links

theorem part_insertEvaluatorConfig {row : EvaluatorConfigRow}
    (own : row.organizationId = organizationId) :
    part organizationId mine { db with evaluatorConfigs := db.evaluatorConfigs ++ [row] } =
      { db.part organizationId mine with
        evaluatorConfigs :=
          (db.part organizationId mine).evaluatorConfigs ++ if mine then [row] else [] } :=
  congrArg (fun evaluatorConfigs => { db.part organizationId mine with evaluatorConfigs })
    (filter_append_own mine db.evaluatorConfigs
      (fun config => config.organizationId == organizationId) (beq_iff_eq.mpr own))

theorem part_insertGateRule {row : GateRuleRow} (own : row.organizationId = organizationId) :
    part organizationId mine { db with gateRules := db.gateRules ++ [row] } =
      { db.part organizationId mine with
        gateRules := (db.part organizationId mine).gateRules ++ if mine then [row] else [] } :=
  congrArg (fun gateRules => { db.part organizationId mine with gateRules })
    (filter_append_own mine db.gateRules (fun gateRule => gateRule.organizationId == organizationId)
      (beq_iff_eq.mpr own))

theorem part_insertRun {row : EvalRunRow} (consistent : db.Consistent)
    (own : row.organizationId = organizationId)
    (free : ∀ stored ∈ db.evalRuns, row.conflicts stored = false) :
    part organizationId mine { db with evalRuns := db.evalRuns ++ [row] } =
      { db.part organizationId mine with
        evalRuns := (db.part organizationId mine).evalRuns ++ if mine then [row] else [] } := by
  have runOwned (item : EvalRunItem) (member : item ∈ db.evalRunItems) :
      Database.runOwned { db with evalRuns := db.evalRuns ++ [row] } organizationId item.runId =
        db.runOwned organizationId item.runId := by
    rcases consistent.refer.evalRunItems item member with ⟨run, found, -⟩
    exact runOwned_insert free found
  have itemOwned (itemId : String) :
      Database.itemOwned { db with evalRuns := db.evalRuns ++ [row] } organizationId itemId =
        db.itemOwned organizationId itemId := by
    refine any_congr_of_mem fun item member => ?_
    rw [runOwned item member]
  have same : SameOwners organizationId db { db with evalRuns := db.evalRuns ++ [row] }
      { db with evalRuns := db.evalRuns ++ [row] } :=
    { SameOwners.refl organizationId db { db with evalRuns := db.evalRuns ++ [row] } with
      evalRunItems := runOwned
      traces := fun trace _ => itemOwned trace.runItemId
      evalResults := fun result _ => itemOwned result.runItemId }
  refine (select_congr same).trans ?_
  exact congrArg (fun evalRuns => { db.part organizationId mine with evalRuns })
    (filter_append_own mine db.evalRuns (fun run => run.organizationId == organizationId)
      (beq_iff_eq.mpr own))

theorem part_insertItem {row : EvalRunItem} (consistent : db.Consistent)
    (own : db.runOwned organizationId row.runId = true)
    (free : ∀ stored ∈ db.evalRunItems, row.conflicts stored = false) :
    part organizationId mine { db with evalRunItems := db.evalRunItems ++ [row] } =
      { db.part organizationId mine with
        evalRunItems :=
          (db.part organizationId mine).evalRunItems ++ if mine then [row] else [] } := by
  have same : SameOwners organizationId db { db with evalRunItems := db.evalRunItems ++ [row] }
      { db with evalRunItems := db.evalRunItems ++ [row] } :=
    { SameOwners.refl organizationId db
        { db with evalRunItems := db.evalRunItems ++ [row] } with
      traces := fun trace member =>
        itemOwned_insert free (consistent.refer.traces trace member)
      evalResults := fun result member =>
        itemOwned_insert free (consistent.refer.evalResults result member) }
  refine (select_congr same).trans ?_
  exact congrArg (fun evalRunItems => { db.part organizationId mine with evalRunItems })
    (filter_append_own mine db.evalRunItems (fun item => db.runOwned organizationId item.runId) own)

theorem part_insertTrace {row : TraceRow}
    (own : db.itemOwned organizationId row.runItemId = true) :
    part organizationId mine { db with traces := db.traces ++ [row] } =
      { db.part organizationId mine with
        traces := (db.part organizationId mine).traces ++ if mine then [row] else [] } :=
  congrArg (fun traces => { db.part organizationId mine with traces })
    (filter_append_own mine db.traces
      (fun trace => db.itemOwned organizationId trace.runItemId) own)

theorem part_insertResult {row : EvalResultRow}
    (own : db.itemOwned organizationId row.runItemId = true) :
    part organizationId mine { db with evalResults := db.evalResults ++ [row] } =
      { db.part organizationId mine with
        evalResults :=
          (db.part organizationId mine).evalResults ++ if mine then [row] else [] } :=
  congrArg (fun evalResults => { db.part organizationId mine with evalResults })
    (filter_append_own mine db.evalResults
      (fun result => db.itemOwned organizationId result.runItemId) own)

theorem part_insertComparison {row : ComparisonRow} (consistent : db.Consistent)
    (own : row.organizationId = organizationId)
    (free : ∀ stored ∈ db.comparisons, row.conflicts stored = false) :
    part organizationId mine { db with comparisons := db.comparisons ++ [row] } =
      { db.part organizationId mine with
        comparisons :=
          (db.part organizationId mine).comparisons ++ if mine then [row] else [] } := by
  have same : SameOwners organizationId db { db with comparisons := db.comparisons ++ [row] }
      { db with comparisons := db.comparisons ++ [row] } :=
    { SameOwners.refl organizationId db { db with comparisons := db.comparisons ++ [row] } with
      regressionReports := fun report member =>
        comparisonOwned_insert free (consistent.refer.regressionReports report member) }
  refine (select_congr same).trans ?_
  exact congrArg (fun comparisons => { db.part organizationId mine with comparisons })
    (filter_append_own mine db.comparisons
      (fun comparison => comparison.organizationId == organizationId) (beq_iff_eq.mpr own))

theorem part_insertReport {row : RegressionReport}
    (own : db.comparisonOwned organizationId row.comparisonId = true) :
    part organizationId mine { db with regressionReports := db.regressionReports ++ [row] } =
      { db.part organizationId mine with
        regressionReports :=
          (db.part organizationId mine).regressionReports ++ if mine then [row] else [] } :=
  congrArg (fun regressionReports => { db.part organizationId mine with regressionReports })
    (filter_append_own mine db.regressionReports
      (fun report => db.comparisonOwned organizationId report.comparisonId) own)

end

/-! ## Statements -/

section

variable {organizationId : String} {db next : Database}

theorem alone_insert {Row : Type} {conflicts : Row → Row → Bool} {row : Row} {table : List Row}
    {referenced ownReferenced : Bool} {set setOwn : List Row → Database}
    (owned : Row → Bool) (own : owned row = true) (sameReferences : ownReferenced = referenced)
    (apart : ∀ stored ∈ table, owned stored = false → conflicts row stored = false)
    (views : (∀ stored ∈ table, conflicts row stored = false) →
      (set (table ++ [row])).alone organizationId =
        setOwn (table.filter (fun stored => owned stored == true) ++ [row])) :
    ((insertReferencing ownReferenced conflicts row
        (table.filter fun stored => owned stored == true)).bind fun rows => some (setOwn rows)) =
      ((insertReferencing referenced conflicts row table).bind fun rows => some (set rows)).map
        (·.alone organizationId) := by
  have keptRow : (owned row == true) = true := by rw [own, beq_self_eq_true]
  have clear : ∀ stored ∈ table, (owned stored == true) = false →
      conflicts row stored = false := by
    intro stored member other
    rw [beq_true] at other
    exact apart stored member other
  have inserted : insertReferencing referenced conflicts row
      (table.filter fun stored => owned stored == true) =
      (insertReferencing referenced conflicts row table).map
        (·.filter fun stored => owned stored == true) :=
    insertReferencing_filter referenced keptRow clear
  rw [sameReferences, inserted]
  cases insertion : insertReferencing referenced conflicts row table with
  | none => rfl
  | some rows =>
      rcases insertReferencing_eq_some_iff.mp insertion with ⟨-, free, rfl⟩
      have filtered : (table ++ [row]).filter (fun stored => owned stored == true) =
          table.filter (fun stored => owned stored == true) ++ [row] :=
        filter_append_own true table owned own
      simp only [Option.map_some, Option.bind_some, filtered, views free]

theorem mem_others {Row : Type} {table : List Row} {owned : Row → Bool} {stored : Row}
    (member : stored ∈ table) (other : owned stored = false) :
    stored ∈ table.filter fun row => owned row == false :=
  List.mem_filter.mpr ⟨member, by rw [other, beq_self_eq_true]⟩

theorem beq_id_eq_false {Row : Type} {id : Row → String} {table : List Row}
    {owned : Row → Bool} {row stored : Row}
    (unused : ∀ other ∈ table.filter fun row => owned row == false, id other ≠ id row)
    (member : stored ∈ table) (other : owned stored = false) : (id row == id stored) = false :=
  beq_eq_false_iff_ne.mpr (unused stored (mem_others member other)).symm

theorem beq_owner_eq_false {owned : String → Bool} {reference other : String}
    (own : owned reference = true) (notOwned : owned other = false) :
    (reference == other) = false := by
  rw [beq_eq_false_iff_ne]
  intro same
  rw [← same, own] at notOwned
  cases notOwned

structure TakesInsert (organizationId : String) (db : Database) (write : Write) : Prop where
  consistent : db.Consistent
  present : db.hasOrganization organizationId = true
  admissible : write.Admissible organizationId db
  unused : ∀ id, write.newId = some id → (db.part organizationId false).Unused id

theorem alone_of_part {rows : Database}
    (part : next.part organizationId true = rows) :
    next.alone organizationId = { rows with
      organizations := [{ id := organizationId, name := "", slug := "", createdAt := 0 }] } := by
  rw [alone, rowsOf, part]

theorem alone_insertApp {row : App} (takes : TakesInsert organizationId db (.insertApp row)) :
    (db.alone organizationId).apply (.insertApp row) =
      (db.apply (.insertApp row)).map (·.alone organizationId) := by
  have own : row.organizationId = organizationId := takes.admissible
  refine alone_insert (fun app : App => app.organizationId == organizationId)
    (beq_iff_eq.mpr own) ?_ ?_ ?_
  · rw [own, alone_hasOrganization, takes.present]
  · intro stored member other
    have newId := beq_id_eq_false (takes.unused row.id rfl).apps member other
    rw [App.conflicts, newId, own, BEq.comm, other]
    rfl
  · intro free
    exact alone_of_part (part_insertApp takes.consistent own free)

theorem alone_insertVersion {row : AppVersionRow}
    (takes : TakesInsert organizationId db (.insertVersion row)) :
    (db.alone organizationId).apply (.insertVersion row) =
      (db.apply (.insertVersion row)).map (·.alone organizationId) := by
  have own : db.appOwned organizationId row.appId = true := takes.admissible
  refine alone_insert (fun version : AppVersionRow => db.appOwned organizationId version.appId)
    own ?_ ?_ ?_
  · rw [hasApp_of_owned own, hasApp_of_owned (alone_appOwned ▸ own)]
  · intro stored member other
    have newId := beq_id_eq_false (takes.unused row.id rfl).appVersions member other
    rw [AppVersionRow.conflicts, newId, beq_owner_eq_false own other]
    rfl
  · exact fun _ => alone_of_part (part_insertVersion own)

theorem alone_insertSuite {row : EvalSuiteRow}
    (takes : TakesInsert organizationId db (.insertSuite row)) :
    (db.alone organizationId).apply (.insertSuite row) =
      (db.apply (.insertSuite row)).map (·.alone organizationId) := by
  have own : db.appOwned organizationId row.appId = true := takes.admissible
  refine alone_insert (fun suite : EvalSuiteRow => db.appOwned organizationId suite.appId)
    own ?_ ?_ ?_
  · rw [hasApp_of_owned own, hasApp_of_owned (alone_appOwned ▸ own)]
  · intro stored member other
    have newId := beq_id_eq_false (takes.unused row.id rfl).evalSuites member other
    rw [EvalSuiteRow.conflicts, newId, beq_owner_eq_false own other]
    rfl
  · exact fun free => alone_of_part (part_insertSuite takes.consistent own free)

theorem alone_insertEvaluatorConfig {row : EvaluatorConfigRow}
    (takes : TakesInsert organizationId db (.insertEvaluatorConfig row)) :
    (db.alone organizationId).apply (.insertEvaluatorConfig row) =
      (db.apply (.insertEvaluatorConfig row)).map (·.alone organizationId) := by
  have own : row.organizationId = organizationId := takes.admissible
  refine alone_insert
    (fun config : EvaluatorConfigRow => config.organizationId == organizationId)
    (beq_iff_eq.mpr own) ?_ ?_ ?_
  · rw [own, alone_hasOrganization, takes.present]
  · intro stored member other
    have newId := beq_id_eq_false (takes.unused row.id rfl).evaluatorConfigs member other
    rw [EvaluatorConfigRow.conflicts, newId, own, BEq.comm, other]
    rfl
  · exact fun _ => alone_of_part (part_insertEvaluatorConfig own)

theorem alone_insertGateRule {row : GateRuleRow}
    (takes : TakesInsert organizationId db (.insertGateRule row)) :
    (db.alone organizationId).apply (.insertGateRule row) =
      (db.apply (.insertGateRule row)).map (·.alone organizationId) := by
  have own : row.organizationId = organizationId := takes.admissible.1
  refine alone_insert (fun gateRule : GateRuleRow => gateRule.organizationId == organizationId)
    (beq_iff_eq.mpr own) ?_ ?_ ?_
  · rw [own, alone_hasOrganization, takes.present]
  · intro stored member other
    have newId := beq_id_eq_false (takes.unused row.id rfl).gateRules member other
    rw [GateRuleRow.conflicts, newId, own, BEq.comm, other]
    rfl
  · exact fun _ => alone_of_part (part_insertGateRule own)

theorem alone_insertRun {row : EvalRunRow}
    (takes : TakesInsert organizationId db (.insertRun row)) :
    (db.alone organizationId).apply (.insertRun row) =
      (db.apply (.insertRun row)).map (·.alone organizationId) := by
  rcases takes.admissible with ⟨own, runConsistent⟩
  refine alone_insert (fun run : EvalRunRow => run.organizationId == organizationId)
    (beq_iff_eq.mpr own) ?_ ?_ ?_
  · rw [runConsistent.references (own ▸ takes.present),
      (runConsistent.alone own).references (own ▸ alone_hasOrganization)]
  · intro stored member other
    have newId := beq_id_eq_false (takes.unused row.id rfl).evalRuns member other
    exact newId
  · exact fun free => alone_of_part (part_insertRun takes.consistent own free)

theorem alone_insertItem {row : EvalRunItem}
    (takes : TakesInsert organizationId db (.insertItem row)) :
    (db.alone organizationId).apply (.insertItem row) =
      (db.apply (.insertItem row)).map (·.alone organizationId) := by
  rcases takes.admissible with ⟨own, itemConsistent, -⟩
  refine alone_insert (fun item : EvalRunItem => db.runOwned organizationId item.runId)
    own ?_ ?_ ?_
  · rw [hasRun_of_owned own, hasRun_of_owned (alone_runOwned ▸ own),
      alone_hasCase (itemConsistent.caseOwned takes.consistent own)]
  · intro stored member other
    have newId := beq_id_eq_false (takes.unused row.id rfl).evalRunItems member other
    rw [EvalRunItem.conflicts, newId, beq_owner_eq_false own other]
    rfl
  · exact fun free => alone_of_part (part_insertItem takes.consistent own free)

theorem alone_insertTrace {row : TraceRow}
    (takes : TakesInsert organizationId db (.insertTrace row)) :
    (db.alone organizationId).apply (.insertTrace row) =
      (db.apply (.insertTrace row)).map (·.alone organizationId) := by
  have own : db.itemOwned organizationId row.runItemId = true := takes.admissible
  refine alone_insert (fun trace : TraceRow => db.itemOwned organizationId trace.runItemId)
    own ?_ ?_ ?_
  · rw [hasItem_of_owned own, hasItem_of_owned (alone_itemOwned ▸ own)]
  · intro stored member other
    have newId := beq_id_eq_false (takes.unused row.id rfl).traces member other
    rw [TraceRow.conflicts, newId, beq_owner_eq_false own other]
    rfl
  · exact fun _ => alone_of_part (part_insertTrace own)

theorem alone_insertResult {row : EvalResultRow}
    (takes : TakesInsert organizationId db (.insertResult row)) :
    (db.alone organizationId).apply (.insertResult row) =
      (db.apply (.insertResult row)).map (·.alone organizationId) := by
  have own : db.itemOwned organizationId row.runItemId = true := takes.admissible
  refine alone_insert (fun result : EvalResultRow => db.itemOwned organizationId result.runItemId)
    own ?_ ?_ ?_
  · rw [hasItem_of_owned own, hasItem_of_owned (alone_itemOwned ▸ own)]
  · intro stored member other
    have newId := beq_id_eq_false (takes.unused row.id rfl).evalResults member other
    rw [EvalResultRow.conflicts, newId, beq_owner_eq_false own other]
    rfl
  · exact fun _ => alone_of_part (part_insertResult own)

theorem alone_insertComparison {row : ComparisonRow}
    (takes : TakesInsert organizationId db (.insertComparison row)) :
    (db.alone organizationId).apply (.insertComparison row) =
      (db.apply (.insertComparison row)).map (·.alone organizationId) := by
  rcases takes.admissible with ⟨own, baseline, candidate, _, _, gateRule, baselineFound,
    candidateFound, ruled, ofBaseline, ofCandidate, ofRule, -⟩
  refine alone_insert (fun comparison : ComparisonRow =>
    comparison.organizationId == organizationId) (beq_iff_eq.mpr own) ?_ ?_ ?_
  · rw [comparison_references (own ▸ takes.present) baselineFound candidateFound ruled,
      comparison_references (own ▸ alone_hasOrganization)
        (alone_run? baselineFound (ofBaseline.trans own))
        (alone_run? candidateFound (ofCandidate.trans own))
        (alone_gateRule? ruled (ofRule.trans own))]
  · intro stored member other
    have newId := beq_id_eq_false (takes.unused row.id rfl).comparisons member other
    exact newId
  · exact fun free => alone_of_part (part_insertComparison takes.consistent own free)

theorem alone_insertReport {row : RegressionReport}
    (takes : TakesInsert organizationId db (.insertReport row)) :
    (db.alone organizationId).apply (.insertReport row) =
      (db.apply (.insertReport row)).map (·.alone organizationId) := by
  have own : db.comparisonOwned organizationId row.comparisonId = true := takes.admissible
  refine alone_insert (fun report : RegressionReport =>
    db.comparisonOwned organizationId report.comparisonId) own ?_ ?_ ?_
  · rw [hasComparison_of_owned own, hasComparison_of_owned (alone_comparisonOwned ▸ own)]
  · intro stored member other
    have newId := beq_id_eq_false (takes.unused row.id rfl).regressionReports member other
    rw [RegressionReport.conflicts, newId, beq_owner_eq_false own other]
    rfl
  · exact fun _ => alone_of_part (part_insertReport own)

theorem alone_evalCases_any {row : EvalCaseRow} {link : EvalSuiteCase}
    (takes : TakesInsert organizationId db (.insertLinkedCase row link)) :
    (db.alone organizationId).evalCases.any row.conflicts = db.evalCases.any row.conflicts := by
  refine any_filter_of_imp fun stored member conflict => ?_
  rw [beq_true]
  by_contra other
  rw [Bool.not_eq_true] at other
  have newId := beq_id_eq_false (takes.unused row.id rfl).evalCases member other
  rw [EvalCaseRow.conflicts, newId] at conflict
  cases conflict

theorem alone_insertLinkedCase {row : EvalCaseRow} {link : EvalSuiteCase}
    (takes : TakesInsert organizationId db (.insertLinkedCase row link)) :
    (db.alone organizationId).apply (.insertLinkedCase row link) =
      (db.apply (.insertLinkedCase row link)).map (·.alone organizationId) := by
  rcases takes.admissible with ⟨linked, own⟩
  have sameConflicts := alone_evalCases_any takes
  have inserted (rows : List EvalCaseRow) :
      (rows ++ [row]).any (·.id == link.caseId) = true := by
    simp [linked]
  cases conflict : db.evalCases.any row.conflicts with
  | true =>
      simp only [apply, insertUnique_of_conflict conflict,
        insertUnique_of_conflict (sameConflicts.trans conflict)]
      rfl
  | false =>
      simp only [apply, insertUnique_of_free conflict,
        insertUnique_of_free (sameConflicts.trans conflict)]
      refine alone_insert (fun link : EvalSuiteCase =>
        db.suiteOwned organizationId link.suiteId) own ?_ ?_ ?_
      · rw [hasSuite_of_owned own, hasSuite_of_owned (alone_suiteOwned ▸ own), inserted, inserted]
      · intro stored _ other
        rw [EvalSuiteCase.conflicts, beq_owner_eq_false own other]
        rfl
      · intro _
        have free := (insertUnique_eq_some_iff.mp (insertUnique_of_free conflict)).1
        exact alone_of_part (part_insertLinkedCase linked own free)

theorem alone_apply {write : Write} (takes : TakesInsert organizationId db write) :
    (db.alone organizationId).apply write =
      (db.apply write).map (·.alone organizationId) := by
  cases write with
  | insertApp row => exact alone_insertApp takes
  | insertVersion row => exact alone_insertVersion takes
  | insertSuite row => exact alone_insertSuite takes
  | insertLinkedCase row link => exact alone_insertLinkedCase takes
  | insertEvaluatorConfig row => exact alone_insertEvaluatorConfig takes
  | insertGateRule row => exact alone_insertGateRule takes
  | insertRun row => exact alone_insertRun takes
  | insertItem row => exact alone_insertItem takes
  | insertTrace row => exact alone_insertTrace takes
  | insertResult row => exact alone_insertResult takes
  | insertComparison row => exact alone_insertComparison takes
  | insertReport row => exact alone_insertReport takes
  | _ => exact takes.admissible.elim

theorem append_other {Row : Type} (rows : List Row) (row : Row) :
    (rows ++ if false = true then [row] else []) = rows := by
  rw [if_neg Bool.false_ne_true, List.append_nil]

theorem others_apply {write : Write} (consistent : db.Consistent)
    (admissible : write.Admissible organizationId db) (applied : db.apply write = some next) :
    next.part organizationId false = db.part organizationId false := by
  cases write with
  | insertApp row =>
      rcases apply_insertApp applied with ⟨-, free, rfl⟩
      rw [part_insertApp consistent admissible free, append_other]
  | insertVersion row =>
      rcases apply_insertVersion applied with ⟨-, -, rfl⟩
      rw [part_insertVersion admissible, append_other]
  | insertSuite row =>
      rcases apply_insertSuite applied with ⟨-, free, rfl⟩
      rw [part_insertSuite consistent admissible free, append_other]
  | insertLinkedCase row link =>
      rcases apply_insertLinkedCase applied with ⟨-, free, -, rfl⟩
      rw [part_insertLinkedCase admissible.1 admissible.2 free, append_other,
        append_other]
  | insertEvaluatorConfig row =>
      rcases apply_insertEvaluatorConfig applied with ⟨-, -, rfl⟩
      rw [part_insertEvaluatorConfig admissible, append_other]
  | insertGateRule row =>
      rcases apply_insertGateRule applied with ⟨-, -, rfl⟩
      rw [part_insertGateRule admissible.1, append_other]
  | insertRun row =>
      rcases apply_insertRun applied with ⟨-, free, rfl⟩
      rw [part_insertRun consistent admissible.1 free, append_other]
  | insertItem row =>
      rcases apply_insertItem applied with ⟨-, free, rfl⟩
      rw [part_insertItem consistent admissible.1 free, append_other]
  | insertTrace row =>
      rcases apply_insertTrace applied with ⟨-, -, rfl⟩
      rw [part_insertTrace admissible, append_other]
  | insertResult row =>
      rcases apply_insertResult applied with ⟨-, -, rfl⟩
      rw [part_insertResult admissible, append_other]
  | insertComparison row =>
      rcases apply_insertComparison applied with ⟨-, free, rfl⟩
      rw [part_insertComparison consistent admissible.1 free, append_other]
  | insertReport row =>
      rcases apply_insertReport applied with ⟨-, -, rfl⟩
      rw [part_insertReport admissible, append_other]
  | _ => exact admissible.elim

/-! ## Transactions -/

theorem onTenant_of_admissible {write : Write} (admissible : write.Admissible organizationId db) :
    write.onIdentity = false := by
  cases write <;> first | rfl | exact admissible.elim

theorem alone_commit {writes : List Write} (consistent : db.Consistent)
    (present : db.hasOrganization organizationId = true)
    (admits : db.Admits organizationId writes)
    (unused : ∀ write ∈ writes, ∀ id, write.newId = some id →
      (db.part organizationId false).Unused id) :
    (db.alone organizationId).commit writes =
      (db.commit writes).map (·.alone organizationId) := by
  induction writes generalizing db with
  | nil => rfl
  | cons write writes induction =>
      have takes : TakesInsert organizationId db write :=
        ⟨consistent, present, admits.1, unused write List.mem_cons_self⟩
      simp only [commit, alone_apply takes]
      cases applied : db.apply write with
      | none => rfl
      | some middle =>
          have kept := hasOrganization_of_identityTables
            (apply_onTenant (onTenant_of_admissible admits.1) applied) present
          refine induction (consistent.apply admits.1 applied) kept (admits.2 middle applied) ?_
          rw [others_apply consistent admits.1 applied]
          exact fun other member => unused other (List.mem_cons_of_mem write member)

theorem others_commit {writes : List Write} (consistent : db.Consistent)
    (admits : db.Admits organizationId writes) (committed : db.commit writes = some next) :
    next.part organizationId false = db.part organizationId false ∧
      next.identityTables = db.identityTables := by
  induction writes generalizing db with
  | nil =>
      cases committed
      exact ⟨rfl, rfl⟩
  | cons write writes induction =>
      rcases Option.bind_eq_some_iff.mp committed with ⟨middle, applied, rest⟩
      rcases induction (consistent.apply admits.1 applied) (admits.2 middle applied) rest with
        ⟨others, identities⟩
      exact ⟨others.trans (others_apply consistent admits.1 applied),
        identities.trans (apply_onTenant (onTenant_of_admissible admits.1) applied)⟩

end

end Database

end EvalForge
