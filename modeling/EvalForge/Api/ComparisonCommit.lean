import EvalForge.Api.StoredRules

/-! # Comparisons in one transaction

`compute_comparison` with its commit. The comparison, its report and the default
gate rules are inserted together; the name of the default rules is the only
thing that can be taken.
-/

namespace EvalForge

open Foundation

/-! ## The transaction -/

/-- It raises, or a statement of the transaction breaks a constraint. -/
inductive ComparisonFailure
  | raised (error : ValidationError)
  | integrityError

/-- The state after `compute_comparison`, and what it returns. -/
def commitComparison (context : ComparisonContext) (readings : RequestReadings) (db : Database)
    (organizationId : String) (payload : ComparisonCreate) :
    Database × Except ComparisonFailure (ComparisonRow × RegressionReport) :=
  match computeComparison context readings db organizationId payload with
  | .error error => (db, .error (.raised error))
  | .ok (writes, comparison, report) =>
      match db.commit writes with
      | some next => (next, .ok (comparison, report))
      | none => (db, .error .integrityError)

/-- `default-gates-` with the first eight characters of the id. -/
def defaultGateRuleName (gateRuleId : String) : String :=
  let shortId := PythonText.truncate 8 gateRuleId
  s!"default-gates-{shortId}"

structure FreshIds (readings : RequestReadings) (db : Database) : Prop where
  gateRule : ∀ stored ∈ db.gateRules, stored.id ≠ readings.newUuid 0
  comparison : ∀ stored ∈ db.comparisons, stored.id ≠ readings.newUuid 1
  report : ∀ stored ∈ db.regressionReports, stored.id ≠ readings.newUuid 2

/-! ## What is to be compared -/

structure ComparableRuns (db : Database) (organizationId : String) (payload : ComparisonCreate)
    (baseline candidate : EvalRunRow) : Prop where
  baselineFound : db.tenantRun organizationId payload.baselineRunId = some baseline
  candidateFound : db.tenantRun organizationId payload.candidateRunId = some candidate
  sameSuite : baseline.suiteId = candidate.suiteId
  sameConfig : baseline.evaluatorConfigId = candidate.evaluatorConfigId
  sameApp : ∃ baselineVersion candidateVersion,
    db.version? baseline.appVersionId = some baselineVersion ∧
    db.version? candidate.appVersionId = some candidateVersion ∧
    baselineVersion.appId = candidateVersion.appId
  finished : baseline.status.comparable = true ∧ candidate.status.comparable = true
  sameCases : db.caseIdsOf payload.baselineRunId = db.caseIdsOf payload.candidateRunId

structure Comparable (db : Database) (organizationId : String) (payload : ComparisonCreate) :
    Prop where
  runs : ∃ baseline candidate, ComparableRuns db organizationId payload baseline candidate
  gateRule : ∀ gateRulesId, payload.gateRulesId = some gateRulesId →
    ∃ gateRule, db.tenantGateRule organizationId gateRulesId = some gateRule

def NameTaken (readings : RequestReadings) (db : Database) (organizationId : String) : Prop :=
  ∃ stored ∈ db.gateRules, stored.organizationId = organizationId ∧
    stored.name = defaultGateRuleName (readings.newUuid 0)

/-- One new comparison with one report, and the default rules if none are given;
every other row stays. -/
structure CommitsComparison (db next : Database) (organizationId : String)
    (payload : ComparisonCreate) (comparison : ComparisonRow) (report : RegressionReport) :
    Prop where
  organization : comparison.organizationId = organizationId
  baselineRun : comparison.baselineRunId = payload.baselineRunId
  candidateRun : comparison.candidateRunId = payload.candidateRunId
  reported : report.comparisonId = comparison.id
  newComparison : ∀ stored ∈ db.comparisons, stored.id ≠ comparison.id
  onlyReport : ∀ stored ∈ next.regressionReports, stored.comparisonId = comparison.id →
    stored = report
  tables : ∃ gateRules,
    next = { db with
      gateRules := db.gateRules ++ gateRules
      comparisons := db.comparisons ++ [comparison]
      regressionReports := db.regressionReports ++ [report] } ∧
    (payload.gateRulesId = none → ∃ gateRule, gateRules = [gateRule] ∧
      gateRule.organizationId = organizationId ∧ gateRule.rules = defaultGateRules.toJson ∧
      comparison.gateRulesId = gateRule.id) ∧
    ∀ gateRulesId, payload.gateRulesId = some gateRulesId →
      gateRules = [] ∧ comparison.gateRulesId = gateRulesId

def Compares (context : ComparisonContext) (readings : RequestReadings) (db : Database)
    (organizationId : String) (payload : ComparisonCreate) : Prop :=
  ∃ comparison report,
    (commitComparison context readings db organizationId payload).2 = .ok (comparison, report) ∧
    CommitsComparison db (commitComparison context readings db organizationId payload).1
      organizationId payload comparison report

/-- A comparable pair is compared; anything else is a `ValueError` that leaves
the state alone. -/
structure AllOrNothing (context : ComparisonContext) (readings : RequestReadings) (db : Database)
    (organizationId : String) (payload : ComparisonCreate) : Prop where
  commits : Comparable db organizationId payload →
    Compares context readings db organizationId payload
  raises : ¬Comparable db organizationId payload →
    (∃ message, (commitComparison context readings db organizationId payload).2 =
      .error (.raised (.valueError message))) ∧
    (commitComparison context readings db organizationId payload).1 = db

section

variable {context : ComparisonContext} {readings : RequestReadings} {db : Database}
variable {organizationId : String} {payload : ComparisonCreate}

/-! ## The checks -/

theorem comparableRuns_of_comparable {baseline candidate : EvalRunRow}
    (compared : ComparableRuns db organizationId payload baseline candidate) :
    comparableRuns db organizationId payload = .ok (baseline, candidate) := by
  rcases compared.sameApp with
    ⟨baselineVersion, candidateVersion, baselineVersioned, candidateVersioned, sameApp⟩
  simp [comparableRuns, compared.baselineFound, compared.candidateFound, compared.sameSuite,
    compared.sameConfig, baselineVersioned, candidateVersioned, sameApp, compared.finished,
    compared.sameCases]

theorem comparableRuns_cases (db : Database) (organizationId : String)
    (payload : ComparisonCreate) :
    (∃ baseline candidate, comparableRuns db organizationId payload = .ok (baseline, candidate) ∧
      ComparableRuns db organizationId payload baseline candidate) ∨
    ∃ message, comparableRuns db organizationId payload = .error (.valueError message) := by
  unfold comparableRuns
  split
  · exact .inr ⟨_, rfl⟩
  · exact .inr ⟨_, rfl⟩
  · next baseline candidate baselineFound candidateFound =>
    split
    · exact .inr ⟨_, rfl⟩
    · next sameSuite =>
      split
      · exact .inr ⟨_, rfl⟩
      · next sameConfig =>
        split
        · next baselineVersion candidateVersion baselineVersioned candidateVersioned =>
          split
          · exact .inr ⟨_, rfl⟩
          · next sameApp =>
            split
            · exact .inr ⟨_, rfl⟩
            · next finished =>
              split
              · exact .inr ⟨_, rfl⟩
              · next sameCases =>
                refine .inl ⟨baseline, candidate, rfl, baselineFound, candidateFound,
                  not_not.mp sameSuite, not_not.mp sameConfig, ⟨_, _, baselineVersioned,
                    candidateVersioned, not_not.mp sameApp⟩, ?_, not_not.mp sameCases⟩
                simpa using finished
        · exact .inr ⟨_, rfl⟩

/-! ## The rules -/

def defaultGateRule (readings : RequestReadings) (organizationId : String) : GateRuleRow where
  id := readings.newUuid 0
  organizationId := organizationId
  name := defaultGateRuleName (readings.newUuid 0)
  rules := defaultGateRules.toJson
  createdAt := readings.utcNow 0

theorem comparisonGateRules_none :
    comparisonGateRules context readings db organizationId none =
      .ok ([.insertGateRule (defaultGateRule readings organizationId)], readings.newUuid 0,
        defaultGateRules) := rfl

theorem comparisonGateRules_some (consistent : db.Consistent) (validated : db.RulesValidated)
    {gateRulesId : String} {gateRule : GateRuleRow}
    (found : db.tenantGateRule organizationId gateRulesId = some gateRule) :
    ∃ gateRules, comparisonGateRules context readings db organizationId (some gateRulesId) =
      .ok ([], gateRulesId, gateRules) := by
  have member := List.mem_of_find?_eq_some found
  rcases gateRule?_of_tenantGateRule consistent found with ⟨rfl, -, -⟩
  rcases validated gateRule member with ⟨gateRules, stored⟩
  refine ⟨gateRules, ?_⟩
  simp only [comparisonGateRules, found, stored, validateGateRules_toJson, bind, Except.bind,
    if_neg (consistent.refer.gateRules gateRule member)]
  rfl

/-! ## The inserts -/

theorem commit_insertGateRule {row : GateRuleRow} {writes : List Write}
    (organization : db.hasOrganization row.organizationId = true)
    (free : db.gateRules.any row.conflicts = false) :
    db.commit (.insertGateRule row :: writes) =
      { db with gateRules := db.gateRules ++ [row] }.commit writes := by
  rw [Database.commit, Database.apply, insertReferencing, if_pos organization,
    insertUnique_of_free free]
  rfl

theorem commit_comparison {comparison : ComparisonRow} {report : RegressionReport}
    (organization : db.hasOrganization comparison.organizationId = true)
    (baselineRun : db.hasRun comparison.baselineRunId = true)
    (candidateRun : db.hasRun comparison.candidateRunId = true)
    (gateRule : db.hasGateRule comparison.gateRulesId = true)
    (reported : report.comparisonId = comparison.id)
    (newComparison : ∀ stored ∈ db.comparisons, stored.id ≠ comparison.id)
    (newReport : ∀ stored ∈ db.regressionReports,
      stored.id ≠ report.id ∧ stored.comparisonId ≠ comparison.id) :
    db.commit [.insertComparison comparison, .insertReport report] =
      some { db with
        comparisons := db.comparisons ++ [comparison]
        regressionReports := db.regressionReports ++ [report] } := by
  have referenced : (db.hasOrganization comparison.organizationId &&
      db.hasRun comparison.baselineRunId && db.hasRun comparison.candidateRunId &&
      db.hasGateRule comparison.gateRulesId) = true := by
    simp [organization, baselineRun, candidateRun, gateRule]
  have free : db.comparisons.any comparison.conflicts = false := by
    simpa [ComparisonRow.conflicts] using fun stored member =>
      Ne.symm (newComparison stored member)
  have reportFree : db.regressionReports.any report.conflicts = false := by
    rw [List.any_eq_false]
    intro stored member
    rcases newReport stored member with ⟨newId, unreported⟩
    simp [RegressionReport.conflicts, reported, newId.symm, unreported.symm]
  have present : Database.hasComparison
      { db with comparisons := db.comparisons ++ [comparison] } report.comparisonId = true := by
    simp [Database.hasComparison, reported]
  rw [Database.commit, Database.apply, insertReferencing, if_pos referenced,
    insertUnique_of_free free]
  simp only [bind, Option.bind, pure]
  rw [Database.commit, Database.apply, insertReferencing, if_pos present,
    insertUnique_of_free reportFree]
  rfl

/-! ## Comparable pairs -/

structure ComparisonRows (readings : RequestReadings) (organizationId gateRuleId : String)
    (payload : ComparisonCreate) (comparison : ComparisonRow) (report : RegressionReport) :
    Prop where
  id : comparison.id = readings.newUuid 1
  organization : comparison.organizationId = organizationId
  baselineRun : comparison.baselineRunId = payload.baselineRunId
  candidateRun : comparison.candidateRunId = payload.candidateRunId
  gateRule : comparison.gateRulesId = gateRuleId
  reportId : report.id = readings.newUuid 2
  reported : report.comparisonId = comparison.id

theorem computeComparison_of_comparable {baseline candidate : EvalRunRow} {inserts : List Write}
    {gateRuleId : String} {gateRules : GateRules}
    (compared : ComparableRuns db organizationId payload baseline candidate)
    (ruled : comparisonGateRules context readings db organizationId payload.gateRulesId =
      .ok (inserts, gateRuleId, gateRules)) :
    ∃ comparison report, computeComparison context readings db organizationId payload =
        .ok (inserts ++ [.insertComparison comparison, .insertReport report], comparison, report) ∧
      ComparisonRows readings organizationId gateRuleId payload comparison report := by
  rw [computeComparison, comparableRuns_of_comparable compared]
  simp only [bind, Except.bind, ruled, pure, Except.pure]
  exact ⟨_, _, rfl, rfl, rfl, rfl, rfl, rfl, rfl, rfl⟩

theorem ComparableRuns.hasOrganization {baseline candidate : EvalRunRow}
    (compared : ComparableRuns db organizationId payload baseline candidate)
    (consistent : db.Consistent) (owned : db.RunsOwned) :
    db.hasOrganization organizationId = true := by
  have member := List.mem_of_find?_eq_some compared.baselineFound
  rcases run?_of_tenantRun consistent compared.baselineFound with ⟨-, rfl, -⟩
  exact owned baseline member

theorem hasRun_of_tenantRun (consistent : db.Consistent) {runId : String} {run : EvalRunRow}
    (found : db.tenantRun organizationId runId = some run) : db.hasRun runId = true := by
  rcases run?_of_tenantRun consistent found with ⟨ofId, -, -⟩
  exact List.any_eq_true.mpr ⟨run, List.mem_of_find?_eq_some found, beq_iff_eq.mpr ofId⟩

theorem FreshIds.unreported (fresh : FreshIds readings db) (consistent : db.Consistent) :
    ∀ stored ∈ db.regressionReports, stored.comparisonId ≠ readings.newUuid 1 := by
  intro stored member same
  have present := consistent.refer.regressionReports stored member
  rw [Database.hasComparison, List.any_eq_true] at present
  rcases present with ⟨comparison, comparisonMember, equal⟩
  exact fresh.comparison comparison comparisonMember ((beq_iff_eq.mp equal).trans same)

theorem commitComparison_commits (consistent : db.Consistent) (owned : db.RunsOwned)
    (fresh : FreshIds readings db) {baseline candidate : EvalRunRow}
    (compared : ComparableRuns db organizationId payload baseline candidate)
    {inserts : List Write} {gateRuleId : String} {gateRules : GateRules}
    (ruled : comparisonGateRules context readings db organizationId payload.gateRulesId =
      .ok (inserts, gateRuleId, gateRules))
    (rows : List GateRuleRow)
    (inserted : ∀ writes, db.commit (inserts ++ writes) =
      { db with gateRules := db.gateRules ++ rows }.commit writes)
    (present : Database.hasGateRule { db with gateRules := db.gateRules ++ rows } gateRuleId = true)
    (default : payload.gateRulesId = none → ∃ gateRule, rows = [gateRule] ∧
      gateRule.organizationId = organizationId ∧ gateRule.rules = defaultGateRules.toJson ∧
      gateRuleId = gateRule.id)
    (given : ∀ gateRulesId, payload.gateRulesId = some gateRulesId →
      rows = [] ∧ gateRuleId = gateRulesId) :
    Compares context readings db organizationId payload := by
  rcases computeComparison_of_comparable compared ruled with ⟨comparison, report, computed, made⟩
  have newComparison : ∀ stored ∈ db.comparisons, stored.id ≠ comparison.id := by
    rw [made.id]
    exact fresh.comparison
  have unreported : ∀ stored ∈ db.regressionReports, stored.comparisonId ≠ comparison.id := by
    rw [made.id]
    exact fresh.unreported consistent
  have newReport : ∀ stored ∈ db.regressionReports, stored.id ≠ report.id := by
    rw [made.reportId]
    exact fresh.report
  have committed := @commit_comparison { db with gateRules := db.gateRules ++ rows } comparison
    report
    (by rw [made.organization]; exact compared.hasOrganization consistent owned)
    (by rw [made.baselineRun]; exact hasRun_of_tenantRun consistent compared.baselineFound)
    (by rw [made.candidateRun]; exact hasRun_of_tenantRun consistent compared.candidateFound)
    (by rw [made.gateRule]; exact present)
    made.reported newComparison
    fun stored member => ⟨newReport stored member, unreported stored member⟩
  rw [Compares, commitComparison, computed]
  simp only [inserted, committed]
  refine ⟨comparison, report, rfl, made.organization, made.baselineRun, made.candidateRun,
    made.reported, newComparison, ?_, rows, rfl, ?_, ?_⟩
  · intro stored member same
    rcases List.mem_append.mp member with old | new
    · exact absurd same (unreported stored old)
    · exact List.mem_singleton.mp new
  · intro notGiven
    rcases default notGiven with ⟨gateRule, single, ruleOwned, rules, ofId⟩
    exact ⟨gateRule, single, ruleOwned, rules, made.gateRule.trans ofId⟩
  · intro gateRulesId same
    rcases given gateRulesId same with ⟨empty, ofId⟩
    exact ⟨empty, made.gateRule.trans ofId⟩

theorem commitComparison_given (consistent : db.Consistent) (stored : db.RulesStored)
    (fresh : FreshIds readings db) (comparable : Comparable db organizationId payload)
    {gateRulesId : String} (given : payload.gateRulesId = some gateRulesId) :
    Compares context readings db organizationId payload := by
  rcases comparable.runs with ⟨baseline, candidate, compared⟩
  rcases comparable.gateRule gateRulesId given with ⟨gateRule, found⟩
  rcases @comparisonGateRules_some context readings db organizationId consistent
    stored.validated gateRulesId gateRule found with ⟨gateRules, ruled⟩
  have member := List.mem_of_find?_eq_some found
  rcases gateRule?_of_tenantGateRule consistent found with ⟨ofId, -, -⟩
  rw [← given] at ruled
  refine commitComparison_commits consistent stored.owned fresh compared ruled [] ?_ ?_ ?_ ?_
  · intro writes
    rw [List.append_nil, List.nil_append]
  · rw [List.append_nil]
    exact List.any_eq_true.mpr ⟨gateRule, member, beq_iff_eq.mpr ofId⟩
  · intro notGiven
    rw [given] at notGiven
    cases notGiven
  · intro other same
    rw [given] at same
    cases same
    exact ⟨rfl, rfl⟩

theorem commitComparison_default (consistent : db.Consistent) (stored : db.RulesStored)
    (fresh : FreshIds readings db) (comparable : Comparable db organizationId payload)
    (default : payload.gateRulesId = none) (free : ¬NameTaken readings db organizationId) :
    Compares context readings db organizationId payload := by
  rcases comparable.runs with ⟨baseline, candidate, compared⟩
  have ruled : comparisonGateRules context readings db organizationId payload.gateRulesId = _ :=
    default ▸ comparisonGateRules_none
  have unique : db.gateRules.any (defaultGateRule readings organizationId).conflicts = false := by
    rw [List.any_eq_false]
    intro other member conflict
    simp only [GateRuleRow.conflicts, Bool.or_eq_true, Bool.and_eq_true, beq_iff_eq] at conflict
    rcases conflict with sameId | ⟨sameOrganization, sameName⟩
    · exact fresh.gateRule other member sameId.symm
    · exact free ⟨other, member, sameOrganization.symm, sameName.symm⟩
  refine commitComparison_commits consistent stored.owned fresh compared ruled
    [defaultGateRule readings organizationId] ?_ ?_ ?_ ?_
  · intro writes
    exact commit_insertGateRule (compared.hasOrganization consistent stored.owned) unique
  · refine List.any_eq_true.mpr ⟨_, List.mem_append_right _ List.mem_cons_self, ?_⟩
    exact beq_self_eq_true _
  · intro _
    exact ⟨_, rfl, rfl, rfl, rfl⟩
  · intro gateRulesId some
    rw [default] at some
    cases some

theorem commitComparison_nameTaken (comparable : Comparable db organizationId payload)
    (default : payload.gateRulesId = none) (taken : NameTaken readings db organizationId) :
    (commitComparison context readings db organizationId payload).2 = .error .integrityError := by
  rcases comparable.runs with ⟨baseline, candidate, compared⟩
  have ruled : comparisonGateRules context readings db organizationId payload.gateRulesId = _ :=
    default ▸ comparisonGateRules_none
  rcases computeComparison_of_comparable compared ruled with ⟨comparison, report, computed, -⟩
  rcases taken with ⟨other, member, owned, named⟩
  have conflict : db.gateRules.any (defaultGateRule readings organizationId).conflicts = true := by
    refine List.any_eq_true.mpr ⟨other, member, ?_⟩
    simp [GateRuleRow.conflicts, defaultGateRule, owned, named]
  have refused : db.apply (.insertGateRule (defaultGateRule readings organizationId)) = none := by
    rw [Database.apply, insertReferencing, insertUnique_of_conflict conflict]
    split <;> rfl
  rw [commitComparison, computed]
  simp [Database.commit, refused]

/-! ## All other pairs -/

theorem commitComparison_raises
    (incomparable : ¬Comparable db organizationId payload) :
    (∃ message, (commitComparison context readings db organizationId payload).2 =
      .error (.raised (.valueError message))) ∧
    (commitComparison context readings db organizationId payload).1 = db := by
  have refused : ∃ message, computeComparison context readings db organizationId payload =
      .error (.valueError message) := by
    rcases comparableRuns_cases db organizationId payload with
      ⟨baseline, candidate, accepted, compared⟩ | ⟨message, refused⟩
    · -- The runs are comparable, so a rule is given that is not found.
      have missing : ∃ gateRulesId, payload.gateRulesId = some gateRulesId ∧
          db.tenantGateRule organizationId gateRulesId = none := by
        by_contra found
        push Not at found
        refine incomparable ⟨⟨baseline, candidate, compared⟩, fun gateRulesId given => ?_⟩
        exact Option.ne_none_iff_exists'.mp (found gateRulesId given)
      rcases missing with ⟨gateRulesId, given, unfound⟩
      refine ⟨"Gate rules not found", ?_⟩
      simp [computeComparison, accepted, given, comparisonGateRules, unfound, bind, Except.bind]
    · exact ⟨message, by simp [computeComparison, refused, bind, Except.bind]⟩
  rcases refused with ⟨message, refused⟩
  rw [commitComparison, refused]
  exact ⟨⟨message, rfl⟩, rfl⟩

end

/-- In a reachable state and with new ids, a comparison is all or nothing unless
the name of its default rules is taken. -/
theorem comparison_all_or_nothing_iff (context : ComparisonContext)
    (readings : RequestReadings) {db : Database} (reachable : db.Reachable)
    (fresh : FreshIds readings db) (organizationId : String) (payload : ComparisonCreate) :
    AllOrNothing context readings db organizationId payload ↔
      ¬(Comparable db organizationId payload ∧ payload.gateRulesId = none ∧
        NameTaken readings db organizationId) := by
  constructor
  · rintro whole ⟨comparable, default, taken⟩
    rcases whole.commits comparable with ⟨comparison, report, returned, -⟩
    rw [commitComparison_nameTaken comparable default taken] at returned
    cases returned
  · intro free
    refine ⟨fun comparable => ?_, commitComparison_raises⟩
    cases given : payload.gateRulesId with
    | none =>
        exact commitComparison_default reachable.consistent reachable.rulesStored fresh
          comparable given fun taken => free ⟨comparable, given, taken⟩
    | some gateRulesId =>
        exact commitComparison_given reachable.consistent reachable.rulesStored fresh
          comparable given

namespace Scenario

def defaultComparison : ComparisonCreate where
  baselineRunId := "baseline-0"
  candidateRunId := "candidate-0"

/-- Another comparison by default rules, so that two ids begin alike. -/
def likeEvents : List Event :=
  devEvents ++ [.call (namedCall "1a2b3c4d-0001-4000-8000" {}
    (.tenant (.createComparison defaultComparison)))]

def likeReadings : RequestReadings := (namedReadings "1a2b3c4d-0002-4000-8000").toRequestReadings

def nextReadings : RequestReadings := (namedReadings "next").toRequestReadings

theorem stored_like :
    (stateAfter likeEvents).gateRules.map (·.id) =
        ["comparison-0", "1a2b3c4d-0001-4000-8000-0"] ∧
      (stateAfter likeEvents).comparisons.map (·.id) =
        ["comparison-1", "1a2b3c4d-0001-4000-8000-1"] ∧
      (stateAfter likeEvents).regressionReports.map (·.id) =
        ["comparison-2", "1a2b3c4d-0001-4000-8000-2"] ∧
      (stateAfter likeEvents).gateRules.map (·.name) =
        ["default-gates-comparis", "default-gates-1a2b3c4d"] ∧
      (∀ rule ∈ (stateAfter likeEvents).gateRules, rule.organizationId = defaultOrganizationId) ∧
      (comparableRuns (stateAfter likeEvents) defaultOrganizationId defaultComparison).isOk =
        true := by
  decide +kernel

theorem freshIds_of_notMem {readings : RequestReadings}
    (gateRule : readings.newUuid 0 ∉ ["comparison-0", "1a2b3c4d-0001-4000-8000-0"])
    (comparison : readings.newUuid 1 ∉ ["comparison-1", "1a2b3c4d-0001-4000-8000-1"])
    (report : readings.newUuid 2 ∉ ["comparison-2", "1a2b3c4d-0001-4000-8000-2"]) :
    FreshIds readings (stateAfter likeEvents) := by
  rcases stored_like with ⟨gateRules, comparisons, reports, -⟩
  rw [← gateRules] at gateRule
  rw [← comparisons] at comparison
  rw [← reports] at report
  exact ⟨fun _ member same => gateRule (same ▸ List.mem_map_of_mem member),
    fun _ member same => comparison (same ▸ List.mem_map_of_mem member),
    fun _ member same => report (same ▸ List.mem_map_of_mem member)⟩

theorem freshIds_next : FreshIds nextReadings (stateAfter likeEvents) :=
  freshIds_of_notMem (by decide) (by decide) (by decide)

theorem freshIds_like : FreshIds likeReadings (stateAfter likeEvents) :=
  freshIds_of_notMem (by decide) (by decide) (by decide)

theorem reachable_like : (stateAfter likeEvents).Reachable := ⟨0, likeEvents, rfl⟩

theorem nameTaken_next :
    ¬NameTaken nextReadings (stateAfter likeEvents) defaultOrganizationId := by
  rcases stored_like with ⟨-, -, -, names, -⟩
  rintro ⟨stored, member, -, named⟩
  have listed : stored.name ∈ (stateAfter likeEvents).gateRules.map (·.name) :=
    List.mem_map_of_mem member
  rw [names, named] at listed
  exact absurd listed (by decide)

theorem nameTaken_like :
    NameTaken likeReadings (stateAfter likeEvents) defaultOrganizationId := by
  rcases stored_like with ⟨-, -, -, names, owned, -⟩
  have listed : defaultGateRuleName (likeReadings.newUuid 0) ∈
      (stateAfter likeEvents).gateRules.map (·.name) := by
    rw [names]
    decide
  rcases List.mem_map.mp listed with ⟨stored, member, named⟩
  exact ⟨stored, member, owned stored member, named⟩

theorem comparable_like :
    Comparable (stateAfter likeEvents) defaultOrganizationId defaultComparison := by
  refine ⟨?_, fun gateRulesId given => by cases given⟩
  rcases comparableRuns_cases (stateAfter likeEvents) defaultOrganizationId defaultComparison with
    ⟨baseline, candidate, -, compared⟩ | ⟨message, refused⟩
  · exact ⟨baseline, candidate, compared⟩
  · have accepted := stored_like.2.2.2.2.2
    rw [refused] at accepted
    cases accepted

theorem comparison_all_or_nothing_iff_next :
    AllOrNothing devDeployment.comparisonContext nextReadings (stateAfter likeEvents)
      defaultOrganizationId defaultComparison :=
  (comparison_all_or_nothing_iff _ _ reachable_like freshIds_next _ _).mpr
    fun ⟨_, _, taken⟩ => nameTaken_next taken

theorem default_name_taken :
    (stateAfter likeEvents).Reachable ∧ FreshIds likeReadings (stateAfter likeEvents) ∧
      Comparable (stateAfter likeEvents) defaultOrganizationId defaultComparison ∧
      ¬AllOrNothing devDeployment.comparisonContext likeReadings (stateAfter likeEvents)
        defaultOrganizationId defaultComparison := by
  refine ⟨reachable_like, freshIds_like, comparable_like, fun whole => ?_⟩
  rcases whole.commits comparable_like with ⟨comparison, report, returned, -⟩
  rw [commitComparison_nameTaken comparable_like rfl nameTaken_like] at returned
  cases returned

end Scenario

end EvalForge
