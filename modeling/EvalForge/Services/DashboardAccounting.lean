import EvalForge.Foundation.Pages
import EvalForge.Services.DashboardAgreement

/-! # Failure accounting of the dashboard

The trace cases and the tags count the failed items of the candidate run apart.
Their totals are the same, and the pages of the trace cases have one row for
every failed item.
-/

namespace EvalForge

open Foundation

def RunRows.adapterModule (rows : RunRows) : String :=
  (rows.version.map (·.adapterModule)).getD "unknown"

section Rows

variable {floats : FloatConversion} {text : Json → String} {baseline candidate : RunRows}
variable {adapterModule : String} {items : List ItemRows}
variable {optional : List (Option DashboardTraceCase)} {traceCases : List DashboardTraceCase}

def ShowsFailure (floats : FloatConversion) (text : Json → String)
    (baseline candidate : RunRows) (rows : ItemRows) (row : DashboardTraceCase) : Prop :=
  buildTraceCase floats text baseline candidate.adapterModule rows = .ok (some row)

def ListsFailures (floats : FloatConversion) (text : Json → String)
    (baseline candidate : RunRows) (traceCases : List DashboardTraceCase) : Prop :=
  ∃ items, items.Perm (candidate.items.filter (·.failure.isSome)) ∧
    List.Forall₂ (ShowsFailure floats text baseline candidate) items traceCases

theorem buildTraceCase_of_passed {rows : ItemRows} (passed : rows.failure.isSome = false) :
    buildTraceCase floats text baseline adapterModule rows = .ok none := by
  rw [Option.isSome_eq_false_iff, Option.isNone_iff_eq_none] at passed
  rw [buildTraceCase, passed]

theorem forall₂_reduceOption
    (built : List.Forall₂ (fun rows row =>
      buildTraceCase floats text baseline adapterModule rows = .ok row) items optional)
    (cased : ∀ rows ∈ items, rows.case.isSome = true) :
    List.Forall₂ (fun rows row =>
        buildTraceCase floats text baseline adapterModule rows = .ok (some row))
      (items.filter (·.failure.isSome)) optional.reduceOption := by
  induction built with
  | nil => exact .nil
  | @cons rows row items optional rowBuilt _ induction =>
      have rest := induction fun other member => cased other (List.mem_cons_of_mem _ member)
      cases failed : rows.failure.isSome with
      | false =>
          rw [buildTraceCase_of_passed failed] at rowBuilt
          cases rowBuilt
          rwa [List.filter_cons_of_neg (by simp [failed]), List.reduceOption_cons_of_none]
      | true =>
          have listed : rows.Listed := ⟨failed, cased rows List.mem_cons_self⟩
          rcases Option.isSome_iff_exists.mp (buildTraceCase_of_listed listed rowBuilt) with
            ⟨shown, rfl⟩
          rw [List.filter_cons_of_pos (by simp [failed]), List.reduceOption_cons_of_some]
          exact .cons rowBuilt rest

theorem listsFailures_of_buildTraceCases
    (built : buildTraceCases floats text baseline candidate = .ok traceCases)
    (cased : ∀ rows ∈ candidate.items, rows.case.isSome = true) :
    ListsFailures floats text baseline candidate traceCases := by
  unfold buildTraceCases at built
  rcases bind_eq_ok_iff.mp built with ⟨optional, mapped, built⟩
  cases built
  have ordered := List.perm_insertionSort
    (fun rows other : ItemRows => rows.item.caseId ≤ other.item.caseId) candidate.items
  have shown := forall₂_reduceOption (forall₂_of_mapM mapped) fun rows member =>
    cased rows (ordered.mem_iff.mp member)
  have sorted := List.perm_insertionSort
    (fun row other : DashboardTraceCase => row.id ≤ other.id) optional.reduceOption
  -- The rows are sorted by their ids, and the items go with them.
  rcases List.perm_comp_forall₂ sorted shown.flip with ⟨items, related, permuted⟩
  exact ⟨items, permuted.trans (ordered.filter _), related.flip⟩

theorem ListsFailures.length_eq (lists : ListsFailures floats text baseline candidate traceCases) :
    traceCases.length = (candidate.items.filter (·.failure.isSome)).length := by
  rcases lists with ⟨items, permuted, related⟩
  rw [← related.length_eq, permuted.length_eq]

/-! ## The tags -/

theorem count_failedTags_le (text : Json → String) (items : List ItemRows) (tag : String) :
    (runTags text (items.filter (·.failure.isSome))).count tag ≤
      (runTags text items).count tag :=
  ((List.filter_sublist (p := fun rows : ItemRows => rows.failure.isSome)).filterMap _).count_le tag

theorem candidatePassRate_mem {candidateCount failureCount : Nat}
    (most : failureCount ≤ candidateCount) :
    0 ≤ candidatePassRate candidateCount failureCount ∧
      candidatePassRate candidateCount failureCount ≤ 1 := by
  unfold candidatePassRate
  split
  · exact ⟨le_refl 0, zero_le_one⟩
  · next counted =>
      have positive : (0 : Rat) < candidateCount := by
        exact_mod_cast Nat.pos_of_ne_zero counted
      have share : (failureCount / candidateCount : Rat) ≤ 1 := by
        rw [div_le_one positive]
        exact_mod_cast most
      have nonnegative : (0 : Rat) ≤ failureCount / candidateCount := by positivity
      exact ⟨roundTo_nonneg (by linarith), roundTo_le_one (by linarith)⟩

end Rows

/-! ## The snapshots -/

/-- The tags of a snapshot account for the items of the candidate run, and their
failures for the rows of all pages. -/
structure DashboardSnapshot.AccountsFailures (snapshot : DashboardSnapshot)
    (candidate : RunRows) : Prop where
  rates : ∀ tag ∈ snapshot.tagBreakdown,
    tag.candidateFailureCount ≤ tag.candidateCaseCount ∧
      0 ≤ tag.candidatePassRate ∧ tag.candidatePassRate ≤ 1
  cases : (snapshot.tagBreakdown.map (·.candidateCaseCount)).sum = candidate.items.length
  failures : (snapshot.tagBreakdown.map (·.candidateFailureCount)).sum =
    snapshot.tracePagination.total

section Snapshots

variable {floats : FloatConversion} {text : Json → String} {rows : DashboardRows}
variable {limit offset : Nat} {snapshot : DashboardSnapshot}

theorem renderSnapshot_ok (rendered : renderSnapshot floats text limit offset rows = .ok snapshot) :
    ∃ traceCases, buildTraceCases floats text rows.baseline rows.candidate = .ok traceCases ∧
      snapshot.traceCases = pageAt limit offset traceCases ∧
      snapshot.tracePagination.total = traceCases.length ∧
      snapshot.tagBreakdown = buildTagBreakdown text rows.baseline rows.candidate := by
  unfold renderSnapshot at rendered
  rcases bind_eq_ok_iff.mp rendered with ⟨traceCases, built, rendered⟩
  rcases bind_eq_ok_iff.mp rendered with ⟨metrics, -, rendered⟩
  rcases bind_eq_ok_iff.mp rendered with ⟨gateRules, -, rendered⟩
  simp only [] at rendered
  split at rendered
  · cases rendered
    exact ⟨traceCases, built, rfl, rfl, rfl⟩
  · cases rendered

theorem renderSnapshot_accounts
    (rendered : renderSnapshot floats text limit offset rows = .ok snapshot)
    (cased : ∀ item ∈ rows.candidate.items, item.case.isSome = true) :
    snapshot.AccountsFailures rows.candidate := by
  rcases renderSnapshot_ok rendered with ⟨traceCases, built, -, total, tags⟩
  have failedCased : ∀ item ∈ rows.candidate.items.filter (·.failure.isSome),
      item.case.isSome = true := fun item member => cased item (List.mem_of_mem_filter member)
  constructor
  · intro tag member
    rw [tags] at member
    rcases List.mem_map.mp member with ⟨name, -, rfl⟩
    have most := count_failedTags_le text rows.candidate.items name
    exact ⟨most, candidatePassRate_mem most⟩
  · rw [tags, sum_candidateCaseCount, length_runTags cased]
  · rw [tags, sum_candidateFailureCount, length_runTags failedCased, total,
      (listsFailures_of_buildTraceCases built cased).length_eq]

/-- The pages up to one behind the last row have the rows of all failed items. -/
theorem renderSnapshot_pages {pages : Nat → DashboardSnapshot} {last : Nat}
    (rendered : ∀ number ≤ last,
      renderSnapshot floats text limit (number * limit) rows = .ok (pages number))
    (cased : ∀ item ∈ rows.candidate.items, item.case.isSome = true)
    (covers : (pages 0).tracePagination.total ≤ (last + 1) * limit) :
    ListsFailures floats text rows.baseline rows.candidate
      ((List.range (last + 1)).flatMap fun number => (pages number).traceCases) := by
  rcases renderSnapshot_ok (rendered 0 (Nat.zero_le last)) with ⟨traceCases, built, -, total, -⟩
  have slices : (List.range (last + 1)).flatMap (fun number => (pages number).traceCases) =
      (List.range (last + 1)).flatMap fun number => pageAt limit (number * limit) traceCases := by
    apply List.flatMap_congr
    intro number member
    have within : number ≤ last := Nat.lt_succ_iff.mp (List.mem_range.mp member)
    rcases renderSnapshot_ok (rendered number within) with ⟨others, otherBuilt, page, -, -⟩
    cases built.symm.trans otherBuilt
    exact page
  rw [total] at covers
  rw [slices, flatMap_pageAt, List.take_of_length_le covers]
  exact listsFailures_of_buildTraceCases built cased

end Snapshots

structure DashboardAccounting (floats : FloatConversion) (text : Json → String) (db : Database)
    (organizationId : String) (comparisonId : Option String) (rows : DashboardRows) : Prop where
  snapshots : ∀ limit offset snapshot,
    buildLatestDashboardSnapshot floats text db organizationId comparisonId limit offset =
      .ok (some snapshot) →
    snapshot.AccountsFailures rows.candidate
  pages : ∀ (limit : Nat) (pages : Nat → DashboardSnapshot) (last : Nat),
    (∀ number ≤ last,
      buildLatestDashboardSnapshot floats text db organizationId comparisonId limit
        (number * limit) = .ok (some (pages number))) →
    (pages 0).tracePagination.total ≤ (last + 1) * limit →
    ListsFailures floats text rows.baseline rows.candidate
      ((List.range (last + 1)).flatMap fun number => (pages number).traceCases)

theorem buildLatestDashboardSnapshot_some {floats : FloatConversion} {text : Json → String}
    {db : Database} {organizationId : String} {comparisonId : Option String}
    {limit offset : Nat} {rows : DashboardRows} {snapshot : DashboardSnapshot}
    (loaded : db.loadDashboard organizationId comparisonId = some rows)
    (built : buildLatestDashboardSnapshot floats text db organizationId comparisonId limit offset =
      .ok (some snapshot)) :
    renderSnapshot floats text limit offset rows = .ok snapshot := by
  rw [buildLatestDashboardSnapshot, loaded] at built
  cases rendered : renderSnapshot floats text limit offset rows with
  | error error => simp [rendered, Except.map] at built
  | ok other =>
      simp only [rendered, Except.map, Except.ok.injEq, Option.some.injEq] at built
      rw [built]

/-- The tags and the trace cases of a dashboard agree on its failures, and no
failed item is lost or repeated by the pages. -/
theorem dashboard_accounts_failures (floats : FloatConversion) (text : Json → String)
    (db : Database) (organizationId : String) (comparisonId : Option String)
    (rows : DashboardRows) (loaded : db.loadDashboard organizationId comparisonId = some rows)
    (cased : ∀ item ∈ rows.candidate.items, item.case.isSome = true) :
    DashboardAccounting floats text db organizationId comparisonId rows where
  snapshots _ _ _ built :=
    renderSnapshot_accounts (buildLatestDashboardSnapshot_some loaded built) cased
  pages _ _ _ built covers :=
    renderSnapshot_pages (fun number within =>
      buildLatestDashboardSnapshot_some loaded (built number within)) cased covers

namespace Scenario

def taggedPayload (tag expected : String) : Json :=
  .dict [("input", .str "Which module?"), ("expected_output", .str expected),
    ("tags", .list [.str tag])]

/-- The state after a comparison of two runs that fail the first and the third of
three cases. -/
def failedState : Database :=
  stateAfter (comparingEvents (namedConfig "exact_match") [
    taggedPayload "setup" "Use poetry", taggedPayload "setup" "Use venv.",
    taggedPayload "tools" "Use pipx"])

theorem failedState_loads :
    ∃ rows, failedState.loadDashboard defaultOrganizationId none = some rows ∧
      rows.candidate.items.all (·.case.isSome) = true := by
  have cased : (failedState.loadDashboard defaultOrganizationId none).map
      (fun rows => rows.candidate.items.all (·.case.isSome)) = some true := by
    decide +kernel
  exact Option.map_eq_some_iff.mp cased

end Scenario

/-- Two pages of one row have the two failed items, which have different tags. -/
theorem dashboard_accounts_failures_scenario :
    (∃ rows, DashboardAccounting Scenario.devDeployment.floats Scenario.plainContext.text
        Scenario.failedState defaultOrganizationId none rows) ∧
      [0, 1].map (fun offset =>
        (buildLatestDashboardSnapshot Scenario.devDeployment.floats Scenario.plainContext.text
          Scenario.failedState defaultOrganizationId none 1 offset).toOption.join.map
            fun snapshot => (snapshot.traceCases.length, snapshot.tracePagination.total,
              snapshot.tagBreakdown.map (·.candidateFailureCount))) =
        [some (1, 2, [1, 1]), some (1, 2, [1, 1])] := by
  constructor
  · rcases Scenario.failedState_loads with ⟨rows, loaded, cased⟩
    exact ⟨rows, dashboard_accounts_failures _ _ _ _ _ _ loaded (List.all_eq_true.mp cased)⟩
  · decide +kernel

end EvalForge
