import EvalForge.Api.ReadableSuites
import EvalForge.Foundation.Pages

/-! # Pagination of the list endpoints

The database sorts the rows of a query by a column. Rows with one value of it
come in any order, which each query chooses anew: an endpoint is a function of
the listing that its query has returned.
-/

namespace EvalForge

open Foundation

/-! ## The endpoints on a listing -/

def newestFirst {Row : Type} (createdAt : Row → Nat) (row : Row) : Natᵒᵈ :=
  OrderDual.toDual (createdAt row)

def listAppsOver (listing : List App) (query : PageQuery) : Except HttpError (List AppRead) :=
  .ok ((pageAt query.limit query.offset listing).map (·.read))

def listRunsOver (listing : List EvalRunRow) (query : PageQuery) :
    Except HttpError (List RunRead) :=
  .ok ((pageAt query.limit query.offset listing).map (·.read))

section Endpoints

variable (db : Database) (principal : Principal)

def listAppVersionsOver (appId : String) (listing : List AppVersionRow) (query : PageQuery) :
    Except HttpError (List AppVersionRead) := do
  let _ ← tenantAppOr404 db principal appId
  return (pageAt query.limit query.offset listing).map (·.read)

def Database.shownComparison (comparison : ComparisonRow) : Option ComparisonRead :=
  (db.reportOf comparison.id).map (buildComparisonResponse comparison)

/-- The reports are looked up for the comparisons of the page. -/
def listComparisonsOver (listing : List ComparisonRow) (query : PageQuery) :
    Except HttpError (List ComparisonRead) :=
  .ok ((pageAt query.limit query.offset listing).filterMap db.shownComparison)

/-- The results of the items are the listing of a second query. -/
def listRunItemsOver (runId : String) (results : String → List EvalResultRow)
    (listing : List EvalRunItem) (query : PageQuery) : Except HttpError (List RunItemRead) := do
  let _ ← tenantRunOr404 db principal runId
  return (pageAt query.limit query.offset listing).map fun item => item.read (results item.id)

/-- A tag is looked for before the page is cut. -/
def listEvalCasesOver (suiteId : String) (tag : Option String) (listing : List EvalCaseRow)
    (query : PageQuery) : Except HttpError (List EvalCaseRead) := do
  let _ ← tenantSuiteOr404 db principal suiteId
  let matching ←
    match tag with
    | none => pure listing
    | some tag => uncaught (listing.filterM (hasTag tag))
  return (pageAt query.limit query.offset matching).map (·.read)

/-! The handlers answer over the listings that keep the order of the insertion
among ties. -/

variable (query : PageQuery)

theorem listApps_over : ∃ listing,
    Lists (newestFirst (·.createdAt)) (db.appsOf principal.organizationId) listing ∧
      listAppsOver listing query = .ok (listApps db principal query) :=
  ⟨_, lists_insertionSort _ _, rfl⟩

theorem listRuns_over : ∃ listing,
    Lists (newestFirst (·.createdAt)) (db.runsOf principal.organizationId) listing ∧
      listRunsOver listing query = .ok (listRuns db principal query) :=
  ⟨_, lists_insertionSort _ _, rfl⟩

theorem listComparisons_over : ∃ listing,
    Lists (newestFirst (·.createdAt)) (db.comparisonsOf principal.organizationId) listing ∧
      listComparisonsOver db listing query = .ok (listComparisons db principal query) :=
  ⟨_, lists_insertionSort _ _, rfl⟩

theorem listAppVersions_over (appId : String) : ∃ listing,
    Lists (newestFirst (·.createdAt)) (db.versionsOf appId) listing ∧
      listAppVersionsOver db principal appId listing query =
        listAppVersions db principal appId query :=
  ⟨_, lists_insertionSort _ _, rfl⟩

theorem listRunItems_over (runId : String) : ∃ listing,
    Lists (·.caseId) (db.itemsOf runId) listing ∧
      listRunItemsOver db principal runId (fun itemId => byCreation (·.createdAt)
        (db.resultsOf itemId)) listing query = listRunItems db principal runId query :=
  ⟨_, lists_insertionSort _ _, rfl⟩

theorem listEvalCases_over (suiteId : String) (tag : Option String) : ∃ listing,
    Lists (·.createdAt) (db.casesOf suiteId) listing ∧
      listEvalCasesOver db principal suiteId tag listing query =
        listEvalCases db principal suiteId tag query :=
  ⟨_, lists_insertionSort _ _, by cases tag <;> rfl⟩

end Endpoints

/-! ## Pages that show every row once -/

section Pages

variable {Row Shown : Type} {K : Type} [LinearOrder K]

/-- However the queries order ties, the answers at the offsets `0`, `limit`,
`2 * limit`, … are together what is visible. -/
def ShowsEveryRow (key : Row → K) (rows : List Row) (limit : Nat)
    (answer : List Row → PageQuery → Except HttpError (List Shown)) (visible : List Shown) :
    Prop :=
  ∀ listings : Nat → List Row, (∀ number, Lists key rows (listings number)) →
    ∃ pages : Nat → List Shown,
      (∀ number, answer (listings number) { limit, offset := number * limit } =
        .ok (pages number)) ∧
      ∀ count, rows.length ≤ count * limit → ((List.range count).flatMap pages).Perm visible

/-- No rows of one key have places at both sides of a page boundary. -/
def NoneStraddles (key : Row → K) (rows : List Row) (limit : Nat) : Prop :=
  ∀ row ∈ rows, ∀ number, ¬Straddles key rows (number * limit) row

variable {key : Row → K} {rows : List Row} {limit : Nat} {selected : Row → Bool}
variable {answer : List Row → PageQuery → Except HttpError (List Shown)}
variable {render : Row → Option Shown}

theorem showsEveryRow_filter_iff (positive : 0 < limit)
    (distinct : ((rows.filter selected).filterMap render).Nodup)
    (answers : ∀ listing, Lists key rows listing → ∀ query, answer listing query =
      .ok ((pageAt query.limit query.offset (listing.filter selected)).filterMap render)) :
    ShowsEveryRow key rows limit answer ((rows.filter selected).filterMap render) ↔
      ∀ row ∈ rows.filter selected, (render row).isSome = true →
        ∀ number, ¬Straddles key (rows.filter selected) (number * limit) row := by
  constructor
  · intro shows
    have enough := Nat.le_mul_of_pos_right rows.length positive
    have covers : (rows.filter selected).length ≤ rows.length * limit :=
      (List.length_filter_le _ _).trans enough
    apply (pagesPartition_iff distinct covers).mp
    intro matchings lists
    -- Any listings of the selected rows come from listings of all rows.
    choose listings allowed matching using fun number => (lists number).exists_filter
    rcases shows listings allowed with ⟨pages, answered, together⟩
    have same : pages = fun number =>
        (pageAt limit (number * limit) (matchings number)).filterMap render := by
      funext number
      have page := answered number
      rw [answers _ (allowed number), matching] at page
      exact (Except.ok.inj page).symm
    rw [← same]
    exact together rows.length enough
  · intro clean listings lists
    refine ⟨_, fun number => answers (listings number) (lists number) _, ?_⟩
    intro count covers
    have matchings : ∀ number,
        Lists key (rows.filter selected) ((listings number).filter selected) :=
      fun number => ⟨(lists number).perm.filter _, (lists number).sorted.filter _⟩
    exact (pagesPartition_iff distinct ((List.length_filter_le _ _).trans covers)).mpr clean _
      matchings

theorem showsEveryRow_iff (positive : 0 < limit) (distinct : (rows.filterMap render).Nodup)
    (answers : ∀ listing query, answer listing query =
      .ok ((pageAt query.limit query.offset listing).filterMap render)) :
    ShowsEveryRow key rows limit answer (rows.filterMap render) ↔
      ∀ row ∈ rows, (render row).isSome = true →
        ∀ number, ¬Straddles key rows (number * limit) row := by
  have all := @showsEveryRow_filter_iff _ _ _ _ key rows limit (fun _ => true) answer render
  simp only [List.filter_true] at all
  exact all positive distinct fun listing _ query => answers listing query

theorem showsEveryRow_map_iff {Name : Type} {name : Row → Name} {read : Row → Shown}
    (label : Shown → Name) (positive : 0 < limit) (distinct : (rows.map name).Nodup)
    (named : ∀ row, label (read row) = name row)
    (answers : ∀ listing query, answer listing query =
      .ok ((pageAt query.limit query.offset listing).map read)) :
    ShowsEveryRow key rows limit answer (rows.map read) ↔ NoneStraddles key rows limit := by
  have different : (rows.filterMap (some ∘ read)).Nodup := by
    apply nodup_filterMap label distinct
    intro row shown found
    cases found
    exact named row
  rw [← List.filterMap_eq_map, showsEveryRow_iff positive different]
  · simp [NoneStraddles]
  · intro listing query
    rw [answers, List.filterMap_eq_map]

end Pages

/-! ## The rows that are listed -/

structure Database.ListedKeyed (db : Database) : Prop where
  apps : Keyed App.conflicts db.apps
  appVersions : Keyed AppVersionRow.conflicts db.appVersions
  evalCases : Keyed EvalCaseRow.conflicts db.evalCases
  evalRuns : Keyed EvalRunRow.conflicts db.evalRuns
  evalRunItems : Keyed EvalRunItem.conflicts db.evalRunItems
  comparisons : Keyed ComparisonRow.conflicts db.comparisons

namespace Database

theorem ListedKeyed.apply {db next : Database} {write : Write} (keyed : db.ListedKeyed)
    (applied : db.apply write = some next) : next.ListedKeyed := by
  cases write with
  | insertApp row =>
      rcases apply_insertApp applied with ⟨-, free, rfl⟩
      exact { keyed with apps := keyed.apps.insert free }
  | insertVersion row =>
      rcases apply_insertVersion applied with ⟨-, free, rfl⟩
      exact { keyed with appVersions := keyed.appVersions.insert free }
  | insertLinkedCase row link =>
      rcases apply_insertLinkedCase applied with ⟨-, free, -, rfl⟩
      exact { keyed with evalCases := keyed.evalCases.insert free }
  | insertRun row =>
      rcases apply_insertRun applied with ⟨-, free, rfl⟩
      exact { keyed with evalRuns := keyed.evalRuns.insert free }
  | setRunProgress =>
      cases applied
      exact { keyed with evalRuns := keyed.evalRuns.update fun _ _ => ⟨rfl, rfl⟩ }
  | insertItem row =>
      rcases apply_insertItem applied with ⟨-, free, rfl⟩
      exact { keyed with evalRunItems := keyed.evalRunItems.insert free }
  | setItem =>
      cases applied
      exact { keyed with evalRunItems := keyed.evalRunItems.update fun _ _ => ⟨rfl, rfl⟩ }
  | insertComparison row =>
      rcases apply_insertComparison applied with ⟨-, free, rfl⟩
      exact { keyed with comparisons := keyed.comparisons.insert free }
  | _ => first
    | cases applied; exact { keyed with }
    | rcases Option.bind_eq_some_iff.mp applied with ⟨table, -, insertion⟩
      cases insertion
      exact { keyed with }

theorem ListedKeyed.commit {db next : Database} {writes : List Write} (keyed : db.ListedKeyed)
    (committed : db.commit writes = some next) : next.ListedKeyed :=
  commit_keeps ListedKeyed (fun _ => True) (fun _ _ _ _ kept applied => kept.apply applied)
    (fun _ _ => trivial) keyed committed

theorem Reachable.listedKeyed {db : Database} (reachable : db.Reachable) : db.ListedKeyed := by
  apply reachable.keeps ListedKeyed (fun keyed => keyed.commit)
  intro createdAt
  exact ⟨keyed_nil, keyed_nil, keyed_nil, keyed_nil, keyed_nil, keyed_nil⟩

section

variable {db : Database} (keyed : db.ListedKeyed)

include keyed

theorem ListedKeyed.nodup_appsOf (organizationId : String) :
    ((db.appsOf organizationId).map (·.id)).Nodup :=
  (keyed.apps.filter _).nodup_map fun stored _ row _ same => by simp [App.conflicts, same]

theorem ListedKeyed.nodup_versionsOf (appId : String) :
    ((db.versionsOf appId).map (·.id)).Nodup :=
  (keyed.appVersions.filter _).nodup_map fun stored _ row _ same => by
    simp [AppVersionRow.conflicts, same]

theorem ListedKeyed.nodup_casesOf (suiteId : String) :
    ((db.casesOf suiteId).map (·.id)).Nodup :=
  (keyed.evalCases.filter _).nodup_map fun stored _ row _ same => by
    simp [EvalCaseRow.conflicts, same]

theorem ListedKeyed.nodup_runsOf (organizationId : String) :
    ((db.runsOf organizationId).map (·.id)).Nodup :=
  (keyed.evalRuns.filter _).nodup_map fun stored _ row _ same => by
    simp [EvalRunRow.conflicts, same]

theorem ListedKeyed.nodup_comparisonsOf (organizationId : String) :
    ((db.comparisonsOf organizationId).map (·.id)).Nodup :=
  (keyed.comparisons.filter _).nodup_map fun stored _ row _ same => by
    simp [ComparisonRow.conflicts, same]

theorem ListedKeyed.nodup_itemsOf (runId : String) :
    ((db.itemsOf runId).map (·.caseId)).Nodup := by
  apply (keyed.evalRunItems.filter _).nodup_map
  intro stored storedMember row member same
  have storedRun := (List.mem_filter.mp storedMember).2
  have run := (List.mem_filter.mp member).2
  rw [beq_iff_eq] at storedRun run
  simp [EvalRunItem.conflicts, storedRun, run, same]

end

end Database

/-! ## The items of a run -/

namespace Database

def ShowsItem (db : Database) (item : EvalRunItem) (shown : RunItemRead) : Prop :=
  ∃ results, Lists (·.createdAt) (db.resultsOf item.id) results ∧ shown = item.read results

/-- However the queries order ties, the answers are together the items of the
run, each of them once. -/
def ShowsEveryItem (db : Database) (principal : Principal) (runId : String) (limit : Nat) : Prop :=
  ∀ (listings : Nat → List EvalRunItem) (results : Nat → String → List EvalResultRow),
    (∀ number, Lists (·.caseId) (db.itemsOf runId) (listings number)) →
    (∀ number itemId, Lists (·.createdAt) (db.resultsOf itemId) (results number itemId)) →
    ∃ pages : Nat → List RunItemRead,
      (∀ number, listRunItemsOver db principal runId (results number) (listings number)
        { limit, offset := number * limit } = .ok (pages number)) ∧
      ∀ count, (db.itemsOf runId).length ≤ count * limit →
        ∃ items, items.Perm (db.itemsOf runId) ∧
          List.Forall₂ db.ShowsItem items ((List.range count).flatMap pages)

end Database

section

variable {db : Database} {principal : Principal} {limit : Nat}

theorem showsEveryItem (keyed : db.ListedKeyed) {runId : String} {run : EvalRunRow}
    (visible : db.tenantRun principal.organizationId runId = some run) :
    db.ShowsEveryItem principal runId limit := by
  intro listings results lists resultLists
  have found : tenantRunOr404 db principal runId = .ok run := by
    rw [tenantRunOr404, visible]
  refine ⟨fun number => (pageAt limit (number * limit) (listings number)).map fun item =>
    item.read (results number item.id), ?_, ?_⟩
  · intro number
    rw [listRunItemsOver, found]
    rfl
  · intro count covers
    refine ⟨(List.range count).flatMap fun number =>
      pageAt limit (number * limit) (listings number), ?_, ?_⟩
    · have distinct := keyed.nodup_itemsOf runId
      have shown : ((db.itemsOf runId).filterMap some).Nodup := by
        simpa using distinct.of_map
      have partition := (pagesPartition_iff shown covers).mpr
        (fun _ _ _ _ => not_straddles_of_distinct distinct) listings lists
      simpa using partition
    · have sameNumbers := List.forall₂_eq_eq_eq.symm ▸ Eq.refl (List.range count)
      apply List.rel_flatMap sameNumbers
      rintro number _ rfl
      rw [List.forall₂_map_right_iff]
      apply List.forall₂_same.mpr
      exact fun item _ => ⟨results number item.id, resultLists number item.id, rfl⟩

/-! ## The cases with a tag -/

def holdsTag (tag : String) (case : EvalCaseRow) : Bool := (hasTag tag case).toOption.getD false

variable {suiteId tag : String} {suite : EvalSuiteRow}

theorem listEvalCasesOver_some
    (visible : db.tenantSuite principal.organizationId suiteId = some suite)
    {listing : List EvalCaseRow}
    (searchable : ∀ case ∈ listing, ∃ found, hasTag tag case = .ok found) (query : PageQuery) :
    listEvalCasesOver db principal suiteId (some tag) listing query =
      .ok ((pageAt query.limit query.offset (listing.filter (holdsTag tag))).map (·.read)) := by
  have each : ∀ case ∈ listing, hasTag tag case = .ok (holdsTag tag case) := by
    intro case member
    rcases searchable case member with ⟨found, decided⟩
    rw [holdsTag, decided]
    rfl
  have matching := filterM_eq_filter each
  rw [listEvalCasesOver, tenantSuiteOr404_eq_ok visible]
  simp only [matching]
  rfl

theorem searchable_of_listEvalCasesOver {listing : List EvalCaseRow} {query : PageQuery}
    {cases : List EvalCaseRead}
    (answered : listEvalCasesOver db principal suiteId (some tag) listing query = .ok cases) :
    ∀ case ∈ listing, ∃ found, hasTag tag case = .ok found := by
  unfold listEvalCasesOver at answered
  rcases bind_eq_ok_iff.mp answered with ⟨_, -, answered⟩
  rcases bind_eq_ok_iff.mp answered with ⟨matching, filtered, -⟩
  cases loop : listing.filterM (hasTag tag) with
  | error exc =>
      simp only [loop] at filtered
      cases filtered
  | ok kept => exact forall_ok_of_filterM loop

theorem showsEverySearchableCase_iff (keyed : db.ListedKeyed) (positive : 0 < limit)
    (visible : db.tenantSuite principal.organizationId suiteId = some suite)
    (searchable : ∀ case ∈ db.casesOf suiteId, ∃ found, hasTag tag case = .ok found) :
    ShowsEveryRow EvalCaseRow.createdAt (db.casesOf suiteId) limit
        (listEvalCasesOver db principal suiteId (some tag))
        (((db.casesOf suiteId).filter (holdsTag tag)).map (·.read)) ↔
      NoneStraddles EvalCaseRow.createdAt ((db.casesOf suiteId).filter (holdsTag tag)) limit := by
  have names : (((db.casesOf suiteId).filter (holdsTag tag)).map (·.id)).Nodup :=
    (List.filter_sublist.map _).nodup (keyed.nodup_casesOf suiteId)
  have distinct : (((db.casesOf suiteId).filter (holdsTag tag)).filterMap
      (some ∘ EvalCaseRow.read)).Nodup := by
    apply nodup_filterMap EvalCaseRead.id names
    intro row shown found
    cases found
    rfl
  have answers : ∀ listing, Lists EvalCaseRow.createdAt (db.casesOf suiteId) listing →
      ∀ query, listEvalCasesOver db principal suiteId (some tag) listing query =
        .ok ((pageAt query.limit query.offset (listing.filter (holdsTag tag))).filterMap
          (some ∘ EvalCaseRow.read)) := by
    intro listing lists query
    rw [listEvalCasesOver_some visible
      (fun case member => searchable case (lists.perm.mem_iff.mp member)), List.filterMap_eq_map]
  have shown := showsEveryRow_filter_iff positive distinct answers
  rw [List.filterMap_eq_map] at shown
  rw [shown]
  simp [NoneStraddles]

/-- The pages of a tag show its cases once exactly if the tags of all cases can
be searched and no case with the tag straddles a boundary. -/
theorem showsEveryTaggedCase_iff (keyed : db.ListedKeyed) (positive : 0 < limit)
    (visible : db.tenantSuite principal.organizationId suiteId = some suite) :
    ShowsEveryRow EvalCaseRow.createdAt (db.casesOf suiteId) limit
        (listEvalCasesOver db principal suiteId (some tag))
        (((db.casesOf suiteId).filter (holdsTag tag)).map (·.read)) ↔
      (∀ case ∈ db.casesOf suiteId, ∃ found, hasTag tag case = .ok found) ∧
        NoneStraddles EvalCaseRow.createdAt ((db.casesOf suiteId).filter (holdsTag tag)) limit := by
  constructor
  · intro shows
    have searchable : ∀ case ∈ db.casesOf suiteId, ∃ found, hasTag tag case = .ok found := by
      have sorted := lists_insertionSort EvalCaseRow.createdAt (db.casesOf suiteId)
      rcases shows (fun _ => _) (fun _ => sorted) with ⟨pages, answered, -⟩
      intro case member
      exact searchable_of_listEvalCasesOver (answered 0) case (sorted.perm.mem_iff.mpr member)
    exact ⟨searchable, (showsEverySearchableCase_iff keyed positive visible searchable).mp shows⟩
  · rintro ⟨searchable, clean⟩
    exact (showsEverySearchableCase_iff keyed positive visible searchable).mpr clean

end

/-! ## All list endpoints -/

structure PaginationExact (db : Database) (principal : Principal) (limit : Nat) : Prop where
  apps :
    ShowsEveryRow (newestFirst (·.createdAt)) (db.appsOf principal.organizationId) limit
        listAppsOver ((db.appsOf principal.organizationId).map (·.read)) ↔
      NoneStraddles (newestFirst (·.createdAt)) (db.appsOf principal.organizationId) limit
  appVersions : ∀ appId app, db.tenantApp principal.organizationId appId = some app →
    (ShowsEveryRow (newestFirst (·.createdAt)) (db.versionsOf appId) limit
        (listAppVersionsOver db principal appId) ((db.versionsOf appId).map (·.read)) ↔
      NoneStraddles (newestFirst (·.createdAt)) (db.versionsOf appId) limit)
  runs :
    ShowsEveryRow (newestFirst (·.createdAt)) (db.runsOf principal.organizationId) limit
        listRunsOver ((db.runsOf principal.organizationId).map (·.read)) ↔
      NoneStraddles (newestFirst (·.createdAt)) (db.runsOf principal.organizationId) limit
  runItems : ∀ runId run, db.tenantRun principal.organizationId runId = some run →
    db.ShowsEveryItem principal runId limit
  comparisons :
    ShowsEveryRow (newestFirst (·.createdAt)) (db.comparisonsOf principal.organizationId) limit
        (listComparisonsOver db)
        ((db.comparisonsOf principal.organizationId).filterMap db.shownComparison) ↔
      ∀ comparison ∈ db.comparisonsOf principal.organizationId,
        (db.reportOf comparison.id).isSome = true → ∀ number,
          ¬Straddles (newestFirst (·.createdAt)) (db.comparisonsOf principal.organizationId)
            (number * limit) comparison
  evalCases : ∀ suiteId suite, db.tenantSuite principal.organizationId suiteId = some suite →
    (ShowsEveryRow EvalCaseRow.createdAt (db.casesOf suiteId) limit
        (listEvalCasesOver db principal suiteId none) ((db.casesOf suiteId).map (·.read)) ↔
      NoneStraddles EvalCaseRow.createdAt (db.casesOf suiteId) limit)
  taggedCases : ∀ suiteId suite tag,
    db.tenantSuite principal.organizationId suiteId = some suite →
    (ShowsEveryRow EvalCaseRow.createdAt (db.casesOf suiteId) limit
        (listEvalCasesOver db principal suiteId (some tag))
        (((db.casesOf suiteId).filter (holdsTag tag)).map (·.read)) ↔
      (∀ case ∈ db.casesOf suiteId, ∃ found, hasTag tag case = .ok found) ∧
        NoneStraddles EvalCaseRow.createdAt ((db.casesOf suiteId).filter (holdsTag tag)) limit)

/-- The pages show every visible row once exactly if no rows with one instant of
creation have places at both sides of a page boundary, and the tags can be
searched. The items of a run are sorted by a unique column. -/
theorem pages_partition_iff (db : Database) (keyed : db.ListedKeyed) (principal : Principal)
    (limit : Nat) (positive : 0 < limit) : PaginationExact db principal limit where
  apps := showsEveryRow_map_iff AppRead.id positive (keyed.nodup_appsOf _)
    (fun _ => rfl) fun _ _ => rfl
  appVersions appId app visible := by
    have found : tenantAppOr404 db principal appId = .ok app := by
      rw [tenantAppOr404, visible]
    apply showsEveryRow_map_iff AppVersionRead.id positive (keyed.nodup_versionsOf _) fun _ => rfl
    intro listing query
    rw [listAppVersionsOver, found]
    rfl
  runs := showsEveryRow_map_iff RunRead.id positive (keyed.nodup_runsOf _)
    (fun _ => rfl) fun _ _ => rfl
  runItems _ _ visible := showsEveryItem keyed visible
  comparisons := by
    have distinct : ((db.comparisonsOf principal.organizationId).filterMap
        db.shownComparison).Nodup := by
      apply nodup_filterMap ComparisonRead.id (keyed.nodup_comparisonsOf _)
      intro comparison shown found
      rcases Option.map_eq_some_iff.mp found with ⟨report, -, rfl⟩
      rfl
    have reported : ∀ comparison, (db.shownComparison comparison).isSome =
        (db.reportOf comparison.id).isSome := fun _ => Option.isSome_map
    simp only [← reported]
    exact showsEveryRow_iff positive distinct fun _ _ => rfl
  evalCases suiteId suite visible := by
    apply showsEveryRow_map_iff EvalCaseRead.id positive (keyed.nodup_casesOf _) fun _ => rfl
    intro listing query
    rw [listEvalCasesOver, tenantSuiteOr404_eq_ok visible]
    rfl
  taggedCases _ _ _ visible := showsEveryTaggedCase_iff keyed positive visible

namespace Scenario

def twoAppsState : Database :=
  stateAfter [.call (namedCall "first" {} (.tenant (.createApp { name := "Assistant" }))),
    .call (namedCall "second" {} (.tenant (.createApp { name := "Search" })))]

theorem twoAppsState_reachable : twoAppsState.Reachable :=
  ⟨0, [.call (namedCall "first" {} (.tenant (.createApp { name := "Assistant" }))),
    .call (namedCall "second" {} (.tenant (.createApp { name := "Search" })))], rfl⟩

def appNamed (id name : String) : App where
  id := id
  organizationId := defaultOrganizationId
  name := name
  description := ""
  createdAt := 0

theorem appsOf_twoAppsState : twoAppsState.appsOf suiteReader.organizationId =
    [appNamed "first-0" "Assistant", appNamed "second-0" "Search"] := by
  rfl

end Scenario

theorem pages_partition_iff_scenario :
    PaginationExact Scenario.twoAppsState Scenario.suiteReader 1 :=
  pages_partition_iff _ Scenario.twoAppsState_reachable.listedKeyed _ 1 Nat.one_pos

/-- Both pages of one app may show the same one. -/
theorem tied_apps_are_repeated :
    ¬∀ (db : Database) (principal : Principal) (limit : Nat), db.Reachable → 0 < limit →
      ShowsEveryRow (newestFirst (·.createdAt)) (db.appsOf principal.organizationId) limit
        listAppsOver ((db.appsOf principal.organizationId).map (·.read)) := by
  intro shows
  let first := Scenario.appNamed "first-0" "Assistant"
  let second := Scenario.appNamed "second-0" "Search"
  have allowed : ∀ number, Lists (newestFirst (·.createdAt))
      (Scenario.twoAppsState.appsOf Scenario.suiteReader.organizationId)
      (if number = 0 then [first, second] else [second, first]) := by
    intro number
    rw [Scenario.appsOf_twoAppsState]
    split
    · exact ⟨.refl _, by simp [newestFirst, first, second, Scenario.appNamed]⟩
    · exact ⟨.swap _ _ _, by simp [newestFirst, first, second, Scenario.appNamed]⟩
  rcases shows Scenario.twoAppsState Scenario.suiteReader 1 Scenario.twoAppsState_reachable
    Nat.one_pos _ allowed with ⟨pages, answered, together⟩
  have firstPage : pages 0 = [first.read] := (Except.ok.inj (answered 0)).symm
  have secondPage : pages 1 = [first.read] := (Except.ok.inj (answered 1)).symm
  have shown := together 2 (by rw [Scenario.appsOf_twoAppsState]; decide)
  have member : second.read ∈ (List.range 2).flatMap pages := by
    rw [shown.mem_iff, Scenario.appsOf_twoAppsState]
    simp [second]
  simp [List.range_succ, firstPage, secondPage, first, second, Scenario.appNamed, App.read]
    at member

end EvalForge
