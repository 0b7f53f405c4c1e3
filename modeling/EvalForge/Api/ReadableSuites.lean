import EvalForge.Api.TenantConsistency

/-! # Reading a suite after its imports

An import checks one key of a payload. The summary and the tag filter then go
over the tags of every stored case, which nothing has checked.
-/

namespace EvalForge

open Foundation

/-! ## Tags that can be read -/

def Json.isText : Json → Bool
  | .str _ => true
  | _ => false

/-- A list of texts, an object or a text. -/
def Json.areTags : Json → Bool
  | .list items => items.all Json.isText
  | .dict _ => true
  | .str _ => true
  | _ => false

def hasReadableTags (payload : Json) : Bool := (payload.get "tags" (.list [])).areTags

section Tags

variable {case : EvalCaseRow} {cases : List EvalCaseRow} {tag : String}

theorem tagText_ok_iff {value : Json} :
    (∃ text, tagText value = .ok text) ↔ value.isText = true := by
  cases value <;> simp [tagText, Json.isText]

theorem mapM_tagText_ok_iff {values : List Json} :
    (∃ tags, values.mapM tagText = .ok tags) ↔ values.all Json.isText = true := by
  rw [List.all_eq_true]
  constructor
  · rintro ⟨tags, mapped⟩ value member
    rcases forall₂_exists_left (forall₂_of_mapM mapped).flip value member with ⟨text, -, found⟩
    exact tagText_ok_iff.mp ⟨text, found⟩
  · intro texts
    exact mapM_ok fun value member => tagText_ok_iff.mpr (texts value member)

theorem tagsOf_ok_iff : (∃ tags, tagsOf case = .ok tags) ↔ hasReadableTags case.payload = true := by
  unfold tagsOf hasReadableTags
  cases case.payload.get "tags" (.list []) with
  | list items => exact mapM_tagText_ok_iff
  | dict fields =>
      simp only [Json.areTags, iff_true]
      apply mapM_tagText_ok_iff.mpr
      simp [Json.isText]
  | str text =>
      simp only [Json.areTags, iff_true]
      apply mapM_tagText_ok_iff.mpr
      simp [Json.isText]
  | _ => simp [Json.areTags, Json.iterate, bind, Except.bind]

variable (tag) in
theorem hasTag_ok (readable : hasReadableTags case.payload = true) :
    ∃ found, hasTag tag case = .ok found := by
  unfold hasReadableTags at readable
  unfold hasTag
  cases tags : case.payload.get "tags" (.list []) with
  | list items => exact ⟨_, rfl⟩
  | dict fields => exact ⟨_, rfl⟩
  | str text => exact ⟨_, rfl⟩
  | _ =>
      rw [tags] at readable
      cases readable

end Tags

/-! ## One request -/

/-- The key that the import checks. -/
def EvalCaseImportItem.hasInput (item : EvalCaseImportItem) : Bool :=
  (item.payload.find? "input").isSome

def EvalCaseRow.imported (case : EvalCaseRow) : EvalCaseImportItem where
  externalId := case.externalId
  payload := case.payload

def EvalCaseImportRequest.accepted (request : EvalCaseImportRequest) : List EvalCaseImportItem :=
  request.cases.filter (·.hasInput)

def importErrors (index : Nat) (items : List EvalCaseImportItem) : List String :=
  ((items.zipIdx index).filter fun entry => !entry.1.hasInput).map
    fun entry => s!"case[{entry.2}] missing payload.input"

section Import

variable {readings : RequestReadings} {suiteId organizationId : String} {index imported : Nat}
variable {items : List EvalCaseImportItem} {db next : Database}

theorem importCases_of_missing {item : EvalCaseImportItem} (missing : item.hasInput = false) :
    importCases readings suiteId index imported (item :: items) =
      let rest := importCases readings suiteId (index + 1) imported items
      (rest.1, rest.2.1, s!"case[{index}] missing payload.input" :: rest.2.2) := by
  have absent : (item.payload.find? "input").isNone = true := by
    simpa [EvalCaseImportItem.hasInput] using missing
  rw [importCases, if_pos absent]

theorem importCases_of_present {item : EvalCaseImportItem} (present : item.hasInput = true) :
    ∃ case link, case.imported = item ∧ link.caseId = case.id ∧ link.suiteId = suiteId ∧
      importCases readings suiteId index imported (item :: items) =
        let rest := importCases readings suiteId (index + 1) (imported + 1) items
        (.insertLinkedCase case link :: rest.1, rest.2.1, rest.2.2) := by
  have found : ¬(item.payload.find? "input").isNone = true := by
    simpa [EvalCaseImportItem.hasInput, Option.isSome_iff_ne_none] using present
  rw [importCases, if_neg found]
  exact ⟨_, _, rfl, rfl, rfl, rfl⟩

theorem importCases_imported :
    (importCases readings suiteId index imported items).2.1 =
      imported + (items.filter (·.hasInput)).length := by
  induction items generalizing index imported with
  | nil => rfl
  | cons item items induction =>
      cases present : item.hasInput with
      | false =>
          rw [importCases_of_missing present, List.filter_cons_of_neg (by simp [present])]
          exact induction
      | true =>
          rcases importCases_of_present present with ⟨case, link, -, -, -, equal⟩
          rw [equal, List.filter_cons_of_pos present, List.length_cons]
          exact induction.trans (Nat.succ_add_eq_add_succ imported _)

theorem importCases_errors :
    (importCases readings suiteId index imported items).2.2 = importErrors index items := by
  induction items generalizing index imported with
  | nil => rfl
  | cons item items induction =>
      rw [importErrors, List.zipIdx_cons]
      cases present : item.hasInput with
      | false =>
          rw [importCases_of_missing present, List.filter_cons_of_pos (by simp [present]),
            List.map_cons]
          exact congrArg _ induction
      | true =>
          rcases importCases_of_present present with ⟨case, link, -, -, -, equal⟩
          rw [equal, List.filter_cons_of_neg (by simp [present])]
          exact induction

/-- What an import changes: it appends the items to the cases of the suite. -/
structure AppendsCases (suiteId : String) (items : List EvalCaseImportItem)
    (db next : Database) : Prop where
  cases : (next.casesOf suiteId).map (·.imported) =
    (db.casesOf suiteId).map (·.imported) ++ items
  suites : next.tenantSuite = db.tenantSuite

theorem AppendsCases.trans {middle : Database} {others : List EvalCaseImportItem}
    (first : AppendsCases suiteId items db middle)
    (second : AppendsCases suiteId others middle next) :
    AppendsCases suiteId (items ++ others) db next where
  cases := by rw [second.cases, first.cases, List.append_assoc]
  suites := second.suites.trans first.suites

theorem appendsCases_insertLinkedCase {case : EvalCaseRow} {link : EvalSuiteCase}
    (linked : link.caseId = case.id) (own : link.suiteId = suiteId)
    (applied : db.apply (.insertLinkedCase case link) = some next) :
    AppendsCases suiteId [case.imported] db next := by
  rcases apply_insertLinkedCase applied with ⟨-, free, -, rfl⟩
  constructor
  · have others : db.evalCases.filter (fun stored => (db.evalSuiteCases ++ [link]).any
        fun link => link.caseId == stored.id && link.suiteId == suiteId) =
        db.casesOf suiteId := by
      apply List.filter_congr
      intro stored member
      have different : (case.id == stored.id) = false := free stored member
      rw [List.any_append, List.any_cons, linked, different]
      simp
    have last : [case].filter (fun stored => (db.evalSuiteCases ++ [link]).any
        fun link => link.caseId == stored.id && link.suiteId == suiteId) = [case] := by
      simp [linked, own]
    rw [Database.casesOf, List.filter_append, others, last, List.map_append]
    rfl
  · rfl

theorem appendsCases_importCases
    (committed : db.commit (importCases readings suiteId index imported items).1 = some next) :
    AppendsCases suiteId (items.filter (·.hasInput)) db next := by
  induction items generalizing index imported db with
  | nil =>
      cases committed
      exact ⟨(List.append_nil _).symm, rfl⟩
  | cons item items induction =>
      cases present : item.hasInput with
      | false =>
          rw [importCases_of_missing present] at committed
          rw [List.filter_cons_of_neg (by simp [present])]
          exact induction committed
      | true =>
          rcases importCases_of_present present with ⟨case, link, stored, linked, own, equal⟩
          rw [equal] at committed
          rcases Option.bind_eq_some_iff.mp committed with ⟨middle, applied, rest⟩
          rw [List.filter_cons_of_pos present, ← stored]
          exact (appendsCases_insertLinkedCase linked own applied).trans (induction rest)

end Import

/-! ## A sequence of requests -/

structure ImportCall where
  readings : RequestReadings
  principal : Principal
  payload : EvalCaseImportRequest
  result : EvalCaseImportResult

def ImportCall.reply (call : ImportCall) (db : Database) (suiteId : String) :
    Reply EvalCaseImportResult :=
  .ofExcept (importEvalCases call.readings db call.principal suiteId call.payload)

inductive Imports (suiteId : String) : Database → List ImportCall → Database → Prop
  | nil (db : Database) : Imports suiteId db [] db
  | cons {db middle next : Database} {call : ImportCall} {calls : List ImportCall}
      (answered : Reply.settle db (call.reply db suiteId) = (middle, .ok call.result))
      (rest : Imports suiteId middle calls next) : Imports suiteId db (call :: calls) next

def ImportCall.ReportsItems (call : ImportCall) : Prop :=
  call.result.imported = call.payload.accepted.length ∧
    call.result.errors = importErrors 0 call.payload.cases

section Sequence

variable {suiteId : String} {db next : Database} {call : ImportCall} {calls : List ImportCall}

theorem ImportCall.answered_ok
    (answered : Reply.settle db (call.reply db suiteId) = (next, .ok call.result)) :
    call.ReportsItems ∧ AppendsCases suiteId call.payload.accepted db next := by
  cases created : importEvalCases call.readings db call.principal suiteId call.payload with
  | error error =>
      rw [reply, created] at answered
      cases answered
  | ok both =>
      rcases both with ⟨writes, result⟩
      rw [reply, created, Reply.ofExcept, Reply.settle] at answered
      split at answered
      · next final committed =>
          cases answered
          unfold importEvalCases at created
          rcases bind_eq_ok_iff.mp created with ⟨_, -, created⟩
          rcases bind_eq_ok_iff.mp created with ⟨suite, -, created⟩
          simp only [pure, Except.pure, Except.ok.injEq, Prod.mk.injEq] at created
          rcases created with ⟨rfl, reported⟩
          refine ⟨⟨?_, ?_⟩, appendsCases_importCases committed⟩
          · rw [← reported, importCases_imported, Nat.zero_add]
            rfl
          · rw [← reported, importCases_errors]
      · cases answered

theorem Imports.appends (imports : Imports suiteId db calls next) :
    (∀ call ∈ calls, call.ReportsItems) ∧
      AppendsCases suiteId (calls.flatMap (·.payload.accepted)) db next := by
  induction imports with
  | nil db => exact ⟨List.forall_mem_nil _, ⟨(List.append_nil _).symm, rfl⟩⟩
  | cons answered _ induction =>
      rcases ImportCall.answered_ok answered with ⟨reports, appends⟩
      exact ⟨List.forall_mem_cons.mpr ⟨reports, induction.1⟩, appends.trans induction.2⟩

end Sequence

/-! ## Reading the suite -/

structure SuiteStaysReadable (suiteId : String) (reader : Principal) (db : Database)
    (calls : List ImportCall) (next : Database) : Prop where
  requests : ∀ call ∈ calls, call.ReportsItems
  stored : (next.casesOf suiteId).map (·.imported) =
    (db.casesOf suiteId).map (·.imported) ++ calls.flatMap (·.payload.accepted)
  summary : ∃ summary, getEvalSuiteSummary next reader suiteId = .ok summary ∧
    summary.caseCount = (db.casesOf suiteId).length + (calls.map (·.result.imported)).sum
  lists : ∀ tag query, ∃ cases, listEvalCases next reader suiteId tag query = .ok cases

section Readers

variable {suiteId : String} {reader : Principal} {db : Database} {suite : EvalSuiteRow}

theorem tenantSuiteOr404_eq_ok
    (visible : db.tenantSuite reader.organizationId suiteId = some suite) :
    tenantSuiteOr404 db reader suiteId = .ok suite := by
  rw [tenantSuiteOr404, visible]

/-- The summary is returned exactly if the tags of all cases are readable. -/
theorem getEvalSuiteSummary_ok_iff
    (visible : db.tenantSuite reader.organizationId suiteId = some suite) :
    (∃ summary, getEvalSuiteSummary db reader suiteId = .ok summary) ↔
      ∀ case ∈ db.casesOf suiteId, hasReadableTags case.payload = true := by
  rw [getEvalSuiteSummary, tenantSuiteOr404_eq_ok visible]
  constructor
  · rintro ⟨summary, returned⟩ case member
    rcases bind_eq_ok_iff.mp returned with ⟨_, -, returned⟩
    rcases bind_eq_ok_iff.mp returned with ⟨tags, mapped, -⟩
    cases loop : (db.casesOf suiteId).mapM tagsOf with
    | error exc =>
        rw [loop] at mapped
        cases mapped
    | ok tags =>
        rcases forall₂_exists_left (forall₂_of_mapM loop).flip case member with ⟨own, -, found⟩
        exact tagsOf_ok_iff.mp ⟨own, found⟩
  · intro readable
    have every : ∃ tags, (db.casesOf suiteId).mapM tagsOf = .ok tags :=
      mapM_ok fun case member => tagsOf_ok_iff.mpr (readable case member)
    rcases every with ⟨tags, mapped⟩
    refine ⟨{ caseCount := (db.casesOf suiteId).length,
              tagDistribution := tagDistribution tags.flatten }, ?_⟩
    simp only [mapped]
    rfl

theorem caseCount_of_getEvalSuiteSummary {summary : EvalSuiteSummary}
    (returned : getEvalSuiteSummary db reader suiteId = .ok summary) :
    summary.caseCount = (db.casesOf suiteId).length := by
  unfold getEvalSuiteSummary at returned
  rcases bind_eq_ok_iff.mp returned with ⟨_, -, returned⟩
  rcases bind_eq_ok_iff.mp returned with ⟨tags, -, returned⟩
  cases returned
  rfl

theorem listEvalCases_ok (visible : db.tenantSuite reader.organizationId suiteId = some suite)
    (readable : ∀ case ∈ db.casesOf suiteId, hasReadableTags case.payload = true)
    (tag : Option String) (query : PageQuery) :
    ∃ cases, listEvalCases db reader suiteId tag query = .ok cases := by
  rw [listEvalCases, tenantSuiteOr404_eq_ok visible]
  cases tag with
  | none => exact ⟨_, rfl⟩
  | some tag =>
      have each : ∀ case ∈ byCreation (·.createdAt) (db.casesOf suiteId),
          hasTag tag case = .ok ((hasTag tag case).toOption.getD false) := by
        intro case member
        have stored : case ∈ db.casesOf suiteId := (List.mem_insertionSort _).mp member
        rcases hasTag_ok tag (readable case stored) with ⟨found, decided⟩
        rw [decided]
        rfl
      have matching := filterM_eq_filter each
      exact ⟨_, by simp only [matching]; rfl⟩

end Readers

/-- The suite stays readable exactly if the tags of its cases, and of all
imported items, are lists of texts, objects or texts. -/
theorem imported_suite_readable_iff (suiteId : String) (reader : Principal)
    (db next : Database) (suite : EvalSuiteRow)
    (visible : db.tenantSuite reader.organizationId suiteId = some suite)
    (calls : List ImportCall) (imports : Imports suiteId db calls next) :
    SuiteStaysReadable suiteId reader db calls next ↔
      (∀ case ∈ db.casesOf suiteId, hasReadableTags case.payload = true) ∧
        ∀ call ∈ calls, ∀ item ∈ call.payload.cases, item.hasInput = true →
          hasReadableTags item.payload = true := by
  rcases imports.appends with ⟨reports, appends⟩
  have visibleNext : next.tenantSuite reader.organizationId suiteId = some suite := by
    rw [appends.suites]
    exact visible
  have readable : (∀ case ∈ next.casesOf suiteId, hasReadableTags case.payload = true) ↔
      (∀ case ∈ db.casesOf suiteId, hasReadableTags case.payload = true) ∧
        ∀ call ∈ calls, ∀ item ∈ call.payload.cases, item.hasInput = true →
          hasReadableTags item.payload = true := by
    have mapped : (∀ case ∈ next.casesOf suiteId, hasReadableTags case.payload = true) ↔
        ∀ item ∈ (next.casesOf suiteId).map (·.imported),
          hasReadableTags item.payload = true := by
      simp [EvalCaseRow.imported]
    rw [mapped, appends.cases]
    simp only [List.forall_mem_append, List.forall_mem_map, List.forall_mem_flatMap,
      EvalCaseRow.imported, EvalCaseImportRequest.accepted, List.mem_filter, and_imp]
  rw [← readable]
  constructor
  · intro stays
    rcases stays.summary with ⟨summary, returned, -⟩
    exact (getEvalSuiteSummary_ok_iff visibleNext).mp ⟨summary, returned⟩
  · intro all
    rcases (getEvalSuiteSummary_ok_iff visibleNext).mpr all with ⟨summary, returned⟩
    refine ⟨reports, appends.cases, ⟨summary, returned, ?_⟩, listEvalCases_ok visibleNext all⟩
    have lengths := congrArg List.length appends.cases
    simp only [List.length_append, List.length_map, List.length_flatMap] at lengths
    rw [caseCount_of_getEvalSuiteSummary returned, lengths]
    congr 2
    apply List.map_congr_left
    exact fun call member => (reports call member).1.symm

namespace Scenario

def suiteState : Database :=
  stateAfter ((devRequests.take 3).map fun (name, request) =>
    .call (namedCall name {} (.tenant request)))

def suiteReader : Principal := systemPrincipal .development

/-- The import of a case with the tags, and of one without an input. -/
def tagsCall (tags : Json) : ImportCall where
  readings := (namedReadings "case").toRequestReadings
  principal := suiteReader
  payload := { cases := [
    { payload := .dict [("input", .str "Which module?"), ("tags", tags)] },
    { payload := .dict [("tags", tags)] }] }
  result := { imported := 1, errors := ["case[1] missing payload.input"] }

def taggedState (tags : Json) : Database :=
  (Reply.settle suiteState ((tagsCall tags).reply suiteState "suite-0")).1

theorem suiteState_visible :
    suiteState.tenantSuite suiteReader.organizationId "suite-0" =
      some { id := "suite-0", appId := "app-0", name := "Questions", createdAt := 0 } := by
  rfl

theorem tagsCall_imports (tags : Json) :
    Imports "suite-0" suiteState [tagsCall tags] (taggedState tags) := by
  have answered : Reply.settle suiteState ((tagsCall tags).reply suiteState "suite-0") =
      (taggedState tags, .ok (tagsCall tags).result) := by
    rfl
  exact .cons answered (.nil _)

end Scenario

theorem imported_suite_readable_iff_scenario :
    SuiteStaysReadable "suite-0" Scenario.suiteReader Scenario.suiteState
      [Scenario.tagsCall (.list [.str "venv"])] (Scenario.taggedState (.list [.str "venv"])) := by
  apply (imported_suite_readable_iff _ _ _ _ _ Scenario.suiteState_visible _
    (Scenario.tagsCall_imports _)).mpr
  have noCases : Scenario.suiteState.casesOf "suite-0" = [] := by
    rfl
  have readable : (Scenario.tagsCall (.list [.str "venv"])).payload.cases.all
      (fun item => hasReadableTags item.payload) = true := by
    rfl
  rw [noCases]
  refine ⟨List.forall_mem_nil _, fun call member item itemMember _ => ?_⟩
  cases List.mem_singleton.mp member
  exact List.all_eq_true.mp readable item itemMember

/-- After the import of a case whose tags are a number the summary is refused. -/
theorem number_tags_break_suite :
    ¬∀ (suiteId : String) (reader : Principal) (db next : Database) (suite : EvalSuiteRow),
      db.tenantSuite reader.organizationId suiteId = some suite →
      ∀ calls, Imports suiteId db calls next →
        SuiteStaysReadable suiteId reader db calls next := by
  intro readable
  rcases (readable _ _ _ _ _ Scenario.suiteState_visible _
    (Scenario.tagsCall_imports (.int 5))).summary with ⟨summary, returned, -⟩
  have refused : getEvalSuiteSummary (Scenario.taggedState (.int 5)) Scenario.suiteReader
      "suite-0" = .error internalServerError := by
    rfl
  rw [refused] at returned
  cases returned

end EvalForge
