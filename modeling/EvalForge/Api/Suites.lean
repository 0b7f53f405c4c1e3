import EvalForge.Api.Apps

/-! # Suites and their cases -/

namespace EvalForge

open Foundation

def tenantSuiteOr404 (db : Database) (principal : Principal) (suiteId : String) :
    Except HttpError EvalSuiteRow :=
  match db.tenantSuite principal.organizationId suiteId with
  | some suite => .ok suite
  | none => .error (httpError 404 "Eval suite not found")

/-! ## Tags -/

/-- `text in value`. -/
def Json.holdsText (text : String) : Json → Except PythonException Bool
  | .list items => .ok (items.any fun item =>
      match item with
      | .str other => other == text
      | _ => false)
  | .dict fields => .ok (fields.any fun field => field.1 == text)
  | .str whole => .ok (PythonText.contains text whole.toList)
  | value =>
      let kind := value.typeName
      .error ⟨s!"argument of type '{kind}' is not iterable"⟩

def hasTag (tag : String) (case : EvalCaseRow) : Except PythonException Bool :=
  (case.payload.get "tags" (.list [])).holdsText tag

/-- A tag that is no text cannot be a key of the response. -/
def tagText : Json → Except PythonException String
  | .str text => .ok text
  | value =>
      let kind := value.typeName
      .error ⟨s!"Input should be a valid string, not '{kind}'"⟩

def tagsOf (case : EvalCaseRow) : Except PythonException (List String) := do
  let tags ← (case.payload.get "tags" (.list [])).iterate
  tags.mapM tagText

/-- `dict(sorted(Counter(tags).items()))`. -/
def tagDistribution (tags : List String) : List (String × Nat) :=
  (tags.dedup.insertionSort (· ≤ ·)).map fun tag => (tag, tags.count tag)

/-! ## Endpoints -/

def uncaught (result : Except PythonException Answer) : Except HttpError Answer :=
  result.mapError fun _ => internalServerError

def listEvalCases (db : Database) (principal : Principal) (suiteId : String)
    (tag : Option String) (query : PageQuery) : Except HttpError (List EvalCaseRead) := do
  let _ ← tenantSuiteOr404 db principal suiteId
  let cases := byCreation (·.createdAt) (db.casesOf suiteId)
  let matching ←
    match tag with
    | none => pure cases
    | some tag => uncaught (cases.filterM (hasTag tag))
  return ((matching.drop query.offset).take query.limit).map (·.read)

def getEvalSuiteSummary (db : Database) (principal : Principal) (suiteId : String) :
    Except HttpError EvalSuiteSummary := do
  let _ ← tenantSuiteOr404 db principal suiteId
  let cases := db.casesOf suiteId
  let tags ← uncaught (cases.mapM tagsOf)
  return { caseCount := cases.length, tagDistribution := tagDistribution tags.flatten }

/-- The loop of the import, with the number of cases before this one. -/
def importCases (readings : RequestReadings) (suiteId : String) (index imported : Nat) :
    List EvalCaseImportItem → List Write × Nat × List String
  | [] => ([], imported, [])
  | item :: items =>
      if (item.payload.find? "input").isNone then
        let (writes, total, errors) := importCases readings suiteId (index + 1) imported items
        (writes, total, s!"case[{index}] missing payload.input" :: errors)
      else
        let case : EvalCaseRow :=
          { id := readings.newUuid imported, externalId := item.externalId
            payload := item.payload, createdAt := readings.utcNow (2 * imported) }
        let link : EvalSuiteCase :=
          { suiteId, caseId := case.id, createdAt := readings.utcNow (2 * imported + 1) }
        let (writes, total, errors) :=
          importCases readings suiteId (index + 1) (imported + 1) items
        (.insertLinkedCase case link :: writes, total, errors)

def importEvalCases (readings : RequestReadings) (db : Database) (principal : Principal)
    (suiteId : String) (payload : EvalCaseImportRequest) :
    Except HttpError (List Write × EvalCaseImportResult) := do
  requireRole principal .evaluator
  let _ ← tenantSuiteOr404 db principal suiteId
  let (writes, imported, errors) := importCases readings suiteId 0 0 payload.cases
  return (writes, { imported, errors })

end EvalForge
