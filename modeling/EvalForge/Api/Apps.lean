import EvalForge.Core.Config
import EvalForge.Db.Queries
import EvalForge.Db.Session
import EvalForge.Services.Authentication
import EvalForge.Schemas.Registry

/-! # Apps, versions and suites -/

namespace EvalForge

open Foundation

/-! ## Inline secrets -/

def secretNames : List String :=
  ["api_key", "apikey", "authorization", "password", "secret", "client_secret", "token",
    "access_token", "bearer_token", "credential", "credentials"]

/-- `str(key).strip().lower().replace("-", "_")`. -/
def normalizedKey (key : String) : List Char :=
  (PythonText.lower (PythonText.strip key)).map fun char => if char = '-' then '_' else char

def isSecretName (key : String) : Bool :=
  secretNames.any fun name => name.toList == normalizedKey key

mutual
def findInlineSecretKeys (path : String) : Json → List String
  | .dict fields => findInlineSecretFields path fields
  | .list items => findInlineSecretItems path 0 items
  | _ => []

def findInlineSecretFields (path : String) : List (String × Json) → List String
  | [] => []
  | (key, nested) :: fields =>
      let nestedPath := s!"{path}.{key}"
      (if isSecretName key then [nestedPath] else []) ++
        findInlineSecretKeys nestedPath nested ++ findInlineSecretFields path fields

def findInlineSecretItems (path : String) (index : Nat) : List Json → List String
  | [] => []
  | nested :: items =>
      findInlineSecretKeys s!"{path}[{index}]" nested ++
        findInlineSecretItems path (index + 1) items
end

/-! ## Reads -/

def tenantAppOr404 (db : Database) (principal : Principal) (appId : String) :
    Except HttpError App :=
  match db.tenantApp principal.organizationId appId with
  | some app => .ok app
  | none => .error (httpError 404 "App not found")

def listApps (db : Database) (principal : Principal) (query : PageQuery) : List AppRead :=
  (page (·.createdAt) query.limit query.offset (db.appsOf principal.organizationId)).map (·.read)

def getApp (db : Database) (principal : Principal) (appId : String) : Except HttpError AppRead := do
  let app ← tenantAppOr404 db principal appId
  return app.read

def listAppVersions (db : Database) (principal : Principal) (appId : String) (query : PageQuery) :
    Except HttpError (List AppVersionRead) := do
  let _ ← tenantAppOr404 db principal appId
  return (page (·.createdAt) query.limit query.offset (db.versionsOf appId)).map (·.read)

def listEvalSuites (db : Database) (principal : Principal) (appId : String) (query : PageQuery) :
    Except HttpError (List EvalSuiteRead) := do
  let _ ← tenantAppOr404 db principal appId
  return (page (·.createdAt) query.limit query.offset (db.suitesOf appId)).map (·.read)

/-! ## Creation -/

def createApp (readings : RequestReadings) (db : Database) (principal : Principal)
    (payload : AppCreate) : Except HttpError (List Write × AppRead) := do
  requireRole principal .evaluator
  if (db.appsOf principal.organizationId).any (·.name == payload.name) then
    throw (httpError 409 "App name already exists")
  let app : App :=
    { id := readings.newUuid 0, organizationId := principal.organizationId
      name := payload.name, description := payload.description
      createdAt := readings.utcNow 0 }
  return ([.insertApp app], app.read)

def SettingsValues.allowedModules (settings : SettingsValues) : List String :=
  ((settings.allowedAdapterModules.toList.splitOn ',').map fun item =>
    PythonText.strip (String.ofList item)).filter (· != "")

/-- `repr` is Python's on texts. -/
def validateAdapterModule (settings : SettingsValues) (repr : String → String)
    (modulePath : String) : Except PythonException Unit :=
  if modulePath ∈ settings.allowedModules then .ok ()
  else
    let quoted := repr modulePath
    .error ⟨s!"Adapter module {quoted} is not allowed; configure " ++
      "EVALFORGE_ALLOWED_ADAPTER_MODULES to opt in"⟩

def createAppVersion (settings : SettingsValues) (repr : String → String)
    (readings : RequestReadings) (db : Database) (principal : Principal) (appId : String)
    (payload : AppVersionCreate) : Except HttpError (List Write × AppVersionRead) := do
  requireRole principal .evaluator
  let _ ← tenantAppOr404 db principal appId
  (validateAdapterModule settings repr payload.adapterModule).mapError
    fun exc => httpError 422 exc.message
  if findInlineSecretKeys "config" payload.config ≠ [] then
    throw (httpError 422
      "Inline secrets are not accepted in version config; use an approved environment variable instead")
  if (db.versionsOf appId).any (·.name == payload.name) then
    throw (httpError 409 "App version name already exists")
  let version : AppVersionRow :=
    { id := readings.newUuid 0, appId, name := payload.name
      adapterModule := payload.adapterModule, config := payload.config
      createdAt := readings.utcNow 0 }
  return ([.insertVersion version], version.read)

def createEvalSuite (readings : RequestReadings) (db : Database) (principal : Principal)
    (appId : String) (payload : EvalSuiteCreate) :
    Except HttpError (List Write × EvalSuiteRead) := do
  requireRole principal .evaluator
  let _ ← tenantAppOr404 db principal appId
  if (db.suitesOf appId).any (·.name == payload.name) then
    throw (httpError 409 "Eval suite name already exists")
  let suite : EvalSuiteRow :=
    { id := readings.newUuid 0, appId, name := payload.name, createdAt := readings.utcNow 0 }
  return ([.insertSuite suite], suite.read)

end EvalForge
