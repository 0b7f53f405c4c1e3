import EvalForge.Db.Queries
import EvalForge.Db.Session
import EvalForge.Evaluators.Engine
import EvalForge.Schemas.Registry
import EvalForge.Services.Authentication

/-! # Evaluator configurations -/

namespace EvalForge

open Foundation

def createEvaluatorConfig (env : Environment) (readings : RequestReadings) (db : Database)
    (principal : Principal) (payload : EvaluatorConfigCreate) :
    Except HttpError (List Write × EvaluatorConfigRead) := do
  requireRole principal .evaluator
  if (db.evaluatorConfigsOf principal.organizationId).any (·.name == payload.name) then
    throw (httpError 409 "Evaluator config name already exists")
  let validated ← (env.validateEvaluatorConfig payload.config).mapError
    fun exc => httpError 422 exc.message
  let config : EvaluatorConfigRow :=
    { id := readings.newUuid 0, organizationId := principal.organizationId
      name := payload.name, config := validated, createdAt := readings.utcNow 0 }
  return ([.insertEvaluatorConfig config], config.read)

def listEvaluatorConfigs (db : Database) (principal : Principal) (query : PageQuery) :
    List EvaluatorConfigRead :=
  (page (·.createdAt) query.limit query.offset
    (db.evaluatorConfigsOf principal.organizationId)).map (·.read)

end EvalForge
