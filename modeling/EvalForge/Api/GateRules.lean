import EvalForge.Db.Queries
import EvalForge.Db.Session
import EvalForge.Schemas.Registry
import EvalForge.Services.Authentication
import EvalForge.Services.GateRuleValidation

/-! # Gate rules -/

namespace EvalForge

open Foundation

/-- A `ValueError` is answered with the status. -/
def ValidationError.toHttp (status : Nat) : ValidationError → HttpError
  | .valueError message => httpError status message
  | .uncaught => internalServerError

def createGateRule (floats : FloatConversion) (text : Json → String) (readings : RequestReadings)
    (db : Database) (principal : Principal) (payload : GateRuleCreate) :
    Except HttpError (List Write × GateRuleRead) := do
  requireRole principal .evaluator
  if (db.gateRulesOf principal.organizationId).any (·.name == payload.name) then
    throw (httpError 409 "Gate rule name already exists")
  let rules ← (validateGateRules floats text payload.rules).mapError (·.toHttp 422)
  let gateRule : GateRuleRow :=
    { id := readings.newUuid 0, organizationId := principal.organizationId
      name := payload.name, rules := rules.toJson, createdAt := readings.utcNow 0 }
  return ([.insertGateRule gateRule], gateRule.read)

def listGateRules (db : Database) (principal : Principal) (query : PageQuery) :
    List GateRuleRead :=
  (page (·.createdAt) query.limit query.offset
    (db.gateRulesOf principal.organizationId)).map (·.read)

def getGateRule (db : Database) (principal : Principal) (gateRuleId : String) :
    Except HttpError GateRuleRead :=
  match db.tenantGateRule principal.organizationId gateRuleId with
  | some gateRule => .ok gateRule.read
  | none => .error (httpError 404 "Gate rules not found")

end EvalForge
