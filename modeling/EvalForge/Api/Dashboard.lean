import EvalForge.Services.DashboardAggregation

/-! # The dashboard -/

namespace EvalForge

structure DashboardQuery where
  comparisonId : Option String := none
  failureLimit : Nat := 50
  failureOffset : Nat := 0

def getLatestDashboardSnapshot (floats : FloatConversion) (text : Json → String) (db : Database)
    (principal : Principal) (query : DashboardQuery) : Except HttpError DashboardSnapshot := do
  let snapshot ← buildLatestDashboardSnapshot floats text db principal.organizationId
    query.comparisonId query.failureLimit query.failureOffset
  match snapshot with
  | some snapshot => return snapshot
  | none => throw (httpError 404 "No computed comparisons found")

end EvalForge
