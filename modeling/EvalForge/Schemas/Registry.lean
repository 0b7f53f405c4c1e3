import EvalForge.Models.Database

/-! # Registry payloads

The bodies and the responses of the registry endpoints. `dict` fields are JSON
objects by validation.
-/

namespace EvalForge

/-! ## Bodies -/

structure AppCreate where
  name : String
  description : String := ""

structure AppVersionCreate where
  name : String
  adapterModule : String
  config : Json := .dict []

structure EvalSuiteCreate where
  name : String

structure EvalCaseImportItem where
  externalId : Option String := none
  payload : Json

structure EvalCaseImportRequest where
  cases : List EvalCaseImportItem

structure EvaluatorConfigCreate where
  name : String
  config : Json

structure GateRuleCreate where
  name : String
  rules : Json

structure PageQuery where
  limit : Nat
  offset : Nat := 0

/-! ## Responses -/

structure AppRead where
  id : String
  name : String
  description : String
  createdAt : Nat

def App.read (app : App) : AppRead where
  id := app.id
  name := app.name
  description := app.description
  createdAt := app.createdAt

structure AppVersionRead where
  id : String
  appId : String
  name : String
  adapterModule : String
  config : Json
  createdAt : Nat

def AppVersionRow.read (version : AppVersionRow) : AppVersionRead where
  id := version.id
  appId := version.appId
  name := version.name
  adapterModule := version.adapterModule
  config := version.config
  createdAt := version.createdAt

structure EvalSuiteRead where
  id : String
  appId : String
  name : String
  createdAt : Nat

def EvalSuiteRow.read (suite : EvalSuiteRow) : EvalSuiteRead where
  id := suite.id
  appId := suite.appId
  name := suite.name
  createdAt := suite.createdAt

structure EvalCaseImportResult where
  imported : Nat
  errors : List String

structure EvalCaseRead where
  id : String
  externalId : Option String
  payload : Json
  createdAt : Nat

def EvalCaseRow.read (case : EvalCaseRow) : EvalCaseRead where
  id := case.id
  externalId := case.externalId
  payload := case.payload
  createdAt := case.createdAt

structure EvalSuiteSummary where
  caseCount : Nat
  tagDistribution : List (String × Nat)

structure EvaluatorConfigRead where
  id : String
  name : String
  config : Json
  createdAt : Nat

def EvaluatorConfigRow.read (config : EvaluatorConfigRow) : EvaluatorConfigRead where
  id := config.id
  name := config.name
  config := config.config
  createdAt := config.createdAt

structure GateRuleRead where
  id : String
  name : String
  rules : Json
  createdAt : Nat

def GateRuleRow.read (rule : GateRuleRow) : GateRuleRead where
  id := rule.id
  name := rule.name
  rules := rule.rules
  createdAt := rule.createdAt

end EvalForge
