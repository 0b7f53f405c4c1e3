import EvalForge.Foundation.Json

/-! # Settings

The fields that the handlers read. Settings exist only with values that their
validator accepts.
-/

namespace EvalForge

structure SettingsValues where
  environment : String := "development"
  runMode : String := "sync"
  apiKey : Option String := none
  authTokenPepper : String := "development-only-pepper"
  bootstrapToken : Option String := none
  sessionTtlHours : Int := 12
  metricsToken : Option String := none
  allowedAdapterModules : String :=
    "app.adapters.demo_rag,app.adapters.groq_chat,app.adapters.llm_rag"

/-- A text that is neither missing nor empty. -/
def truthy (text : Option String) : Option String :=
  text.filter fun text => !text.isEmpty

namespace SettingsValues

/-- `environment.lower() in {"production", "prod"}`. -/
def isProduction (settings : SettingsValues) : Bool :=
  ["production".toList, "prod".toList].contains (PythonText.lower settings.environment)

def requireAuthInProduction (settings : SettingsValues) : Except PythonException Unit :=
  if settings.isProduction then
    if settings.authTokenPepper = "development-only-pepper" then
      .error ⟨"EVALFORGE_AUTH_TOKEN_PEPPER must be set in production"⟩
    else if truthy settings.bootstrapToken = none then
      .error ⟨"EVALFORGE_BOOTSTRAP_TOKEN must be set in production"⟩
    else if truthy settings.metricsToken = none then
      .error ⟨"EVALFORGE_METRICS_TOKEN must be set in production"⟩
    else .ok ()
  else .ok ()

end SettingsValues

structure Settings extends SettingsValues where
  accepted : toSettingsValues.requireAuthInProduction = .ok ()

end EvalForge
