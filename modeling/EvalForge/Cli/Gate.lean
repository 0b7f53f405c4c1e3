import EvalForge.Api.Comparisons
import EvalForge.Core.Config
import EvalForge.Services.GateLaws
import Mathlib.Data.List.DropRight

/-! # The gate command

`evalforge-gate` fetches the CI report of a comparison, writes it down and turns
it into an exit code.
-/

namespace EvalForge

open Foundation

/-! ## The command -/

structure GateArguments where
  baseUrl : String
  comparisonId : String
  apiKey : Option String := none
  dashboardUrl : Option String := none
  jsonOut : Option String := none
  markdownOut : Option String := none
  failOnWarn : Bool := false
  timeoutSeconds : Rat := 30

structure CiReportRequest where
  url : String
  headers : List (String × String)
  failOnWarn : Bool
  dashboardUrl : Option String
  timeoutSeconds : Rat

/-- `base_url.rstrip("/")`. -/
def normalizeBaseUrl (baseUrl : String) : String :=
  String.ofList (baseUrl.toList.rdropWhile (· == '/'))

def GateArguments.request (arguments : GateArguments) : CiReportRequest where
  url := normalizeBaseUrl arguments.baseUrl ++ "/api/comparisons/" ++ arguments.comparisonId ++
    "/ci-report"
  headers := ((truthy arguments.apiKey).map fun apiKey => ("X-EvalForge-Api-Key", apiKey)).toList
  failOnWarn := arguments.failOnWarn
  dashboardUrl := truthy arguments.dashboardUrl
  timeoutSeconds := arguments.timeoutSeconds

/-- The HTTP client, which raises for an error status, the JSON writer and the
file system. -/
structure GateContext where
  get : CiReportRequest → Except PythonException CIGateReportRead
  dumps : CIGateReportRead → String
  writeText : String → String → Except PythonException Unit

structure GateOutput where
  printed : String
  exitCode : Nat

inductive GateError
  | usage (message : String)
  | raised (exc : PythonException)

def fetchCiGateReport (context : GateContext) (arguments : GateArguments) :
    Except PythonException CIGateReportRead :=
  context.get arguments.request

def writeArtifacts (context : GateContext) (payload : CIGateReportRead)
    (jsonOut markdownOut : Option String) : Except PythonException Unit := do
  match truthy jsonOut with
  | some path => context.writeText path (context.dumps payload ++ "\n")
  | none => pure ()
  match truthy markdownOut with
  | some path => context.writeText path payload.markdown
  | none => pure ()

def gateMain (context : GateContext) (arguments : GateArguments) :
    Except GateError GateOutput :=
  if PythonText.strip arguments.baseUrl = "" then
    .error (.usage "--base-url must not be empty")
  else do
    let payload ← (fetchCiGateReport context arguments).mapError .raised
    (writeArtifacts context payload arguments.jsonOut arguments.markdownOut).mapError .raised
    return { printed := payload.markdown, exitCode := if payload.shouldFailCi then 1 else 0 }

/-! ## The exit code -/

/-- The report has one row for each gated metric, with the verdict that its rule
gives alone; the other rows pass, and the most severe row gives the verdict. -/
structure FollowsGates (rules : GateRules) (metrics : Metric → MetricReport)
    (payload : CIGateReportRead) : Prop where
  gated : ∀ rule ∈ rules.entries, ∃ row,
    payload.metrics.filter (·.name == rule.metric) = [row] ∧
      row.status = (applyGates metrics (.only rule)).1
  ungated : ∀ row ∈ payload.metrics, (∀ rule ∈ rules.entries, rule.metric ≠ row.name) →
    row.status = .pass
  most_severe : ∀ row ∈ payload.metrics, row.status.severity ≤ payload.verdict.severity
  attained : ∃ row ∈ payload.metrics, row.status = payload.verdict

section ExitCode

variable {rules : GateRules} {comparison : ComparisonRow} {report : RegressionReport}

theorem buildCiGateReport_followsGates (generatedAt : Nat) (dashboardUrl : Option String)
    (failOnWarn : Bool)
    (gated : (report.gateVerdict, report.gateReasons) = applyGates report.metrics rules) :
    FollowsGates rules report.metrics
      (buildCiGateReport generatedAt comparison report dashboardUrl failOnWarn) := by
  have verdict : report.gateVerdict = (applyGates report.metrics rules).1 :=
    congrArg Prod.fst gated
  have reasons : report.gateReasons = (applyGates report.metrics rules).2 :=
    congrArg Prod.snd gated
  have listed : ∀ metric : Metric, metric ∈ metricOrder := by
    intro metric
    cases metric <;> decide
  constructor
  · intro rule member
    refine ⟨buildMetricRow report.metrics report.gateReasons rule.metric, ?_, ?_⟩
    · cases rule.metric <;> rfl
    · rw [reasons, status_of_mem member, applyGates_only]
  · intro row member ungated
    rcases List.mem_map.mp member with ⟨metric, _, rfl⟩
    rw [reasons]
    exact status_of_ungated ungated
  · intro row member
    rcases List.mem_map.mp member with ⟨metric, _, rfl⟩
    change _ ≤ report.gateVerdict.severity
    rw [reasons, verdict]
    exact severity_status_le metric
  · rcases exists_status_eq report.metrics rules with ⟨metric, attained⟩
    refine ⟨_, List.mem_map_of_mem (listed metric), ?_⟩
    change _ = report.gateVerdict
    rw [reasons, verdict]
    exact attained

/-- The exit code of a report that follows the gates is decided by its rows. -/
theorem FollowsGates.shouldFailCi_iff {metrics : Metric → MetricReport}
    {payload : CIGateReportRead} (follows : FollowsGates rules metrics payload)
    (failOnWarn : Bool) :
    shouldFailCi payload.verdict failOnWarn = true ↔
      (∃ row ∈ payload.metrics, row.status = .fail) ∨
        failOnWarn = true ∧ ∃ row ∈ payload.metrics, row.status = .warn := by
  rcases follows.attained with ⟨severest, severestMember, attained⟩
  simp only [shouldFailCi, Bool.or_eq_true, beq_iff_eq, Bool.and_eq_true]
  constructor
  · rintro (fails | ⟨failing, warns⟩)
    · exact .inl ⟨severest, severestMember, attained.trans fails⟩
    · exact .inr ⟨failing, severest, severestMember, attained.trans warns⟩
  · rintro (⟨row, member, fails⟩ | ⟨failing, row, member, warns⟩)
    · have below := follows.most_severe row member
      rw [fails] at below
      cases verdict : payload.verdict with
      | fail => exact .inl rfl
      | pass | warn => simp [verdict, Verdict.severity] at below
    · have below := follows.most_severe row member
      rw [warns] at below
      cases verdict : payload.verdict with
      | fail => exact .inl rfl
      | warn => exact .inr ⟨failing, rfl⟩
      | pass => simp [verdict, Verdict.severity] at below

end ExitCode

theorem writeArtifacts_ok {context : GateContext}
    (writes : ∀ path text, context.writeText path text = .ok ()) (payload : CIGateReportRead)
    (jsonOut markdownOut : Option String) :
    writeArtifacts context payload jsonOut markdownOut = .ok () := by
  unfold writeArtifacts
  cases truthy jsonOut <;> cases truthy markdownOut <;>
    simp [writes, bind, Except.bind, pure, Except.pure]

/-- Where a comparison is stored with the verdict of the gates and the client
gets what the API answers, the command fails the build exactly for a row that
fails, or one that warns if warnings count. -/
theorem exit_code_follows_gates (context : GateContext) (arguments : GateArguments)
    (generatedAt : Nat) (db : Database) (principal : Principal) (comparison : ComparisonRow)
    (report : RegressionReport) (rules : GateRules)
    (stored : tenantComparisonOr404 db principal arguments.comparisonId = .ok (comparison, report))
    (gated : (report.gateVerdict, report.gateReasons) = applyGates report.metrics rules)
    (addressed : PythonText.strip arguments.baseUrl ≠ "")
    (answers : ∀ answer,
      getCiGateReport generatedAt db principal arguments.comparisonId
        arguments.request.dashboardUrl arguments.failOnWarn = .ok answer →
      context.get arguments.request = .ok answer)
    (writes : ∀ path text, context.writeText path text = .ok ()) :
    ∃ payload output, fetchCiGateReport context arguments = .ok payload ∧
      gateMain context arguments = .ok output ∧ output.printed = payload.markdown ∧
      FollowsGates rules report.metrics payload ∧
      (output.exitCode = 1 ↔ (∃ row ∈ payload.metrics, row.status = .fail) ∨
        arguments.failOnWarn = true ∧ ∃ row ∈ payload.metrics, row.status = .warn) := by
  let payload := buildCiGateReport generatedAt comparison report arguments.request.dashboardUrl
    arguments.failOnWarn
  have answered : getCiGateReport generatedAt db principal arguments.comparisonId
      arguments.request.dashboardUrl arguments.failOnWarn = .ok payload := by
    rw [getCiGateReport, stored]
    rfl
  have fetched : fetchCiGateReport context arguments = .ok payload := answers payload answered
  have follows : FollowsGates rules report.metrics payload :=
    buildCiGateReport_followsGates generatedAt _ _ gated
  refine ⟨payload, { printed := payload.markdown, exitCode := if payload.shouldFailCi then 1 else 0 },
    fetched, ?_, rfl, follows, ?_⟩
  · simp only [gateMain, if_neg addressed, fetched, Except.mapError, bind, Except.bind,
      writeArtifacts_ok writes]
    rfl
  · rw [← follows.shouldFailCi_iff]
    change (if payload.shouldFailCi then 1 else 0) = 1 ↔ payload.shouldFailCi = true
    cases payload.shouldFailCi <;> simp

namespace Scenario

def gateMetrics : Metric → MetricReport :=
  buildMetricReport firstIndex (sampleInput (latencySamples 100 400))
    (sampleInput (latencySamples 200 400))

def gateComparison : ComparisonRow where
  id := "comparison-1"
  organizationId := defaultOrganizationId
  baselineRunId := "run-1"
  candidateRunId := "run-2"
  gateRulesId := "gate-rule-1"
  status := .computed
  createdAt := 0

def gateReport : RegressionReport where
  id := "report-1"
  comparisonId := "comparison-1"
  metrics := gateMetrics
  gateVerdict := (applyGates gateMetrics latencyRules).1
  gateReasons := (applyGates gateMetrics latencyRules).2
  createdAt := 0

def gateDatabase : Database where
  comparisons := [gateComparison]
  regressionReports := [gateReport]

def gatePrincipal : Principal where
  userId := none
  organizationId := defaultOrganizationId
  role := .viewer
  authenticationType := .development

def gateArguments : GateArguments where
  baseUrl := "http://localhost:8000/"
  comparisonId := "comparison-1"
  failOnWarn := true

def gateContext : GateContext where
  get request := .ok (buildCiGateReport 0 gateComparison gateReport request.dashboardUrl
    request.failOnWarn)
  dumps _ := "{}"
  writeText _ _ := .ok ()

end Scenario

theorem exit_code_follows_gates_scenario :
    ∃ payload output, fetchCiGateReport Scenario.gateContext Scenario.gateArguments = .ok payload ∧
      gateMain Scenario.gateContext Scenario.gateArguments = .ok output ∧
      output.printed = payload.markdown ∧
      FollowsGates Scenario.latencyRules Scenario.gateMetrics payload ∧
      (output.exitCode = 1 ↔ (∃ row ∈ payload.metrics, row.status = .fail) ∨
        Scenario.gateArguments.failOnWarn = true ∧
          ∃ row ∈ payload.metrics, row.status = .warn) := by
  apply exit_code_follows_gates Scenario.gateContext Scenario.gateArguments 0
    Scenario.gateDatabase Scenario.gatePrincipal Scenario.gateComparison Scenario.gateReport
    Scenario.latencyRules
  · rfl
  · rfl
  · decide +kernel
  · intro answer answered
    cases answered
    rfl
  · exact fun _ _ => rfl

end EvalForge
