import EvalForge.Foundation.Rounding
import EvalForge.Schemas.Execution

/-! # The CI gate report -/

namespace EvalForge

open Foundation

def Verdict.text : Verdict → String
  | pass => "pass"
  | warn => "warn"
  | fail => "fail"

def shouldFailCi (verdict : Verdict) (failOnWarn : Bool) : Bool :=
  verdict == .fail || (failOnWarn && verdict == .warn)

/-- `METRIC_ORDER`, which names every metric of a report. -/
def metricOrder : List Metric := [.passRate, .semanticSimilarity, .p95LatencyMs, .costMeanUsd]

/-- The last reason of a metric, as a dictionary keeps it. -/
def reasonFor (reasons : List GateReason) (metric : Metric) : Option GateReason :=
  reasons.reverse.find? (·.metric == metric)

def buildMetricRow (metrics : Metric → MetricReport) (gateReasons : List GateReason)
    (name : Metric) : CIGateMetricRead where
  name := name
  baseline := (metrics name).baselinePoint
  candidate := (metrics name).candidatePoint
  delta := (metrics name).deltaPoint
  deltaCi := ((metrics name).deltaCiLower, (metrics name).deltaCiUpper)
  status := ((reasonFor gateReasons name).map (·.verdict)).getD .pass

def formatNumber (value : Rat) : String := formatFixed 6 value

def renderMetricRow (metric : CIGateMetricRead) : String :=
  let name := metric.name.text
  let baseline := formatNumber metric.baseline
  let candidate := formatNumber metric.candidate
  let delta := formatNumber metric.delta
  let status := metric.status.text
  s!"| {name} | {baseline} | {candidate} | {delta} | {status} |"

/-- A reason has no `delta` entry, so its numbers are not shown. -/
def renderReason (reason : GateReason) : String :=
  let metric := reason.metric.text
  let verdict := reason.verdict.text
  "- `" ++ metric ++ "` returned `" ++ verdict ++ "`"

def renderMarkdownGateReport (verdict : Verdict) (metrics : List CIGateMetricRead)
    (gateReasons : List GateReason) (dashboardUrl : Option String) : String :=
  let lines := [
    "## EvalForge Deployment Gate",
    "",
    "Gate verdict: `" ++ verdict.text ++ "`",
    "",
    "| Metric | Baseline | Candidate | Delta | Status |",
    "|---|---:|---:|---:|---|"] ++ metrics.map renderMetricRow
  let lines :=
    if gateReasons.isEmpty then lines
    else lines ++ ["", "### Blocking Reasons"] ++ gateReasons.map renderReason
  let lines :=
    match dashboardUrl with
    | some url => if url.isEmpty then lines else lines ++ ["", s!"[Open EvalForge dashboard]({url})"]
    | none => lines
  "\n".intercalate lines ++ "\n"

def buildCiGateReport (generatedAt : Nat) (comparison : ComparisonRow) (report : RegressionReport)
    (dashboardUrl : Option String) (failOnWarn : Bool) : CIGateReportRead :=
  let metrics := metricOrder.map (buildMetricRow report.metrics report.gateReasons)
  { comparisonId := comparison.id
    baselineRunId := comparison.baselineRunId
    candidateRunId := comparison.candidateRunId
    verdict := report.gateVerdict
    shouldFailCi := shouldFailCi report.gateVerdict failOnWarn
    dashboardUrl
    generatedAt
    metrics
    gateReasons := report.gateReasons
    markdown := renderMarkdownGateReport report.gateVerdict metrics report.gateReasons dashboardUrl }

/-! ## The rows of a report -/

section Rows

variable {metrics : Metric → MetricReport} {rules : GateRules} {rule : GateRule}

theorem reasonFor_of_mem (member : rule ∈ rules.entries) :
    reasonFor (applyGates metrics rules).2 rule.metric = rule.reason (metrics rule.metric) := by
  cases given : rule.reason (metrics rule.metric) with
  | none =>
      apply List.find?_eq_none.mpr
      intro reason reported named
      have reason := reason_of_mem member (List.mem_reverse.mp reported) (by simpa using named)
      rw [given] at reason
      cases reason
  | some reason =>
      have reported := mem_reasons_iff.mpr ⟨rule, member, given⟩
      have named : reason.metric = rule.metric := by
        rcases GateRule.reason_eq_some_iff.mp given with ⟨_, rfl⟩
        rfl
      cases found : reasonFor (applyGates metrics rules).2 rule.metric with
      | none =>
          have unnamed := List.find?_eq_none.mp found reason (List.mem_reverse.mpr reported)
          simp [named] at unnamed
      | some other =>
          have otherNamed := List.find?_some found
          have otherReported := List.mem_reverse.mp (List.mem_of_find?_eq_some found)
          have otherReason := reason_of_mem member otherReported (by simpa using otherNamed)
          rw [← given, ← otherReason]

theorem reasonFor_of_ungated {metric : Metric}
    (ungated : ∀ rule ∈ rules.entries, rule.metric ≠ metric) :
    reasonFor (applyGates metrics rules).2 metric = none := by
  apply List.find?_eq_none.mpr
  intro reason reported named
  rcases mem_reasons_iff.mp (List.mem_reverse.mp reported) with ⟨rule, member, given⟩
  rcases GateRule.reason_eq_some_iff.mp given with ⟨_, rfl⟩
  exact ungated rule member (by simpa using named)

theorem status_of_mem (member : rule ∈ rules.entries) :
    (buildMetricRow metrics (applyGates metrics rules).2 rule.metric).status =
      rule.metricVerdict (metrics rule.metric) := by
  rw [buildMetricRow, reasonFor_of_mem member, GateRule.reason]
  split
  · next passes => exact passes.symm
  · rfl

theorem status_of_ungated {metric : Metric}
    (ungated : ∀ rule ∈ rules.entries, rule.metric ≠ metric) :
    (buildMetricRow metrics (applyGates metrics rules).2 metric).status = .pass := by
  rw [buildMetricRow, reasonFor_of_ungated ungated]
  rfl

theorem applyGatesLoop_attained (entries : List GateRule) (verdict : Verdict)
    (reasons : List GateReason) :
    (applyGatesLoop metrics entries verdict reasons).1 = verdict ∨
      ∃ rule ∈ entries, rule.metricVerdict (metrics rule.metric) =
        (applyGatesLoop metrics entries verdict reasons).1 := by
  induction entries generalizing verdict reasons with
  | nil => exact .inl rfl
  | cons rule entries induction =>
      rw [applyGatesLoop]
      rcases induction (verdict.combine (rule.metricVerdict (metrics rule.metric)))
        (reasons ++ (rule.reason (metrics rule.metric)).toList) with start | ⟨other, member, found⟩
      · rw [start]
        cases own : rule.metricVerdict (metrics rule.metric) with
        | pass => exact .inl rfl
        | fail => exact .inr ⟨rule, List.mem_cons_self, own⟩
        | warn =>
            cases verdict with
            | fail => exact .inl rfl
            | pass | warn => exact .inr ⟨rule, List.mem_cons_self, own⟩
      · exact .inr ⟨other, List.mem_cons_of_mem _ member, found⟩

theorem severity_status_le (metric : Metric) :
    (buildMetricRow metrics (applyGates metrics rules).2 metric).status.severity ≤
      (applyGates metrics rules).1.severity := by
  by_cases gated : ∃ rule ∈ rules.entries, rule.metric = metric
  · rcases gated with ⟨rule, member, rfl⟩
    rw [status_of_mem member]
    exact severity_le_applyGates member
  · push Not at gated
    rw [status_of_ungated gated]
    exact Nat.zero_le _

theorem exists_status_eq (metrics : Metric → MetricReport) (rules : GateRules) :
    ∃ metric, (buildMetricRow metrics (applyGates metrics rules).2 metric).status =
      (applyGates metrics rules).1 := by
  rcases applyGatesLoop_attained rules.entries .pass [] with passes | ⟨rule, member, attained⟩
  · refine ⟨.passRate, ?_⟩
    have below := @severity_status_le metrics rules .passRate
    have verdict : (applyGates metrics rules).1 = .pass := passes
    rw [verdict] at below ⊢
    cases status : (buildMetricRow metrics (applyGates metrics rules).2 .passRate).status with
    | pass => rfl
    | warn | fail => simp [status, Verdict.severity] at below
  · exact ⟨rule.metric, (status_of_mem member).trans attained⟩

end Rows

end EvalForge
