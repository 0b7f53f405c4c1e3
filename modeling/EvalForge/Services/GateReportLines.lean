import EvalForge.Services.CiGateReport
import EvalForge.Services.GateLaws

/-! # The lines of the gate report

`apply_gates` appends its reasons as dictionaries, and the renderer reads them
by key, with a default for every key that is missing.
-/

namespace EvalForge

open Foundation

/-! ## The dictionaries -/

/-- The dictionary that `apply_gates` appends. -/
def GateReason.toJson (reason : GateReason) : Json :=
  .dict [
    ("metric", .str reason.metric.text),
    ("verdict", .str reason.verdict.text),
    ("tolerance", .float reason.tolerance),
    ("delta_point", .float reason.deltaPoint)]

/-- Python's `str` and `float` on the values of a dictionary. -/
structure ReasonReader where
  text : Json → String
  float : Json → Except PythonException Rat
  text_str : ∀ value, text (.str value) = value

section Rendering

variable (reader : ReasonReader) (verdict : Verdict)

/-- The body of the loop over the reasons. -/
def renderReasonLine (reason : Json) : Except PythonException String :=
  let metric := reader.text (reason.get "metric" (.str "unknown_metric"))
  let returned := reader.text (reason.get "verdict" (.str verdict.text))
  let delta := reason.get "delta" .null
  let tolerance := reason.get "tolerance" .null
  let detail := "- `" ++ metric ++ "` returned `" ++ returned ++ "`"
  match delta, tolerance with
  | .null, _ | _, .null => .ok detail
  | delta, tolerance => do
      let delta := formatNumber (← reader.float delta)
      let tolerance := formatNumber (← reader.float tolerance)
      return detail ++ " (delta `" ++ delta ++ "`, tolerance `" ++ tolerance ++ "`)"

def reportHead (metrics : List CIGateMetricRead) : List String :=
  [ "## EvalForge Deployment Gate",
    "",
    "Gate verdict: `" ++ verdict.text ++ "`",
    "",
    "| Metric | Baseline | Candidate | Delta | Status |",
    "|---|---:|---:|---:|---|"] ++ metrics.map renderMetricRow

def reportTail (dashboardUrl : Option String) : List String :=
  match dashboardUrl with
  | some url => if url.isEmpty then [] else ["", s!"[Open EvalForge dashboard]({url})"]
  | none => []

/-- The `lines` of `render_markdown_gate_report`. -/
def renderReportLines (metrics : List CIGateMetricRead) (gateReasons : List Json)
    (dashboardUrl : Option String) : Except PythonException (List String) := do
  let lines := reportHead verdict metrics
  if gateReasons.isEmpty then
    return lines ++ reportTail dashboardUrl
  else
    let reasons ← gateReasons.mapM (renderReasonLine reader verdict)
    return lines ++ ["", "### Blocking Reasons"] ++ reasons ++ reportTail dashboardUrl

theorem renderReasonLine_toJson (reason : GateReason) :
    renderReasonLine reader verdict reason.toJson = .ok (renderReason reason) := by
  have metric : reason.toJson.get "metric" (.str "unknown_metric") = .str reason.metric.text := rfl
  have returned : reason.toJson.get "verdict" (.str verdict.text) = .str reason.verdict.text := rfl
  have delta : reason.toJson.get "delta" .null = .null := rfl
  simp only [renderReasonLine, metric, returned, delta, reader.text_str]
  rfl

def reasonLines (reasons : List GateReason) : List String :=
  if reasons.isEmpty then [] else ["", "### Blocking Reasons"] ++ reasons.map renderReason

theorem renderReportLines_toJson (metrics : List CIGateMetricRead) (reasons : List GateReason)
    (dashboardUrl : Option String) :
    renderReportLines reader verdict metrics (reasons.map GateReason.toJson) dashboardUrl =
      .ok (reportHead verdict metrics ++ reasonLines reasons ++ reportTail dashboardUrl) := by
  have rendered : ∀ reasons : List GateReason,
      (reasons.map GateReason.toJson).mapM (renderReasonLine reader verdict) =
        .ok (reasons.map renderReason) := by
    intro reasons
    induction reasons with
    | nil => rfl
    | cons reason reasons induction =>
        rw [List.map_cons, List.mapM_cons, renderReasonLine_toJson, induction]
        rfl
  unfold renderReportLines reasonLines
  cases reasons with
  | nil => simp [pure, Except.pure]
  | cons reason reasons =>
      simp only [List.isEmpty_map, rendered]
      simp [bind, Except.bind, pure, Except.pure]

end Rendering

theorem renderMarkdownGateReport_eq (verdict : Verdict) (metrics : List CIGateMetricRead)
    (reasons : List GateReason) (dashboardUrl : Option String) :
    renderMarkdownGateReport verdict metrics reasons dashboardUrl =
      "\n".intercalate (reportHead verdict metrics ++ reasonLines reasons ++
        reportTail dashboardUrl) ++ "\n" := by
  unfold renderMarkdownGateReport reasonLines reportTail
  cases reasons with
  | nil =>
      cases dashboardUrl with
      | none => simp [reportHead]
      | some url => cases empty : url.isEmpty <;> simp [reportHead, empty]
  | cons reason reasons =>
      cases dashboardUrl with
      | none => simp [reportHead]
      | some url => cases empty : url.isEmpty <;> simp [reportHead, empty]

/-! ## The explanations -/

def Mentions (line text : String) : Prop := text.toList <:+: line.toList

/-- The line names the metric and the verdict of a reason and gives its delta
and its tolerance. -/
structure GateReason.Explained (reason : GateReason) (line : String) : Prop where
  metric : Mentions line reason.metric.text
  verdict : Mentions line reason.verdict.text
  delta : Mentions line (formatNumber reason.deltaPoint)
  tolerance : Mentions line (formatNumber reason.tolerance)

/-- The section is there for reasons, and has one line for each of them in
order. -/
def ExplainedSection (reasons : List GateReason) (lines : List String) : Prop :=
  (reasons = [] ∧ lines = []) ∨
    (reasons ≠ [] ∧ ∃ explanations, lines = ["", "### Blocking Reasons"] ++ explanations ∧
      List.Forall₂ GateReason.Explained reasons explanations)

theorem point_mem_formatNumber (value : Rat) : '.' ∈ (formatNumber value).toList := by
  simp [formatNumber, formatFixed]

theorem point_not_mem_renderReason (reason : GateReason) : '.' ∉ (renderReason reason).toList := by
  have metric : '.' ∉ reason.metric.text.toList := by
    cases reason.metric <;> decide +kernel
  have verdict : '.' ∉ reason.verdict.text.toList := by
    cases reason.verdict <;> decide +kernel
  simp [renderReason, metric, verdict]

theorem not_explained_renderReason (reason : GateReason) :
    ¬reason.Explained (renderReason reason) := by
  intro explained
  exact point_not_mem_renderReason reason
    (explained.delta.subset (point_mem_formatNumber reason.deltaPoint))

theorem explainedSection_reasonLines_iff (reasons : List GateReason) :
    ExplainedSection reasons (reasonLines reasons) ↔ reasons = [] := by
  constructor
  · rintro (⟨empty, -⟩ | ⟨nonempty, explanations, lines, explained⟩)
    · exact empty
    · cases reasons with
      | nil => rfl
      | cons reason reasons =>
          have same : (reason :: reasons).map renderReason = explanations := by
            simpa [reasonLines] using lines
          subst same
          cases explained with
          | cons first _ => exact absurd first (not_explained_renderReason reason)
  · rintro rfl
    exact .inl ⟨rfl, rfl⟩

def GateRule.Within (rule : GateRule) (report : MetricReport) : Prop :=
  -rule.tolerance ≤ rule.normalizedUpper report ∧
    -rule.tolerance ≤ rule.normalizedLower report ∧
    -rule.tolerance ≤ rule.normalizedPoint report

theorem GateRule.metricVerdict_eq_pass_iff (rule : GateRule) (report : MetricReport) :
    rule.metricVerdict report = .pass ↔ rule.Within report := by
  unfold metricVerdict Within
  split
  · next below => simp [below.not_ge]
  · next upper =>
      split
      · next below => simpa [not_lt.mp upper, imp_iff_not_or] using below
      · next above => simpa [not_lt.mp upper] using above

theorem reasons_eq_nil_iff {metrics : Metric → MetricReport} {rules : GateRules} :
    (applyGates metrics rules).2 = [] ↔
      ∀ rule ∈ rules.entries, rule.Within (metrics rule.metric) := by
  constructor
  · intro empty rule member
    rw [← rule.metricVerdict_eq_pass_iff]
    by_contra notPass
    have reported := mem_reasons_iff.mpr
      ⟨rule, member, GateRule.reason_eq_some_iff.mpr ⟨notPass, rfl⟩⟩
    rw [empty] at reported
    cases reported
  · intro within
    rw [applyGates_eq_pass fun rule member =>
      (rule.metricVerdict_eq_pass_iff _).mpr (within rule member)]

/-- The reasons of a report are explained exactly if there are none. -/
theorem reasons_explained_iff (reader : ReasonReader) (metrics : Metric → MetricReport)
    (rules : GateRules) (rows : List CIGateMetricRead) (dashboardUrl : Option String) :
    (∃ lines explanations,
      renderReportLines reader (applyGates metrics rules).1 rows
        ((applyGates metrics rules).2.map GateReason.toJson) dashboardUrl = .ok lines ∧
      renderMarkdownGateReport (applyGates metrics rules).1 rows (applyGates metrics rules).2
        dashboardUrl = "\n".intercalate lines ++ "\n" ∧
      lines = reportHead (applyGates metrics rules).1 rows ++ explanations ++
        reportTail dashboardUrl ∧
      ExplainedSection (applyGates metrics rules).2 explanations) ↔
      ∀ rule ∈ rules.entries, rule.Within (metrics rule.metric) := by
  rw [renderReportLines_toJson, ← reasons_eq_nil_iff, ← explainedSection_reasonLines_iff]
  constructor
  · rintro ⟨lines, explanations, rendered, -, split, explained⟩
    cases rendered
    have same := List.append_cancel_left (List.append_cancel_right split)
    rw [same]
    exact explained
  · intro explained
    exact ⟨_, _, rfl, renderMarkdownGateReport_eq .., rfl, explained⟩

namespace Scenario

def stringReader : ReasonReader where
  text
    | .str text => text
    | _ => ""
  float
    | .float value => .ok value
    | _ => .error ⟨"float() argument must be a string or a real number"⟩
  text_str _ := rfl

theorem latency_fails :
    latencyRule.metricVerdict (buildMetricReport firstIndex (sampleInput (latencySamples 100 400))
      (sampleInput (latencySamples 1000 500)) latencyRule.metric) = .fail := by
  apply metricVerdict_eq_fail_of_regressed
  · exact ⟨"case-1", by decide⟩
  · exact forall_latencySamples
      (fun baselineMs candidateMs => HasDecimals 6 baselineMs ∧ HasDecimals 6 candidateMs)
      ⟨⟨100 * 10 ^ 6, by norm_num⟩, ⟨1000 * 10 ^ 6, by norm_num⟩⟩
      ⟨⟨400 * 10 ^ 6, by norm_num⟩, ⟨500 * 10 ^ 6, by norm_num⟩⟩
  · have first : latencyRule.direction.Regressed 50 (1000 - 100) := by
      norm_num [latencyRule, Direction.Regressed]
    have second : latencyRule.direction.Regressed 50 (500 - 400) := by
      norm_num [latencyRule, Direction.Regressed]
    exact forall_latencySamples (fun baselineMs candidateMs =>
      latencyRule.direction.Regressed 50 (candidateMs - baselineMs)) first second

end Scenario

/-- The reason of latencies that rose from 100 to 1000 ms and from 400 to 500 ms is
not explained. -/
theorem latency_reason_unexplained :
    ¬∀ (reader : ReasonReader) (draws : Draws) (baseline candidate : MetricSampleInput)
      (rules : GateRules) (rows : List CIGateMetricRead) (dashboardUrl : Option String),
      ∃ lines explanations,
        renderReportLines reader
          (applyGates (buildMetricReport draws baseline candidate) rules).1 rows
          ((applyGates (buildMetricReport draws baseline candidate) rules).2.map
            GateReason.toJson) dashboardUrl = .ok lines ∧
        lines = reportHead (applyGates (buildMetricReport draws baseline candidate) rules).1 rows ++
          explanations ++ reportTail dashboardUrl ∧
        ExplainedSection (applyGates (buildMetricReport draws baseline candidate) rules).2
          explanations := by
  intro explains
  rcases explains Scenario.stringReader Scenario.firstIndex
    (sampleInput (Scenario.latencySamples 100 400)) (sampleInput (Scenario.latencySamples 1000 500))
    Scenario.latencyRules [] none with ⟨lines, explanations, rendered, split, explained⟩
  rw [renderReportLines_toJson] at rendered
  cases rendered
  have same := List.append_cancel_left (List.append_cancel_right split)
  rw [← same, explainedSection_reasonLines_iff, reasons_eq_nil_iff] at explained
  have within := explained Scenario.latencyRule (List.mem_singleton.mpr rfl)
  rw [← GateRule.metricVerdict_eq_pass_iff, Scenario.latency_fails] at within
  cases within

end EvalForge
