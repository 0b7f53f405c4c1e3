import EvalForge.Services.GateLaws

/-! # The two deciders of a regression

`is_significant_regression` compares the bounds as they are, the gates compare
the bounds of the rounded report. Both ask whether the bound nearest to no
change is a regression.
-/

namespace EvalForge

open Foundation

/-! ## The decider on samples -/

/-- What a message of `is_significant_regression` starts with. -/
inductive RegressionFinding
  | significant
  | possible
  | notSignificant
  deriving DecidableEq, Repr

def RegressionFinding.text : RegressionFinding → String
  | significant => "Significant regression"
  | possible => "Possible regression"
  | notSignificant => "No significant regression"

structure RegressionMessage where
  finding : RegressionFinding
  baselinePoint : Rat
  candidatePoint : Rat
  deltaPoint : Rat
  deltaLower : Rat
  deltaUpper : Rat

def RegressionMessage.text (message : RegressionMessage) : String :=
  message.finding.text ++ ": " ++
    "baseline=" ++ formatFixed 6 message.baselinePoint ++
    ", candidate=" ++ formatFixed 6 message.candidatePoint ++
    ", delta=" ++ formatFixed 6 message.deltaPoint ++
    ", ci=(" ++ formatFixed 6 message.deltaLower ++ ", " ++
    formatFixed 6 message.deltaUpper ++ ")"

def isSignificantRegression (draws : Draws) (nResamples : Nat)
    (baselineValues candidateValues : List Rat) (statistic : List Rat → Rat)
    (direction : Direction) (tolerance : Rat) : Bool × RegressionMessage :=
  let baselinePoint := statistic baselineValues
  let candidatePoint := statistic candidateValues
  let deltaPoint := candidatePoint - baselinePoint
  let delta := bootstrapDeltaCi draws nResamples baselineValues candidateValues statistic
  let pointRegressed :=
    match direction with
    | .higherBetter => decide (deltaPoint < -tolerance)
    | .lowerBetter => decide (deltaPoint > tolerance)
  let ciConfirms :=
    match direction with
    | .higherBetter => decide (delta.2 < -tolerance)
    | .lowerBetter => decide (delta.1 > tolerance)
  let message (finding : RegressionFinding) : RegressionMessage :=
    { finding
      baselinePoint
      candidatePoint
      deltaPoint
      deltaLower := delta.1
      deltaUpper := delta.2 }
  if ciConfirms then (true, message .significant)
  else if pointRegressed then (false, message .possible)
  else (false, message .notSignificant)

/-! ## Both in terms of the direction -/

namespace Direction

/-- The bound of an interval that has to be a regression for a fail. -/
def decisiveBound (direction : Direction) (ci : Rat × Rat) : Rat :=
  match direction with
  | .higherBetter => ci.2
  | .lowerBetter => ci.1

def worseBound (direction : Direction) (ci : Rat × Rat) : Rat :=
  match direction with
  | .higherBetter => ci.1
  | .lowerBetter => ci.2

instance (direction : Direction) (tolerance delta : Rat) :
    Decidable (direction.Regressed tolerance delta) :=
  match direction with
  | .higherBetter => inferInstanceAs (Decidable (delta < -tolerance))
  | .lowerBetter => inferInstanceAs (Decidable (tolerance < delta))

def threshold (direction : Direction) (tolerance : Rat) : Rat :=
  match direction with
  | .higherBetter => -tolerance
  | .lowerBetter => tolerance

/-- Whether a difference is a regression does not change when it is rounded. -/
def KeptByRounding (direction : Direction) (tolerance delta : Rat) : Prop :=
  direction.Regressed tolerance (roundTo 6 delta) ↔ direction.Regressed tolerance delta

theorem keptByRounding_of_hasDecimals {direction : Direction} {tolerance delta : Rat}
    (decimal : HasDecimals 6 delta) : direction.KeptByRounding tolerance delta := by
  rw [KeptByRounding, decimal.roundTo_eq]

theorem keptByRounding_of_far {direction : Direction} {tolerance delta : Rat}
    (far : 1 / 2000000 < |delta - direction.threshold tolerance|) :
    direction.KeptByRounding tolerance delta := by
  have moved : |roundTo 6 delta - delta| ≤ 1 / 2000000 := by
    calc |roundTo 6 delta - delta| ≤ 1 / (2 * 10 ^ 6) := abs_roundTo_sub_le delta
      _ = 1 / 2000000 := by norm_num
  rcases abs_le.mp moved with ⟨down, up⟩
  cases direction with
  | higherBetter =>
      simp only [KeptByRounding, Regressed]
      simp only [threshold] at far
      rcases lt_abs.mp far with above | below
      · constructor <;> intro <;> linarith
      · constructor <;> intro <;> linarith
  | lowerBetter =>
      simp only [KeptByRounding, Regressed]
      simp only [threshold] at far
      rcases lt_abs.mp far with above | below
      · constructor <;> intro <;> linarith
      · constructor <;> intro <;> linarith

end Direction

theorem GateRule.metricVerdict_eq (rule : GateRule) (report : MetricReport) :
    rule.metricVerdict report =
      if rule.direction.Regressed rule.tolerance
          (rule.direction.decisiveBound (report.deltaCiLower, report.deltaCiUpper)) then .fail
      else if rule.direction.Regressed rule.tolerance
            (rule.direction.worseBound (report.deltaCiLower, report.deltaCiUpper)) ∨
          rule.direction.Regressed rule.tolerance report.deltaPoint then .warn
      else .pass := by
  unfold GateRule.metricVerdict GateRule.normalizedUpper GateRule.normalizedLower
    GateRule.normalizedPoint
  cases rule.direction with
  | higherBetter => rfl
  | lowerBetter =>
      simp only [neg_lt_neg_iff, Direction.decisiveBound, Direction.worseBound]
      rfl

section Decider

variable (draws : Draws) (nResamples : Nat) (baselineValues candidateValues : List Rat)
variable (statistic : List Rat → Rat) (direction : Direction) (tolerance : Rat)

theorem isSignificantRegression_spec :
    let bound := direction.decisiveBound
      (bootstrapDeltaCi draws nResamples baselineValues candidateValues statistic)
    let point := statistic candidateValues - statistic baselineValues
    let decision := isSignificantRegression draws nResamples baselineValues candidateValues
      statistic direction tolerance
    (decision.1 = true ↔ direction.Regressed tolerance bound) ∧
      (decision.2.finding = .possible ↔
        ¬direction.Regressed tolerance bound ∧ direction.Regressed tolerance point) := by
  intro bound point decision
  by_cases confirms : direction.Regressed tolerance bound <;>
    by_cases regressed : direction.Regressed tolerance point <;>
    cases direction <;>
    simp only [Direction.Regressed, bound, point, Direction.decisiveBound] at confirms regressed <;>
    simp [decision, bound, point, isSignificantRegression, Direction.Regressed,
      Direction.decisiveBound, confirms, regressed]

end Decider

/-! ## The verdict on one metric -/

/-- The verdict that the reasons give a metric. A metric without a reason passed. -/
def reportedVerdict (reasons : List GateReason) (metric : Metric) : Verdict :=
  ((reasons.find? fun reason => reason.metric == metric).map (·.verdict)).getD .pass

theorem reportedVerdict_applyGates {metrics : Metric → MetricReport} {rules : GateRules}
    {rule : GateRule} (member : rule ∈ rules.entries) :
    reportedVerdict (applyGates metrics rules).2 rule.metric =
      rule.metricVerdict (metrics rule.metric) := by
  unfold reportedVerdict
  cases found : (applyGates metrics rules).2.find? fun reason => reason.metric == rule.metric with
  | none =>
      have absent := List.find?_eq_none.mp found
      by_contra notPass
      have reported : rule.reason (metrics rule.metric) = some _ :=
        GateRule.reason_eq_some_iff.mpr ⟨fun passes => notPass passes.symm, rfl⟩
      exact absent _ (mem_reasons_iff.mpr ⟨rule, member, reported⟩) (by simp)
  | some reason =>
      have same : reason.metric = rule.metric := by simpa using List.find?_some found
      have reported := reason_of_mem member (List.mem_of_find?_eq_some found) same
      rcases GateRule.reason_eq_some_iff.mp reported with ⟨_, rfl⟩
      rfl

def listInput (metric : Metric) (values : List Rat) : MetricSampleInput :=
  fun other => if other = metric then some (.sequence values) else none

section Lists

variable (draws : Draws) (metric : Metric) {baselineValues candidateValues : List Rat}

theorem buildMetricReport_listInput (length : baselineValues.length = candidateValues.length) :
    let ci := bootstrapDeltaCi draws defaultResamples baselineValues candidateValues
      metric.statistic
    let report := buildMetricReport draws (listInput metric baselineValues)
      (listInput metric candidateValues) metric
    report.deltaCiLower = roundTo 6 ci.1 ∧ report.deltaCiUpper = roundTo 6 ci.2 ∧
      report.deltaPoint =
        roundTo 6 (metric.statistic candidateValues - metric.statistic baselineValues) := by
  have baselineAll : baselineValues.take (min baselineValues.length candidateValues.length) =
      baselineValues := List.take_of_length_le (by omega)
  have candidateAll : candidateValues.take (min baselineValues.length candidateValues.length) =
      candidateValues := List.take_of_length_le (by omega)
  simp [buildMetricReport, listInput, sampleValues, pairedValues, baselineAll, candidateAll]

end Lists

/-! ## Agreement -/

section Agreement

variable (draws : Draws) (rules : GateRules) (rule : GateRule)
variable (baselineValues candidateValues : List Rat)

def listDecision : Bool × RegressionMessage :=
  isSignificantRegression draws defaultResamples baselineValues candidateValues
    rule.metric.statistic rule.direction rule.tolerance

def listVerdict : Verdict :=
  reportedVerdict (applyGates (buildMetricReport draws (listInput rule.metric baselineValues)
    (listInput rule.metric candidateValues)) rules).2 rule.metric

def listInterval : Rat × Rat :=
  bootstrapDeltaCi draws defaultResamples baselineValues candidateValues rule.metric.statistic

def listPoint : Rat :=
  rule.metric.statistic candidateValues - rule.metric.statistic baselineValues

variable {rules rule baselineValues candidateValues}

theorem listVerdict_eq (member : rule ∈ rules.entries)
    (length : baselineValues.length = candidateValues.length) :
    listVerdict draws rules rule baselineValues candidateValues =
      if rule.direction.Regressed rule.tolerance (roundTo 6 (rule.direction.decisiveBound
          (listInterval draws rule baselineValues candidateValues))) then .fail
      else if rule.direction.Regressed rule.tolerance (roundTo 6 (rule.direction.worseBound
            (listInterval draws rule baselineValues candidateValues))) ∨
          rule.direction.Regressed rule.tolerance
            (roundTo 6 (listPoint rule baselineValues candidateValues)) then .warn
      else .pass := by
  rcases buildMetricReport_listInput draws rule.metric length with ⟨lower, upper, point⟩
  rw [listVerdict, reportedVerdict_applyGates member, GateRule.metricVerdict_eq, lower, upper,
    point]
  cases rule.direction <;> rfl

theorem listVerdict_eq_fail_iff (member : rule ∈ rules.entries)
    (length : baselineValues.length = candidateValues.length) :
    listVerdict draws rules rule baselineValues candidateValues = .fail ↔
      rule.direction.Regressed rule.tolerance (roundTo 6 (rule.direction.decisiveBound
        (listInterval draws rule baselineValues candidateValues))) := by
  rw [listVerdict_eq draws member length]
  split
  · next regressed => simp [regressed]
  · next kept =>
    simp only [kept, iff_false]
    split <;> simp

end Agreement

/-- The deciders agree on a fail if and only if rounding leaves the decisive
bound on its side of the tolerance. A possible regression is a warning if and
only if besides the point stays one, or the worse bound rounds to one. Only
differences that are next to the tolerance and have more than six decimals can
change sides. -/
theorem deciders_agree_iff (draws : Draws) (rules : GateRules) (rule : GateRule)
    (member : rule ∈ rules.entries) (baselineValues candidateValues : List Rat)
    (length : baselineValues.length = candidateValues.length) :
    (((listDecision draws rule baselineValues candidateValues).1 = true ↔
          listVerdict draws rules rule baselineValues candidateValues = .fail) ↔
        rule.direction.KeptByRounding rule.tolerance (rule.direction.decisiveBound
          (listInterval draws rule baselineValues candidateValues))) ∧
      ((listDecision draws rule baselineValues candidateValues).2.finding = .possible →
        (listVerdict draws rules rule baselineValues candidateValues = .warn ↔
          rule.direction.KeptByRounding rule.tolerance (rule.direction.decisiveBound
            (listInterval draws rule baselineValues candidateValues)) ∧
          (rule.direction.KeptByRounding rule.tolerance
              (listPoint rule baselineValues candidateValues) ∨
            rule.direction.Regressed rule.tolerance (roundTo 6 (rule.direction.worseBound
              (listInterval draws rule baselineValues candidateValues)))))) ∧
      ∀ delta, ¬rule.direction.KeptByRounding rule.tolerance delta →
        |delta - rule.direction.threshold rule.tolerance| ≤ 1 / 2000000 ∧
          ¬HasDecimals 6 delta := by
  rcases isSignificantRegression_spec draws defaultResamples baselineValues candidateValues
    rule.metric.statistic rule.direction rule.tolerance with ⟨significant, possible⟩
  refine ⟨?_, ?_, ?_⟩
  · rw [listVerdict_eq_fail_iff draws member length, listDecision, significant]
    exact iff_comm
  · intro found
    rcases possible.mp found with ⟨unconfirmed, regressed⟩
    have bound : rule.direction.KeptByRounding rule.tolerance (rule.direction.decisiveBound
          (listInterval draws rule baselineValues candidateValues)) ↔
        ¬rule.direction.Regressed rule.tolerance (roundTo 6 (rule.direction.decisiveBound
          (listInterval draws rule baselineValues candidateValues))) :=
      iff_false_right unconfirmed
    have point : rule.direction.KeptByRounding rule.tolerance
          (listPoint rule baselineValues candidateValues) ↔
        rule.direction.Regressed rule.tolerance
          (roundTo 6 (listPoint rule baselineValues candidateValues)) :=
      iff_true_right regressed
    rw [listVerdict_eq draws member length, bound, point]
    split
    · next fails => simp [fails]
    · next holds =>
      simp only [holds, not_false_eq_true, true_and]
      split
      · next warns => simp [warns.symm]
      · next passes => simp [or_comm.not.mp passes]
  · intro delta carried
    constructor
    · by_contra far
      exact carried (Direction.keptByRounding_of_far (not_le.mp far))
    · exact fun decimal => carried (Direction.keptByRounding_of_hasDecimals decimal)

namespace Scenario

def smallDropRule : GateRule where
  metric := .passRate
  direction := .higherBetter
  tolerance := 1 / 50
  tolerance_nonneg := by decide +kernel

def smallDropRules : GateRules where
  entries := [smallDropRule]
  nonempty := by simp
  nodup := by simp

theorem listInterval_of_difference {difference : Rat} {baselineValues candidateValues : List Rat}
    (nonempty : baselineValues ≠ [])
    (moved : List.Forall₂ (fun baseline candidate => candidate = baseline + difference)
      baselineValues candidateValues) :
    listInterval firstIndex smallDropRule baselineValues candidateValues =
      (difference, difference) :=
  @bootstrapDeltaCi_eq_offset _ _ averageLocation _ firstIndex _ defaultResamples_pos nonempty
    moved

theorem listInterval_lowered :
    listInterval firstIndex smallDropRule [1, 8 / 10, 1] [9 / 10, 7 / 10, 9 / 10] =
      (-1 / 10, -1 / 10) := by
  apply listInterval_of_difference (by simp)
  exact .cons (by norm_num) (.cons (by norm_num) (.cons (by norm_num) .nil))

theorem listInterval_nearby :
    listInterval firstIndex smallDropRule [1] [9799999 / 10000000] =
      (9799999 / 10000000 - 1, 9799999 / 10000000 - 1) :=
  listInterval_of_difference (by simp) (.cons (by ring) .nil)

end Scenario

theorem deciders_agree_iff_scenario :
    (listDecision Scenario.firstIndex Scenario.smallDropRule [1, 8 / 10, 1]
        [9 / 10, 7 / 10, 9 / 10]).1 = true ↔
      listVerdict Scenario.firstIndex Scenario.smallDropRules Scenario.smallDropRule
        [1, 8 / 10, 1] [9 / 10, 7 / 10, 9 / 10] = .fail := by
  apply (deciders_agree_iff Scenario.firstIndex Scenario.smallDropRules Scenario.smallDropRule
    (List.mem_singleton.mpr rfl) [1, 8 / 10, 1] [9 / 10, 7 / 10, 9 / 10] rfl).1.mpr
  rw [Scenario.listInterval_lowered]
  exact Direction.keptByRounding_of_hasDecimals ⟨-100000, by norm_num [Direction.decisiveBound,
    Scenario.smallDropRule]⟩

/-- A difference that rounds to the tolerance is significant to one decider and
passes the other. -/
theorem deciders_disagree :
    ¬∀ (draws : Draws) (rules : GateRules) (rule : GateRule), rule ∈ rules.entries →
      ∀ baselineValues candidateValues : List Rat, baselineValues ≠ [] →
      baselineValues.length = candidateValues.length →
      ((listDecision draws rule baselineValues candidateValues).1 = true ↔
        listVerdict draws rules rule baselineValues candidateValues = .fail) ∧
      ((listDecision draws rule baselineValues candidateValues).2.finding = .possible →
        listVerdict draws rules rule baselineValues candidateValues = .warn) := by
  intro agree
  have member : Scenario.smallDropRule ∈ Scenario.smallDropRules.entries := List.mem_singleton.mpr rfl
  have same := (agree Scenario.firstIndex Scenario.smallDropRules Scenario.smallDropRule member
    [1] [9799999 / 10000000] (by simp) rfl).1
  have significant : (listDecision Scenario.firstIndex Scenario.smallDropRule [1]
      [9799999 / 10000000]).1 = true := by
    rw [listDecision, (isSignificantRegression_spec ..).1, ← listInterval,
      Scenario.listInterval_nearby]
    norm_num [Direction.Regressed, Direction.decisiveBound, Scenario.smallDropRule]
  have fails := (listVerdict_eq_fail_iff Scenario.firstIndex member (by rfl)).mp
    (same.mp significant)
  rw [Scenario.listInterval_nearby] at fails
  have rounded : roundTo 6 (9799999 / 10000000 - 1 : Rat) = -1 / 50 := by decide +kernel
  simp only [Direction.Regressed, Direction.decisiveBound, Scenario.smallDropRule, rounded] at fails
  norm_num at fails

end EvalForge
