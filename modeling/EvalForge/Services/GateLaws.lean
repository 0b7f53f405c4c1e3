import EvalForge.Services.Comparison

/-! # Laws of the gates

What the gates say about two runs follows from how their samples compare case
by case. No draw of the bootstrap can turn a candidate that is nowhere worse
into a finding, or hide a regression that every case shows.
-/

namespace EvalForge

open Foundation

namespace Direction

def AtLeastAsGood (direction : Direction) (baseline candidate : Rat) : Prop :=
  match direction with
  | .higherBetter => baseline ≤ candidate
  | .lowerBetter => candidate ≤ baseline

def Improved (direction : Direction) (delta : Rat) : Prop :=
  match direction with
  | .higherBetter => 0 ≤ delta
  | .lowerBetter => delta ≤ 0

def Regressed (direction : Direction) (tolerance delta : Rat) : Prop :=
  match direction with
  | .higherBetter => delta < -tolerance
  | .lowerBetter => tolerance < delta

def WorseBy (direction : Direction) (least baseline candidate : Rat) : Prop :=
  match direction with
  | .higherBetter => candidate ≤ baseline + -least
  | .lowerBetter => baseline + least ≤ candidate

variable {direction : Direction} {tolerance least delta baseline candidate : Rat}
variable {baselineSample candidateSample : List Rat}

theorem AtLeastAsGood.refl (value : Rat) : direction.AtLeastAsGood value value := by
  cases direction <;> exact le_refl value

theorem improved_zero : direction.Improved 0 := by
  cases direction <;> exact le_refl 0

theorem Improved.roundTo (improved : direction.Improved delta) :
    direction.Improved (roundTo 6 delta) := by
  cases direction with
  | higherBetter => exact roundTo_nonneg improved
  | lowerBetter => exact roundTo_nonpos improved

theorem improved_of_atLeastAsGood (statistic : LocationStatistic Rat)
    (good : List.Forall₂ direction.AtLeastAsGood baselineSample candidateSample) :
    direction.Improved (statistic.value candidateSample - statistic.value baselineSample) := by
  cases direction with
  | higherBetter => exact sub_nonneg.mpr (statistic.monotone good)
  | lowerBetter => exact sub_nonpos.mpr (statistic.monotone (List.Forall₂.flip good))

theorem not_regressed_of_improved (tolerated : 0 ≤ tolerance)
    (improved : direction.Improved delta) : ¬direction.Regressed tolerance delta := by
  cases direction with
  | higherBetter => exact not_lt.mpr ((neg_nonpos.mpr tolerated).trans improved)
  | lowerBetter => exact not_lt.mpr (le_trans improved tolerated)

theorem Regressed.worseBy (regressed : direction.Regressed tolerance (candidate - baseline))
    (baselineStored : HasDecimals 6 baseline) (candidateStored : HasDecimals 6 candidate)
    (least_le : ∀ value, HasDecimals 6 value → tolerance < value → least ≤ value) :
    direction.WorseBy least baseline candidate := by
  cases direction with
  | higherBetter =>
      have above : tolerance < baseline - candidate := by
        rw [← neg_sub]
        exact lt_neg_of_lt_neg regressed
      have fallen := least_le _ (baselineStored.sub candidateStored) above
      exact le_add_neg_iff_add_le.mpr (le_sub_iff_add_le'.mp fallen)
  | lowerBetter =>
      have risen := least_le _ (candidateStored.sub baselineStored) regressed
      exact le_sub_iff_add_le'.mp risen

theorem worseBy_of_forall₂ (statistic : LocationStatistic Rat) (nonempty : baselineSample ≠ [])
    (worse : List.Forall₂ (direction.WorseBy least) baselineSample candidateSample) :
    direction.WorseBy least 0
      (statistic.value candidateSample - statistic.value baselineSample) := by
  cases direction with
  | higherBetter =>
      simp only [WorseBy, zero_add]
      exact statistic.le_offset nonempty worse
  | lowerBetter =>
      simp only [WorseBy, zero_add]
      exact statistic.offset_le nonempty worse

theorem WorseBy.regressed_roundTo (worse : direction.WorseBy least 0 delta)
    (decimal : HasDecimals 6 least) (beyond : tolerance < least) :
    direction.Regressed tolerance (roundTo 6 delta) := by
  cases direction with
  | higherBetter =>
      simp only [WorseBy, zero_add] at worse
      calc roundTo 6 delta ≤ roundTo 6 (-least) := roundTo_monotone worse
        _ = -least := decimal.neg.roundTo_eq
        _ < -tolerance := neg_lt_neg beyond
  | lowerBetter =>
      simp only [WorseBy, zero_add] at worse
      calc tolerance < least := beyond
        _ = roundTo 6 least := decimal.roundTo_eq.symm
        _ ≤ roundTo 6 delta := roundTo_monotone worse

end Direction

section Verdicts

variable {rule : GateRule} {report : MetricReport}

theorem GateRule.metricVerdict_eq_fail_iff :
    rule.metricVerdict report = .fail ↔ rule.normalizedUpper report < -rule.tolerance := by
  unfold GateRule.metricVerdict
  split
  · next fails => simp [fails]
  · next holds =>
    simp only [holds, iff_false]
    split <;> simp

theorem GateRule.metricVerdict_eq_fail
    (lower : rule.direction.Regressed rule.tolerance report.deltaCiLower)
    (upper : rule.direction.Regressed rule.tolerance report.deltaCiUpper) :
    rule.metricVerdict report = .fail := by
  apply GateRule.metricVerdict_eq_fail_iff.mpr
  unfold GateRule.normalizedUpper
  cases direction : rule.direction with
  | higherBetter =>
      rw [direction] at upper
      exact upper
  | lowerBetter =>
      rw [direction] at lower
      exact neg_lt_neg lower

theorem GateRule.metricVerdict_eq_fail_iff_of_point {delta : Rat}
    (lower : report.deltaCiLower = delta) (upper : report.deltaCiUpper = delta) :
    rule.metricVerdict report = .fail ↔ rule.direction.Regressed rule.tolerance delta := by
  rw [GateRule.metricVerdict_eq_fail_iff, GateRule.normalizedUpper, lower, upper]
  cases rule.direction with
  | higherBetter => exact Iff.rfl
  | lowerBetter => exact neg_lt_neg_iff

theorem GateRule.metricVerdict_eq_pass
    (lower : rule.direction.Improved report.deltaCiLower)
    (upper : rule.direction.Improved report.deltaCiUpper)
    (point : rule.direction.Improved report.deltaPoint) : rule.metricVerdict report = .pass := by
  have normalized : 0 ≤ rule.normalizedUpper report ∧ 0 ≤ rule.normalizedLower report ∧
      0 ≤ rule.normalizedPoint report := by
    unfold GateRule.normalizedUpper GateRule.normalizedLower GateRule.normalizedPoint
    cases direction : rule.direction with
    | higherBetter =>
        simp only [direction, Direction.Improved] at lower upper point
        exact ⟨upper, lower, point⟩
    | lowerBetter =>
        simp only [direction, Direction.Improved] at lower upper point
        exact ⟨neg_nonneg.mpr lower, neg_nonneg.mpr upper, neg_nonneg.mpr point⟩
  rcases normalized with ⟨upperKept, lowerKept, pointKept⟩
  have tolerated := rule.tolerance_nonneg
  have notFail : ¬rule.normalizedUpper report < -rule.tolerance := by linarith
  have notWarn : ¬(rule.normalizedLower report < -rule.tolerance ∨
      rule.normalizedPoint report < -rule.tolerance) := by
    rintro (below | below) <;> linarith
  rw [GateRule.metricVerdict, if_neg notFail, if_neg notWarn]

theorem GateRule.severity_le {worse : MetricReport}
    (upper : rule.normalizedUpper worse ≤ rule.normalizedUpper report)
    (lower : rule.normalizedLower worse ≤ rule.normalizedLower report)
    (point : rule.normalizedPoint worse ≤ rule.normalizedPoint report) :
    (rule.metricVerdict report).severity ≤ (rule.metricVerdict worse).severity := by
  by_cases worseFails : rule.normalizedUpper worse < -rule.tolerance
  · rw [GateRule.metricVerdict_eq_fail_iff.mpr worseFails]
    cases rule.metricVerdict report <;> decide
  · have holds : ¬rule.normalizedUpper report < -rule.tolerance := fun fails =>
      worseFails (upper.trans_lt fails)
    rw [GateRule.metricVerdict, GateRule.metricVerdict, if_neg holds, if_neg worseFails]
    by_cases warns : rule.normalizedLower report < -rule.tolerance ∨
        rule.normalizedPoint report < -rule.tolerance
    · have worseWarns := warns.imp lower.trans_lt point.trans_lt
      rw [if_pos warns, if_pos worseWarns]
    · rw [if_neg warns]
      exact Nat.zero_le _

theorem GateRule.reason_of_fail (fails : rule.metricVerdict report = .fail) :
    rule.reason report = some {
      metric := rule.metric
      verdict := .fail
      tolerance := rule.tolerance
      deltaPoint := report.deltaPoint } :=
  GateRule.reason_eq_some_iff.mpr ⟨by simp [fails], by rw [fails]⟩

theorem failed_reason_iff {metrics : Metric → MetricReport} {rules : GateRules}
    (member : rule ∈ rules.entries) {Property : Rat → Prop} :
    (∀ reason ∈ (applyGates metrics rules).2, reason.metric = rule.metric →
        reason.verdict = .fail → Property reason.deltaPoint) ↔
      (rule.metricVerdict (metrics rule.metric) = .fail →
        Property (metrics rule.metric).deltaPoint) := by
  constructor
  · intro each fails
    exact each _ (mem_reasons_iff.mpr ⟨rule, member, rule.reason_of_fail fails⟩) rfl rfl
  · intro holds reason reported sameMetric fails
    rcases GateRule.reason_eq_some_iff.mp (reason_of_mem member reported sameMetric) with ⟨_, rfl⟩
    exact holds fails

end Verdicts

/-! ## Bounds from the samples -/

section Samples

variable {draws : Draws} {baseline candidate : MetricSamples} {rule : GateRule}

theorem defaultResamples_pos : 0 < defaultResamples := by decide

theorem deltaCi_of_related (draws : Draws) {metric : Metric} {Related : Rat → Rat → Prop}
    (Property : Rat → Prop)
    (shared : (sharedCaseIds baseline candidate metric).Nonempty)
    (related : ∀ caseId ∈ sharedCaseIds baseline candidate metric,
      Related ((caseSamples baseline metric).sample caseId)
        ((caseSamples candidate metric).sample caseId))
    (estimates : ∀ baselineSample candidateSample, baselineSample ≠ [] →
      List.Forall₂ Related baselineSample candidateSample →
      Property (metric.location.value candidateSample - metric.location.value baselineSample)) :
    Property (deltaCi draws baseline candidate metric).1 ∧
      Property (deltaCi draws baseline candidate metric).2 :=
  bootstrapDeltaCi_of_related Property draws defaultResamples_pos
    (CaseSamples.forall₂_valuesAt related) (CaseSamples.valuesAt_ne_nil _ shared) estimates

theorem deltaCi_eq {metric : Metric} {difference : Rat}
    (shared : (sharedCaseIds baseline candidate metric).Nonempty)
    (related : ∀ caseId ∈ sharedCaseIds baseline candidate metric,
      (caseSamples candidate metric).sample caseId =
        (caseSamples baseline metric).sample caseId + difference) :
    deltaCi draws baseline candidate metric = (difference, difference) :=
  bootstrapDeltaCi_eq_offset draws defaultResamples_pos
    (CaseSamples.valuesAt_ne_nil _ shared) (CaseSamples.forall₂_valuesAt related)

/-! ## A candidate that is nowhere worse -/

theorem deltaCi_improved (draws : Draws)
    (good : ∀ caseId ∈ sharedCaseIds baseline candidate rule.metric,
      rule.direction.AtLeastAsGood ((caseSamples baseline rule.metric).sample caseId)
        ((caseSamples candidate rule.metric).sample caseId)) :
    rule.direction.Improved (deltaCi draws baseline candidate rule.metric).1 ∧
      rule.direction.Improved (deltaCi draws baseline candidate rule.metric).2 := by
  rcases (sharedCaseIds baseline candidate rule.metric).eq_empty_or_nonempty with disjoint | shared
  · rw [deltaCi_of_disjoint disjoint]
    exact ⟨Direction.improved_zero, Direction.improved_zero⟩
  · apply deltaCi_of_related draws rule.direction.Improved shared good
    intro _ _ _ sampled
    exact Direction.improved_of_atLeastAsGood rule.metric.location sampled

theorem metricVerdict_eq_pass_of_atLeastAsGood
    (sameCases : (caseSamples baseline rule.metric).caseIds =
      (caseSamples candidate rule.metric).caseIds)
    (good : ∀ caseId ∈ (caseSamples baseline rule.metric).caseIds,
      rule.direction.AtLeastAsGood ((caseSamples baseline rule.metric).sample caseId)
        ((caseSamples candidate rule.metric).sample caseId)) :
    rule.metricVerdict (buildMetricReport draws (sampleInput baseline) (sampleInput candidate)
      rule.metric) = .pass := by
  have interval := deltaCi_improved draws fun caseId shared =>
    good caseId (Finset.mem_inter.mp shared).1
  have candidateValues : (caseSamples candidate rule.metric).values =
      (caseSamples candidate rule.metric).valuesAt (caseSamples baseline rule.metric).caseIds := by
    rw [CaseSamples.values, sameCases]
  apply GateRule.metricVerdict_eq_pass
  · rw [deltaCiLower_eq]
    exact interval.1.roundTo
  · rw [deltaCiUpper_eq]
    exact interval.2.roundTo
  · rw [deltaPoint_eq, candidateValues]
    apply Direction.Improved.roundTo
    apply Direction.improved_of_atLeastAsGood
    exact CaseSamples.forall₂_valuesAt good

/-! ## A regression of every shared case -/

/-- Stored samples that all regress by more than the tolerance regress by at
least the next stored value, which no rounding changes. -/
theorem metricVerdict_eq_fail_of_regressed
    (shared : (sharedCaseIds baseline candidate rule.metric).Nonempty)
    (stored : ∀ caseId ∈ sharedCaseIds baseline candidate rule.metric,
      HasDecimals 6 ((caseSamples baseline rule.metric).sample caseId) ∧
        HasDecimals 6 ((caseSamples candidate rule.metric).sample caseId))
    (regressed : ∀ caseId ∈ sharedCaseIds baseline candidate rule.metric,
      rule.direction.Regressed rule.tolerance
        ((caseSamples candidate rule.metric).sample caseId -
          (caseSamples baseline rule.metric).sample caseId)) :
    rule.metricVerdict (buildMetricReport draws (sampleInput baseline) (sampleInput candidate)
      rule.metric) = .fail := by
  rcases exists_hasDecimals_gt 6 rule.tolerance with ⟨least, decimal, beyond, least_le⟩
  have worse : ∀ caseId ∈ sharedCaseIds baseline candidate rule.metric,
      rule.direction.WorseBy least ((caseSamples baseline rule.metric).sample caseId)
        ((caseSamples candidate rule.metric).sample caseId) := by
    intro caseId member
    rcases stored caseId member with ⟨baselineStored, candidateStored⟩
    exact (regressed caseId member).worseBy baselineStored candidateStored least_le
  have interval := deltaCi_of_related draws (rule.direction.WorseBy least 0) shared worse
    fun _ _ nonempty sampled => Direction.worseBy_of_forall₂ _ nonempty sampled
  apply GateRule.metricVerdict_eq_fail
  · rw [deltaCiLower_eq]
    exact interval.1.regressed_roundTo decimal beyond
  · rw [deltaCiUpper_eq]
    exact interval.2.regressed_roundTo decimal beyond

/-! ## Equal differences and one-sided samples -/

/-- By how much the cases with a sample on one side only move the difference of
the point estimates. -/
def oneSidedShift (baseline candidate : MetricSamples) (metric : Metric) : Rat :=
  (metric.location.value (caseSamples candidate metric).values -
      metric.location.value ((caseSamples candidate metric).valuesAt
        (sharedCaseIds baseline candidate metric))) -
    (metric.location.value (caseSamples baseline metric).values -
      metric.location.value ((caseSamples baseline metric).valuesAt
        (sharedCaseIds baseline candidate metric)))

/-- Without one-sided cases nothing is moved. -/
theorem oneSidedShift_of_sameCases {metric : Metric}
    (sameCases : (caseSamples baseline metric).caseIds = (caseSamples candidate metric).caseIds) :
    oneSidedShift baseline candidate metric = 0 := by
  have shared : sharedCaseIds baseline candidate metric =
      (caseSamples candidate metric).caseIds := by
    rw [sharedCaseIds, sameCases, Finset.inter_self]
  rw [oneSidedShift, shared, CaseSamples.values, CaseSamples.values, sameCases]
  ring

theorem deltaPoint_of_equal_differences {metric : Metric} {difference : Rat}
    (shared : (sharedCaseIds baseline candidate metric).Nonempty)
    (equal : ∀ caseId ∈ sharedCaseIds baseline candidate metric,
      (caseSamples candidate metric).sample caseId =
        (caseSamples baseline metric).sample caseId + difference) :
    (buildMetricReport draws (sampleInput baseline) (sampleInput candidate) metric).deltaPoint =
      roundTo 6 (difference + oneSidedShift baseline candidate metric) := by
  have paired := metric.location.eq_offset
    (CaseSamples.valuesAt_ne_nil (caseSamples baseline metric) shared)
    (CaseSamples.forall₂_valuesAt equal)
  rw [deltaPoint_eq, oneSidedShift]
  congr 1
  linarith

theorem metricVerdict_eq_fail_iff_of_equal_differences {difference : Rat}
    (shared : (sharedCaseIds baseline candidate rule.metric).Nonempty)
    (equal : ∀ caseId ∈ sharedCaseIds baseline candidate rule.metric,
      (caseSamples candidate rule.metric).sample caseId =
        (caseSamples baseline rule.metric).sample caseId + difference) :
    rule.metricVerdict (buildMetricReport draws (sampleInput baseline) (sampleInput candidate)
        rule.metric) = .fail ↔
      rule.direction.Regressed rule.tolerance (roundTo 6 difference) := by
  apply GateRule.metricVerdict_eq_fail_iff_of_point
  · rw [deltaCiLower_eq, deltaCi_eq shared equal]
  · rw [deltaCiUpper_eq, deltaCi_eq shared equal]

theorem metricVerdict_ne_fail_of_disjoint
    (disjoint : sharedCaseIds baseline candidate rule.metric = ∅) :
    rule.metricVerdict (buildMetricReport draws (sampleInput baseline) (sampleInput candidate)
      rule.metric) ≠ .fail := by
  have lower : (buildMetricReport draws (sampleInput baseline) (sampleInput candidate)
      rule.metric).deltaCiLower = 0 := by
    rw [deltaCiLower_eq, deltaCi_of_disjoint disjoint, roundTo_zero]
  have upper : (buildMetricReport draws (sampleInput baseline) (sampleInput candidate)
      rule.metric).deltaCiUpper = 0 := by
    rw [deltaCiUpper_eq, deltaCi_of_disjoint disjoint, roundTo_zero]
  rw [Ne, GateRule.metricVerdict_eq_fail_iff_of_point lower upper]
  exact Direction.not_regressed_of_improved rule.tolerance_nonneg Direction.improved_zero

end Samples

/-! ## No false alarm -/

/-- A metric on which no case got worse is never reported, and a run compared
with itself passes without a reason. -/
theorem no_false_alarm :
    (∀ (draws : Draws) (baseline candidate : MetricSamples) (rules : GateRules) (rule : GateRule),
      rule ∈ rules.entries →
      (caseSamples baseline rule.metric).caseIds = (caseSamples candidate rule.metric).caseIds →
      (∀ caseId ∈ (caseSamples baseline rule.metric).caseIds,
        rule.direction.AtLeastAsGood ((caseSamples baseline rule.metric).sample caseId)
          ((caseSamples candidate rule.metric).sample caseId)) →
      ∀ reason ∈ (applyGates (buildMetricReport draws (sampleInput baseline)
        (sampleInput candidate)) rules).2, reason.metric ≠ rule.metric) ∧
    ∀ (draws : Draws) (items : List ItemRecord) (rules : GateRules),
      applyGates (buildMetricReport draws (sampleInput (collectRunMetricSamples items))
        (sampleInput (collectRunMetricSamples items))) rules = (.pass, []) := by
  constructor
  · intro draws baseline candidate rules rule member sameCases good reason reported sameMetric
    rcases GateRule.reason_eq_some_iff.mp (reason_of_mem member reported sameMetric) with
      ⟨notPass, _⟩
    exact notPass (metricVerdict_eq_pass_of_atLeastAsGood sameCases good)
  · intro draws items rules
    apply applyGates_eq_pass
    intro rule _
    apply metricVerdict_eq_pass_of_atLeastAsGood rfl
    exact fun caseId _ => Direction.AtLeastAsGood.refl _

namespace Scenario

def firstIndex : Draws where
  index _ _ _ := 0
  index_lt _ _ _ positive := positive

def samplesOf (metric : Metric) (values : List (String × Rat)) : MetricSamples :=
  values.foldl (fun samples value => recordSample samples metric value.1 value.2) fun _ => none

def latencySamples (first second : Rat) : MetricSamples :=
  samplesOf .p95LatencyMs [("case-1", first), ("case-2", second)]

def latencyRule : GateRule where
  metric := .p95LatencyMs
  direction := .lowerBetter
  tolerance := 50
  tolerance_nonneg := by decide +kernel

def latencyRules : GateRules where
  entries := [latencyRule]
  nonempty := by simp
  nodup := by simp

theorem caseSamples_latencySamples (first second : Rat) :
    caseSamples (latencySamples first second) .p95LatencyMs =
      (CaseSamples.empty.insert "case-1" first).insert "case-2" second := rfl

theorem forall_latencySamples (Related : Rat → Rat → Prop)
    {first second laterFirst laterSecond : Rat} (firstRelated : Related first laterFirst)
    (secondRelated : Related second laterSecond) :
    ∀ caseId ∈ sharedCaseIds (latencySamples first second) (latencySamples laterFirst laterSecond)
        latencyRule.metric,
      Related ((caseSamples (latencySamples first second) latencyRule.metric).sample caseId)
        ((caseSamples (latencySamples laterFirst laterSecond) latencyRule.metric).sample
          caseId) := by
  intro caseId member
  have either : caseId = "case-2" ∨ caseId = "case-1" := by
    simpa [sharedCaseIds, latencyRule, caseSamples_latencySamples, CaseSamples.insert,
      CaseSamples.empty] using member
  rcases either with rfl | rfl
  · simpa [latencyRule, caseSamples_latencySamples, CaseSamples.insert] using secondRelated
  · simpa [latencyRule, caseSamples_latencySamples, CaseSamples.insert] using firstRelated

end Scenario

theorem no_false_alarm_scenario :
    ∀ reason ∈ (applyGates (buildMetricReport Scenario.firstIndex
        (sampleInput (Scenario.latencySamples 100 400)) (sampleInput (Scenario.latencySamples 90 400)))
        Scenario.latencyRules).2, reason.metric ≠ .p95LatencyMs := by
  apply no_false_alarm.1 Scenario.firstIndex (Scenario.latencySamples 100 400)
    (Scenario.latencySamples 90 400) Scenario.latencyRules Scenario.latencyRule
  · exact List.mem_singleton.mpr rfl
  · rfl
  · have faster : Scenario.latencyRule.direction.AtLeastAsGood 100 90 := by
      norm_num [Scenario.latencyRule, Direction.AtLeastAsGood]
    exact fun caseId member => Scenario.forall_latencySamples
      Scenario.latencyRule.direction.AtLeastAsGood faster (Direction.AtLeastAsGood.refl 400) caseId
        (Finset.mem_inter.mpr ⟨member, member⟩)

/-! ## A uniform regression fails -/

/-- When every shared case got worse by more than the tolerance, the metric and
the comparison fail. -/
theorem uniform_regression_fails (draws : Draws) (baseline candidate : MetricSamples)
    (rules : GateRules) (rule : GateRule) (member : rule ∈ rules.entries)
    (shared : (sharedCaseIds baseline candidate rule.metric).Nonempty)
    (stored : ∀ caseId ∈ sharedCaseIds baseline candidate rule.metric,
      HasDecimals 6 ((caseSamples baseline rule.metric).sample caseId) ∧
        HasDecimals 6 ((caseSamples candidate rule.metric).sample caseId))
    (regressed : ∀ caseId ∈ sharedCaseIds baseline candidate rule.metric,
      rule.direction.Regressed rule.tolerance
        ((caseSamples candidate rule.metric).sample caseId -
          (caseSamples baseline rule.metric).sample caseId)) :
    (∃ reason ∈ (applyGates (buildMetricReport draws (sampleInput baseline)
        (sampleInput candidate)) rules).2, reason.metric = rule.metric ∧ reason.verdict = .fail) ∧
      (applyGates (buildMetricReport draws (sampleInput baseline) (sampleInput candidate))
        rules).1 = .fail := by
  have fails : rule.metricVerdict (buildMetricReport draws (sampleInput baseline)
      (sampleInput candidate) rule.metric) = .fail :=
    metricVerdict_eq_fail_of_regressed shared stored regressed
  have reported := mem_reasons_iff.mpr ⟨rule, member, rule.reason_of_fail fails⟩
  exact ⟨⟨_, reported, rfl, rfl⟩, applyGates_eq_fail member fails⟩

theorem uniform_regression_fails_scenario :
    (∃ reason ∈ (applyGates (buildMetricReport Scenario.firstIndex
        (sampleInput (Scenario.latencySamples 100 400))
        (sampleInput (Scenario.latencySamples 1000 500))) Scenario.latencyRules).2,
        reason.metric = .p95LatencyMs ∧ reason.verdict = .fail) ∧
      (applyGates (buildMetricReport Scenario.firstIndex
        (sampleInput (Scenario.latencySamples 100 400))
        (sampleInput (Scenario.latencySamples 1000 500))) Scenario.latencyRules).1 = .fail := by
  apply uniform_regression_fails Scenario.firstIndex (Scenario.latencySamples 100 400)
    (Scenario.latencySamples 1000 500) Scenario.latencyRules Scenario.latencyRule
  · exact List.mem_singleton.mpr rfl
  · exact ⟨"case-1", by decide⟩
  · exact Scenario.forall_latencySamples
      (fun baselineMs candidateMs => HasDecimals 6 baselineMs ∧ HasDecimals 6 candidateMs)
      ⟨⟨100 * 10 ^ 6, by norm_num⟩, ⟨1000 * 10 ^ 6, by norm_num⟩⟩
      ⟨⟨400 * 10 ^ 6, by norm_num⟩, ⟨500 * 10 ^ 6, by norm_num⟩⟩
  · have first : Scenario.latencyRule.direction.Regressed 50 (1000 - 100) := by
      norm_num [Scenario.latencyRule, Direction.Regressed]
    have second : Scenario.latencyRule.direction.Regressed 50 (500 - 400) := by
      norm_num [Scenario.latencyRule, Direction.Regressed]
    exact Scenario.forall_latencySamples (fun baselineMs candidateMs =>
      Scenario.latencyRule.direction.Regressed 50 (candidateMs - baselineMs)) first second

/-! ## A failing metric regressed -/

/-- When all shared cases differ alike, a reported fail carries a regressed
point estimate exactly if there are no shared cases, or their rounded
difference is no regression, or it stays one together with the shift by the
one-sided cases. -/
theorem failing_metric_regressed_iff (draws : Draws) (baseline candidate : MetricSamples)
    (rules : GateRules) (rule : GateRule) (member : rule ∈ rules.entries) (difference : Rat)
    (equal : ∀ caseId ∈ sharedCaseIds baseline candidate rule.metric,
      (caseSamples candidate rule.metric).sample caseId -
        (caseSamples baseline rule.metric).sample caseId = difference) :
    (∀ reason ∈ (applyGates (buildMetricReport draws (sampleInput baseline)
          (sampleInput candidate)) rules).2,
        reason.metric = rule.metric → reason.verdict = .fail →
        rule.direction.Regressed rule.tolerance reason.deltaPoint) ↔
      sharedCaseIds baseline candidate rule.metric = ∅ ∨
        ¬rule.direction.Regressed rule.tolerance (roundTo 6 difference) ∨
        rule.direction.Regressed rule.tolerance
          (roundTo 6 (difference + oneSidedShift baseline candidate rule.metric)) := by
  rw [failed_reason_iff member]
  rcases (sharedCaseIds baseline candidate rule.metric).eq_empty_or_nonempty with disjoint | shared
  · constructor
    · exact fun _ => .inl disjoint
    · exact fun _ fails => absurd fails (metricVerdict_ne_fail_of_disjoint disjoint)
  · have moved : ∀ caseId ∈ sharedCaseIds baseline candidate rule.metric,
        (caseSamples candidate rule.metric).sample caseId =
          (caseSamples baseline rule.metric).sample caseId + difference := by
      intro caseId shares
      rw [← equal caseId shares]
      ring
    rw [metricVerdict_eq_fail_iff_of_equal_differences shared moved,
      deltaPoint_of_equal_differences shared moved, or_iff_right shared.ne_empty]
    exact imp_iff_not_or

namespace Scenario

def costRule : GateRule where
  metric := .costMeanUsd
  direction := .lowerBetter
  tolerance := 1 / 1000
  tolerance_nonneg := by decide +kernel

def costRules : GateRules where
  entries := [costRule]
  nonempty := by simp
  nodup := by simp

theorem valuesAt_of_ordered {samples : CaseSamples} {caseIds : Finset String}
    (names : List String) (same : caseIds = names.toFinset) (nodup : names.Nodup)
    (ordered : names.Pairwise (· ≤ ·)) :
    samples.valuesAt caseIds = names.map samples.sample := by
  rw [CaseSamples.valuesAt, same, (List.toFinset_sort (· ≤ ·) nodup).mpr ordered]

def twoCosts : MetricSamples :=
  samplesOf .costMeanUsd [("case-1", 1 / 10), ("case-2", 3 / 10)]

/-- Both cases cost a tenth more, and a third one has only run in the candidate. -/
def threeCosts : MetricSamples :=
  samplesOf .costMeanUsd [("case-1", 2 / 10), ("case-2", 4 / 10), ("case-3", 6 / 10)]

theorem sharedCaseIds_threeCosts :
    sharedCaseIds twoCosts threeCosts .costMeanUsd = ["case-1", "case-2"].toFinset := by
  decide +kernel

theorem oneSidedShift_threeCosts : oneSidedShift twoCosts threeCosts .costMeanUsd = 1 / 10 := by
  have baseline : (caseSamples twoCosts .costMeanUsd).values = [1 / 10, 3 / 10] :=
    valuesAt_of_ordered ["case-1", "case-2"] (by decide +kernel) (by decide) (by decide +kernel)
  have candidate : (caseSamples threeCosts .costMeanUsd).values = [2 / 10, 4 / 10, 6 / 10] :=
    valuesAt_of_ordered ["case-1", "case-2", "case-3"] (by decide +kernel) (by decide)
      (by decide +kernel)
  have baselineShared : (caseSamples twoCosts .costMeanUsd).valuesAt
      (sharedCaseIds twoCosts threeCosts .costMeanUsd) = [1 / 10, 3 / 10] :=
    valuesAt_of_ordered _ sharedCaseIds_threeCosts (by decide) (by decide +kernel)
  have candidateShared : (caseSamples threeCosts .costMeanUsd).valuesAt
      (sharedCaseIds twoCosts threeCosts .costMeanUsd) = [2 / 10, 4 / 10] :=
    valuesAt_of_ordered _ sharedCaseIds_threeCosts (by decide) (by decide +kernel)
  rw [oneSidedShift, baseline, candidate, baselineShared, candidateShared]
  simp only [Metric.location, averageLocation, average]
  norm_num

end Scenario

theorem failing_metric_regressed_iff_scenario :
    oneSidedShift Scenario.twoCosts Scenario.threeCosts .costMeanUsd = 1 / 10 ∧
      ∀ reason ∈ (applyGates (buildMetricReport Scenario.firstIndex
          (sampleInput Scenario.twoCosts) (sampleInput Scenario.threeCosts))
          Scenario.costRules).2,
        reason.metric = .costMeanUsd → reason.verdict = .fail →
        Direction.lowerBetter.Regressed (1 / 1000) reason.deltaPoint := by
  refine ⟨Scenario.oneSidedShift_threeCosts, ?_⟩
  apply (failing_metric_regressed_iff Scenario.firstIndex Scenario.twoCosts Scenario.threeCosts
    Scenario.costRules Scenario.costRule (List.mem_singleton.mpr rfl) (1 / 10) ?_).mpr
  · have decimal : HasDecimals 6 (1 / 10 + 1 / 10 : Rat) := ⟨200000, by norm_num⟩
    refine .inr (.inr ?_)
    rw [show Scenario.costRule.metric = .costMeanUsd from rfl, Scenario.oneSidedShift_threeCosts,
      decimal.roundTo_eq]
    norm_num [Scenario.costRule, Direction.Regressed]
  · rw [show Scenario.costRule.metric = .costMeanUsd from rfl, Scenario.sharedCaseIds_threeCosts]
    decide +kernel

namespace Scenario

/-- One case costs twice as much, and another one only has a cost, zero, in the
candidate. -/
def baselineCosts : MetricSamples := samplesOf .costMeanUsd [("case-1", 1 / 10)]

def candidateCosts : MetricSamples :=
  samplesOf .costMeanUsd [("case-1", 2 / 10), ("case-2", 0)]

theorem sharedCaseIds_costs :
    sharedCaseIds baselineCosts candidateCosts .costMeanUsd = {"case-1"} := by
  decide +kernel

theorem values_baselineCosts : (caseSamples baselineCosts .costMeanUsd).values = [1 / 10] :=
  valuesAt_of_ordered ["case-1"] (by decide +kernel) (by decide) (by decide)

theorem values_candidateCosts :
    (caseSamples candidateCosts .costMeanUsd).values = [2 / 10, 0] :=
  valuesAt_of_ordered ["case-1", "case-2"] (by decide +kernel) (by decide) (by decide +kernel)

theorem equal_differences_costs :
    ∀ caseId ∈ sharedCaseIds baselineCosts candidateCosts costRule.metric,
      (caseSamples candidateCosts costRule.metric).sample caseId =
        (caseSamples baselineCosts costRule.metric).sample caseId + 1 / 10 := by
  rw [show sharedCaseIds baselineCosts candidateCosts costRule.metric = {"case-1"} from
    sharedCaseIds_costs]
  intro caseId only
  rw [Finset.mem_singleton.mp only]
  decide +kernel

theorem costs_fail :
    costRule.metricVerdict (buildMetricReport firstIndex (sampleInput baselineCosts)
      (sampleInput candidateCosts) costRule.metric) = .fail := by
  have shared : (sharedCaseIds baselineCosts candidateCosts costRule.metric).Nonempty :=
    ⟨"case-1", by decide +kernel⟩
  have decimal : HasDecimals 6 (1 / 10 : Rat) := ⟨100000, by norm_num⟩
  rw [metricVerdict_eq_fail_iff_of_equal_differences shared equal_differences_costs,
    decimal.roundTo_eq]
  norm_num [costRule, Direction.Regressed]

theorem deltaPoint_costs :
    (buildMetricReport firstIndex (sampleInput baselineCosts) (sampleInput candidateCosts)
      costRule.metric).deltaPoint = 0 := by
  have same : costRule.metric.location.value (caseSamples candidateCosts costRule.metric).values -
      costRule.metric.location.value (caseSamples baselineCosts costRule.metric).values = 0 := by
    simp only [costRule, Metric.location, averageLocation, values_candidateCosts,
      values_baselineCosts, average]
    norm_num
  rw [deltaPoint_eq, same, roundTo_zero]

end Scenario

/-- The paired cost then fails although the mean cost is the same. -/
theorem unregressed_metric_fails :
    ¬∀ (draws : Draws) (baseline candidate : MetricSamples) (rules : GateRules)
      (rule : GateRule), rule ∈ rules.entries → ∀ difference : Rat,
      (∀ caseId ∈ sharedCaseIds baseline candidate rule.metric,
        (caseSamples candidate rule.metric).sample caseId -
          (caseSamples baseline rule.metric).sample caseId = difference) →
      ∀ reason ∈ (applyGates (buildMetricReport draws (sampleInput baseline)
          (sampleInput candidate)) rules).2,
        reason.metric = rule.metric → reason.verdict = .fail →
        rule.direction.Regressed rule.tolerance reason.deltaPoint := by
  intro regressed
  have member : Scenario.costRule ∈ Scenario.costRules.entries := List.mem_singleton.mpr rfl
  have differences := fun caseId shares =>
    sub_eq_of_eq_add' (Scenario.equal_differences_costs caseId shares)
  have property := (failed_reason_iff member).mp
    (regressed Scenario.firstIndex Scenario.baselineCosts Scenario.candidateCosts
      Scenario.costRules Scenario.costRule member (1 / 10) differences)
  have worse := property Scenario.costs_fail
  rw [Scenario.deltaPoint_costs] at worse
  norm_num [Scenario.costRule, Direction.Regressed] at worse

end EvalForge
