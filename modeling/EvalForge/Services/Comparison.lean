import EvalForge.Foundation.Rounding
import EvalForge.Models.Entities
import EvalForge.Services.Statistics
import Mathlib.Data.Finset.Sort
import Mathlib.Data.String.Basic

/-! # Comparison of two runs

The samples of a run, the metric report over a baseline and a candidate, and
the gates on the report. Dictionaries by case id are finite maps: their readers
go through the sorted keys.
-/

namespace EvalForge

open Foundation

/-- The keys of `statistic_by_metric`. -/
inductive Metric
  | passRate
  | semanticSimilarity
  | p95LatencyMs
  | costMeanUsd
  deriving DecidableEq, Repr

namespace Metric

def text : Metric → String
  | passRate => "pass_rate"
  | semanticSimilarity => "semantic_similarity"
  | p95LatencyMs => "p95_latency_ms"
  | costMeanUsd => "cost_mean_usd"

def statistic : Metric → List Rat → Rat
  | p95LatencyMs => fun values => percentile values (19 / 20)
  | passRate | semanticSimilarity | costMeanUsd => average

def location : Metric → LocationStatistic Rat
  | p95LatencyMs => percentileLocation (19 / 20) (by norm_num) (by norm_num)
  | passRate | semanticSimilarity | costMeanUsd => averageLocation

theorem statistic_eq (metric : Metric) : metric.statistic = metric.location.value := by
  cases metric <;> rfl

theorem statistic_perm (metric : Metric) {values others : List Rat}
    (permuted : values.Perm others) : metric.statistic values = metric.statistic others := by
  cases metric with
  | p95LatencyMs => exact percentile_perm permuted _
  | passRate => exact average_perm permuted
  | semanticSimilarity => exact average_perm permuted
  | costMeanUsd => exact average_perm permuted

end Metric

/-! ## Samples -/

/-- A `dict[str, float]` from case ids to samples. -/
structure CaseSamples where
  caseIds : Finset String
  sample : String → Rat

namespace CaseSamples

def empty : CaseSamples where
  caseIds := ∅
  sample _ := 0

def insert (samples : CaseSamples) (caseId : String) (value : Rat) : CaseSamples where
  caseIds := Insert.insert caseId samples.caseIds
  sample other := if other = caseId then value else samples.sample other

theorem insert_insert (samples : CaseSamples) (caseId : String) (first second : Rat) :
    (samples.insert caseId first).insert caseId second = samples.insert caseId second := by
  unfold insert
  congr 1
  · simp
  · funext other
    by_cases same : other = caseId <;> simp [same]

end CaseSamples

/-- The samples of one metric, as `build_metric_report` takes them. -/
inductive SampleInput
  | sequence (values : List Rat)
  | mapping (samples : CaseSamples)

abbrev MetricSampleInput := Metric → Option SampleInput

abbrev MetricSamples := Metric → Option CaseSamples

def sampleInput (samples : MetricSamples) : MetricSampleInput :=
  fun metric => (samples metric).map .mapping

def caseSamples (samples : MetricSamples) (metric : Metric) : CaseSamples :=
  (samples metric).getD .empty

/-- `samples[metric][case_id] = value` on the default dictionary. -/
def recordSample (samples : MetricSamples) (metric : Metric) (caseId : String) (value : Rat) :
    MetricSamples :=
  fun other =>
    if other = metric then some ((caseSamples samples metric).insert caseId value)
    else samples other

/-! ## The samples of a run -/

/-- The names whose scores are samples of `semantic_similarity`. -/
def similarityNames : List String :=
  ["semantic_similarity", "token_f1_overlap"]

def recordSimilarity (caseId : String) (samples : MetricSamples) (result : EvalResult) :
    MetricSamples :=
  match result.score with
  | some score =>
      if result.evaluatorName ∈ similarityNames ∧ result.errored = false ∧ result.skipped = false
      then recordSample samples .semanticSimilarity caseId score
      else samples
  | none => samples

/-- All applicable evaluators passed, and none of the evaluators failed to run. -/
def ItemRecord.casePassed (item : ItemRecord) : Bool :=
  let applicable := item.results.filter fun result =>
    !result.skipped && !result.errored && result.passed.isSome
  let hasEvaluatorError := item.results.any (·.errored)
  !applicable.isEmpty && !hasEvaluatorError && applicable.all (·.passed == some true)

/-- The body of the loop of `collect_run_metric_samples`. -/
def collectItem (samples : MetricSamples) (item : ItemRecord) : MetricSamples :=
  let caseId := item.row.caseId
  let samples := recordSample samples .passRate caseId (if item.casePassed then 1 else 0)
  let samples :=
    match item.row.recordedLatencyMs with
    | some latencyMs => recordSample samples .p95LatencyMs caseId latencyMs
    | none => samples
  let samples :=
    match item.row.recordedCostUsd with
    | some costUsd => recordSample samples .costMeanUsd caseId costUsd
    | none => samples
  item.results.foldl (recordSimilarity caseId) samples

def collectRunMetricSamples (items : List ItemRecord) : MetricSamples :=
  (items.insertionSort fun left right => left.row.caseId ≤ right.row.caseId).foldl
    collectItem fun _ => none

/-! ## What an item contributes -/

def similarityScore (result : EvalResult) : Option Rat :=
  match result.score with
  | some score =>
      if result.evaluatorName ∈ similarityNames ∧ result.errored = false ∧ result.skipped = false
      then some score
      else none
  | none => none

/-- The sample of an item, of which the last score counts for similarity. -/
def itemSample (metric : Metric) (item : ItemRecord) : Option Rat :=
  match metric with
  | .passRate => some (if item.casePassed then 1 else 0)
  | .p95LatencyMs => item.row.recordedLatencyMs.map fun latencyMs : Int => (latencyMs : Rat)
  | .costMeanUsd => item.row.recordedCostUsd
  | .semanticSimilarity => (item.results.filterMap similarityScore).getLast?

section Collect

variable {samples : MetricSamples} {metric : Metric} {caseId : String}

@[simp] theorem recordSample_same (value : Rat) :
    recordSample samples metric caseId value metric =
      some ((caseSamples samples metric).insert caseId value) := by
  simp [recordSample]

theorem recordSample_other {other : Metric} (different : other ≠ metric) (value : Rat) :
    recordSample samples metric caseId value other = samples other := by
  simp [recordSample, different]

@[simp] theorem caseSamples_recordSample (value : Rat) :
    caseSamples (recordSample samples metric caseId value) metric =
      (caseSamples samples metric).insert caseId value := by
  simp [caseSamples]

theorem recordSimilarity_eq (result : EvalResult) :
    recordSimilarity caseId samples result =
      match similarityScore result with
      | some score => recordSample samples .semanticSimilarity caseId score
      | none => samples := by
  unfold recordSimilarity similarityScore
  cases result.score with
  | none => rfl
  | some score =>
      dsimp only
      split <;> rfl

theorem foldl_recordSimilarity (results : List EvalResult) :
    results.foldl (recordSimilarity caseId) samples =
      match (results.filterMap similarityScore).getLast? with
      | some score => recordSample samples .semanticSimilarity caseId score
      | none => samples := by
  induction results generalizing samples with
  | nil => rfl
  | cons result results induction =>
      rw [List.foldl_cons, induction, recordSimilarity_eq]
      cases scored : similarityScore result with
      | none => simp [scored]
      | some score =>
          rw [List.filterMap_cons_some scored, List.getLast?_cons]
          cases (results.filterMap similarityScore).getLast? with
          | none => rfl
          | some last =>
              funext other
              by_cases same : other = .semanticSimilarity
              · subst same
                simp [CaseSamples.insert_insert]
              · simp only [Option.getD_some, recordSample_other same]

theorem collectItem_apply (item : ItemRecord) :
    collectItem samples item metric =
      match itemSample metric item with
      | some value => some ((caseSamples samples metric).insert item.row.caseId value)
      | none => samples metric := by
  unfold collectItem
  rw [foldl_recordSimilarity]
  cases latency : item.row.recordedLatencyMs <;> cases cost : item.row.recordedCostUsd <;>
    cases scores : (item.results.filterMap similarityScore).getLast? <;>
    cases metric <;> simp [itemSample, latency, cost, scores, recordSample, caseSamples]

end Collect

/-! ## The report -/

def sampleValues : SampleInput → List Rat
  | .sequence values => values
  | .mapping samples => samples.caseIds.sort.map samples.sample

/-- Two mappings are paired by the case ids they share, anything else by position. -/
def pairedValues : SampleInput → SampleInput → List Rat × List Rat
  | .mapping baseline, .mapping candidate =>
      let sharedCaseIds := (baseline.caseIds ∩ candidate.caseIds).sort
      (sharedCaseIds.map baseline.sample, sharedCaseIds.map candidate.sample)
  | baseline, candidate =>
      let baselineValues := sampleValues baseline
      let candidateValues := sampleValues candidate
      let pairedCount := min baselineValues.length candidateValues.length
      (baselineValues.take pairedCount, candidateValues.take pairedCount)

structure MetricReport where
  baselinePoint : Rat
  baselineCiLower : Rat
  baselineCiUpper : Rat
  candidatePoint : Rat
  candidateCiLower : Rat
  candidateCiUpper : Rat
  deltaPoint : Rat
  deltaCiLower : Rat
  deltaCiUpper : Rat
  baselineSampleCount : Nat
  candidateSampleCount : Nat
  pairedSampleCount : Nat

def buildMetricReport (draws : Draws) (baselineSamples candidateSamples : MetricSampleInput)
    (metric : Metric) : MetricReport :=
  let statistic := metric.statistic
  let baselineRaw := (baselineSamples metric).getD (.sequence [])
  let candidateRaw := (candidateSamples metric).getD (.sequence [])
  let baselineValues := sampleValues baselineRaw
  let candidateValues := sampleValues candidateRaw
  let paired := pairedValues baselineRaw candidateRaw
  let baselinePoint := statistic baselineValues
  let candidatePoint := statistic candidateValues
  let baselineCi := bootstrapCi draws defaultResamples baselineValues statistic
  let candidateCi := bootstrapCi draws defaultResamples candidateValues statistic
  let deltaCi := bootstrapDeltaCi draws defaultResamples paired.1 paired.2 statistic
  { baselinePoint := roundTo 6 baselinePoint
    baselineCiLower := roundTo 6 baselineCi.1
    baselineCiUpper := roundTo 6 baselineCi.2
    candidatePoint := roundTo 6 candidatePoint
    candidateCiLower := roundTo 6 candidateCi.1
    candidateCiUpper := roundTo 6 candidateCi.2
    deltaPoint := roundTo 6 (candidatePoint - baselinePoint)
    deltaCiLower := roundTo 6 deltaCi.1
    deltaCiUpper := roundTo 6 deltaCi.2
    baselineSampleCount := baselineValues.length
    candidateSampleCount := candidateValues.length
    pairedSampleCount := paired.1.length }

/-! ## The report on per-case samples -/

namespace CaseSamples

def valuesAt (samples : CaseSamples) (caseIds : Finset String) : List Rat :=
  caseIds.sort.map samples.sample

def values (samples : CaseSamples) : List Rat :=
  samples.valuesAt samples.caseIds

theorem forall₂_valuesAt {Related : Rat → Rat → Prop} {left right : CaseSamples}
    {caseIds : Finset String}
    (related : ∀ caseId ∈ caseIds, Related (left.sample caseId) (right.sample caseId)) :
    List.Forall₂ Related (left.valuesAt caseIds) (right.valuesAt caseIds) := by
  apply forall₂_map_of_forall
  intro caseId member
  exact related caseId ((Finset.mem_sort _).mp member)

theorem valuesAt_ne_nil (samples : CaseSamples) {caseIds : Finset String}
    (nonempty : caseIds.Nonempty) : samples.valuesAt caseIds ≠ [] := by
  intro empty
  have length := congrArg List.length empty
  simp only [valuesAt, List.length_map, Finset.length_sort, List.length_nil] at length
  exact nonempty.ne_empty (Finset.card_eq_zero.mp length)

@[simp] theorem valuesAt_empty (samples : CaseSamples) : samples.valuesAt ∅ = [] := by
  simp [valuesAt]

end CaseSamples

def sharedCaseIds (baseline candidate : MetricSamples) (metric : Metric) : Finset String :=
  (caseSamples baseline metric).caseIds ∩ (caseSamples candidate metric).caseIds

/-- The interval of the paired differences, before it is rounded. -/
def deltaCi (draws : Draws) (baseline candidate : MetricSamples) (metric : Metric) : Rat × Rat :=
  bootstrapDeltaCi draws defaultResamples
    ((caseSamples baseline metric).valuesAt (sharedCaseIds baseline candidate metric))
    ((caseSamples candidate metric).valuesAt (sharedCaseIds baseline candidate metric))
    metric.location.value

section Report

variable {draws : Draws} {baseline candidate : MetricSamples} {metric : Metric}

theorem sampleValues_sampleInput (samples : MetricSamples) (metric : Metric) :
    sampleValues ((sampleInput samples metric).getD (.sequence [])) =
      (caseSamples samples metric).values := by
  unfold sampleInput caseSamples
  cases samples metric with
  | none => simp [sampleValues, CaseSamples.values, CaseSamples.empty]
  | some samples => rfl

theorem pairedValues_sampleInput (baseline candidate : MetricSamples) (metric : Metric) :
    pairedValues ((sampleInput baseline metric).getD (.sequence []))
        ((sampleInput candidate metric).getD (.sequence [])) =
      ((caseSamples baseline metric).valuesAt (sharedCaseIds baseline candidate metric),
        (caseSamples candidate metric).valuesAt (sharedCaseIds baseline candidate metric)) := by
  unfold sampleInput sharedCaseIds caseSamples
  cases baseline metric with
  | none =>
      cases candidate metric <;>
        simp [pairedValues, sampleValues, CaseSamples.empty]
  | some baselineSamples =>
      cases candidate metric with
      | none => simp [pairedValues, sampleValues, CaseSamples.empty]
      | some candidateSamples => rfl

theorem deltaPoint_eq :
    (buildMetricReport draws (sampleInput baseline) (sampleInput candidate) metric).deltaPoint =
      roundTo 6 (metric.location.value (caseSamples candidate metric).values -
        metric.location.value (caseSamples baseline metric).values) := by
  simp only [buildMetricReport, sampleValues_sampleInput, Metric.statistic_eq]

theorem deltaCiLower_eq :
    (buildMetricReport draws (sampleInput baseline) (sampleInput candidate) metric).deltaCiLower =
      roundTo 6 (deltaCi draws baseline candidate metric).1 := by
  simp only [buildMetricReport, pairedValues_sampleInput, Metric.statistic_eq, deltaCi]

theorem deltaCiUpper_eq :
    (buildMetricReport draws (sampleInput baseline) (sampleInput candidate) metric).deltaCiUpper =
      roundTo 6 (deltaCi draws baseline candidate metric).2 := by
  simp only [buildMetricReport, pairedValues_sampleInput, Metric.statistic_eq, deltaCi]

theorem deltaCi_of_disjoint (disjoint : sharedCaseIds baseline candidate metric = ∅) :
    deltaCi draws baseline candidate metric = (0, 0) := by
  simp [deltaCi, disjoint, bootstrapDeltaCi]

end Report

/-! ## The gates -/

inductive Direction
  | higherBetter
  | lowerBetter
  deriving DecidableEq, Repr

structure GateRule where
  metric : Metric
  direction : Direction
  tolerance : Rat
  tolerance_nonneg : 0 ≤ tolerance

/-- The rules that `validate_gate_rules` returns, in the order of the
dictionary. -/
structure GateRules where
  entries : List GateRule
  nonempty : entries ≠ []
  nodup : (entries.map (·.metric)).Nodup

/-- `{metric: {"direction": direction, "tolerance": tolerance}}`. -/
def GateRules.only (rule : GateRule) : GateRules where
  entries := [rule]
  nonempty := by simp
  nodup := by simp

def defaultGateRules : GateRules where
  entries := [
    ⟨.passRate, .higherBetter, 2 / 100, by norm_num⟩,
    ⟨.semanticSimilarity, .higherBetter, 2 / 100, by norm_num⟩,
    ⟨.p95LatencyMs, .lowerBetter, 50, by norm_num⟩,
    ⟨.costMeanUsd, .lowerBetter, 1 / 1000, by norm_num⟩]
  nonempty := by simp
  nodup := by decide

inductive Verdict
  | pass
  | warn
  | fail
  deriving DecidableEq, Repr

def Verdict.severity : Verdict → Nat
  | pass => 0
  | warn => 1
  | fail => 2

theorem Verdict.severity_injective : Function.Injective Verdict.severity := by
  intro verdict other same
  cases verdict <;> cases other <;> first | rfl | cases same

structure GateReason where
  metric : Metric
  verdict : Verdict
  tolerance : Rat
  deltaPoint : Rat

namespace GateRule

variable (rule : GateRule) (report : MetricReport)

def normalizedUpper : Rat :=
  match rule.direction with
  | .higherBetter => report.deltaCiUpper
  | .lowerBetter => -report.deltaCiLower

def normalizedLower : Rat :=
  match rule.direction with
  | .higherBetter => report.deltaCiLower
  | .lowerBetter => -report.deltaCiUpper

def normalizedPoint : Rat :=
  match rule.direction with
  | .higherBetter => report.deltaPoint
  | .lowerBetter => -report.deltaPoint

def metricVerdict : Verdict :=
  if rule.normalizedUpper report < -rule.tolerance then .fail
  else if rule.normalizedLower report < -rule.tolerance ∨
      rule.normalizedPoint report < -rule.tolerance then .warn
  else .pass

/-- The reason a metric adds to the report, unless it passes. -/
def reason : Option GateReason :=
  if rule.metricVerdict report = .pass then none
  else some {
    metric := rule.metric
    verdict := rule.metricVerdict report
    tolerance := rule.tolerance
    deltaPoint := report.deltaPoint }

end GateRule

def Verdict.combine (verdict : Verdict) : Verdict → Verdict
  | .fail => .fail
  | .warn => if verdict = .fail then verdict else .warn
  | .pass => verdict

/-- The loop of `apply_gates` with its two accumulators. -/
def applyGatesLoop (metrics : Metric → MetricReport) :
    List GateRule → Verdict → List GateReason → Verdict × List GateReason
  | [], verdict, reasons => (verdict, reasons)
  | rule :: rules, verdict, reasons =>
      let metricReport := metrics rule.metric
      applyGatesLoop metrics rules (verdict.combine (rule.metricVerdict metricReport))
        (reasons ++ (rule.reason metricReport).toList)

def applyGates (metrics : Metric → MetricReport) (gateRules : GateRules) :
    Verdict × List GateReason :=
  applyGatesLoop metrics gateRules.entries .pass []

/-! ## What the gates report -/

section Gates

variable {metrics others : Metric → MetricReport}

theorem GateRule.reason_eq_some_iff {rule : GateRule} {report : MetricReport}
    {reason : GateReason} :
    rule.reason report = some reason ↔
      rule.metricVerdict report ≠ .pass ∧ {
        metric := rule.metric
        verdict := rule.metricVerdict report
        tolerance := rule.tolerance
        deltaPoint := report.deltaPoint } = reason := by
  unfold GateRule.reason
  split
  · next passes => simp [passes]
  · next notPass => simp [notPass]

theorem Verdict.severity_combine (verdict metricVerdict : Verdict) :
    (verdict.combine metricVerdict).severity = max verdict.severity metricVerdict.severity := by
  cases verdict <;> cases metricVerdict <;> rfl

theorem applyGatesLoop_reasons (rules : List GateRule) (verdict : Verdict)
    (reasons : List GateReason) :
    (applyGatesLoop metrics rules verdict reasons).2 =
      reasons ++ rules.filterMap fun rule => rule.reason (metrics rule.metric) := by
  induction rules generalizing verdict reasons with
  | nil => simp [applyGatesLoop]
  | cons rule rules induction =>
      rw [applyGatesLoop, induction]
      cases found : rule.reason (metrics rule.metric) <;> simp [found]

theorem applyGates_reasons (metrics : Metric → MetricReport) (rules : GateRules) :
    (applyGates metrics rules).2 =
      rules.entries.filterMap fun rule => rule.reason (metrics rule.metric) := by
  rw [applyGates, applyGatesLoop_reasons, List.nil_append]

theorem mem_reasons_iff {rules : GateRules} {reason : GateReason} :
    reason ∈ (applyGates metrics rules).2 ↔
      ∃ rule ∈ rules.entries, rule.reason (metrics rule.metric) = some reason := by
  rw [applyGates_reasons, List.mem_filterMap]

theorem severity_applyGatesLoop (rules : List GateRule) (verdict : Verdict)
    (reasons : List GateReason) :
    (applyGatesLoop metrics rules verdict reasons).1.severity =
      (rules.map fun rule => (rule.metricVerdict (metrics rule.metric)).severity).foldl max
        verdict.severity := by
  induction rules generalizing verdict reasons with
  | nil => rfl
  | cons rule rules induction =>
      rw [applyGatesLoop, induction, Verdict.severity_combine]
      rfl

theorem applyGates_severity_le {rules : GateRules}
    (each : ∀ rule ∈ rules.entries,
      (rule.metricVerdict (metrics rule.metric)).severity ≤
        (rule.metricVerdict (others rule.metric)).severity) :
    (applyGates metrics rules).1.severity ≤ (applyGates others rules).1.severity := by
  rw [applyGates, applyGates, severity_applyGatesLoop, severity_applyGatesLoop]
  have related : List.Forall₂ (· ≤ ·)
      (rules.entries.map fun rule => (rule.metricVerdict (metrics rule.metric)).severity)
      (rules.entries.map fun rule => (rule.metricVerdict (others rule.metric)).severity) :=
    forall₂_map_of_forall each
  refine List.rel_foldl ?_ le_rfl related
  intro _ _ start _ _ next
  exact max_le_max start next

/-- The comparison is at least as severe as each of its metrics. -/
theorem severity_le_applyGates {rules : GateRules} {rule : GateRule}
    (member : rule ∈ rules.entries) :
    (rule.metricVerdict (metrics rule.metric)).severity ≤ (applyGates metrics rules).1.severity := by
  have reached : ∀ (severities : List Nat) (start : Nat), start ≤ severities.foldl max start ∧
      ∀ severity ∈ severities, severity ≤ severities.foldl max start := by
    intro severities
    induction severities with
    | nil => exact fun start => ⟨le_rfl, by simp⟩
    | cons first severities induction =>
        intro start
        rcases induction (max start first) with ⟨fromStart, fromRest⟩
        refine ⟨(le_max_left _ _).trans fromStart, ?_⟩
        intro severity severityMember
        rcases List.mem_cons.mp severityMember with rfl | severityMember
        · exact (le_max_right _ _).trans fromStart
        · exact fromRest severity severityMember
  rw [applyGates, severity_applyGatesLoop]
  exact (reached _ _).2 _ (List.mem_map_of_mem member)

/-- One failing metric fails the comparison. -/
theorem applyGates_eq_fail {rules : GateRules} {rule : GateRule}
    (member : rule ∈ rules.entries)
    (fails : rule.metricVerdict (metrics rule.metric) = .fail) :
    (applyGates metrics rules).1 = .fail := by
  have severe : Verdict.severity .fail ≤ (applyGates metrics rules).1.severity :=
    fails ▸ severity_le_applyGates member
  cases verdict : (applyGates metrics rules).1 with
  | fail => rfl
  | pass | warn => simp [verdict, Verdict.severity] at severe

theorem applyGates_eq_pass {rules : GateRules}
    (each : ∀ rule ∈ rules.entries, rule.metricVerdict (metrics rule.metric) = .pass) :
    applyGates metrics rules = (.pass, []) := by
  have reached : ∀ entries : List GateRule,
      (∀ rule ∈ entries, rule.metricVerdict (metrics rule.metric) = .pass) →
      applyGatesLoop metrics entries .pass [] = (.pass, []) := by
    intro entries
    induction entries with
    | nil => exact fun _ => rfl
    | cons rule entries induction =>
        intro each
        have first := each rule List.mem_cons_self
        rw [applyGatesLoop, GateRule.reason, first]
        exact induction fun other member => each other (List.mem_cons_of_mem _ member)
  exact reached rules.entries each

theorem applyGates_only (metrics : Metric → MetricReport) (rule : GateRule) :
    (applyGates metrics (.only rule)).1 = rule.metricVerdict (metrics rule.metric) := by
  simp only [applyGates, GateRules.only, applyGatesLoop]
  cases rule.metricVerdict (metrics rule.metric) <;> rfl

theorem GateRules.rule_eq (rules : GateRules) {left right : GateRule}
    (leftMember : left ∈ rules.entries) (rightMember : right ∈ rules.entries)
    (same : left.metric = right.metric) : left = right :=
  List.inj_on_of_nodup_map rules.nodup leftMember rightMember same

theorem reason_of_mem {rules : GateRules} {rule : GateRule} {reason : GateReason}
    (member : rule ∈ rules.entries) (reported : reason ∈ (applyGates metrics rules).2)
    (sameMetric : reason.metric = rule.metric) :
    rule.reason (metrics rule.metric) = some reason := by
  rcases mem_reasons_iff.mp reported with ⟨other, otherMember, otherReported⟩
  have named : other.metric = reason.metric := by
    rcases GateRule.reason_eq_some_iff.mp otherReported with ⟨_, rfl⟩
    rfl
  cases rules.rule_eq otherMember member (named.trans sameMetric)
  exact otherReported

end Gates

end EvalForge
