import EvalForge.Services.GateLaws

/-! # Execution failures and the gates

An execution failure counts as a failed case of the pass rate, and takes the
case out of the other samples. The gate is monotone in the samples, so such a
failure is never rewarded by a rule whose samples it does not shrink.
-/

namespace EvalForge

open Foundation

def ItemRecord.executionFailure (item : ItemRecord) : ItemRecord where
  row := { item.row with
    status := .errored
    recordedLatencyMs := none
    recordedCostUsd := none
    latencyHeld := Column.holdsInteger_of_none
    costHeld := Column.isNumeric_of_none }
  traces := []
  results := []

/-- The rule expects a high pass rate, or the failure does not change the item's
sample of its metric. -/
def GateRule.CountsFailure (rule : GateRule) (item : ItemRecord) : Prop :=
  (rule.metric = .passRate ∧ rule.direction = .higherBetter) ∨
    itemSample rule.metric item = itemSample rule.metric item.executionFailure

structure CaseSamples.Below (lower upper : CaseSamples) : Prop where
  caseIds : lower.caseIds = upper.caseIds
  sample_le : ∀ caseId, lower.sample caseId ≤ upper.sample caseId

structure SampleBelow (metric : Metric) (lower upper : ItemRecord) : Prop where
  caseId : lower.row.caseId = upper.row.caseId
  sample : Option.Rel (· ≤ ·) (itemSample metric lower) (itemSample metric upper)

section Monotone

variable {metric : Metric} {lower upper : MetricSamples}

theorem CaseSamples.Below.refl (samples : CaseSamples) : samples.Below samples :=
  ⟨rfl, fun _ => le_rfl⟩

theorem CaseSamples.Below.insert {lower upper : CaseSamples} (below : lower.Below upper)
    (caseId : String) {lowerValue upperValue : Rat} (values : lowerValue ≤ upperValue) :
    (lower.insert caseId lowerValue).Below (upper.insert caseId upperValue) := by
  constructor
  · simp [CaseSamples.insert, below.caseIds]
  · intro other
    simp only [CaseSamples.insert]
    split
    · exact values
    · exact below.sample_le other

theorem SampleBelow.of_eq {item other : ItemRecord} (caseId : item.row.caseId = other.row.caseId)
    (same : itemSample metric item = itemSample metric other) : SampleBelow metric item other := by
  refine ⟨caseId, ?_⟩
  rw [same]
  cases itemSample metric other with
  | none => exact .none
  | some value => exact .some le_rfl

theorem caseSamples_below (below : Option.Rel CaseSamples.Below (lower metric) (upper metric)) :
    (caseSamples lower metric).Below (caseSamples upper metric) := by
  unfold caseSamples
  generalize lower metric = lowerSamples at below ⊢
  generalize upper metric = upperSamples at below ⊢
  cases below with
  | none => exact .refl _
  | some below => exact below

theorem collectItem_below {lowerItem upperItem : ItemRecord}
    (items : SampleBelow metric lowerItem upperItem)
    (below : Option.Rel CaseSamples.Below (lower metric) (upper metric)) :
    Option.Rel CaseSamples.Below (collectItem lower lowerItem metric)
      (collectItem upper upperItem metric) := by
  have sample := items.sample
  rw [collectItem_apply, collectItem_apply, items.caseId]
  generalize itemSample metric lowerItem = lowerSample at sample ⊢
  generalize itemSample metric upperItem = upperSample at sample ⊢
  cases sample with
  | none => exact below
  | some values => exact .some ((caseSamples_below below).insert _ values)

theorem collectRunMetricSamples_below {lowers uppers : List ItemRecord}
    (related : List.Forall₂ (SampleBelow metric) lowers uppers) :
    (caseSamples (collectRunMetricSamples lowers) metric).Below
      (caseSamples (collectRunMetricSamples uppers) metric) := by
  have folded : ∀ {lowers uppers : List ItemRecord},
      List.Forall₂ (SampleBelow metric) lowers uppers → ∀ {lower upper : MetricSamples},
      Option.Rel CaseSamples.Below (lower metric) (upper metric) →
      Option.Rel CaseSamples.Below (lowers.foldl collectItem lower metric)
        (uppers.foldl collectItem upper metric) := by
    intro lowers uppers related
    induction related with
    | nil => exact fun start => start
    | cons items _ induction => exact fun start => induction (collectItem_below items start)
  apply caseSamples_below
  apply folded
  · exact forall₂_insertionSort_of_key (fun _ _ below => below.caseId) related
  · exact .none

variable {draws : Draws} {baseline : MetricSamples} {rule : GateRule}

theorem report_le (draws : Draws) (baseline : MetricSamples)
    (below : (caseSamples lower metric).Below (caseSamples upper metric)) :
    (buildMetricReport draws (sampleInput baseline) (sampleInput lower) metric).deltaPoint ≤
        (buildMetricReport draws (sampleInput baseline) (sampleInput upper) metric).deltaPoint ∧
      (buildMetricReport draws (sampleInput baseline) (sampleInput lower) metric).deltaCiLower ≤
        (buildMetricReport draws (sampleInput baseline) (sampleInput upper) metric).deltaCiLower ∧
      (buildMetricReport draws (sampleInput baseline) (sampleInput lower) metric).deltaCiUpper ≤
        (buildMetricReport draws (sampleInput baseline) (sampleInput upper) metric).deltaCiUpper := by
  have sameShared : sharedCaseIds baseline lower metric = sharedCaseIds baseline upper metric := by
    rw [sharedCaseIds, sharedCaseIds, below.caseIds]
  have values : List.Forall₂ (· ≤ ·) (caseSamples lower metric).values
      (caseSamples upper metric).values := by
    rw [CaseSamples.values, CaseSamples.values, below.caseIds]
    exact CaseSamples.forall₂_valuesAt fun caseId _ => below.sample_le caseId
  have interval : (deltaCi draws baseline lower metric).1 ≤ (deltaCi draws baseline upper metric).1 ∧
      (deltaCi draws baseline lower metric).2 ≤ (deltaCi draws baseline upper metric).2 := by
    rw [deltaCi, deltaCi, sameShared]
    apply bootstrapDeltaCi_le
    exact CaseSamples.forall₂_valuesAt fun caseId _ => below.sample_le caseId
  refine ⟨?_, ?_, ?_⟩
  · rw [deltaPoint_eq, deltaPoint_eq]
    exact roundTo_monotone (sub_le_sub_right (metric.location.monotone values) _)
  · rw [deltaCiLower_eq, deltaCiLower_eq]
    exact roundTo_monotone interval.1
  · rw [deltaCiUpper_eq, deltaCiUpper_eq]
    exact roundTo_monotone interval.2

theorem severity_le_of_higherBetter (direction : rule.direction = .higherBetter)
    (below : (caseSamples lower rule.metric).Below (caseSamples upper rule.metric)) :
    (rule.metricVerdict (buildMetricReport draws (sampleInput baseline) (sampleInput upper)
        rule.metric)).severity ≤
      (rule.metricVerdict (buildMetricReport draws (sampleInput baseline) (sampleInput lower)
        rule.metric)).severity := by
  rcases report_le draws baseline below with ⟨point, ciLower, ciUpper⟩
  apply GateRule.severity_le
  · simpa only [GateRule.normalizedUpper, direction] using ciUpper
  · simpa only [GateRule.normalizedLower, direction] using ciLower
  · simpa only [GateRule.normalizedPoint, direction] using point

theorem severity_le_of_lowerBetter (direction : rule.direction = .lowerBetter)
    (below : (caseSamples lower rule.metric).Below (caseSamples upper rule.metric)) :
    (rule.metricVerdict (buildMetricReport draws (sampleInput baseline) (sampleInput lower)
        rule.metric)).severity ≤
      (rule.metricVerdict (buildMetricReport draws (sampleInput baseline) (sampleInput upper)
        rule.metric)).severity := by
  rcases report_le draws baseline below with ⟨point, ciLower, ciUpper⟩
  apply GateRule.severity_le
  · simpa only [GateRule.normalizedUpper, direction, neg_le_neg_iff] using ciLower
  · simpa only [GateRule.normalizedLower, direction, neg_le_neg_iff] using ciUpper
  · simpa only [GateRule.normalizedPoint, direction, neg_le_neg_iff] using point

end Monotone

/-! ## One failed item -/

section Failure

variable {before after : List ItemRecord} {item : ItemRecord} {rule : GateRule}

theorem forall₂_replace {metric : Metric} {replacement : ItemRecord}
    (related : SampleBelow metric replacement item) :
    List.Forall₂ (SampleBelow metric) (before ++ replacement :: after) (before ++ item :: after) := by
  have same : ∀ items : List ItemRecord, List.Forall₂ (SampleBelow metric) items items :=
    fun items => List.forall₂_same.mpr fun _ _ => SampleBelow.of_eq rfl rfl
  exact List.rel_append (same before) (.cons related (same after))

theorem passRate_executionFailure (item : ItemRecord) :
    SampleBelow .passRate item.executionFailure item := by
  refine ⟨rfl, .some ?_⟩
  have failed : item.executionFailure.casePassed = false := rfl
  rw [failed]
  cases item.casePassed <;> norm_num

theorem GateRule.CountsFailure.severity_le (counts : rule.CountsFailure item) (draws : Draws)
    (baseline before after : List ItemRecord) :
    (rule.metricVerdict (buildMetricReport draws
        (sampleInput (collectRunMetricSamples baseline))
        (sampleInput (collectRunMetricSamples (before ++ item :: after))) rule.metric)).severity ≤
      (rule.metricVerdict (buildMetricReport draws
        (sampleInput (collectRunMetricSamples baseline))
        (sampleInput (collectRunMetricSamples (before ++ item.executionFailure :: after)))
        rule.metric)).severity := by
  rcases counts with ⟨passRate, higher⟩ | same
  · apply severity_le_of_higherBetter higher
    apply collectRunMetricSamples_below
    apply forall₂_replace
    rw [passRate]
    exact passRate_executionFailure item
  · cases direction : rule.direction with
    | higherBetter =>
        apply severity_le_of_higherBetter direction
        apply collectRunMetricSamples_below
        exact forall₂_replace (.of_eq rfl same.symm)
    | lowerBetter =>
        apply severity_le_of_lowerBetter direction
        apply collectRunMetricSamples_below
        exact forall₂_replace (.of_eq rfl same)

end Failure

/-! ## Failures are never rewarded by the rules that count them -/

/-- Each rule that counts the failure of an item keeps its severity, and with it
the comparison; if all rules do, the verdict is not lowered. -/
theorem faults_keep_severity (draws : Draws) (baseline before after : List ItemRecord)
    (item : ItemRecord) (rules : GateRules) :
    let report := buildMetricReport draws (sampleInput (collectRunMetricSamples baseline))
      (sampleInput (collectRunMetricSamples (before ++ item :: after)))
    let faulted := buildMetricReport draws (sampleInput (collectRunMetricSamples baseline))
      (sampleInput (collectRunMetricSamples (before ++ item.executionFailure :: after)))
    (∀ rule ∈ rules.entries, rule.CountsFailure item →
      (rule.metricVerdict (report rule.metric)).severity ≤
          (rule.metricVerdict (faulted rule.metric)).severity ∧
        (rule.metricVerdict (report rule.metric)).severity ≤
          (applyGates faulted rules).1.severity) ∧
      ((∀ rule ∈ rules.entries, rule.CountsFailure item) →
        (applyGates report rules).1.severity ≤ (applyGates faulted rules).1.severity) := by
  intro report faulted
  constructor
  · intro rule member counts
    have each := counts.severity_le draws baseline before after
    exact ⟨each, each.trans (severity_le_applyGates member)⟩
  · intro counts
    apply applyGates_severity_le
    exact fun rule member => (counts rule member).severity_le draws baseline before after

namespace Scenario

theorem exactMatch_held : Column.HoldsString 120 "exact_match" := by decide +kernel

def latencyItem (caseId : String) (latencyMs : Int)
    (held : Column.HoldsInteger latencyMs := by decide) : ItemRecord where
  row := {
    id := "item-1"
    runId := "run-1"
    caseId
    status := .completed
    recordedLatencyMs := some latencyMs
    recordedCostUsd := some 0
    latencyHeld := by simpa using held }
  traces := [{ payload := .dict [], writtenBy := 0 }]
  results := [{
    evaluatorName := "exact_match"
    score := some 1
    passed := some true
    writtenBy := 0
    nameHeld := exactMatch_held }]

section Latency

variable {latencyMs candidateMs : Int}

theorem sample_latencyItem (held : Column.HoldsInteger latencyMs) :
    (caseSamples (collectRunMetricSamples [latencyItem "case-1" latencyMs held])
      .p95LatencyMs).sample "case-1" = latencyMs := rfl

theorem sharedCaseIds_latencyItem (held : Column.HoldsInteger latencyMs)
    (candidateHeld : Column.HoldsInteger candidateMs) :
    sharedCaseIds (collectRunMetricSamples [latencyItem "case-1" latencyMs held])
      (collectRunMetricSamples [latencyItem "case-1" candidateMs candidateHeld])
      .p95LatencyMs = {"case-1"} := rfl

theorem values_latencyItem (held : Column.HoldsInteger latencyMs) :
    (caseSamples (collectRunMetricSamples [latencyItem "case-1" latencyMs held])
      .p95LatencyMs).values = [(latencyMs : Rat)] := by
  have caseIds : (caseSamples (collectRunMetricSamples [latencyItem "case-1" latencyMs held])
      .p95LatencyMs).caseIds = {"case-1"} := rfl
  rw [CaseSamples.values, CaseSamples.valuesAt, caseIds, Finset.sort_singleton]
  rfl

end Latency

def baselineItems : List ItemRecord :=
  [latencyItem "case-1" 100, latencyItem "case-2" 100, latencyItem "case-3" 100]

def passRateRules : GateRules where
  entries := [⟨.passRate, .higherBetter, 2 / 100, by decide +kernel⟩]
  nonempty := by simp
  nodup := by simp

end Scenario

theorem faults_keep_severity_scenario :
    (applyGates (buildMetricReport Scenario.firstIndex
          (sampleInput (collectRunMetricSamples Scenario.baselineItems))
          (sampleInput (collectRunMetricSamples [Scenario.latencyItem "case-1" 90,
            Scenario.latencyItem "case-2" 1000, Scenario.latencyItem "case-3" 110])))
        Scenario.passRateRules).1.severity ≤
      (applyGates (buildMetricReport Scenario.firstIndex
          (sampleInput (collectRunMetricSamples Scenario.baselineItems))
          (sampleInput (collectRunMetricSamples [Scenario.latencyItem "case-1" 90,
            (Scenario.latencyItem "case-2" 1000).executionFailure,
            Scenario.latencyItem "case-3" 110])))
        Scenario.passRateRules).1.severity := by
  apply (faults_keep_severity Scenario.firstIndex Scenario.baselineItems
    [Scenario.latencyItem "case-1" 90] [Scenario.latencyItem "case-3" 110]
    (Scenario.latencyItem "case-2" 1000) Scenario.passRateRules).2
  intro rule member
  rw [List.mem_singleton.mp member]
  exact .inl ⟨rfl, rfl⟩

namespace Scenario

theorem slowerItem_fails :
    (applyGates (buildMetricReport firstIndex
        (sampleInput (collectRunMetricSamples [latencyItem "case-1" 100]))
        (sampleInput (collectRunMetricSamples [latencyItem "case-1" 1000]))) latencyRules).1 =
      .fail := by
  have shared := @sharedCaseIds_latencyItem 100 1000 (by decide) (by decide)
  have only : ∀ caseId ∈ sharedCaseIds (collectRunMetricSamples [latencyItem "case-1" 100])
      (collectRunMetricSamples [latencyItem "case-1" 1000]) latencyRule.metric, caseId = "case-1" :=
    fun caseId member => Finset.mem_singleton.mp (shared ▸ member)
  apply applyGates_eq_fail (List.mem_singleton.mpr rfl)
  apply metricVerdict_eq_fail_of_regressed
  · exact ⟨"case-1", shared ▸ Finset.mem_singleton_self _⟩
  · intro caseId member
    rw [only caseId member]
    exact ⟨⟨100 * 10 ^ 6, by norm_num [latencyRule, sample_latencyItem]⟩,
      ⟨1000 * 10 ^ 6, by norm_num [latencyRule, sample_latencyItem]⟩⟩
  · intro caseId member
    rw [only caseId member]
    norm_num [latencyRule, sample_latencyItem, Direction.Regressed]

theorem failedItem_passes :
    applyGates (buildMetricReport firstIndex
        (sampleInput (collectRunMetricSamples [latencyItem "case-1" 100]))
        (sampleInput (collectRunMetricSamples [(latencyItem "case-1" 1000).executionFailure])))
      latencyRules = (.pass, []) := by
  have disjoint : sharedCaseIds (collectRunMetricSamples [latencyItem "case-1" 100])
      (collectRunMetricSamples [(latencyItem "case-1" 1000).executionFailure]) .p95LatencyMs = ∅ := rfl
  have caseIds : (caseSamples (collectRunMetricSamples [(latencyItem "case-1" 1000).executionFailure])
      .p95LatencyMs).caseIds = ∅ := rfl
  have noValues : (caseSamples (collectRunMetricSamples [(latencyItem "case-1" 1000).executionFailure])
      .p95LatencyMs).values = [] := by
    rw [CaseSamples.values, caseIds, CaseSamples.valuesAt_empty]
  apply applyGates_eq_pass
  intro rule member
  cases List.mem_singleton.mp member
  apply GateRule.metricVerdict_eq_pass
  · rw [latencyRule, deltaCiLower_eq, deltaCi_of_disjoint disjoint, roundTo_zero]
    exact Direction.improved_zero
  · rw [latencyRule, deltaCiUpper_eq, deltaCi_of_disjoint disjoint, roundTo_zero]
    exact Direction.improved_zero
  · rw [latencyRule, deltaPoint_eq, noValues, values_latencyItem]
    apply roundTo_nonpos
    norm_num [Metric.location, percentileLocation, percentile, sorted]

end Scenario

/-- A verdict is lowered when the item with the regressed latency fails. -/
theorem failure_hides_latency :
    ¬∀ (draws : Draws) (baseline before after : List ItemRecord) (item : ItemRecord)
      (rules : GateRules),
      (∀ caseId, caseId ∈ baseline.map (·.row.caseId) ↔
        caseId ∈ (before ++ item :: after).map (·.row.caseId)) →
      (applyGates (buildMetricReport draws (sampleInput (collectRunMetricSamples baseline))
          (sampleInput (collectRunMetricSamples (before ++ item :: after)))) rules).1.severity ≤
        (applyGates (buildMetricReport draws (sampleInput (collectRunMetricSamples baseline))
          (sampleInput (collectRunMetricSamples (before ++ item.executionFailure :: after))))
          rules).1.severity := by
  intro kept
  have severities := kept Scenario.firstIndex [Scenario.latencyItem "case-1" 100] [] []
    (Scenario.latencyItem "case-1" 1000) Scenario.latencyRules (fun caseId => Iff.rfl)
  simp only [List.nil_append] at severities
  rw [Scenario.slowerItem_fails, Scenario.failedItem_passes] at severities
  cases severities

end EvalForge
