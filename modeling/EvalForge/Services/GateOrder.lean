import EvalForge.Services.GateLaws

/-! # The verdict as a maximum

The overall verdict is the most severe one of the metrics. So the order of the
rules does not matter, and neither a worse metric, a lower tolerance nor a
further rule makes it less severe.
-/

namespace EvalForge

/-- Every difference of a report is as bad or worse in the other report. -/
def Direction.Worsened (direction : Direction) (report worse : MetricReport) : Prop :=
  match direction with
  | .higherBetter =>
      worse.deltaCiLower ≤ report.deltaCiLower ∧ worse.deltaCiUpper ≤ report.deltaCiUpper ∧
        worse.deltaPoint ≤ report.deltaPoint
  | .lowerBetter =>
      report.deltaCiLower ≤ worse.deltaCiLower ∧ report.deltaCiUpper ≤ worse.deltaCiUpper ∧
        report.deltaPoint ≤ worse.deltaPoint

structure GateRule.Lowered (rule lowered : GateRule) : Prop where
  metric : lowered.metric = rule.metric
  direction : lowered.direction = rule.direction
  tolerance : lowered.tolerance ≤ rule.tolerance

def GateRule.entry (rule : GateRule) (report : MetricReport) : GateReason where
  metric := rule.metric
  verdict := rule.metricVerdict report
  tolerance := rule.tolerance
  deltaPoint := report.deltaPoint

/-- The verdict and the reasons are those of the metrics: the most severe one,
and an entry for every metric that does not pass, in the order of the rules. -/
structure SummarizesMetrics (metrics : Metric → MetricReport) (rules : GateRules) : Prop where
  reasons : (applyGates metrics rules).2 =
    (rules.entries.filter fun rule => rule.metricVerdict (metrics rule.metric) ≠ .pass).map
      fun rule => rule.entry (metrics rule.metric)
  onePerMetric : ((applyGates metrics rules).2.map (·.metric)).Nodup
  attained : ∃ rule ∈ rules.entries,
    rule.metricVerdict (metrics rule.metric) = (applyGates metrics rules).1
  greatest : ∀ rule ∈ rules.entries,
    (rule.metricVerdict (metrics rule.metric)).severity ≤ (applyGates metrics rules).1.severity

section

variable {metrics others : Metric → MetricReport} {rules more : GateRules}

/-! ## The maximum -/

theorem reasons_eq_map_filter (metrics : Metric → MetricReport) (entries : List GateRule) :
    (entries.filterMap fun rule => rule.reason (metrics rule.metric)) =
      (entries.filter fun rule => rule.metricVerdict (metrics rule.metric) ≠ .pass).map
        fun rule => rule.entry (metrics rule.metric) := by
  induction entries with
  | nil => rfl
  | cons rule entries induction =>
      by_cases passes : rule.metricVerdict (metrics rule.metric) = .pass
      · have silent : rule.reason (metrics rule.metric) = none := if_pos passes
        rw [List.filterMap_cons, silent, List.filter_cons_of_neg (by simp [passes])]
        exact induction
      · have reported : rule.reason (metrics rule.metric) =
            some (rule.entry (metrics rule.metric)) := if_neg passes
        rw [List.filterMap_cons, reported, List.filter_cons_of_pos (by simp [passes]),
          List.map_cons]
        exact congrArg _ induction

theorem applyGatesLoop_verdict_mem (metrics : Metric → MetricReport) (entries : List GateRule)
    (verdict : Verdict) (reasons : List GateReason) :
    (applyGatesLoop metrics entries verdict reasons).1 = verdict ∨
      ∃ rule ∈ entries, rule.metricVerdict (metrics rule.metric) =
        (applyGatesLoop metrics entries verdict reasons).1 := by
  induction entries generalizing verdict reasons with
  | nil => exact .inl rfl
  | cons rule entries induction =>
      have combined : verdict.combine (rule.metricVerdict (metrics rule.metric)) = verdict ∨
          verdict.combine (rule.metricVerdict (metrics rule.metric)) =
            rule.metricVerdict (metrics rule.metric) := by
        cases verdict <;> cases rule.metricVerdict (metrics rule.metric) <;> simp [Verdict.combine]
      rw [applyGatesLoop]
      rcases induction (verdict.combine (rule.metricVerdict (metrics rule.metric)))
        (reasons ++ (rule.reason (metrics rule.metric)).toList) with same | ⟨other, member, equal⟩
      · rcases combined with kept | taken
        · exact .inl (same.trans kept)
        · exact .inr ⟨rule, List.mem_cons_self, (same.trans taken).symm⟩
      · exact .inr ⟨other, List.mem_cons_of_mem _ member, equal⟩

theorem applyGates_verdict_mem (metrics : Metric → MetricReport) (rules : GateRules) :
    ∃ rule ∈ rules.entries,
      rule.metricVerdict (metrics rule.metric) = (applyGates metrics rules).1 := by
  rcases applyGatesLoop_verdict_mem metrics rules.entries .pass [] with passes | attained
  · -- Then the metric of any rule passes too.
    rcases List.exists_mem_of_ne_nil _ rules.nonempty with ⟨rule, member⟩
    have below : (rule.metricVerdict (metrics rule.metric)).severity ≤
        (applyGates metrics rules).1.severity := severity_le_applyGates member
    have overall : (applyGates metrics rules).1 = .pass := passes
    rw [overall] at below ⊢
    exact ⟨rule, member, Verdict.severity_injective (Nat.le_zero.mp below)⟩
  · exact attained

theorem summarizesMetrics (metrics : Metric → MetricReport) (rules : GateRules) :
    SummarizesMetrics metrics rules where
  reasons := (applyGates_reasons metrics rules).trans (reasons_eq_map_filter metrics _)
  onePerMetric := by
    rw [applyGates_reasons, reasons_eq_map_filter, List.map_map]
    exact (List.filter_sublist.map _).nodup rules.nodup
  attained := applyGates_verdict_mem metrics rules
  greatest _ member := severity_le_applyGates member

/-! ## Order and monotonicity -/

/-- If every rule has one that is no less severe on the other side, the verdict
is no less severe there. -/
theorem applyGates_severity_le_of_covered
    (covered : ∀ rule ∈ rules.entries, ∃ other ∈ more.entries,
      (rule.metricVerdict (metrics rule.metric)).severity ≤
        (other.metricVerdict (others other.metric)).severity) :
    (applyGates metrics rules).1.severity ≤ (applyGates others more).1.severity := by
  rcases applyGates_verdict_mem metrics rules with ⟨rule, member, attained⟩
  rcases covered rule member with ⟨other, otherMember, below⟩
  rw [← attained]
  exact below.trans (severity_le_applyGates otherMember)

/-- Further rules never lower the verdict. -/
theorem applyGates_severity_le_of_subset (subset : rules.entries ⊆ more.entries) :
    (applyGates metrics rules).1.severity ≤ (applyGates metrics more).1.severity :=
  applyGates_severity_le_of_covered fun rule member => ⟨rule, subset member, le_rfl⟩

theorem applyGates_perm (permuted : rules.entries.Perm more.entries) :
    (applyGates metrics rules).1 = (applyGates metrics more).1 ∧
      (applyGates metrics rules).2.Perm (applyGates metrics more).2 := by
  constructor
  · apply Verdict.severity_injective
    apply le_antisymm
    · exact applyGates_severity_le_of_subset permuted.subset
    · exact applyGates_severity_le_of_subset permuted.symm.subset
  · rw [applyGates_reasons, applyGates_reasons]
    exact permuted.filterMap _

theorem GateRule.severity_le_of_worsened {rule : GateRule} {report worse : MetricReport}
    (worsened : rule.direction.Worsened report worse) :
    (rule.metricVerdict report).severity ≤ (rule.metricVerdict worse).severity := by
  cases direction : rule.direction with
  | higherBetter =>
      rw [direction] at worsened
      rcases worsened with ⟨lower, upper, point⟩
      apply GateRule.severity_le
      · simpa only [GateRule.normalizedUpper, direction] using upper
      · simpa only [GateRule.normalizedLower, direction] using lower
      · simpa only [GateRule.normalizedPoint, direction] using point
  | lowerBetter =>
      rw [direction] at worsened
      rcases worsened with ⟨lower, upper, point⟩
      apply GateRule.severity_le
      · simpa only [GateRule.normalizedUpper, direction, neg_le_neg_iff] using lower
      · simpa only [GateRule.normalizedLower, direction, neg_le_neg_iff] using upper
      · simpa only [GateRule.normalizedPoint, direction, neg_le_neg_iff] using point

theorem GateRule.Lowered.severity_le {rule lowered : GateRule} (lower : rule.Lowered lowered)
    (report : MetricReport) :
    (rule.metricVerdict report).severity ≤ (lowered.metricVerdict report).severity := by
  have upper : lowered.normalizedUpper report = rule.normalizedUpper report := by
    rw [GateRule.normalizedUpper, GateRule.normalizedUpper, lower.direction]
  have below : lowered.normalizedLower report = rule.normalizedLower report := by
    rw [GateRule.normalizedLower, GateRule.normalizedLower, lower.direction]
  have point : lowered.normalizedPoint report = rule.normalizedPoint report := by
    rw [GateRule.normalizedPoint, GateRule.normalizedPoint, lower.direction]
  have missed {value : Rat} (less : value < -rule.tolerance) : value < -lowered.tolerance :=
    less.trans_le (neg_le_neg lower.tolerance)
  unfold GateRule.metricVerdict
  rw [upper, below, point]
  by_cases fails : rule.normalizedUpper report < -rule.tolerance
  · rw [if_pos fails, if_pos (missed fails)]
  · rw [if_neg fails]
    by_cases warns : rule.normalizedLower report < -rule.tolerance ∨
        rule.normalizedPoint report < -rule.tolerance
    · rw [if_pos warns, if_pos (warns.imp missed missed)]
      split <;> decide
    · rw [if_neg warns]
      exact Nat.zero_le _

end

/-- The gates are an order-independent, monotone maximum. -/
theorem gates_are_monotone_maximum (metrics : Metric → MetricReport) (rules : GateRules) :
    SummarizesMetrics metrics rules ∧
      (∀ permuted : GateRules, rules.entries.Perm permuted.entries →
        (applyGates metrics permuted).1 = (applyGates metrics rules).1 ∧
          (applyGates metrics permuted).2.Perm (applyGates metrics rules).2) ∧
      (∀ worse : Metric → MetricReport,
        (∀ rule ∈ rules.entries,
          rule.direction.Worsened (metrics rule.metric) (worse rule.metric)) →
        (applyGates metrics rules).1.severity ≤ (applyGates worse rules).1.severity) ∧
      (∀ lowered : GateRules, List.Forall₂ GateRule.Lowered rules.entries lowered.entries →
        (applyGates metrics rules).1.severity ≤ (applyGates metrics lowered).1.severity) ∧
      ∀ more : GateRules, rules.entries ⊆ more.entries →
        (applyGates metrics rules).1.severity ≤ (applyGates metrics more).1.severity := by
  refine ⟨summarizesMetrics metrics rules, ?_, ?_, ?_, ?_⟩
  · intro permuted same
    have gates := @applyGates_perm metrics _ _ same
    exact ⟨gates.1.symm, gates.2.symm⟩
  · intro worse worsened
    exact applyGates_severity_le fun rule member =>
      GateRule.severity_le_of_worsened (worsened rule member)
  · intro lowered each
    apply applyGates_severity_le_of_covered
    intro rule member
    rcases Foundation.forall₂_exists_left (List.Forall₂.flip each) rule member with
      ⟨other, otherMember, lower⟩
    refine ⟨other, otherMember, ?_⟩
    rw [lower.metric]
    exact lower.severity_le _
  · exact fun more subset => applyGates_severity_le_of_subset subset

namespace Scenario

def movedReport (delta : Rat) : MetricReport where
  baselinePoint := 0
  baselineCiLower := 0
  baselineCiUpper := 0
  candidatePoint := delta
  candidateCiLower := delta
  candidateCiUpper := delta
  deltaPoint := delta
  deltaCiLower := delta
  deltaCiUpper := delta
  baselineSampleCount := 1
  candidateSampleCount := 1
  pairedSampleCount := 1

def slowerMetrics (latencyMs : Rat) : Metric → MetricReport
  | .p95LatencyMs => movedReport latencyMs
  | _ => movedReport 0

def latencyToleranceRules (tolerance : Rat) (nonneg : 0 ≤ tolerance) : GateRules :=
  .only ⟨.p95LatencyMs, .lowerBetter, tolerance, nonneg⟩

theorem tolerance_nonneg : (0 : Rat) ≤ 50 := by norm_num

def reversedRules : GateRules where
  entries := defaultGateRules.entries.reverse
  nonempty := by simp [defaultGateRules]
  nodup := by decide

end Scenario

/-- A rule set in reverse order, a slower candidate, no tolerance and further rules. -/
theorem gates_are_monotone_maximum_scenario :
    (applyGates (Scenario.slowerMetrics 60) Scenario.reversedRules).1 =
        (applyGates (Scenario.slowerMetrics 60) defaultGateRules).1 ∧
      (applyGates (Scenario.slowerMetrics 60) defaultGateRules).1.severity ≤
        (applyGates (Scenario.slowerMetrics 70) defaultGateRules).1.severity ∧
      (applyGates (Scenario.slowerMetrics 60)
          (Scenario.latencyToleranceRules 50 Scenario.tolerance_nonneg)).1.severity ≤
        (applyGates (Scenario.slowerMetrics 60)
          (Scenario.latencyToleranceRules 0 le_rfl)).1.severity ∧
      (applyGates (Scenario.slowerMetrics 60)
          (Scenario.latencyToleranceRules 50 Scenario.tolerance_nonneg)).1.severity ≤
        (applyGates (Scenario.slowerMetrics 60) defaultGateRules).1.severity := by
  rcases gates_are_monotone_maximum (Scenario.slowerMetrics 60) defaultGateRules with
    ⟨_, permuted, worse, _, _⟩
  rcases gates_are_monotone_maximum (Scenario.slowerMetrics 60)
    (Scenario.latencyToleranceRules 50 Scenario.tolerance_nonneg) with ⟨_, _, _, lowered, more⟩
  refine ⟨(permuted _ (List.reverse_perm _).symm).1, worse _ ?_, lowered _ ?_, more _ ?_⟩
  · intro rule member
    simp only [defaultGateRules, List.mem_cons, List.not_mem_nil, or_false] at member
    rcases member with rfl | rfl | rfl | rfl <;>
      norm_num [Direction.Worsened, Scenario.slowerMetrics, Scenario.movedReport]
  · exact .cons ⟨rfl, rfl, by norm_num⟩ .nil
  · intro rule member
    rw [List.mem_singleton.mp member]
    simp [defaultGateRules]

end EvalForge
