import EvalForge.Services.Resamples

/-! # Mirrored samples

Samples reflected at a constant turn a metric that should rise into one that
should fall. The two bounds of the interval are not equally far from the ends of
the sorted estimates, so the gate on reflected samples can decide otherwise.
-/

namespace EvalForge

open Foundation

/-! ## Reflected samples -/

/-- `[offset - value for value in values]`. -/
def reflect (offset : Rat) (values : List Rat) : List Rat :=
  values.map (offset - ·)

@[simp] theorem length_reflect (offset : Rat) (values : List Rat) :
    (reflect offset values).length = values.length :=
  List.length_map _

theorem sum_reflect (offset : Rat) (values : List Rat) :
    (reflect offset values).sum = values.length * offset - values.sum := by
  induction values with
  | nil => simp [reflect]
  | cons value values induction =>
      simp only [reflect, List.map_cons, List.sum_cons, List.length_cons] at induction ⊢
      rw [induction]
      push_cast
      ring

theorem average_reflect {values : List Rat} (offset : Rat) (nonempty : values ≠ []) :
    average (reflect offset values) = offset - average values := by
  have count : (values.length : Rat) ≠ 0 := by simpa using nonempty
  have mapped : (reflect offset values).isEmpty = false := by simpa [reflect] using nonempty
  have notEmpty : values.isEmpty = false := by simpa using nonempty
  rw [average, average, mapped, notEmpty, sum_reflect, length_reflect]
  simp only [Bool.false_eq_true, if_false]
  field_simp

theorem Draws.resample_reflect (draws : Draws) (offset : Rat) {values : List Rat}
    (nonempty : values ≠ []) (resample : Nat) :
    draws.resample (reflect offset values) values.length resample =
      reflect offset (draws.resample values values.length resample) := by
  unfold Draws.resample
  rw [reflect, reflect, List.map_map]
  apply List.map_congr_left
  intro index member
  rcases List.mem_map.mp member with ⟨position, _, rfl⟩
  have bound := draws.index_lt values.length resample position (List.length_pos_iff.mpr nonempty)
  have mapped : draws.index values.length resample position <
      (values.map (offset - ·)).length := by simpa using bound
  rw [Function.comp_apply, List.getD_eq_getElem _ _ mapped, List.getD_eq_getElem _ _ bound]
  simp

/-! ## Reflected resamples -/

section Resamples

variable (draws : Draws) (tolerance : Rat) {baselineValues candidateValues : List Rat}

theorem resampleDelta_reflect (offset : Rat) (nonempty : baselineValues ≠ [])
    (length : baselineValues.length = candidateValues.length) (resample : Nat) :
    resampleDelta draws average (reflect offset baselineValues) (reflect offset candidateValues)
        resample = -resampleDelta draws average baselineValues candidateValues resample := by
  have candidateNonempty : candidateValues ≠ [] := by
    intro empty
    rw [empty] at length
    exact nonempty (List.length_eq_zero_iff.mp length)
  simp only [resampleDelta, length_reflect, ← length, min_self]
  rw [draws.resample_reflect offset nonempty, length,
    draws.resample_reflect offset candidateNonempty,
    average_reflect offset (draws.resample_ne_nil candidateNonempty resample), ← length,
    average_reflect offset (draws.resample_ne_nil nonempty resample)]
  ring

theorem Direction.regressed_neg (delta : Rat) :
    Direction.lowerBetter.Regressed tolerance (roundTo 6 (-delta)) ↔
      Direction.higherBetter.Regressed tolerance (roundTo 6 delta) := by
  rw [roundTo_neg]
  exact lt_neg

theorem regressedResamples_reflect (offset : Rat) (nonempty : baselineValues ≠ [])
    (length : baselineValues.length = candidateValues.length) :
    regressedResamples draws average .lowerBetter tolerance (reflect offset baselineValues)
        (reflect offset candidateValues) =
      regressedResamples draws average .higherBetter tolerance baselineValues candidateValues := by
  unfold regressedResamples
  apply List.countP_congr
  intro resample _
  rw [resampleDelta_reflect draws offset nonempty length]
  simpa using Direction.regressed_neg tolerance _

end Resamples

/-! ## The verdicts -/

def pairedVerdict (draws : Draws) (rule : GateRule) (baselineValues candidateValues : List Rat) :
    Verdict :=
  (applyGates (buildMetricReport draws (listInput rule.metric baselineValues)
    (listInput rule.metric candidateValues)) (.only rule)).1

section Verdicts

variable (draws : Draws) {rule : GateRule} {baselineValues candidateValues : List Rat}

theorem pairedVerdict_eq (mean : rule.metric.statistic = average)
    (length : baselineValues.length = candidateValues.length) :
    pairedVerdict draws rule baselineValues candidateValues =
      if rule.direction.Regressed rule.tolerance (roundTo 6 (rule.direction.decisiveBound
          (bootstrapDeltaCi draws defaultResamples baselineValues candidateValues average)))
        then .fail
      else if rule.direction.Regressed rule.tolerance (roundTo 6 (rule.direction.worseBound
            (bootstrapDeltaCi draws defaultResamples baselineValues candidateValues average))) ∨
          rule.direction.Regressed rule.tolerance
            (roundTo 6 (average candidateValues - average baselineValues)) then .warn
      else .pass := by
  have member : rule ∈ (GateRules.only rule).entries := List.mem_singleton.mpr rfl
  have verdict := listVerdict_eq draws member length
  rw [listVerdict, reportedVerdict_applyGates member, listInterval, listPoint, mean] at verdict
  rw [pairedVerdict, applyGates_only, verdict]

theorem pairedVerdict_counted (mean : rule.metric.statistic = average)
    (nonempty : baselineValues ≠ []) (length : baselineValues.length = candidateValues.length) :
    pairedVerdict draws rule baselineValues candidateValues =
      let regressed := regressedResamples draws average rule.direction rule.tolerance
        baselineValues candidateValues
      if rule.direction.failingResamples ≤ regressed then .fail
      else if rule.direction.noticedResamples ≤ regressed ∨
          rule.direction.Regressed rule.tolerance
            (roundTo 6 (average candidateValues - average baselineValues)) then .warn
      else .pass := by
  have candidateSome : candidateValues ≠ [] := by
    intro empty
    rw [empty] at length
    exact nonempty (List.length_eq_zero_iff.mp length)
  rw [pairedVerdict_eq draws mean length]
  simp only [regressed_decisiveBound_iff draws average _ _ nonempty candidateSome,
    regressed_worseBound_iff draws average _ _ nonempty candidateSome]

end Verdicts

theorem countVerdicts_eq_iff (count : Nat) (point : Prop) [Decidable point] :
    (if 975 ≤ count then Verdict.fail else if 25 ≤ count ∨ point then .warn else .pass) =
        (if 976 ≤ count then .fail else if 26 ≤ count ∨ point then .warn else .pass) ↔
      count ≠ 975 ∧ (count = 25 → point) := by
  by_cases regressed : point
  · simp only [regressed, or_true, if_true, implies_true, and_true]
    split_ifs <;> simp only [true_iff, false_iff] <;> omega
  · simp only [regressed, or_false, imp_false]
    split_ifs <;> simp only [true_iff, false_iff] <;> omega

/-- The gate decides alike on reflected samples if and only if the regressed
resamples are not exactly 975, and a regressed point covers the case that they
are exactly 25. -/
theorem mirrored_verdict_iff (draws : Draws) (metric : Metric)
    (mean : metric.statistic = average) (tolerance : Rat) (tolerated : 0 ≤ tolerance)
    (offset : Rat) (baselineValues candidateValues : List Rat) (nonempty : baselineValues ≠ [])
    (length : baselineValues.length = candidateValues.length) :
    pairedVerdict draws ⟨metric, .higherBetter, tolerance, tolerated⟩ baselineValues
        candidateValues =
      pairedVerdict draws ⟨metric, .lowerBetter, tolerance, tolerated⟩
        (reflect offset baselineValues) (reflect offset candidateValues) ↔
    regressedResamples draws average .higherBetter tolerance baselineValues candidateValues ≠ 975 ∧
      (regressedResamples draws average .higherBetter tolerance baselineValues candidateValues = 25 →
        Direction.higherBetter.Regressed tolerance
          (roundTo 6 (average candidateValues - average baselineValues))) := by
  have candidateNonempty : candidateValues ≠ [] := by
    intro empty
    rw [empty] at length
    exact nonempty (List.length_eq_zero_iff.mp length)
  have reflectedNonempty : reflect offset baselineValues ≠ [] := by simpa [reflect] using nonempty
  have point : Direction.lowerBetter.Regressed tolerance
        (roundTo 6 (average (reflect offset candidateValues) -
          average (reflect offset baselineValues))) ↔
      Direction.higherBetter.Regressed tolerance
        (roundTo 6 (average candidateValues - average baselineValues)) := by
    rw [← Direction.regressed_neg, average_reflect offset nonempty,
      average_reflect offset candidateNonempty]
    ring_nf
  rw [pairedVerdict_counted draws mean nonempty length,
    pairedVerdict_counted draws mean reflectedNonempty (by simpa using length)]
  simp only [regressedResamples_reflect draws tolerance offset nonempty length, point]
  exact countVerdicts_eq_iff _ _

namespace Scenario

/-- The last 25 resamples draw the second of two samples, the others the first. -/
def lateSecond : Draws where
  index count resample _ := if resample < 975 then 0 else 1 % count
  index_lt count resample _ positive := by
    split
    · exact positive
    · exact Nat.mod_lt _ positive

theorem regressed_neg_one : Direction.higherBetter.Regressed (1 / 2) (roundTo 6 (-1)) := by
  have rounded : roundTo 6 (-1 : Rat) = -1 := by decide +kernel
  rw [rounded]
  norm_num [Direction.Regressed]

theorem resampleDelta_firstIndex (resample : Nat) :
    resampleDelta firstIndex average [1, 1, 0] [0, 1, 0] resample = -1 := by
  simp [resampleDelta, Draws.resample, Draws.indices, firstIndex, average]
  norm_num

theorem regressedResamples_firstIndex :
    regressedResamples firstIndex average .higherBetter (1 / 2) [1, 1, 0] [0, 1, 0] = 1000 := by
  unfold regressedResamples
  simp only [resampleDelta_firstIndex, regressed_neg_one, decide_true, List.countP_true,
    List.length_range]
  rfl

theorem resampleDelta_lateSecond (resample : Nat) :
    resampleDelta lateSecond average [0, 0] [-1, 0] resample = if resample < 975 then -1 else 0 := by
  by_cases early : resample < 975
  · simp [resampleDelta, Draws.resample, Draws.indices, lateSecond, early, average]
  · simp [resampleDelta, Draws.resample, Draws.indices, lateSecond, early, average]

theorem regressedResamples_lateSecond :
    regressedResamples lateSecond average .higherBetter (1 / 2) [0, 0] [-1, 0] = 975 := by
  have regressed : ∀ resample, Direction.higherBetter.Regressed (1 / 2)
      (roundTo 6 (resampleDelta lateSecond average [0, 0] [-1, 0] resample)) ↔ resample < 975 := by
    intro resample
    rw [resampleDelta_lateSecond]
    split
    · next early => simpa [early] using regressed_neg_one
    · next late => simp [late, Direction.Regressed]
  unfold regressedResamples
  simp only [regressed]
  decide +kernel

end Scenario

theorem mirrored_verdict_iff_scenario :
    pairedVerdict Scenario.firstIndex ⟨.passRate, .higherBetter, 1 / 2, by norm_num⟩ [1, 1, 0]
        [0, 1, 0] =
      pairedVerdict Scenario.firstIndex ⟨.passRate, .lowerBetter, 1 / 2, by norm_num⟩
        (reflect 1 [1, 1, 0]) (reflect 1 [0, 1, 0]) := by
  apply (mirrored_verdict_iff Scenario.firstIndex .passRate rfl (1 / 2) (by norm_num) 1 [1, 1, 0]
    [0, 1, 0] (by simp) rfl).mpr
  rw [Scenario.regressedResamples_firstIndex]
  exact ⟨by decide, fun few => absurd few (by decide)⟩

/-- With 975 regressed resamples, the metric that should rise fails, and its
mirror image only warns. -/
theorem mirrored_verdict_differs :
    ¬∀ (draws : Draws) (metric : Metric), metric.statistic = average →
      ∀ (tolerance : Rat) (tolerated : 0 ≤ tolerance) (offset : Rat)
        (baselineValues candidateValues : List Rat), baselineValues ≠ [] →
      baselineValues.length = candidateValues.length →
      pairedVerdict draws ⟨metric, .higherBetter, tolerance, tolerated⟩ baselineValues
          candidateValues =
        pairedVerdict draws ⟨metric, .lowerBetter, tolerance, tolerated⟩
          (reflect offset baselineValues) (reflect offset candidateValues) := by
  intro same
  have equal := same Scenario.lateSecond .passRate rfl (1 / 2) (by norm_num) 0 [0, 0] [-1, 0]
    (by simp) rfl
  rw [pairedVerdict_counted Scenario.lateSecond rfl (by simp) (by rfl),
    pairedVerdict_counted Scenario.lateSecond rfl (by simp [reflect]) (by rfl)] at equal
  have mirrored : regressedResamples Scenario.lateSecond average .lowerBetter (1 / 2)
      (reflect 0 [0, 0]) (reflect 0 [-1, 0]) = 975 := by
    rw [regressedResamples_reflect Scenario.lateSecond (1 / 2) 0 (by simp) (by rfl)]
    exact Scenario.regressedResamples_lateSecond
  simp only [mirrored, Scenario.regressedResamples_lateSecond, Direction.failingResamples,
    Direction.noticedResamples] at equal
  simp at equal

end EvalForge
