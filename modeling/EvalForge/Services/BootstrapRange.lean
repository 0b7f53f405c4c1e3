import EvalForge.Services.GateLaws

/-! # The range of bootstrap intervals

Every estimate is a statistic of samples drawn from the values, or the
difference of two statistics of samples drawn in pairs. A statistic of location
stays between the extremes of what it is drawn from, and the interval is two
order statistics of the estimates.
-/

namespace EvalForge

open Foundation

/-! ## Report statistics -/

inductive ReportStatistic : (List Rat → Rat) → Prop
  | average : ReportStatistic average
  | percentile {percentileValue : Rat} (nonnegative : 0 ≤ percentileValue)
      (atMostOne : percentileValue ≤ 1) :
      ReportStatistic fun values => percentile values percentileValue

theorem averageLocation_centred : averageLocation.Centred := by
  intro count
  simp [averageLocation, average]

theorem percentileLocation_centred {percentileValue : Rat} (nonnegative : 0 ≤ percentileValue)
    (atMostOne : percentileValue ≤ 1) :
    (percentileLocation percentileValue nonnegative atMostOne).Centred := by
  intro count
  by_cases zero : count = 0
  · subst zero
    rfl
  · have nonempty : List.replicate count (0 : Rat) ≠ [] := by simpa using zero
    have zeros : ∀ index, (sorted (List.replicate count 0)).getD index 0 = 0 := by
      intro index
      have same : sorted (List.replicate count 0) = List.replicate count 0 :=
        List.sortedLE_replicate count |>.pairwise.insertionSort_eq
      rw [same, List.getD_eq_getElem?_getD, List.getElem?_replicate]
      split <;> rfl
    have interpolated := percentile_eq_interpolate nonempty nonnegative
    rw [zeros, zeros] at interpolated
    simpa [percentileLocation, interpolate] using interpolated

theorem ReportStatistic.location {statistic : List Rat → Rat}
    (reported : ReportStatistic statistic) :
    ∃ location : LocationStatistic Rat, location.Centred ∧ location.value = statistic := by
  cases reported with
  | average => exact ⟨averageLocation, averageLocation_centred, rfl⟩
  | percentile nonnegative atMostOne =>
      exact ⟨percentileLocation _ nonnegative atMostOne,
        percentileLocation_centred nonnegative atMostOne, rfl⟩

/-! ## Estimates -/

section Estimates

variable (draws : Draws) (nResamples : Nat) (statistic : List Rat → Rat)

def bootstrapEstimates (values : List Rat) : List Rat :=
  (List.range nResamples).map fun resample =>
    statistic (draws.resample values values.length resample)

def bootstrapDeltaEstimates (baselineValues candidateValues : List Rat) : List Rat :=
  let count := min baselineValues.length candidateValues.length
  (List.range nResamples).map fun resample =>
    statistic (draws.resample candidateValues count resample) -
      statistic (draws.resample baselineValues count resample)

theorem bootstrapCi_eq_intervalBounds {values : List Rat} (enough : 3 ≤ values.length) :
    bootstrapCi draws nResamples values statistic =
      intervalBounds nResamples (bootstrapEstimates draws nResamples statistic values) := by
  rw [bootstrapCi, if_neg (by omega), bootstrapEstimates]

theorem bootstrapDeltaCi_eq_intervalBounds {baselineValues candidateValues : List Rat}
    (baselineSome : baselineValues ≠ []) (candidateSome : candidateValues ≠ []) :
    bootstrapDeltaCi draws nResamples baselineValues candidateValues statistic =
      intervalBounds nResamples
        (bootstrapDeltaEstimates draws nResamples statistic baselineValues candidateValues) := by
  have neither : (baselineValues.isEmpty || candidateValues.isEmpty) = false := by
    simp [baselineSome, candidateSome]
  rw [bootstrapDeltaCi, neither]
  rfl

theorem Draws.resample_mem {values : List Rat} (nonempty : values ≠ []) (resample : Nat) :
    ∀ sample ∈ draws.resample values values.length resample, sample ∈ values := by
  intro sample member
  rcases List.mem_map.mp member with ⟨index, indexMember, rfl⟩
  rcases List.mem_map.mp indexMember with ⟨position, _, rfl⟩
  have bound := draws.index_lt values.length resample position (List.length_pos_iff.mpr nonempty)
  rw [List.getD_eq_getElem _ _ bound]
  exact List.getElem_mem bound

end Estimates

/-! ## Intervals -/

structure WithinRange (values estimates : List Rat) (nResamples : Nat) (interval : Rat × Rat) :
    Prop where
  least : ∃ least, values.min? = some least ∧ least ≤ interval.1
  ordered : interval.1 ≤ interval.2
  greatest : ∃ greatest, values.max? = some greatest ∧ interval.2 ≤ greatest
  lowerIndex : (sorted estimates)[25 * (nResamples - 1) / 1000]? = some interval.1
  upperIndex : (sorted estimates)[975 * (nResamples - 1) / 1000]? = some interval.2

section Range

variable {nResamples : Nat} {values estimates : List Rat}

theorem sorted_getElem?_eq_getD {index : Nat} (bound : index < estimates.length) :
    (sorted estimates)[index]? = some ((sorted estimates).getD index 0) := by
  have inside : index < (sorted estimates).length := by
    simpa [sorted] using bound
  rw [List.getElem?_eq_getElem inside, List.getD_eq_getElem _ _ inside]

theorem intervalBounds_ordered (length : estimates.length = nResamples)
    (positive : 0 < nResamples) :
    (intervalBounds nResamples estimates).1 ≤ (intervalBounds nResamples estimates).2 :=
  getD_insertionSort_mono (by omega) (by omega) 0

theorem intervalBounds_withinRange (length : estimates.length = nResamples)
    (positive : 0 < nResamples) (nonempty : values ≠ [])
    (between : ∀ lower upper, (∀ value ∈ values, lower ≤ value ∧ value ≤ upper) →
      ∀ estimate ∈ estimates, lower ≤ estimate ∧ estimate ≤ upper) :
    WithinRange values estimates nResamples (intervalBounds nResamples estimates) := by
  have least := List.min?_eq_some_min nonempty
  have greatest := List.max?_eq_some_max nonempty
  have extremes : ∀ value ∈ values, values.min nonempty ≤ value ∧ value ≤ values.max nonempty := by
    intro value member
    exact ⟨(List.le_min?_iff least).mp le_rfl value member,
      (List.max?_le_iff greatest).mp le_rfl value member⟩
  have inside := intervalBounds_of_forall length positive (between _ _ extremes)
  exact {
    least := ⟨_, least, inside.1.1⟩
    ordered := intervalBounds_ordered length positive
    greatest := ⟨_, greatest, inside.2.2⟩
    lowerIndex := sorted_getElem?_eq_getD (by omega)
    upperIndex := sorted_getElem?_eq_getD (by omega)
  }

variable {location : LocationStatistic Rat} (draws : Draws)

theorem bootstrapCi_withinRange (centred : location.Centred) (positive : 0 < nResamples)
    (enough : 3 ≤ values.length) :
    WithinRange values (bootstrapEstimates draws nResamples location.value values) nResamples
      (bootstrapCi draws nResamples values location.value) := by
  have nonempty : values ≠ [] := by
    intro empty
    simp [empty] at enough
  rw [bootstrapCi_eq_intervalBounds draws nResamples location.value enough]
  apply intervalBounds_withinRange (by simp [bootstrapEstimates]) positive nonempty
  intro lower upper between estimate member
  rcases List.mem_map.mp member with ⟨resample, _, rfl⟩
  have sampled := draws.resample_ne_nil nonempty resample
  have drawn := draws.resample_mem nonempty resample
  constructor
  · exact centred.le_value sampled fun sample member => (between sample (drawn sample member)).1
  · exact centred.value_le sampled fun sample member => (between sample (drawn sample member)).2

theorem forall₂_of_zipWith_sub {baselineValues candidateValues : List Rat} {lower upper : Rat}
    (paired : baselineValues.length = candidateValues.length)
    (between : ∀ difference ∈ List.zipWith (fun baseline candidate => candidate - baseline)
      baselineValues candidateValues, lower ≤ difference ∧ difference ≤ upper) :
    List.Forall₂ (fun baseline candidate => baseline + lower ≤ candidate ∧
      candidate ≤ baseline + upper) baselineValues candidateValues := by
  apply List.forall₂_iff_zip.mpr
  refine ⟨paired, ?_⟩
  intro baseline candidate member
  have difference := between (candidate - baseline) (by
    rw [← List.map_uncurry_zip_eq_zipWith]
    exact List.mem_map.mpr ⟨(baseline, candidate), member, rfl⟩)
  constructor
  · linarith [difference.1]
  · linarith [difference.2]

theorem bootstrapDeltaCi_withinRange {baselineValues candidateValues : List Rat}
    (positive : 0 < nResamples) (nonempty : baselineValues ≠ [])
    (paired : baselineValues.length = candidateValues.length) :
    WithinRange
      (List.zipWith (fun baseline candidate => candidate - baseline) baselineValues
        candidateValues)
      (bootstrapDeltaEstimates draws nResamples location.value baselineValues candidateValues)
      nResamples (bootstrapDeltaCi draws nResamples baselineValues candidateValues
        location.value) := by
  have candidateSome : candidateValues ≠ [] := by
    intro empty
    rw [empty] at paired
    exact nonempty (List.length_eq_zero_iff.mp paired)
  rw [bootstrapDeltaCi_eq_intervalBounds draws nResamples location.value nonempty candidateSome]
  apply intervalBounds_withinRange (by simp [bootstrapDeltaEstimates]) positive
  · simpa using ⟨nonempty, candidateSome⟩
  · intro lower upper between estimate member
    have related := forall₂_of_zipWith_sub paired between
    simp only [bootstrapDeltaEstimates, ← paired, min_self] at member
    rcases List.mem_map.mp member with ⟨resample, _, rfl⟩
    have sampled := draws.resample_ne_nil nonempty resample
    have pairs := draws.forall₂_resample related nonempty resample
    constructor
    · exact location.offset_le sampled (pairs.imp fun _ _ bounds => bounds.1)
    · exact location.le_offset sampled (pairs.imp fun _ _ bounds => bounds.2)

end Range

/-- The paired interval stays inside the differences of the pairs, the interval
of one list inside its values, and no estimate is read out of range. -/
theorem bootstrap_intervals_within_range {statistic : List Rat → Rat}
    (reported : ReportStatistic statistic) (draws : Draws) {nResamples : Nat}
    (positive : 0 < nResamples) :
    (∀ baselineValues candidateValues : List Rat, baselineValues ≠ [] →
      baselineValues.length = candidateValues.length →
      WithinRange
        (List.zipWith (fun baseline candidate => candidate - baseline) baselineValues
          candidateValues)
        (bootstrapDeltaEstimates draws nResamples statistic baselineValues candidateValues)
        nResamples
        (bootstrapDeltaCi draws nResamples baselineValues candidateValues statistic)) ∧
      ∀ values : List Rat, 3 ≤ values.length →
        WithinRange values (bootstrapEstimates draws nResamples statistic values) nResamples
          (bootstrapCi draws nResamples values statistic) := by
  rcases reported.location with ⟨location, centred, rfl⟩
  constructor
  · intro baselineValues candidateValues nonempty paired
    exact bootstrapDeltaCi_withinRange draws positive nonempty paired
  · intro values enough
    exact bootstrapCi_withinRange draws centred positive enough

namespace Scenario

theorem bootstrap_intervals_within_range_half :
    WithinRange
      (List.zipWith (fun baseline candidate => candidate - baseline) [1, 2] [3, 2])
      (bootstrapDeltaEstimates firstIndex 1 (fun values => percentile values (1 / 2)) [1, 2] [3, 2])
      1 (bootstrapDeltaCi firstIndex 1 [1, 2] [3, 2] fun values => percentile values (1 / 2)) :=
  (bootstrap_intervals_within_range (.percentile (by norm_num) (by norm_num)) firstIndex
    Nat.one_pos).1 [1, 2] [3, 2] (by decide) rfl

end Scenario

end EvalForge
